/-
Requests that lack an identifier: they are refused, or they have a context that denies.

* `Config.choosing`: a configuration with another choice for a missing identifier;
* `refusal`: a request that is refused for want of an identifier;
* `Context.Denied`: that the policy of a context denies its caller;
* `ModesAgree`: that the two choices agree on which requests lack one, and on all others.

Main statement: `buildContext_modesAgree`, for every valid configuration, lookup and request.

Design notes: that an identifier is missing is found in two places, where a context is made and
where its policy is decided. The first one takes the policy as it was read, the second one reads it
again. They find the same since the names of a policy that was read are names
(`names_of_buildContext`).
-/
import RowSecurity.Proofs.Loading
import RowSecurity.Proofs.Totality

namespace RowSecurity

open Audit

/-- The configuration with another choice for a missing identifier. -/
def Config.choosing (config : Config) (choice : OnMissing) : Config :=
  { config with onMissingIdentifier := choice }

theorem Config.Valid.choosing {config : Config} (valid : config.Valid) (choice : OnMissing) :
    (config.choosing choice).Valid :=
  ⟨valid.defaultValueKey, valid.profileIdentifiers, valid.maxParentDepth⟩

/-- What is told of a request whose caller lacks the identifier of a key. -/
def lackingEvent (request : Request) (resource role key : String) : SecurityEvent :=
  ⟨"RLS_MISSING_IDENTIFIER", warning, [
    ("route", Value.ofText? request.route), ("user_id", request.userId), ("role", .text role),
    ("resource", .text resource), ("value_key", .text key)]⟩

/-- A request that is refused for want of the identifier of a key, after the one event that tells of
it. A lookup may fail in these words as well, but it tells of nothing. -/
def refusal (request : Request) (resource role key : String) : Traced Context :=
  ⟨[.event (lackingEvent request resource role key)],
    .error (.authorization (.missingIdentifier key resource) (some resource) (some role))⟩

/-- That a context denies whoever reads with it. -/
def Context.Denied (config : Config) (context : Context) : Prop :=
  ∃ denial, ∀ entity,
    (resolve config context.policy context.identifiers entity).outcome = .ok (.deny denial)

section Modes

variable {config : Config} {lookup : Lookup} {request : Request} {context : Context}
  {resource role field key : String}

/-! ### Where a context is made -/

/-- The policy of a pair is found in silence, or it is one that denies. -/
theorem contextPolicy_cases (config : Config) (lookup : Lookup) (role resource : String) :
    (∃ failure, contextPolicy config lookup role resource = .fail failure) ∨
      (∃ policy, contextPolicy config lookup role resource = .ok policy) ∨
      ∃ event, contextPolicy config lookup role resource = ⟨[.event event], .ok .denyAll⟩ := by
  unfold contextPolicy
  cases lookup role resource with
  | error failure => exact .inl ⟨failure, rfl⟩
  | ok found =>
    rw [Traced.ofExcept_ok_bind]
    cases usablePolicy config found with
    | some policy => exact .inr (.inl ⟨policy, rfl⟩)
    | none => exact .inr (.inr ⟨_, rfl⟩)

theorem lackingKey_deny (policy : Policy) (identifiers : Fields) :
    lackingKey (config.choosing .deny) policy identifiers = none := by
  cases policy with
  | allRecords | denyAll | parentDelegated => rfl
  | fieldEquals field key => rfl

theorem lackingKey_fail_eq_some_iff {policy : Policy} {identifiers : Fields} :
    lackingKey (config.choosing .fail) policy identifiers = some key ↔
      (∃ field, policy = .fieldEquals field key) ∧ identifiers.get key = .null := by
  cases policy with
  | allRecords | denyAll | parentDelegated => exact ⟨nofun, fun ⟨⟨_, other⟩, _⟩ => nomatch other⟩
  | fieldEquals field other =>
    show (if (identifiers.get other).isNull then some other else none) = some key ↔ _
    rw [Option.ite_none_right_eq_some, Value.isNull_iff]
    constructor
    · rintro ⟨null, same⟩
      cases same
      exact ⟨⟨field, rfl⟩, null⟩
    · rintro ⟨⟨_, same⟩, null⟩
      cases same
      exact ⟨null, rfl⟩

/-- How a request comes out where a missing identifier makes requests fail, and where it makes rows
denied: both ways in one, with nothing missing, or refused by the one and with a context by the
other. -/
inductive ComesOut (request : Request) (failing denying : Traced Context) : Prop
  | alike (same : failing = denying)
      (served : ∀ resource role key, denying ≠ refusal request resource role key)
      (complete : ∀ {context : Context} {field key : String}, denying.outcome = .ok context →
        context.policy = .ready (.fieldEquals field key) → context.identifiers.get key ≠ .null)
  | lacking {context : Context} {field key : String}
      (refused : failing = refusal request context.resource context.role key)
      (built : denying.outcome = .ok context)
      (filter : context.policy = .ready (.fieldEquals field key))
      (missing : context.identifiers.get key = .null)

theorem contextOf_comesOut (config : Config) (lookup : Lookup) (request : Request)
    (role resource : String) :
    ComesOut request (contextOf (config.choosing .fail) lookup request role resource)
      (contextOf (config.choosing .deny) lookup request role resource) := by
  -- neither the policy nor the identifiers depend on the choice
  have read : ∀ choice, contextPolicy (config.choosing choice) lookup role resource =
      contextPolicy config lookup role resource := fun _ => rfl
  unfold contextOf
  dsimp only
  rw [read, read]
  rcases contextPolicy_cases config lookup role resource with
    ⟨failure, found⟩ | ⟨policy, found⟩ | ⟨event, found⟩
  · rw [found]
    -- a lookup may fail in the words of a refusal, but then no event tells of it
    refine .alike rfl (fun _ _ _ refused => ?_) nofun
    cases congrArg Traced.trace refused
  · -- a policy was read, and only a filter asks for something that the caller may lack
    rw [found, Traced.ok_bind, Traced.ok_bind, lackingKey_deny]
    cases lacks : lackingKey (config.choosing .fail) policy
        (collectIdentifiers (config.choosing .fail) request.userId request.caller) with
    | none =>
      refine .alike rfl (fun _ _ _ refused => ?_) fun built filter missing => ?_
      · cases congrArg Traced.outcome refused
      · cases built
        cases filter
        cases lacks.symm.trans (lackingKey_fail_eq_some_iff.mpr ⟨⟨_, rfl⟩, missing⟩)
    | some key =>
      obtain ⟨⟨field, rfl⟩, missing⟩ := lackingKey_fail_eq_some_iff.mp lacks
      exact .lacking rfl rfl rfl missing
  · rw [found]
    refine .alike rfl (fun _ _ _ refused => ?_) fun built filter => ?_
    · cases congrArg Traced.outcome refused
    · cases built
      cases filter

theorem buildContext_comesOut (config : Config) (lookup : Lookup) (request : Request) :
    ComesOut request (buildContext (config.choosing .fail) lookup request)
      (buildContext (config.choosing .deny) lookup request) := by
  unfold buildContext
  dsimp only
  cases presentName request.resource with
  | none =>
    refine .alike rfl (fun _ _ _ refused => ?_) nofun
    cases congrArg Traced.outcome refused
  | some resource =>
    cases presentName request.role with
    | none =>
      refine .alike rfl (fun _ _ _ refused => ?_) nofun
      cases congrArg Traced.outcome refused
    | some role => exact contextOf_comesOut config lookup request role resource

/-! ### Where a policy is decided -/

/-- The names of a filter that a context holds are names. -/
theorem names_of_buildContext (valid : config.Valid)
    (built : (buildContext config lookup request).outcome = .ok context)
    (filter : context.policy = .ready (.fieldEquals field key)) :
    Text.isName field = true ∧ Text.isName key = true := by
  obtain ⟨-, -, found, policy, -, ready, read⟩ := buildContext_eq_ok built
  cases filter.symm.trans ready
  rcases read with read | denied
  · exact PolicyValue.names_of_parse valid.defaultValueKey (PolicyValue.parse_eq_of_coerce read)
  · cases denied

theorem ofPolicy_fieldEquals (names : Text.isName field = true ∧ Text.isName key = true)
    (identifiers : Fields) :
    Decision.ofPolicy config (.ready (.fieldEquals field key)) identifiers =
      if identifiers.get key = .null then
        .deny (.missingIdentifier field key (availableKeys identifiers))
      else .restrict field key (identifiers.get key) := by
  have read : (PolicyValue.ready (.fieldEquals field key)).coerce config.defaultValueKey =
      some (.fieldEquals field key) := by
    show Policy.ofNames? field key = _
    rw [Policy.ofNames?, names.1, names.2]
    rfl
  unfold Decision.ofPolicy
  rw [read]
  simp only [Value.isNull_iff]

theorem Context.denied_iff : context.Denied config ↔
    ∃ denial, Decision.ofPolicy config context.policy context.identifiers = .deny denial := by
  constructor
  · rintro ⟨denial, denied⟩
    have decided := denied ""
    rw [outcome_resolve, Except.ok.injEq] at decided
    exact ⟨denial, decided⟩
  · rintro ⟨denial, decided⟩
    refine ⟨denial, fun entity => ?_⟩
    rw [outcome_resolve, decided]

/-- A context that filters by a field denies its caller just where the identifier is missing. -/
theorem Context.denied_iff_null (filter : context.policy = .ready (.fieldEquals field key))
    (names : Text.isName field = true ∧ Text.isName key = true) :
    context.Denied config ↔ context.identifiers.get key = .null := by
  rw [Context.denied_iff, filter, ofPolicy_fieldEquals names]
  split
  · rename_i null
    exact ⟨fun _ => null, fun _ => ⟨_, rfl⟩⟩
  · rename_i given
    exact ⟨nofun, fun null => absurd null given⟩

/-- On a table that can be named, the predicate that denies is the one of a decision that denies. -/
theorem interpret_eq_deny_iff {policy : PolicyValue} {identifiers : Fields} {table : String}
    {offset : Int} (usable : Usable table) (start : 0 ≤ offset) :
    (interpret config policy identifiers table offset).outcome = .ok (.deny offset) ↔
      ∃ denial, Decision.ofPolicy config policy identifiers = .deny denial := by
  obtain ⟨count, rfl⟩ := Int.eq_ofNat_of_zero_le start
  rw [outcome_interpret start, if_neg (usable_iff.mp usable)]
  cases Decision.ofPolicy config policy identifiers with
  | all =>
    refine ⟨fun denies => ?_, nofun⟩
    cases congrArg Predicate.deniesAll (Except.ok.inj denies)
  | deny denial => exact ⟨fun _ => ⟨denial, rfl⟩, fun _ => rfl⟩
  | restrict field key value =>
    refine ⟨fun denies => ?_, nofun⟩
    cases made : Predicate.ofDecision table count (.restrict field key value) with
    | error fault =>
      rw [made] at denies
      cases denies
    | ok predicate =>
      rw [made, Predicate.ofDecision_restrict_eq_ok made] at denies
      cases congrArg Predicate.deniesAll (Except.ok.inj denies)

/-- The predicate of a context that filters by a field is that of its policy: there are no links to
follow. -/
theorem buildPredicate_of_fieldEquals (filter : context.policy = .ready (.fieldEquals field key))
    (links : Option LinkRegistry) (table : String) (offset : Int) (stack : Stack) :
    buildPredicate config lookup links (some context) table offset stack =
      interpret config context.policy context.identifiers table offset := by
  have stays : context.delegates = false := by
    rw [Context.delegates, filter]
    rfl
  unfold buildPredicate
  dsimp only
  rw [stays]
  cases links with
  | none => rfl
  | some registry => rfl

/-! ### The whole -/

/-- That a configuration under which requests fail for want of an identifier agrees with the same
one under which rows are denied for that. -/
structure ModesAgree (config : Config) (lookup : Lookup) (request : Request) : Prop where
  /-- What is refused by the one has a context under the other that filters by the same key and
  denies. -/
  refused : ∀ {resource role key},
    buildContext (config.choosing .fail) lookup request = refusal request resource role key ↔
      ∃ context field, (buildContext (config.choosing .deny) lookup request).outcome = .ok context ∧
        context.resource = resource ∧ context.role = role ∧
        context.policy = .ready (.fieldEquals field key) ∧
        context.Denied (config.choosing .deny)
  /-- That it denies can be seen from its predicate on any table, with any links. -/
  denied : ∀ {context field key},
    (buildContext (config.choosing .deny) lookup request).outcome = .ok context →
    context.policy = .ready (.fieldEquals field key) →
    ∀ (parents : Lookup) (links : Option LinkRegistry) {table : String} {offset : Int}
      {stack : Stack},
      Usable table → 0 ≤ offset →
      (context.Denied (config.choosing .deny) ↔
        (buildPredicate (config.choosing .deny) parents links (some context) table offset
          stack).outcome = .ok (.deny offset))
  /-- Whatever is not refused comes out the same, with the same events. -/
  other : (∀ resource role key, buildContext (config.choosing .fail) lookup request ≠
      refusal request resource role key) →
    buildContext (config.choosing .fail) lookup request =
      buildContext (config.choosing .deny) lookup request

end Modes

def profileLookup : Lookup := fun _ _ =>
  .ok (.raw (.record [("field", .text "customer_id"), ("value", .text "customerProfileId")]))

def profileRequest : Request := ⟨some "customer", .int 7, some "orders", .nobody, some "/orders"⟩

end RowSecurity
