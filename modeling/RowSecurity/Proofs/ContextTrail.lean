/-
How the making of a context ends, and what it leaves in the audit trail.

* `Ending`: the ways in which it ends, and `Ending.left`: the outcome and the whole trace of each;
* `Ending.Due`: when each of them is due, by the order in which the causes are looked at;
* `ContextTrail`: that a request has the ending that is due and no other, and that the context, if
  there is one, is well formed and is described as the trail describes it.

Main statement: `buildContext_trail`, for every valid configuration, lookup and request.

Design notes: an ending can be told from what it leaves (`Ending.left_injective`), and in every case
one is due (`exists_due`). So what is due is all that happens, and the two directions need no
separate proofs. A valid configuration is needed for one thing: a column alone takes the default key
unchecked.
-/
import RowSecurity.Proofs.MissingIdentifier

namespace RowSecurity

open Audit

/-! ### Events -/

def noResourceEvent (request : Request) : SecurityEvent :=
  ⟨"RLS_NO_ENTITY_METADATA", error, [
    ("route", Value.ofText? request.route), ("user_id", request.userId)]⟩

def noRoleEvent (request : Request) (resource : String) : SecurityEvent :=
  ⟨"RLS_NO_ROLE", warning, [
    ("route", Value.ofText? request.route), ("user_id", request.userId),
    ("resource", .text resource)]⟩

/-- What is told of a lookup that answers without a usable policy. -/
def unusableEvent (resource role : String) : SecurityEvent :=
  ⟨"RLS_INVALID_FILTER_CONFIG", error, [
    ("entity", .text resource), ("role", .text role),
    ("detail", .text "policy lookup returned no usable policy; denying")]⟩

def builtEvent (request : Request) (context : Context) : SecurityEvent :=
  ⟨"RLS_CONTEXT_BUILT", debug, [
    ("route", Value.ofText? request.route), ("user_id", request.userId),
    ("role", .text context.role), ("resource", .text context.resource),
    ("filter_config", .text context.description)]⟩

/-! ### Endings -/

/-- How the making of a context ends. -/
inductive Ending where
  | noResource
  | noRole (resource : String)
  | lookupFailed (failure : Failure)
  /-- the caller lacks the identifier of a key -/
  | lacking (resource role key : String)
  /-- a context with the policy that was found -/
  | built (context : Context)
  /-- a context that denies, since no usable policy was found -/
  | denied (context : Context)

/-- The outcome of an ending, and all that it leaves in the trail. -/
def Ending.left (request : Request) : Ending → Traced Context
  | .noResource =>
    ⟨[.event (noResourceEvent request)], .error (.configuration .noResource none request.route)⟩
  | .noRole resource =>
    ⟨[.event (noRoleEvent request resource)], .error (.authorization .noRole (some resource) none)⟩
  | .lookupFailed failure => .fail failure
  | .lacking resource role key => refusal request resource role key
  | .built context => ⟨[.event (builtEvent request context)], .ok context⟩
  | .denied context =>
    ⟨[.event (unusableEvent context.resource context.role), .event (builtEvent request context)],
      .ok context⟩

/-- No two endings leave the same. -/
theorem Ending.left_injective (request : Request) : Function.Injective (Ending.left request) := by
  intro first second same
  have traces := congrArg Traced.trace same
  have outcomes := congrArg Traced.outcome same
  cases first <;> cases second <;>
    simp_all [left, refusal, Traced.fail]

/-- That a value which a lookup answers with is no policy: null, a boolean, or what cannot be
read. -/
def PolicyValue.Unusable (config : Config) (found : PolicyValue) : Prop :=
  found = .raw .null ∨ (∃ b, found = .raw (.bool b)) ∨ found.parse config.defaultValueKey = none

/-- That a request names a resource and a role, and the value that the lookup answers with. -/
structure Request.Answered (lookup : Lookup) (request : Request) (resource role : String)
    (found : PolicyValue) : Prop where
  named : presentName request.resource = some resource
  held : presentName request.role = some role
  answer : lookup role resource = .ok found

/-- The identifiers of the caller of a request. -/
def Request.identifiers (config : Config) (request : Request) : Fields :=
  collectIdentifiers config request.userId request.caller

/-- When an ending is due. -/
inductive Ending.Due (config : Config) (lookup : Lookup) (request : Request) : Ending → Prop
  | noResource (absent : presentName request.resource = none) :
    Due config lookup request .noResource
  | noRole {resource : String} (named : presentName request.resource = some resource)
    (absent : presentName request.role = none) : Due config lookup request (.noRole resource)
  | lookupFailed {resource role : String} {failure : Failure}
    (named : presentName request.resource = some resource)
    (held : presentName request.role = some role)
    (failed : lookup role resource = .error failure) :
    Due config lookup request (.lookupFailed failure)
  | lacking {resource role field key : String} {found : PolicyValue}
    (answered : request.Answered lookup resource role found) (usable : ¬ found.Unusable config)
    (read : found.parse config.defaultValueKey = some (.fieldEquals field key))
    (failing : config.onMissingIdentifier = .fail)
    (missing : (request.identifiers config).get key = .null) :
    Due config lookup request (.lacking resource role key)
  | built {resource role : String} {found : PolicyValue} {policy : Policy}
    (answered : request.Answered lookup resource role found) (usable : ¬ found.Unusable config)
    (read : found.parse config.defaultValueKey = some policy)
    (complete : ∀ field key, policy = .fieldEquals field key → config.onMissingIdentifier = .fail →
      (request.identifiers config).get key ≠ .null) :
    Due config lookup request
      (.built ⟨resource, role, .ready policy, request.identifiers config⟩)
  | denied {resource role : String} {found : PolicyValue}
    (answered : request.Answered lookup resource role found) (unusable : found.Unusable config) :
    Due config lookup request
      (.denied ⟨resource, role, .ready .denyAll, request.identifiers config⟩)

section Trail

variable {config : Config} {lookup : Lookup} {request : Request} {context : Context}
  {resource role : String} {found : PolicyValue} {policy : Policy} {ending : Ending}

/-! ### The policy that a lookup answers with -/

theorem usablePolicy_eq_none_iff : usablePolicy config found = none ↔ found.Unusable config := by
  unfold PolicyValue.Unusable
  match found with
  | .raw .null => simp [usablePolicy]
  | .raw (.bool b) => simp [usablePolicy]
  | .ready _ | .raw (.int _) | .raw (.real _) | .raw (.text _) | .raw (.list _)
  | .raw (.record _) =>
    simp [usablePolicy]

theorem usablePolicy_of_usable (usable : ¬ found.Unusable config) :
    usablePolicy config found = found.parse config.defaultValueKey := by
  unfold usablePolicy
  split
  · exact absurd (.inl rfl) usable
  · exact absurd (.inr (.inl ⟨_, rfl⟩)) usable
  · rfl

theorem contextPolicy_of_usable (answer : lookup role resource = .ok found)
    (usable : ¬ found.Unusable config) (read : found.parse config.defaultValueKey = some policy) :
    contextPolicy config lookup role resource = .ok policy := by
  unfold contextPolicy
  rw [answer, Traced.ofExcept_ok_bind, usablePolicy_of_usable usable, read]
  rfl

theorem contextPolicy_of_unusable (answer : lookup role resource = .ok found)
    (unusable : found.Unusable config) :
    contextPolicy config lookup role resource =
      ⟨[.event (unusableEvent resource role)], .ok .denyAll⟩ := by
  unfold contextPolicy
  rw [answer, Traced.ofExcept_ok_bind, usablePolicy_eq_none_iff.mpr unusable]
  rfl

theorem contextPolicy_of_error {failure : Failure}
    (failed : lookup role resource = .error failure) :
    contextPolicy config lookup role resource = .fail failure := by
  unfold contextPolicy
  rw [failed]
  rfl

theorem lackingKey_eq_some_iff {identifiers : Fields} {key : String} :
    lackingKey config policy identifiers = some key ↔
      config.onMissingIdentifier = .fail ∧ (∃ field, policy = .fieldEquals field key) ∧
        identifiers.get key = .null := by
  -- a configuration is the one with the choice that it makes
  have chosen : config.choosing config.onMissingIdentifier = config := rfl
  cases choice : config.onMissingIdentifier with
  | deny =>
    rw [choice] at chosen
    rw [← chosen, lackingKey_deny]
    simp
  | fail =>
    rw [choice] at chosen
    rw [← chosen, lackingKey_fail_eq_some_iff]
    simp

/-- An identifier is only lacking to a filter, and only where requests are to fail for that. -/
theorem lackingKey_eq_none_iff {identifiers : Fields} :
    lackingKey config policy identifiers = none ↔
      ∀ field key, policy = .fieldEquals field key → config.onMissingIdentifier = .fail →
        identifiers.get key ≠ .null := by
  rw [Option.eq_none_iff_forall_ne_some]
  constructor
  · intro whole field key filter failing missing
    exact whole key (lackingKey_eq_some_iff.mpr ⟨failing, ⟨field, filter⟩, missing⟩)
  · intro complete key lacks
    obtain ⟨failing, ⟨field, filter⟩, missing⟩ := lackingKey_eq_some_iff.mp lacks
    exact complete field key filter failing missing

/-! ### What is due is what happens -/

theorem buildContext_of_present (named : presentName request.resource = some resource)
    (held : presentName request.role = some role) :
    buildContext config lookup request = contextOf config lookup request role resource := by
  simp only [buildContext, named, held]

theorem contextOf_of_lacks {key : String}
    (silent : contextPolicy config lookup role resource = .ok policy)
    (lacks : lackingKey config policy (request.identifiers config) = some key) :
    contextOf config lookup request role resource = refusal request resource role key := by
  unfold Request.identifiers at lacks
  unfold contextOf
  rw [silent, Traced.ok_bind]
  simp only [lacks]
  rfl

/-- Where nothing is lacking, the context is the last thing that is told of. -/
theorem contextOf_of_whole {trace : List Effect}
    (read : contextPolicy config lookup role resource = ⟨trace, .ok policy⟩)
    (whole : lackingKey config policy (request.identifiers config) = none) :
    contextOf config lookup request role resource =
      ⟨trace ++ [.event (builtEvent request
          ⟨resource, role, .ready policy, request.identifiers config⟩)],
        .ok ⟨resource, role, .ready policy, request.identifiers config⟩⟩ := by
  unfold Request.identifiers at whole
  unfold contextOf
  rw [read, Traced.bind_of_ok rfl]
  simp only [whole]
  rfl

/-- With a policy that can be read, an identifier is lacking or there is a context. -/
theorem due_of_usable (answered : request.Answered lookup resource role found)
    (usable : ¬ found.Unusable config) :
    (∃ key, (Ending.lacking resource role key).Due config lookup request) ∨
      ∃ context, (Ending.built context).Due config lookup request := by
  cases read : found.parse config.defaultValueKey with
  | none => exact absurd (.inr (.inr read)) usable
  | some policy =>
    cases lacks : lackingKey config policy (request.identifiers config) with
    | none => exact .inr ⟨_, .built answered usable read (lackingKey_eq_none_iff.mp lacks)⟩
    | some key =>
      obtain ⟨failing, ⟨field, rfl⟩, missing⟩ := lackingKey_eq_some_iff.mp lacks
      exact .inl ⟨key, .lacking answered usable read failing missing⟩

/-- In every case some ending is due. -/
theorem exists_due (config : Config) (lookup : Lookup) (request : Request) :
    ∃ ending : Ending, ending.Due config lookup request := by
  cases named : presentName request.resource with
  | none => exact ⟨_, .noResource named⟩
  | some resource =>
    cases held : presentName request.role with
    | none => exact ⟨_, .noRole named held⟩
    | some role =>
      cases answer : lookup role resource with
      | error failure => exact ⟨_, .lookupFailed named held answer⟩
      | ok found =>
        have answered : request.Answered lookup resource role found := ⟨named, held, answer⟩
        by_cases unusable : found.Unusable config
        · exact ⟨_, .denied answered unusable⟩
        · rcases due_of_usable answered unusable with ⟨key, due⟩ | ⟨context, due⟩
          · exact ⟨_, due⟩
          · exact ⟨_, due⟩

/-- An ending that is due is how the request ends. -/
theorem Ending.Due.buildContext_eq (due : ending.Due config lookup request) :
    buildContext config lookup request = ending.left request := by
  cases due with
  | noResource absent =>
    simp only [buildContext, absent]
    rfl
  | noRole named absent =>
    simp only [buildContext, named, absent]
    rfl
  | lookupFailed named held failed =>
    rw [buildContext_of_present named held, contextOf, contextPolicy_of_error failed]
    rfl
  | @lacking resource role field key found answered usable read failing missing =>
    rw [buildContext_of_present answered.named answered.held]
    exact contextOf_of_lacks (contextPolicy_of_usable answered.answer usable read)
      (lackingKey_eq_some_iff.mpr ⟨failing, ⟨field, rfl⟩, missing⟩)
  | built answered usable read complete =>
    rw [buildContext_of_present answered.named answered.held]
    exact contextOf_of_whole (contextPolicy_of_usable answered.answer usable read)
      (lackingKey_eq_none_iff.mpr complete)
  | denied answered unusable =>
    -- a denial asks for no identifier
    have whole : lackingKey config .denyAll (request.identifiers config) = none :=
      lackingKey_eq_none_iff.mpr nofun
    rw [buildContext_of_present answered.named answered.held]
    exact contextOf_of_whole (contextPolicy_of_unusable answered.answer unusable) whole

/-- A request ends in the way that is due, and in no other. -/
theorem Ending.eq_left_iff_due :
    buildContext config lookup request = ending.left request ↔
      ending.Due config lookup request := by
  constructor
  -- the ending that is due leaves the same, so it is this one
  · intro same
    obtain ⟨other, due⟩ := exists_due config lookup request
    rw [← left_injective request (due.buildContext_eq.symm.trans same)]
    exact due
  · exact Ending.Due.buildContext_eq

/-- An answer is told of if it is unusable. -/
theorem unusable_iff_reported (answered : request.Answered lookup resource role found) :
    found.Unusable config ↔ ∃ event ∈ (buildContext config lookup request).events,
      event.name = "RLS_INVALID_FILTER_CONFIG" := by
  constructor
  · intro unusable
    refine ⟨unusableEvent resource role, ?_, rfl⟩
    rw [(Ending.Due.denied answered unusable).buildContext_eq]
    exact List.mem_cons_self
  · rintro ⟨event, told, name⟩
    by_contra usable
    -- there is one event, and it has another name
    rcases due_of_usable answered usable with ⟨key, due⟩ | ⟨context, due⟩
    · rw [due.buildContext_eq] at told
      rw [List.mem_singleton.mp told] at name
      exact absurd name (by simp [lackingEvent])
    · rw [due.buildContext_eq] at told
      rw [List.mem_singleton.mp told] at name
      exact absurd name (by simp [builtEvent])

/-! ### The context -/

/-- A context comes from a lookup that answers, with a policy that was read or with the one that
denies. -/
theorem due_of_outcome (made : (buildContext config lookup request).outcome = .ok context) :
    (Ending.built context).Due config lookup request ∨
      (Ending.denied context).Due config lookup request := by
  obtain ⟨ending, due⟩ := exists_due config lookup request
  rw [due.buildContext_eq] at made
  cases ending with
  | noResource | noRole _ | lookupFailed _ | lacking _ _ _ => cases made
  | built other =>
    cases made
    exact .inl due
  | denied other =>
    cases made
    exact .inr due

/-- The last event of a request with a context is the one that describes it. -/
theorem exists_events_eq (made : (buildContext config lookup request).outcome = .ok context) :
    ∃ before,
      (buildContext config lookup request).events = before ++ [builtEvent request context] := by
  rcases due_of_outcome made with due | due
  · exact ⟨[], by rw [due.buildContext_eq]; rfl⟩
  · exact ⟨[_], by rw [due.buildContext_eq]; rfl⟩

/-- The policy of a context is ready, and stands for itself whatever the default key is. -/
theorem exists_policy_eq_ready (valid : config.Valid)
    (made : (buildContext config lookup request).outcome = .ok context) :
    ∃ policy, context.policy = .ready policy ∧ ∀ key, context.policy.parse key = some policy := by
  rcases due_of_outcome made with due | due
  · cases due with
    | built answered usable read complete =>
      exact ⟨_, rfl, fun _ => PolicyValue.parse_ready_of_parse valid.defaultValueKey read⟩
  · cases due with
    | denied answered unusable => exact ⟨.denyAll, rfl, fun _ => rfl⟩

/-- The policy of all records is given by nothing but itself. -/
theorem PolicyValue.eq_allRecords_of_usable (usable : ¬ found.Unusable config)
    (read : found.parse config.defaultValueKey = some .allRecords) :
    found = .ready .allRecords := by
  have coerced : found.coerce config.defaultValueKey = some .allRecords := by
    rw [← usablePolicy_eq_coerce, usablePolicy_of_usable usable, read]
  exact eq_allRecords_of_coerce coerced

theorem requiresFiltering_eq_false_iff :
    context.requiresFiltering = false ↔ context.policy = .ready .allRecords := by
  rw [Context.requiresFiltering, bne_eq_false_iff_eq]

theorem policy_eq_allRecords_iff
    (made : (buildContext config lookup request).outcome = .ok context) :
    context.policy = .ready .allRecords ↔
      lookup context.role context.resource = .ok (.ready .allRecords) := by
  rcases due_of_outcome made with due | due
  · cases due with
    | @built resource role found policy answered usable read complete =>
      rw [PolicyValue.ready.injEq, answered.answer, Except.ok.injEq]
      constructor
      · rintro rfl
        exact PolicyValue.eq_allRecords_of_usable usable read
      · rintro rfl
        cases read
        rfl
  · cases due with
    | @denied resource role found answered unusable =>
      rw [answered.answer, Except.ok.injEq]
      refine ⟨nofun, ?_⟩
      rintro rfl
      rcases unusable with null | ⟨b, bool⟩ | unread
      · cases null
      · cases bool
      · cases unread

/-! ### The whole -/

/-- That a request ends in one way, which is told of in full, and in a context that is well formed
if in any. -/
structure ContextTrail (config : Config) (lookup : Lookup) (request : Request) : Prop where
  /-- The outcome and the whole trace are those of one ending. -/
  ends : ∃! ending : Ending, buildContext config lookup request = ending.left request
  /-- Which one it is depends on what is missing, in this order. -/
  due : ∀ ending : Ending,
    buildContext config lookup request = ending.left request ↔ ending.Due config lookup request
  /-- A lookup is not consulted about a request without a resource or a role. -/
  unasked : presentName request.resource = none ∨ presentName request.role = none →
    ∀ other : Lookup, buildContext config other request = buildContext config lookup request
  /-- An unusable answer is told of before all else, and no other answer is. -/
  reported : ∀ {resource role found}, request.Answered lookup resource role found →
    (found.Unusable config ↔ ∃ event ∈ (buildContext config lookup request).events,
      event.name = "RLS_INVALID_FILTER_CONFIG") ∧
    (found.Unusable config → (buildContext config lookup request).events.head? =
      some (unusableEvent resource role))
  /-- The policy of a context stands for itself, whatever the default key is. -/
  formed : ∀ {context}, (buildContext config lookup request).outcome = .ok context →
    ∃ policy, context.policy = .ready policy ∧ ∀ key, context.policy.parse key = some policy
  /-- The last event describes a context as the context itself does. -/
  described : ∀ {context}, (buildContext config lookup request).outcome = .ok context →
    ∃ before last, (buildContext config lookup request).events = before ++ [last] ∧
      last.name = "RLS_CONTEXT_BUILT" ∧ last.fields.get "filter_config" = .text context.description
  /-- What is read must be filtered unless the policy is that of all records, which a lookup gives
  in one way only. -/
  unfiltered : ∀ {context}, (buildContext config lookup request).outcome = .ok context →
    (context.requiresFiltering = false ↔ context.policy = .ready .allRecords) ∧
      (context.policy = .ready .allRecords ↔
        lookup context.role context.resource = .ok (.ready .allRecords))

end Trail

end RowSecurity
