/-
From a request to the rows it may see: nothing is shown unless a policy says so.

* `LeadsWithin`: that links lead from a policy value to another, within the depth the
  configuration allows;
* `FailsClosed`: that a predicate shows no more than the policy found for a request grants.

Main statement: `buildPredicate_failsClosed`, for every request, lookup and registry of links,
over the three places where a policy value is read: where the context is made, where a context
is told to delegate, and where a policy is interpreted.
-/
import RowSecurity.Context.Build
import RowSecurity.Proofs.Grant
import RowSecurity.Proofs.ParentScope

namespace RowSecurity

open Audit

/-! ### The policy of a context -/

/-- A value found by a lookup is read as any policy value is read at request time. -/
theorem usablePolicy_eq_coerce (config : Config) (value : PolicyValue) :
    usablePolicy config value = value.coerce config.defaultValueKey := by
  match value with
  | .ready _ | .raw .null | .raw (.bool _) | .raw (.text _) | .raw (.record _) => rfl
  | .raw (.int _) | .raw (.real _) | .raw (.list _) => rfl

theorem contextPolicy_eq_ok {config : Config} {lookup : Lookup} {role resource : String}
    {policy : Policy}
    (h : (contextPolicy config lookup role resource).outcome = .ok policy) :
    ∃ found, lookup role resource = .ok found ∧
      (found.coerce config.defaultValueKey = some policy ∨ policy = .denyAll) := by
  unfold contextPolicy at h
  obtain ⟨found, hf, h⟩ := Traced.outcome_bind_eq_ok_iff.mp h
  refine ⟨found, hf, ?_⟩
  rw [← usablePolicy_eq_coerce]
  cases hu : usablePolicy config found with
  | some usable =>
    rw [hu] at h
    cases h
    exact .inl rfl
  | none =>
    rw [hu] at h
    obtain ⟨_, _, h⟩ := Traced.outcome_bind_eq_ok_iff.mp h
    cases h
    exact .inr rfl

/-- A context holds what its request asks for and, ready, the policy that was found. -/
theorem buildContext_eq_ok {config : Config} {lookup : Lookup} {request : Request}
    {context : Context} (h : (buildContext config lookup request).outcome = .ok context) :
    request.role = some context.role ∧ request.resource = some context.resource ∧
      ∃ found policy, lookup context.role context.resource = .ok found ∧
        context.policy = .ready policy ∧
        (found.coerce config.defaultValueKey = some policy ∨ policy = .denyAll) := by
  unfold buildContext at h
  dsimp only at h
  split at h
  · obtain ⟨_, _, h⟩ := Traced.outcome_bind_eq_ok_iff.mp h
    cases h
  · rename_i resource hresource
    split at h
    · obtain ⟨_, _, h⟩ := Traced.outcome_bind_eq_ok_iff.mp h
      cases h
    · rename_i role hrole
      unfold contextOf at h
      obtain ⟨policy, hp, h⟩ := Traced.outcome_bind_eq_ok_iff.mp h
      dsimp only at h
      split at h
      · obtain ⟨_, _, h⟩ := Traced.outcome_bind_eq_ok_iff.mp h
        cases h
      · obtain ⟨_, _, h⟩ := Traced.outcome_bind_eq_ok_iff.mp h
        cases h
        obtain ⟨found, hf, hc⟩ := contextPolicy_eq_ok hp
        exact ⟨(Option.filter_eq_some_iff.mp hrole).1, (Option.filter_eq_some_iff.mp hresource).1,
          found, policy, hf, rfl, hc⟩

theorem PolicyValue.coerce_ready {key : String} {policy read : Policy}
    (h : (ready policy).coerce key = some read) : read = policy := by
  cases policy with
  | fieldEquals field valueKey => exact (ofNames?_eq_some h).1
  | _ =>
    cases h
    rfl

theorem PolicyValue.eq_allRecords_of_coerce {key : String} {value : PolicyValue}
    (h : value.coerce key = some .allRecords) : value = .ready .allRecords := by
  rcases cases_of_coerce h with ⟨_, _, same, _⟩ | ready | ⟨_, same⟩
  · cases same
  · exact ready
  · cases same

/-! ### The whole way -/

/-- That links lead from the policy value of a context's resource to another, within the depth
that the configuration allows. -/
def LeadsWithin (config : Config) (lookup : Lookup) (links : Option LinkRegistry)
    (context : Context) (found value : PolicyValue) : Prop :=
  ∃ registry path last, links = some registry ∧ path.length ≤ config.maxParentDepth ∧
    Leads registry lookup context.role context.resource found path last value

/-- That a predicate shows no more than what was found for a request grants. -/
structure FailsClosed (config : Config) (lookup : Lookup) (request : Request)
    (links : Option LinkRegistry) (context : Context) (offset : Int) (predicate : Predicate) :
    Prop where
  role : request.role = some context.role
  resource : request.resource = some context.resource
  applied : predicate.applied = true
  /-- All rows are shown by a ready policy for all records alone, found for the request itself or
  where the links of a delegating policy lead. -/
  unrestricted : predicate.showsAll = true → ∃ found,
    lookup context.role context.resource = .ok found ∧
    (found = .ready .allRecords ∨
      found.Delegates ∧ LeadsWithin config lookup links context found (.ready .allRecords))
  /-- Otherwise no row is shown, or the rows of the one identifier that a filter names. -/
  restricted : predicate.showsAll = false → predicate = .deny offset ∨
    ∃ clause value, predicate = .restrict clause [value] offset ∧ value ≠ .null ∧
      ∃ found source field key, lookup context.role context.resource = .ok found ∧
        (source = found ∨ found.Delegates ∧ LeadsWithin config lookup links context found source) ∧
        source.coerce config.defaultValueKey = some (.fieldEquals field key) ∧
        context.identifiers.get key = value

/-- What is granted meets the closed reading, if the value that grants it is one that the request
leads to. -/
theorem failsClosed_of_grantedBy {config : Config} {lookup : Lookup} {request : Request}
    {links : Option LinkRegistry} {context : Context} {offset : Int} {predicate : Predicate}
    {found source : PolicyValue}
    (role : request.role = some context.role) (resource : request.resource = some context.resource)
    (looked : lookup context.role context.resource = .ok found)
    (reached : source = found ∨
      found.Delegates ∧ LeadsWithin config lookup links context found source)
    (granted : predicate.GrantedBy config context.identifiers offset source) :
    FailsClosed config lookup request links context offset predicate := by
  cases granted with
  | all ready =>
    subst ready
    refine ⟨role, resource, rfl, fun _ => ⟨found, looked, ?_⟩, fun hidden => by cases hidden⟩
    exact reached.imp_left Eq.symm
  | some coerced held present number text =>
    refine ⟨role, resource, rfl, fun shown => ?_, fun _ => ?_⟩
    · exact absurd shown (by simp [Predicate.showsAll, Predicate.restrict, text.ne_empty])
    · exact .inr ⟨_, _, rfl, present, found, source, _, _, looked, reached, coerced, held⟩

theorem failsClosed_deny {config : Config} {lookup : Lookup} {request : Request}
    {links : Option LinkRegistry} {context : Context} {offset : Int}
    (role : request.role = some context.role)
    (resource : request.resource = some context.resource) :
    FailsClosed config lookup request links context offset (.deny offset) := by
  have hidden : (Predicate.deny offset).showsAll = false := rfl
  refine ⟨role, resource, rfl, fun shown => ?_, fun _ => .inl rfl⟩
  rw [hidden] at shown
  cases shown

/-- A request's predicate shows no more than what was found for the request grants. -/
theorem buildPredicate_failsClosed {config : Config} {lookup : Lookup} {request : Request}
    {links : Option LinkRegistry} {context : Context} {table : String} {offset : Int}
    {stack : Stack} {predicate : Predicate}
    (built : (buildContext config lookup request).outcome = .ok context)
    (answered : (buildPredicate config lookup links (some context) table offset stack).outcome =
      .ok predicate) :
    FailsClosed config lookup request links context offset predicate := by
  obtain ⟨role, resource, found, policy, looked, ready, read⟩ := buildContext_eq_ok built
  rcases buildPredicate_eq_ok answered with
    rfl | granted | ⟨registry, rfl, delegated, path, last, value, leads, short, granted⟩
  · exact failsClosed_deny role resource
  · -- the context's policy grants only what the value that it was read from grants
    rw [ready] at granted
    refine failsClosed_of_grantedBy role resource looked (.inl rfl) ?_
    cases granted with
    | all same =>
      cases same
      rcases read with read | denied
      · exact .all (PolicyValue.eq_allRecords_of_coerce read)
      · cases denied
    | some coerced held present number text =>
      cases PolicyValue.coerce_ready coerced
      rcases read with read | denied
      · exact .some read held present number text
      · cases denied
  · rw [ready] at delegated
    cases delegated
    have delegates : found.Delegates := by
      rcases read with read | denied
      · exact PolicyValue.coerce_eq_parentDelegated_iff.mp read
      · cases denied
    rw [ready] at leads
    cases leads with
    | here =>
      -- a policy that delegates grants nothing by itself
      cases granted with
      | all same => cases same
      | some coerced _ _ _ _ => cases PolicyValue.coerce_ready coerced
    | hop _ linked next rest =>
      refine failsClosed_of_grantedBy role resource looked (.inr ⟨delegates, ?_⟩) granted
      exact ⟨registry, _, last, rfl, short, .hop delegates linked next rest⟩

def fileRequest : Request :=
  ⟨some "customer", .int 7, some "files", .nobody, some "/files"⟩

def requestedContext : Context :=
  ⟨"files", "customer", .ready .parentDelegated,
    [(userIdKey, .int 7), ("customerProfileId", .null), ("technicianProfileId", .null)]⟩

/-- The files of a customer's orders, for a request from its start to its predicate. -/
theorem buildPredicate_failsClosed_files :
    ∃ predicate,
      (buildContext .standard customerLookup fileRequest).outcome = .ok requestedContext ∧
        (buildPredicate .standard customerLookup (some (.ofLinks [fileLink, orderLink]))
          (some requestedContext) "" 0 .standard).outcome = .ok predicate ∧
        predicate.clause = "files.order_id IN (SELECT orders.id FROM orders WHERE " ++
          "orders.customer_id IN (SELECT customers.id FROM customers WHERE " ++
            "customers.user_id = $1))" ∧
        FailsClosed .standard customerLookup fileRequest (some (.ofLinks [fileLink, orderLink]))
          requestedContext 0 predicate := by
  have built : (buildContext .standard customerLookup fileRequest).outcome =
      .ok requestedContext := rfl
  have answered : (buildPredicate .standard customerLookup
      (some (.ofLinks [fileLink, orderLink])) (some requestedContext) "" 0 .standard).outcome =
        .ok (.restrict ("files.order_id IN (SELECT orders.id FROM orders WHERE " ++
          "orders.customer_id IN (SELECT customers.id FROM customers WHERE " ++
            "customers.user_id = $1))") [.int 7] 0) := rfl
  exact ⟨_, built, answered, rfl, buildPredicate_failsClosed built answered⟩

end RowSecurity
