/-
What a policy may grant.

* `RestrictionText`: the conditions that restrict a table: a column equal to one placeholder, or
  membership in rows that are restricted themselves;
* `Predicate.GrantedBy`: the predicates that a policy value gives if it does not deny.

Main statements, all from a predicate back to the policy behind it:

* `interpret_eq_ok`: for a policy that is interpreted;
* `Scoped.granted`: for one that is reached along links;
* `buildPredicate_eq_ok`: for the policy of a context, by either way.

Design notes: whatever is not granted by a policy value is the denial, so each statement has a
denial as its first case.
-/
import RowSecurity.Proofs.Delegation

namespace RowSecurity

open Audit

/-- The conditions that restrict a table by one placeholder. -/
inductive RestrictionText (number : List Char) : String → Prop
  /-- a column of a table, named with it unless the table has no name -/
  | column {table field : String} : (table = "" ∨ Text.isTableName table = true) →
    Text.isName field = true →
    RestrictionText number (columnText table field ++ " = " ++ String.ofList number)
  /-- membership in the rows of a link's parent that meet a condition of this kind -/
  | member {table clause : String} (link : ParentLink) : Text.isTableName table = true →
    RestrictionText number clause → RestrictionText number (link.membership table clause)

theorem RestrictionText.ne_empty {number : List Char} {clause : String}
    (h : RestrictionText number clause) : clause ≠ "" := by
  cases h with
  | @column table field _ _ =>
    intro h
    have := congrArg String.length h
    simp only [String.length_append] at this
    have equals : " = ".length = 3 := rfl
    have none : "".length = 0 := rfl
    omega
  | member link _ _ => exact link.membership_ne_empty _ _

/-- The predicates that a policy value gives a caller with these identifiers. -/
inductive Predicate.GrantedBy (config : Config) (identifiers : Fields) (offset : Int)
    (value : PolicyValue) : Predicate → Prop
  /-- all rows, by a ready policy for all records -/
  | all : value = .ready .allRecords →
    GrantedBy config identifiers offset value (.unrestricted offset)
  /-- the rows of one identifier, by a filter on it -/
  | some {field key clause : String} {found : Value} {number : List Char} :
    value.coerce config.defaultValueKey = some (.fieldEquals field key) →
    identifiers.get key = found → found ≠ .null → Sql.placeholder (offset + 1) = .ok number →
    RestrictionText number clause →
    GrantedBy config identifiers offset value (.restrict clause [found] offset)

theorem PolicyValue.isName_of_coerce {defaultKey field key : String} {value : PolicyValue}
    (h : value.coerce defaultKey = some (.fieldEquals field key)) : Text.isName field = true := by
  rcases cases_of_coerce h with ⟨_, _, same, name⟩ | ready | ⟨_, same⟩
  · cases same
    exact name
  · rw [ready] at h
    exact (ofNames?_eq_some h).2.1
  · cases same

variable {config : Config} {identifiers : Fields} {policy value : PolicyValue} {table : String}
  {offset : Int} {predicate : Predicate}

theorem ofDecision_eq_ok (named : table = "" ∨ Text.isTableName table = true)
    (h : Predicate.ofDecision table offset (Decision.ofPolicy config policy identifiers) =
      .ok predicate) :
    predicate = .deny offset ∨ predicate.GrantedBy config identifiers offset policy := by
  cases hd : Decision.ofPolicy config policy identifiers with
  | all =>
    rw [hd] at h
    cases h
    exact .inr (.all (Decision.ofPolicy_eq_all_iff.mp hd))
  | deny denial =>
    rw [hd] at h
    cases h
    exact .inl rfl
  | restrict field key found =>
    obtain ⟨coerced, held, present⟩ := Decision.ofPolicy_eq_restrict_iff.mp hd
    rw [hd, Predicate.ofDecision] at h
    cases hn : Sql.placeholder (offset + 1) with
    | error fault =>
      rw [hn] at h
      cases h
    | ok number =>
      rw [hn] at h
      cases h
      have name := PolicyValue.isName_of_coerce coerced
      exact .inr (.some coerced held present hn (.column named name))

theorem interpret_eq_ok
    (h : (interpret config policy identifiers table offset).outcome = .ok predicate) :
    predicate = .deny offset ∨ predicate.GrantedBy config identifiers offset policy := by
  by_cases start : 0 ≤ offset
  · rw [outcome_interpret start] at h
    split at h
    · cases h
      exact .inl rfl
    · rename_i good
      have named : table = "" ∨ Text.isTableName table = true := by
        by_cases empty : table = ""
        · exact .inl empty
        · exact .inr (by simpa [empty] using good)
      refine ofDecision_eq_ok named ?_
      cases hp : Predicate.ofDecision table offset
          (Decision.ofPolicy config policy identifiers) with
      | error fault =>
        rw [hp] at h
        cases h
      | ok other =>
        rw [hp] at h
        cases h
        rfl
  · unfold interpret at h
    rw [if_pos (by omega)] at h
    cases h

/-- What is granted on the parent's table of a link is granted on its child's, or denied. -/
theorem through_of_grantedBy {parent : Predicate} (link : ParentLink) (table : String)
    (granted : parent.GrantedBy config identifiers offset value) :
    parent.through link table offset = .deny offset ∨
      (parent.through link table offset).GrantedBy config identifiers offset value := by
  cases granted with
  | all ready => exact .inr (.all ready)
  | some coerced held present number text =>
    rw [Predicate.through_restrict link table offset text.ne_empty]
    split
    · rename_i named
      exact .inr (.some coerced held present number (.member link named text))
    · exact .inl rfl

/-- What links lead to is granted by the policy at their end, or denied. -/
theorem Scoped.granted {setting : ScopeSetting} {hops : Nat} {resource table : String}
    {policy : PolicyValue} {predicate : Predicate}
    (followed : Scoped setting hops resource policy table predicate) :
    predicate = .deny setting.offset ∨ ∃ path last value,
      Leads setting.links setting.lookup setting.role resource policy path last value ∧
        path.length ≤ hops ∧
        predicate.GrantedBy setting.config setting.identifiers setting.offset value := by
  induction followed with
  | @decided hops resource policy table predicate _ interpreted =>
    exact (interpret_eq_ok interpreted).imp_right fun granted =>
      ⟨[], resource, policy, .here, Nat.zero_le _, granted⟩
  | denied _ _ => exact .inl rfl
  | @hop hops resource policy next table link parent delegates linked found _ ih =>
    rcases ih with rfl | ⟨path, last, value, leads, short, granted⟩
    · exact .inl rfl
    · refine (through_of_grantedBy link table granted).imp_right fun granted => ?_
      exact ⟨link :: path, last, value, .hop delegates linked found leads,
        Nat.succ_le_succ short, granted⟩

/-- A context's predicate is granted by its policy, or by one that it delegates to along links, or
it is the denial. -/
theorem buildPredicate_eq_ok {lookup : Lookup} {links : Option LinkRegistry} {context : Context}
    {stack : Stack}
    (h : (buildPredicate config lookup links (some context) table offset stack).outcome =
      .ok predicate) :
    predicate = .deny offset ∨
      predicate.GrantedBy config context.identifiers offset context.policy ∨
      ∃ registry, links = some registry ∧ context.policy = .ready .parentDelegated ∧
        ∃ path last value,
          Leads registry lookup context.role context.resource context.policy path last value ∧
          path.length ≤ config.maxParentDepth ∧
          predicate.GrantedBy config context.identifiers offset value := by
  unfold buildPredicate at h
  dsimp only at h
  split at h
  · rename_i registry delegates
    have delegated : context.policy = .ready .parentDelegated := by
      simpa [Context.delegates] using delegates
    rcases (scoped_of_scope _ h).granted with rfl | ⟨path, last, value, leads, short, granted⟩
    · exact .inl rfl
    · exact .inr (.inr ⟨registry, rfl, delegated, path, last, value, leads, short, granted⟩)
  · exact (interpret_eq_ok h).imp_right Or.inl

end RowSecurity
