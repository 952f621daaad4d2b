/-
The place that a predicate is built for leaves no trace in what is made of it.

* `Predicate.Moved`: predicates that are one predicate at two offsets;
* `EndMoved`: two ends of building that differ at most in the offset;
* `OffsetFree`: that a choice between two offsets cannot be seen once a predicate is composed.

Main statement: `compose_offsetFree`, for every request, every base condition and any two offsets.

Design notes: two runs are compared step by step, and all that they have of their offsets is the
number of one placeholder, which composing replaces. An offset can be so large that the number
after it cannot be written; then there is nothing to compose, whatever the other offset is
(`compose_longOffset_fails`).
-/
import RowSecurity.Proofs.Clause
import RowSecurity.Proofs.ParentScope

namespace RowSecurity

open Audit

/-! ### One predicate at two offsets -/

/-- Predicates that are the same but for their offsets and the number of their placeholder. -/
inductive Predicate.Moved (j k : Int) : Predicate → Predicate → Prop
  | unrestricted : Moved j k (.unrestricted j) (.unrestricted k)
  | deny : Moved j k (.deny j) (.deny k)
  | restrict {before after left right : List Char} {value : Value} :
    ClauseFrame before after →
    Sql.placeholder (j + 1) = .ok left → Sql.placeholder (k + 1) = .ok right →
    Moved j k (.restrict (String.ofList (before ++ left ++ after)) [value] j)
      (.restrict (String.ofList (before ++ right ++ after)) [value] k)

/-- How building a predicate ends at two offsets: in one predicate, for one cause, or differently,
because the number after one of the offsets cannot be written. -/
inductive EndMoved (j k : Int) : Except Failure Predicate → Except Failure Predicate → Prop
  | ok {p q : Predicate} : p.Moved j k q → EndMoved j k (.ok p) (.ok q)
  | error (failure : Failure) : EndMoved j k (.error failure) (.error failure)
  | left {fault : LimitFault} (y : Except Failure Predicate) :
    Sql.placeholder (j + 1) = .error fault → EndMoved j k (.error (.limit fault)) y
  | right {fault : LimitFault} (x : Except Failure Predicate) :
    Sql.placeholder (k + 1) = .error fault → EndMoved j k x (.error (.limit fault))

variable {j k : Int}

theorem EndMoved.within {x y : Traced Predicate} (ends : EndMoved j k x.outcome y.outcome)
    (stack : Stack) (call : StepCall) :
    EndMoved j k (stack.within call x).outcome (stack.within call y).outcome := by
  by_cases fits : stack.Fits call
  · rw [Stack.within_of_fits fits, Stack.within_of_fits fits]
    exact ends
  · rw [Stack.outcome_within_of_not_fits fits, Stack.outcome_within_of_not_fits fits]
    exact .error _

theorem EndMoved.bind {x y : Traced Predicate} (ends : EndMoved j k x.outcome y.outcome)
    {f g : Predicate → Traced Predicate}
    (moves : ∀ {p q}, p.Moved j k q → EndMoved j k (f p).outcome (g q).outcome) :
    EndMoved j k (x >>= f).outcome (y >>= g).outcome := by
  cases hx : x.outcome with
  | ok p =>
    cases hy : y.outcome with
    | ok q =>
      rw [hx, hy] at ends
      cases ends with
      | ok moved =>
        rw [Traced.bind_of_ok hx, Traced.bind_of_ok hy]
        exact moves moved
    | error failure =>
      rw [hx, hy] at ends
      cases ends with
      | right _ unwritten =>
        rw [Traced.bind_of_error hy]
        exact .right _ unwritten
  | error failure =>
    rw [hx] at ends
    rw [Traced.bind_of_error hx]
    generalize hy : y.outcome = ended at ends
    cases ends with
    | error _ =>
      rw [Traced.bind_of_error hy]
      exact .error failure
    | left _ unwritten => exact .left _ unwritten
    | right _ unwritten =>
      rw [Traced.bind_of_error hy]
      exact .right _ unwritten

/-- Where a link cannot be followed, the denial is the same but for its offset. -/
theorem denyLink_moved (stack : Stack) (entity detail : String) :
    EndMoved j k (denyLink stack entity detail j).outcome
      (denyLink stack entity detail k).outcome :=
  EndMoved.within (x := do reportInvalid entity detail; return .deny j)
    (y := do reportInvalid entity detail; return .deny k) (.ok .deny) stack _

/-- On its way through a link a predicate stays where it is. -/
theorem Predicate.Moved.scopeChild {p q : Predicate} (moved : p.Moved j k q) (stack : Stack)
    (link : ParentLink) (table : String) :
    EndMoved j k (scopeChild stack link table j p).outcome
      (scopeChild stack link table k q).outcome := by
  cases moved with
  | unrestricted => exact .ok .unrestricted
  | deny => exact .ok .deny
  | @restrict before after left right value frame hj hk =>
    rw [scopeChild_restrict stack link table j (frame.text left).ne_empty]
    rw [scopeChild_restrict stack link table k (frame.text right).ne_empty]
    split
    · rename_i named
      rw [link.membership_text, link.membership_text]
      exact .ok (.restrict (.member link named frame) hj hk)
    · exact denyLink_moved stack _ _

/-! ### Two offsets -/

theorem ofDecision_moved {config : Config} {policy : PolicyValue} {identifiers : Fields}
    {table : String} (named : table = "" ∨ Text.isTableName table = true) :
    EndMoved j k
      ((Predicate.ofDecision table j (.ofPolicy config policy identifiers)).mapError .limit)
      ((Predicate.ofDecision table k (.ofPolicy config policy identifiers)).mapError .limit) := by
  cases decided : Decision.ofPolicy config policy identifiers with
  | all => exact .ok .unrestricted
  | deny denial => exact .ok .deny
  | restrict field key value =>
    have name : Text.isName field = true :=
      PolicyValue.isName_of_coerce (Decision.ofPolicy_eq_restrict_iff.mp decided).1
    rw [Predicate.ofDecision, Predicate.ofDecision]
    cases hj : Sql.placeholder (j + 1) with
    | error fault =>
      cases hk : Sql.placeholder (k + 1) with
      | error other =>
        obtain ⟨rfl, -⟩ := placeholder_eq_error hj
        obtain ⟨rfl, -⟩ := placeholder_eq_error hk
        exact .error _
      | ok right => exact .left _ hj
    | ok left =>
      cases hk : Sql.placeholder (k + 1) with
      | error fault => exact .right _ hk
      | ok right =>
        show EndMoved j k (.ok (.restrict _ [value] j)) (.ok (.restrict _ [value] k))
        rw [column_text, column_text]
        exact .ok (.restrict (.column named name) hj hk)

section Runs

variable {config : Config} {policy : PolicyValue} {identifiers : Fields} {table : String}

theorem interpret_moved (hj : 0 ≤ j) (hk : 0 ≤ k) :
    EndMoved j k (interpret config policy identifiers table j).outcome
      (interpret config policy identifiers table k).outcome := by
  rw [outcome_interpret hj, outcome_interpret hk]
  split
  · exact .ok .deny
  · rename_i named
    rw [not_and, Bool.not_eq_false, ← or_iff_not_imp_left] at named
    exact ofDecision_moved named

/-- Links that are followed lead to the same end, whatever the offset is. -/
theorem scope_moved (hj : 0 ≤ j) (hk : 0 ≤ k) (links : LinkRegistry) (lookup : Lookup)
    (role : String) (hops : Nat) (stack : Stack) (resource : String) (policy : PolicyValue)
    (table : String) :
    EndMoved j k
      (scope ⟨config, links, lookup, role, identifiers, j⟩ hops stack resource policy table).outcome
      (scope ⟨config, links, lookup, role, identifiers, k⟩ hops stack resource policy
        table).outcome := by
  induction hops, stack, resource, policy, table using scope_induction links lookup role with
  | unread hops stack resource policy table unread =>
    rw [scope_of_unread _ unread, scope_of_unread _ unread]
    exact .error _
  | decides hops stack resource policy table fits decides =>
    rw [scope_of_not_delegates _ fits decides, scope_of_not_delegates _ fits decides]
    exact (interpret_moved hj hk).within stack _
  | unlinked hops stack resource policy table fits delegates linked =>
    rw [scope_of_no_link _ fits delegates linked, scope_of_no_link _ fits delegates linked]
    exact denyLink_moved stack _ _
  | full stack resource policy table link fits delegates linked =>
    rw [scope_of_no_hops _ fits delegates linked, scope_of_no_hops _ fits delegates linked]
    exact denyLink_moved stack _ _
  | unasked hops stack resource policy table link fits delegates linked unasked =>
    rw [scope_of_unasked _ fits delegates linked unasked,
      scope_of_unasked _ fits delegates linked unasked]
    exact .error _
  | unanswered hops stack resource policy table link failure fits delegates linked asked fails =>
    rw [scope_of_no_answer _ fits delegates linked asked fails,
      scope_of_no_answer _ fits delegates linked asked fails]
    exact .error failure
  | hop hops stack resource policy table link next fits delegates linked asked found ih =>
    rw [scope_of_hop _ fits delegates linked asked found,
      scope_of_hop _ fits delegates linked asked found]
    exact ih.bind fun moved => moved.scopeChild stack link table

theorem buildPredicate_moved (hj : 0 ≤ j) (hk : 0 ≤ k) (lookup : Lookup)
    (links : Option LinkRegistry) (context : Context) (table : String) (stack : Stack) :
    EndMoved j k (buildPredicate config lookup links (some context) table j stack).outcome
      (buildPredicate config lookup links (some context) table k stack).outcome := by
  unfold buildPredicate
  dsimp only
  split
  · exact scope_moved hj hk _ _ _ _ _ _ _ _
  · exact interpret_moved hj hk

end Runs

/-! ### The whole -/

theorem Predicate.Moved.after_eq {p q : Predicate} (moved : p.Moved j k q) (hj : 0 ≤ j)
    (hk : 0 ≤ k) (shown : p.clause ≠ "") (count : Nat) : p.after count = q.after count := by
  cases moved with
  | unrestricted => exact absurd rfl shown
  | deny => rw [Predicate.after_deny, Predicate.after_deny]
  | restrict frame left right =>
    obtain ⟨m, hm⟩ := Int.eq_ofNat_of_zero_le (show 0 ≤ j + 1 by omega)
    obtain ⟨n, hn⟩ := Int.eq_ofNat_of_zero_le (show 0 ≤ k + 1 by omega)
    rw [hm] at left
    rw [hn] at right
    obtain ⟨rfl, shortLeft⟩ := Sql.eq_numberText_of_placeholder left
    obtain ⟨rfl, shortRight⟩ := Sql.eq_numberText_of_placeholder right
    rw [frame.after_restrict hm shortLeft, frame.after_restrict hn shortRight]

theorem compose_eq_of_moved {p q : Predicate} (moved : p.Moved j k q) (hj : 0 ≤ j) (hk : 0 ≤ k)
    (base : String) (params : List Value) : compose base params p = compose base params q := by
  have empty : p.clause = "" ↔ q.clause = "" := by
    cases moved with
    | unrestricted => exact Iff.rfl
    | deny => exact Iff.rfl
    | @restrict before after left right value frame _ _ =>
      exact ⟨fun none => absurd none (frame.text left).ne_empty,
        fun none => absurd none (frame.text right).ne_empty⟩
  have carried : p.values = q.values ∧ p.applied = q.applied := by
    cases moved with
    | unrestricted => exact ⟨rfl, rfl⟩
    | deny => exact ⟨rfl, rfl⟩
    | restrict _ _ _ => exact ⟨rfl, rfl⟩
  unfold compose
  dsimp only
  rw [carried.1, carried.2]
  cases usedPlaceholders (String.ofList (Sql.stripWhere base.toList)) with
  | error failure => rfl
  | ok used =>
    dsimp only
    by_cases shown : p.clause = ""
    · rw [if_pos shown, if_pos (empty.mp shown)]
    · rw [if_neg shown, if_neg (mt empty.mpr shown), moved.after_eq hj hk shown]

/-- With offsets whose next numbers can be written, building and composing end alike. -/
theorem EndMoved.bind_compose {x y : Except Failure Predicate} (ends : EndMoved j k x y)
    (hj : 0 ≤ j) (hk : 0 ≤ k) (left : (Nat.toDigits 10 (j + 1).natAbs).length ≤ maxDigits)
    (right : (Nat.toDigits 10 (k + 1).natAbs).length ≤ maxDigits) (base : String)
    (params : List Value) : (x >>= compose base params) = (y >>= compose base params) := by
  cases ends with
  | ok moved => exact compose_eq_of_moved moved hj hk base params
  | error failure => rfl
  | left _ unwritten => exact absurd (placeholder_eq_error unwritten).2 (Nat.not_lt.mpr left)
  | right _ unwritten => exact absurd (placeholder_eq_error unwritten).2 (Nat.not_lt.mpr right)

/-- That a choice between two offsets cannot be seen once a predicate is composed, if both numbers
after them can be written. -/
structure OffsetFree (config : Config) (lookup : Lookup) (links : Option LinkRegistry)
    (context : Option Context) (table : String) (stack : Stack) (j k : Int) : Prop where
  /-- Composed with any base, the two predicates give the same clause or the same failure. -/
  composed : ∀ {p q},
    (buildPredicate config lookup links context table j stack).outcome = .ok p →
    (buildPredicate config lookup links context table k stack).outcome = .ok q →
    ∀ base params, compose base params p = compose base params q
  /-- If both numbers can be written, building and composing end in one clause or for one cause. -/
  alike : (Nat.toDigits 10 (j + 1).natAbs).length ≤ maxDigits →
    (Nat.toDigits 10 (k + 1).natAbs).length ≤ maxDigits → ∀ base params,
      ((buildPredicate config lookup links context table j stack).outcome >>=
          compose base params) =
        ((buildPredicate config lookup links context table k stack).outcome >>=
          compose base params)
  /-- If the first cannot be built, then neither can the second, for the same cause, unless the
  number after one of the offsets has too many digits to be written. -/
  failed : ∀ {failure},
    (buildPredicate config lookup links context table j stack).outcome = .error failure →
    (buildPredicate config lookup links context table k stack).outcome = .error failure ∨
      (failure = .limit .digitsWritten ∧ maxDigits < (Nat.toDigits 10 (j + 1).natAbs).length) ∨
      ((buildPredicate config lookup links context table k stack).outcome =
          .error (.limit .digitsWritten) ∧
        maxDigits < (Nat.toDigits 10 (k + 1).natAbs).length)

/-- What is made of a predicate does not depend on the offset that it is built for. -/
theorem compose_offsetFree {config : Config} {lookup : Lookup} {links : Option LinkRegistry}
    {context : Option Context} {table : String} {stack : Stack} (hj : 0 ≤ j) (hk : 0 ≤ k) :
    OffsetFree config lookup links context table stack j k := by
  cases context with
  | none =>
    refine ⟨?_, fun _ _ _ _ => rfl, fun failed => by cases failed⟩
    intro p q hp hq base params
    cases hp
    cases hq
    rfl
  | some context =>
    have ends : EndMoved j k
        (buildPredicate config lookup links (some context) table j stack).outcome
        (buildPredicate config lookup links (some context) table k stack).outcome :=
      buildPredicate_moved hj hk lookup links context table stack
    constructor
    · intro p q hp hq base params
      rw [hp, hq] at ends
      cases ends with
      | ok moved => exact compose_eq_of_moved moved hj hk base params
    · intro left right base params
      exact ends.bind_compose hj hk left right base params
    · intro failure failed
      rw [failed] at ends
      generalize (buildPredicate config lookup links (some context) table k stack).outcome = y
        at ends ⊢
      cases ends with
      | error _ => exact .inl rfl
      | left _ unwritten =>
        obtain ⟨rfl, digits⟩ := placeholder_eq_error unwritten
        exact .inr (.inl ⟨rfl, digits⟩)
      | right _ unwritten =>
        obtain ⟨rfl, digits⟩ := placeholder_eq_error unwritten
        exact .inr (.inr ⟨rfl, digits⟩)

/-- The files of a customer's orders, looked for at the first place and after many others. -/
theorem compose_offsetFree_files :
    ∃ p q, (buildPredicate .standard customerLookup (some (.ofLinks [fileLink, orderLink]))
        (some fileContext) "f" 0 .standard).outcome = .ok p ∧
      (buildPredicate .standard customerLookup (some (.ofLinks [fileLink, orderLink]))
        (some fileContext) "f" 99 .standard).outcome = .ok q ∧
      p.clause ≠ q.clause ∧
      ∀ base params, compose base params p = compose base params q := by
  have free : OffsetFree .standard customerLookup (some (.ofLinks [fileLink, orderLink]))
      (some fileContext) "f" .standard 0 99 := compose_offsetFree (by decide) (by decide)
  exact ⟨_, _, rfl, rfl, by decide, free.composed rfl rfl⟩

/-- Users who may see the rows that they own. -/
def ownContext : Context :=
  ⟨"orders", "customer", .ready (.fieldEquals "owner" userIdKey), [(userIdKey, .int 7)]⟩

/-- Two offsets can be told apart where the number after one of them has too many digits: one build
fails and the other is composed. -/
theorem compose_longOffset_fails :
    (0 : Int) ≤ (10 ^ maxDigits - 1 : Nat) ∧
      (buildPredicate .standard (fun _ _ => .ok (.ready .denyAll)) none (some ownContext) "orders"
        (10 ^ maxDigits - 1 : Nat) .standard).outcome = .error (.limit .digitsWritten) ∧
      ∃ predicate,
        (buildPredicate .standard (fun _ _ => .ok (.ready .denyAll)) none (some ownContext) "orders"
          0 .standard).outcome = .ok predicate ∧
        compose "" [] predicate = .ok ⟨"WHERE orders.owner = $1", [.int 7], true⟩ := by
  have decided : Decision.ofPolicy .standard ownContext.policy ownContext.identifiers =
      .restrict "owner" userIdKey (.int 7) := rfl
  -- at the other offset the predicate is built, and it is composed with nothing else
  have made : compose "" [] (.restrict "orders.owner = $1" [.int 7] 0) =
      .ok ⟨"WHERE orders.owner = $1", [.int 7], true⟩ := by decide +kernel
  have fails : (interpret .standard ownContext.policy ownContext.identifiers "orders"
      (10 ^ maxDigits - 1 : Nat)).outcome = .error (.limit .digitsWritten) :=
    outcome_interpret_of_long le_longOffset (by decide) decided
  exact ⟨Int.natCast_nonneg _, fails, _, rfl, made⟩

end RowSecurity
