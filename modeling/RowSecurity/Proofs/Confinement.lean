/-
Identifiers reach nothing but the values that are bound.

* `Traced.Agree`: two computations that do the same and end alike;
* `Fields.SameShape`: records that differ at most in values that are not null;
* `Confined`: that two callers can be told apart by a value that is bound, and by nothing else.

Main statement: `identifiers_confined`, for two callers that differ at most in identifiers other
than the user's id: clauses, events, notes and failures are the same for both.

Design notes: two runs are compared part by part, and a part is the same for both unless it is
given an identifier, which only a decision to restrict is. Where a plain record is held in place
of a target's columns, a field of it is compared with the identifier at once and the result shows
which it was (`filterExpression_heldRecord`), so no such record may be held.
-/
import Mathlib.Data.List.Nodup
import RowSecurity.Enforcement
import RowSecurity.Predicate.Build
import RowSecurity.Predicate.Compose
import RowSecurity.Read.Selection

namespace RowSecurity

open Audit

/-! ### Two runs -/

section TwoRuns

variable {α β γ δ ε ζ : Type}

/-- That two results are failures for the same cause, or related. -/
inductive EndAlike (related : α → β → Prop) : Except ε α → Except ε β → Prop
  | ok {a : α} {b : β} : related a b → EndAlike related (.ok a) (.ok b)
  | error (cause : ε) : EndAlike related (.error cause) (.error cause)

theorem EndAlike.mapError {related : α → β → Prop} {x : Except ε α} {y : Except ε β}
    (h : EndAlike related x y) (f : ε → ζ) :
    EndAlike related (x.mapError f) (y.mapError f) := by
  cases h with
  | ok same => exact .ok same
  | error cause => exact .error (f cause)

/-- That two computations do the same and end alike. -/
structure Audit.Traced.Agree (related : α → β → Prop) (x : Traced α) (y : Traced β) : Prop where
  trace : x.trace = y.trace
  outcome : EndAlike related x.outcome y.outcome

theorem Audit.Traced.Agree.bind {related : α → β → Prop} {next : γ → δ → Prop}
    {x : Traced α} {y : Traced β} {f : α → Traced γ} {g : β → Traced δ}
    (first : Traced.Agree related x y)
    (second : ∀ {a b}, related a b → Traced.Agree next (f a) (g b)) :
    Traced.Agree next (x >>= f) (y >>= g) := by
  obtain ⟨trace, outcome⟩ := first
  cases hx : x.outcome with
  | error failure =>
    rw [hx] at outcome
    cases hy : y.outcome with
    | error other =>
      rw [hy] at outcome
      cases outcome
      rw [Traced.bind_of_error hx, Traced.bind_of_error hy]
      exact ⟨trace, .error failure⟩
    | ok b =>
      rw [hy] at outcome
      cases outcome
  | ok a =>
    rw [hx] at outcome
    cases hy : y.outcome with
    | error failure =>
      rw [hy] at outcome
      cases outcome
    | ok b =>
      rw [hy] at outcome
      cases outcome with
      | ok same =>
        obtain ⟨later, ends⟩ := second same
        rw [Traced.bind_of_ok hx, Traced.bind_of_ok hy, trace, later]
        exact ⟨rfl, ends⟩

/-- Two computations that agree do so on any stack. -/
theorem Audit.Traced.Agree.within {related : α → β → Prop} {x : Traced α} {y : Traced β}
    (agree : Traced.Agree related x y) (stack : Stack) (call : StepCall) :
    Traced.Agree related (stack.within call x) (stack.within call y) := by
  unfold Stack.within
  split
  · exact agree
  · exact ⟨congrArg (List.take _) agree.trace, .error _⟩

theorem Audit.Traced.Agree.refl (x : Traced α) : Traced.Agree Eq x x := by
  refine ⟨rfl, ?_⟩
  cases x.outcome with
  | ok a => exact .ok rfl
  | error failure => exact .error failure

end TwoRuns

/-! ### Identifiers -/

/-- Records with the same keys, which are different texts, and null at the same ones. The values at
the other keys may differ. -/
structure Fields.SameShape (a b : Fields) : Prop where
  distinctLeft : (a.keys.map fun key => Text.codes key.toList).Nodup
  distinctRight : (b.keys.map fun key => Text.codes key.toList).Nodup
  nulls : ∀ key, (a.get? key).map Value.isNull = (b.get? key).map Value.isNull

namespace Fields

/-- A key is available if a value stands at it that is not null. -/
theorem mem_availableKeys {fields : Fields} (distinct : fields.keys.Nodup) {key : String} :
    key ∈ availableKeys fields ↔ (fields.get? key).map Value.isNull = some false := by
  rw [availableKeys, (List.mergeSort_perm _ _).mem_iff, List.mem_map]
  constructor
  · rintro ⟨⟨_, value⟩, member, rfl⟩
    obtain ⟨member, present⟩ := List.mem_filter.mp member
    rw [get?_eq_some_of_mem distinct member, Option.map_some]
    simpa using present
  · intro h
    obtain ⟨value, found, present⟩ := Option.map_eq_some_iff.mp h
    refine ⟨(key, value), List.mem_filter.mpr ⟨mem_of_get?_eq_some found, ?_⟩, rfl⟩
    rw [present]
    rfl

theorem nodup_availableKeys {fields : Fields} (distinct : fields.keys.Nodup) :
    (availableKeys fields).Nodup := by
  rw [availableKeys, (List.mergeSort_perm _ _).nodup_iff]
  exact distinct.sublist (List.filter_sublist.map _)

theorem SameShape.nodup {a b : Fields} (shape : SameShape a b) : a.keys.Nodup ∧ b.keys.Nodup :=
  ⟨List.Nodup.of_map _ shape.distinctLeft, List.Nodup.of_map _ shape.distinctRight⟩

/-- What is available is told by the shape of a record. -/
theorem SameShape.availableKeys_eq {a b : Fields} (shape : SameShape a b) :
    availableKeys a = availableKeys b := by
  obtain ⟨left, right⟩ := shape.nodup
  have same : ∀ key, key ∈ availableKeys a ↔ key ∈ availableKeys b := by
    intro key
    rw [mem_availableKeys left, mem_availableKeys right, shape.nulls]
  have sorted : ∀ fields : Fields,
      (availableKeys fields).Pairwise fun k l => Text.inOrder k l = true := by
    intro fields
    exact List.pairwise_mergeSort Text.inOrder_trans Text.inOrder_total _
  refine List.Perm.eq_of_pairwise ?_ (sorted a) (sorted b)
    ((List.perm_ext_iff_of_nodup (nodup_availableKeys left) (nodup_availableKeys right)).mpr same)
  -- keys that stand before one another have the same codes, and the keys of a record differ in them
  intro k l hk hl before after
  have member : ∀ key ∈ availableKeys a, key ∈ a.keys := by
    intro key h
    obtain ⟨value, found, -⟩ := Option.map_eq_some_iff.mp ((mem_availableKeys left).mp h)
    exact List.mem_map_of_mem (f := (·.1)) (mem_of_get?_eq_some found)
  exact List.inj_on_of_nodup_map shape.distinctLeft (member k hk) (member l ((same l).mpr hl))
    (Text.codes_eq_of_inOrder before after)

theorem SameShape.isNull_get {a b : Fields} (shape : SameShape a b) (key : String) :
    (a.get key).isNull = (b.get key).isNull := by
  have same := shape.nulls key
  unfold get
  cases ha : a.get? key with
  | none =>
    rw [ha, Option.map_none, eq_comm, Option.map_eq_none_iff] at same
    rw [same]
  | some v =>
    rw [ha, Option.map_some, eq_comm] at same
    obtain ⟨w, found, same⟩ := Option.map_eq_some_iff.mp same
    rw [found]
    exact same.symm

end Fields

/-! ### Decisions -/

variable {a b : Fields}

/-- No values, or for each record the one at the same key. -/
inductive SameIdentifier (a b : Fields) : List Value → List Value → Prop
  | none : SameIdentifier a b [] []
  | one {key : String} : a.get key ≠ .null → b.get key ≠ .null →
    SameIdentifier a b [a.get key] [b.get key]

theorem SameIdentifier.length_eq {xs ys : List Value} (h : SameIdentifier a b xs ys) :
    xs.length = ys.length := by
  cases h with
  | none => rfl
  | one _ _ => rfl

/-- Decisions that differ at most in the value of one identifier. -/
inductive Decision.Twin (a b : Fields) : Decision → Decision → Prop
  | all : Twin a b .all .all
  | restrict {field key : String} : a.get key ≠ .null → b.get key ≠ .null →
    Twin a b (.restrict field key (a.get key)) (.restrict field key (b.get key))
  | deny (denial : Denial) : Twin a b (.deny denial) (.deny denial)

theorem Decision.twin_ofPolicy (shape : Fields.SameShape a b) (config : Config)
    (policy : PolicyValue) :
    Twin a b (ofPolicy config policy a) (ofPolicy config policy b) := by
  unfold ofPolicy
  split
  · exact .all
  · exact .deny _
  · exact .deny _
  · rename_i field key _
    rw [← shape.isNull_get key, ← shape.availableKeys_eq]
    split
    · exact .deny _
    · rename_i present
      refine .restrict (mt Value.isNull_iff.mpr present) ?_
      rw [shape.isNull_get key] at present
      exact mt Value.isNull_iff.mpr present
  · exact .deny _

/-- What is told of a decision holds no identifier's value. -/
theorem Decision.Twin.told {d e : Decision} (twin : Twin a b d e) :
    d.kind = e.kind ∧ d.reason = e.reason ∧ ∀ entity, d.event? entity = e.event? entity := by
  cases twin with
  | all => exact ⟨rfl, rfl, fun _ => rfl⟩
  | restrict _ _ => exact ⟨rfl, rfl, fun _ => rfl⟩
  | deny _ => exact ⟨rfl, rfl, fun _ => rfl⟩

theorem resolve_agree (shape : Fields.SameShape a b) (config : Config) (policy : PolicyValue)
    (entity : String) : Traced.Agree (Decision.Twin a b) (resolve config policy a entity)
      (resolve config policy b entity) := by
  have twin := Decision.twin_ofPolicy shape config policy
  have report : (Decision.ofPolicy config policy a).report entity =
      (Decision.ofPolicy config policy b).report entity := by
    rw [Decision.report, Decision.report, twin.told.2.2 entity]
  unfold resolve
  dsimp only
  rw [report]
  exact (Traced.Agree.refl _).bind fun _ => ⟨rfl, .ok twin⟩

/-! ### Predicates -/

/-- Predicates that differ at most in the value that is bound, which is the one of the same
identifier. -/
structure Predicate.Twin (a b : Fields) (p q : Predicate) : Prop where
  clause : p.clause = q.clause
  deniesAll : p.deniesAll = q.deniesAll
  applied : p.applied = q.applied
  offset : p.offset = q.offset
  values : SameIdentifier a b p.values q.values

theorem Predicate.Twin.of_no_values {p : Predicate} (none : p.values = []) : Twin a b p p :=
  ⟨rfl, rfl, rfl, rfl, by rw [none]; exact .none⟩

theorem Predicate.twin_ofDecision {d e : Decision} (twin : Decision.Twin a b d e) (table : String)
    (offset : Int) :
    EndAlike (Twin a b) (ofDecision table offset d) (ofDecision table offset e) := by
  cases twin with
  | all => exact .ok (.of_no_values rfl)
  | deny _ => exact .ok (.of_no_values rfl)
  | restrict left right =>
    unfold ofDecision
    cases Sql.placeholder (offset + 1) with
    | error fault => exact .error fault
    | ok number => exact .ok ⟨rfl, rfl, rfl, rfl, .one left right⟩

theorem interpret_agree (shape : Fields.SameShape a b) (config : Config) (policy : PolicyValue)
    (table : String) (offset : Int) :
    Traced.Agree (Predicate.Twin a b) (interpret config policy a table offset)
      (interpret config policy b table offset) := by
  unfold interpret
  split
  · exact ⟨rfl, .error _⟩
  · split
    · exact ⟨rfl, .ok (.of_no_values rfl)⟩
    · refine (resolve_agree shape config policy table).bind fun {d e} twin => ?_
      have ends := (Predicate.twin_ofDecision twin table offset).mapError Failure.limit
      refine Traced.Agree.bind (x := .ofExcept _) (y := .ofExcept _) ⟨rfl, ends⟩
        fun {p q} same => ?_
      obtain ⟨kind, reason, -⟩ := twin.told
      rw [kind, reason, same.clause]
      split
      · exact ⟨rfl, .ok same⟩
      · exact ⟨rfl, .ok same⟩

theorem denyLink_agree (stack : Stack) (entity detail : String) (offset : Int) :
    Traced.Agree (Predicate.Twin a b) (denyLink stack entity detail offset)
      (denyLink stack entity detail offset) :=
  Traced.Agree.within ⟨rfl, .ok (.of_no_values rfl)⟩ stack _

theorem scopeChild_agree (stack : Stack) (link : ParentLink) (table : String) (offset : Int)
    {p q : Predicate} (twin : p.Twin a b q) :
    Traced.Agree (Predicate.Twin a b) (scopeChild stack link table offset p)
      (scopeChild stack link table offset q) := by
  have shown : p.showsAll = q.showsAll := by
    rw [Predicate.showsAll, Predicate.showsAll, twin.applied, twin.clause]
  unfold scopeChild
  dsimp only
  rw [twin.deniesAll, shown, twin.clause]
  split
  · exact ⟨rfl, .ok (.of_no_values rfl)⟩
  · split
    · exact ⟨rfl, .ok (.of_no_values rfl)⟩
    · by_cases named : Text.isTableName (if table = "" then link.childTable else table) = false
      · rw [if_pos named, if_pos named]
        exact denyLink_agree stack _ _ offset
      · rw [if_neg named, if_neg named]
        exact ⟨rfl, .ok ⟨rfl, rfl, rfl, rfl, twin.values⟩⟩

/-- Following links tells no more of the identifiers than interpreting a policy. -/
theorem scope_agree (shape : Fields.SameShape a b) (config : Config) (links : LinkRegistry)
    (lookup : Lookup) (role : String) (offset : Int) (hops : Nat) :
    ∀ (stack : Stack) (resource : String) (policy : PolicyValue) (table : String),
      Traced.Agree (Predicate.Twin a b)
        (scope ⟨config, links, lookup, role, a, offset⟩ hops stack resource policy table)
        (scope ⟨config, links, lookup, role, b, offset⟩ hops stack resource policy table) := by
  induction hops with
  | zero =>
    intro stack resource policy table
    unfold scope
    refine (Traced.Agree.refl _).bind ?_
    rintro read _ rfl
    split
    · dsimp only
      split
      · exact denyLink_agree stack _ _ offset
      · exact denyLink_agree stack _ _ offset
    · exact (interpret_agree shape config policy table offset).within stack _
  | succ hops ih =>
    intro stack resource policy table
    unfold scope
    refine (Traced.Agree.refl _).bind ?_
    rintro read _ rfl
    split
    · dsimp only
      split
      · exact denyLink_agree stack _ _ offset
      · rename_i link _
        refine (Traced.Agree.refl _).bind ?_
        rintro next _ rfl
        exact (ih _ link.parentResource next link.parentTable).bind fun twin =>
          scopeChild_agree stack link table offset twin
    · exact (interpret_agree shape config policy table offset).within stack _

/-- Contexts of one request that differ at most in identifiers other than the user's id. -/
structure Context.Twin (c d : Context) : Prop where
  resource : c.resource = d.resource
  role : c.role = d.role
  policy : c.policy = d.policy
  userId : c.userId = d.userId
  shape : Fields.SameShape c.identifiers d.identifiers

variable {c d : Context}

theorem buildPredicate_agree (twin : c.Twin d) (config : Config) (lookup : Lookup)
    (links : Option LinkRegistry) (table : String) (offset : Int) (stack : Stack) :
    Traced.Agree (Predicate.Twin c.identifiers d.identifiers)
      (buildPredicate config lookup links (some c) table offset stack)
      (buildPredicate config lookup links (some d) table offset stack) := by
  have delegates : c.delegates = d.delegates := by
    rw [Context.delegates, Context.delegates, twin.policy]
  unfold buildPredicate
  dsimp only
  rw [delegates, twin.policy]
  split
  · unfold parentScoped
    rw [twin.resource, twin.role, twin.policy]
    exact scope_agree twin.shape _ _ _ _ _ _ _ _ _ _
  · exact interpret_agree twin.shape _ _ _ _

/-! ### Clauses -/

/-- Clauses that differ at most in the value that is bound after those of the base. -/
structure Composed.Twin (a b : Fields) (params : List Value) (x y : Composed) : Prop where
  whereClause : x.whereClause = y.whereClause
  applied : x.applied = y.applied
  params : ∃ xs ys, SameIdentifier a b xs ys ∧ x.params = params ++ xs ∧ y.params = params ++ ys

theorem Predicate.Twin.after_eq {p q : Predicate} (twin : p.Twin a b q) (count : Nat) :
    p.after count = q.after count := by
  rw [Predicate.after, Predicate.after, twin.clause, twin.values.length_eq, twin.offset]

theorem compose_alike {p q : Predicate} (twin : p.Twin a b q) (base : String)
    (params : List Value) :
    EndAlike (Composed.Twin a b params) (compose base params p) (compose base params q) := by
  unfold compose
  dsimp only
  cases usedPlaceholders (String.ofList (Sql.stripWhere base.toList)) with
  | error failure => exact .error failure
  | ok used =>
    dsimp only
    rw [twin.clause, twin.applied, twin.after_eq]
    split
    · split
      · exact .ok ⟨rfl, rfl, [], [], .none, by simp, by simp⟩
      · cases q.after params.length with
        | error failure => exact .error failure
        | ok clause => exact .ok ⟨rfl, rfl, _, _, twin.values, rfl, rfl⟩
    · exact .error _

/-! ### Expressions -/

/-- Conditions that differ at most in the value that a column is compared with. -/
inductive Sql.Expression.Twin (a b : Fields) : Sql.Expression → Sql.Expression → Prop
  | always : Twin a b .always .always
  | never : Twin a b .never .never
  | equals {table column key : String} :
    Twin a b (.equals table column (a.get key)) (.equals table column (b.get key))

/-- What a target holds, as a plain value, where its columns are looked for. -/
def Target.held : Target → Value
  | table _ _ => .null
  | mapped _ _ others => others.get "c"
  | other fields => fields.get "c"

theorem Target.heldEquation_of_not_record {held : Value} (other : ∀ fields, held ≠ .record fields)
    (field : String) (value : Value) :
    heldEquation held field value = .error (.noColumns held.kindName) := by
  cases held with
  | record fields => exact absurd rfl (other fields)
  | _ => rfl

/-- What a field of a target names does not depend on the value it is to have. -/
theorem Target.equation_cases {target : Target} (own : ∀ fields, target.held ≠ .record fields)
    (field : String) :
    (∃ failure, ∀ value, target.equation field value = .error failure) ∨
      (∀ value, target.equation field value = .ok none) ∨
      ∃ table column, ∀ value,
        target.equation field value = .ok (some (.equals table column value)) := by
  cases target with
  | table name columns =>
    by_cases member : field ∈ columns
    · exact .inr (.inr ⟨name, field, fun value => by rw [equation, if_pos member]⟩)
    · exact .inr (.inl fun value => by rw [equation, if_neg member])
  | mapped name columns others =>
    by_cases shadowed : (List.lookup "c" columns).isSome
    · exact .inl ⟨_, fun value => by rw [equation, if_pos shadowed]⟩
    · by_cases free : (others.get "c").isNull
      · cases found : List.lookup field columns with
        | none =>
          refine .inr (.inl fun value => ?_)
          rw [equation, if_neg shadowed, if_pos free, found]
          rfl
        | some column =>
          refine .inr (.inr ⟨name, column, fun value => ?_⟩)
          rw [equation, if_neg shadowed, if_pos free, found]
          rfl
      · refine .inl ⟨.noColumns (others.get "c").kindName, fun value => ?_⟩
        rw [equation, if_neg shadowed, if_neg free]
        exact heldEquation_of_not_record own field value
  | other fields =>
    by_cases free : (fields.get "c").isNull
    · exact .inr (.inl fun value => by rw [equation, if_pos free])
    · refine .inl ⟨.noColumns (fields.get "c").kindName, fun value => ?_⟩
      rw [equation, if_neg free]
      exact heldEquation_of_not_record own field value

theorem filterExpression_agree (shape : Fields.SameShape a b) (config : Config)
    (policy : PolicyValue) {target : Target} (own : ∀ fields, target.held ≠ .record fields) :
    Traced.Agree (Sql.Expression.Twin a b) (filterExpression config policy a target)
      (filterExpression config policy b target) := by
  unfold filterExpression
  dsimp only
  refine (resolve_agree shape config policy target.tableName).bind fun {d e} twin => ?_
  cases twin with
  | all => exact ⟨rfl, .ok .always⟩
  | deny _ => exact ⟨rfl, .ok .never⟩
  | @restrict field key _ _ =>
    rcases Target.equation_cases own field with ⟨failure, fails⟩ | none | ⟨table, column, some⟩
    · dsimp only
      rw [fails, fails]
      exact ⟨rfl, .error failure⟩
    · dsimp only
      rw [none, none]
      exact ⟨rfl, .ok .never⟩
    · dsimp only
      rw [some, some]
      exact ⟨rfl, .ok .equals⟩

/-! ### The whole -/

theorem assertApplied_eq (twin : c.Twin d) (result : Result) :
    assertApplied (some c) result = assertApplied (some d) result := by
  unfold assertApplied
  dsimp only
  rw [Context.requiresFiltering, Context.requiresFiltering, Context.description,
    Context.description, twin.resource, twin.role, twin.policy, twin.userId]

theorem Composed.Twin.paginate {params : List Value} {x y : Composed}
    (twin : x.Twin a b params y) (limit offset : Value) :
    (x.paginate limit offset).1 = (y.paginate limit offset).1 ∧
      ∃ xs ys, SameIdentifier a b xs ys ∧
        (x.paginate limit offset).2 = params ++ xs ++ [limit, offset] ∧
        (y.paginate limit offset).2 = params ++ ys ++ [limit, offset] := by
  obtain ⟨xs, ys, same, left, right⟩ := twin.params
  have next : x.nextPlaceholder = y.nextPlaceholder := by
    rw [Composed.nextPlaceholder, Composed.nextPlaceholder, left, right, List.length_append,
      List.length_append, same.length_eq]
  refine ⟨?_, xs, ys, same, ?_, ?_⟩
  · rw [Composed.paginate, Composed.paginate, next]
  · rw [Composed.paginate, left]
  · rw [Composed.paginate, right]

/-- That two callers can be told apart by a value that is bound, and by nothing else. -/
structure Confined (c d : Context) : Prop where
  /-- The predicates, and what is done to build them. -/
  predicate : ∀ config lookup links table offset stack,
    Traced.Agree (Predicate.Twin c.identifiers d.identifiers)
      (buildPredicate config lookup links (some c) table offset stack)
      (buildPredicate config lookup links (some d) table offset stack)
  /-- The clauses that are made of such predicates. -/
  composed : ∀ {p q : Predicate}, p.Twin c.identifiers d.identifiers q → ∀ base params,
    EndAlike (Composed.Twin c.identifiers d.identifiers params) (compose base params p)
      (compose base params q)
  /-- The pages of such clauses, with the values of the page last. -/
  page : ∀ {params x y}, Composed.Twin c.identifiers d.identifiers params x y →
    ∀ limit offset, (x.paginate limit offset).1 = (y.paginate limit offset).1 ∧
      ∃ xs ys, SameIdentifier c.identifiers d.identifiers xs ys ∧
        (x.paginate limit offset).2 = params ++ xs ++ [limit, offset] ∧
        (y.paginate limit offset).2 = params ++ ys ++ [limit, offset]
  /-- The filter expressions on a target with columns of its own, and what is done to make them. -/
  expression : ∀ {target : Target}, (∀ fields, target.held ≠ .record fields) → ∀ config,
    Traced.Agree (Sql.Expression.Twin c.identifiers d.identifiers)
      (filterExpression config c.policy c.identifiers target)
      (filterExpression config d.policy d.identifiers target)
  /-- What is done about a result that should have been filtered. -/
  audit : ∀ result, assertApplied (some c) result = assertApplied (some d) result

/-- Callers that differ at most in identifiers other than the user's id can be told apart by a
value that is bound, and by nothing else. -/
theorem identifiers_confined (twin : c.Twin d) : Confined c d where
  predicate := buildPredicate_agree twin
  composed same := compose_alike same
  page same := same.paginate
  expression own config := by
    rw [twin.policy]
    exact filterExpression_agree twin.shape config d.policy own
  audit := assertApplied_eq twin

/-- A customer who has the given id as one. -/
def orderCustomer (id : Value) : Context :=
  ⟨"orders", "customer", .ready (.fieldEquals "owner" "customerId"),
    [(userIdKey, .int 1), ("customerId", id)]⟩

theorem orderCustomer_twin {id other : Value} (left : id ≠ .null) (right : other ≠ .null) :
    (orderCustomer id).Twin (orderCustomer other) := by
  have distinct : ([userIdKey, "customerId"].map fun key => Text.codes key.toList).Nodup := by
    decide
  have found : ∀ id key, (orderCustomer id).identifiers.get? key =
      if userIdKey = key then some (.int 1) else if "customerId" = key then some id else none :=
    fun _ _ => rfl
  refine ⟨rfl, rfl, rfl, rfl, distinct, distinct, fun key => ?_⟩
  rw [found, found]
  split
  · rfl
  · split
    · rw [Option.map_some, Option.map_some, Bool.eq_false_iff.mpr (mt Value.isNull_iff.mp left),
        Bool.eq_false_iff.mpr (mt Value.isNull_iff.mp right)]
    · rfl

theorem identifiers_confined_orders :
    (orderCustomer (.int 45)).Twin (orderCustomer (.text "x")) ∧
      Confined (orderCustomer (.int 45)) (orderCustomer (.text "x")) ∧
      (buildPredicate .standard (fun _ _ => .ok (.raw .null)) none (some (orderCustomer (.int 45)))
        "o" 2 .standard).outcome = .ok (.restrict "o.owner = $3" [.int 45] 2) ∧
      (buildPredicate .standard (fun _ _ => .ok (.raw .null)) none (some (orderCustomer (.text "x")))
        "o" 2 .standard).outcome = .ok (.restrict "o.owner = $3" [.text "x"] 2) :=
  have twin : (orderCustomer (.int 45)).Twin (orderCustomer (.text "x")) :=
    orderCustomer_twin nofun nofun
  ⟨twin, identifiers_confined twin, rfl, rfl⟩

/-- A class whose columns go by their attributes, and which holds a record of its own as `c`. -/
def holdingTarget : Target := .mapped "orders" [("id", "id")] [("c", .record [("owner", .int 7)])]

/-- Where a plain record is held in place of the columns, the filter expression itself tells one
identifier from another. -/
theorem filterExpression_heldRecord :
    (orderCustomer (.int 7)).Twin (orderCustomer (.int 8)) ∧
      filterExpression .standard (orderCustomer (.int 7)).policy (orderCustomer (.int 7)).identifiers
        holdingTarget = .ok .always ∧
      filterExpression .standard (orderCustomer (.int 8)).policy (orderCustomer (.int 8)).identifiers
        holdingTarget = .ok .never :=
  ⟨orderCustomer_twin nofun nofun, rfl, rfl⟩

end RowSecurity
