/-
Placeholders and bound values stay one to one.

* `Sql.NumberedUpTo`: that a condition uses the numbers from one to `count` and no others;
* `StaysNumbered`: that composing keeps the two in step, and refuses what is not.

Main statement: `compose_staysNumbered`, for every base condition and every predicate that is
built.

Design notes: a base condition may hold anything, marks without a partner included. What is put
after it has no marks, so that no literal of the base is opened, closed or extended, and the
numerals of the whole are those of the base and then those of the predicate.
-/
import RowSecurity.Proofs.Clause
import RowSecurity.Proofs.ParentScope

namespace RowSecurity

open Text

namespace Sql

/-- That the numbers of a condition's placeholders can be read and are those from one to
`count`. -/
def NumberedUpTo (count : Nat) (condition : String) : Prop :=
  ∃ used, placeholders condition = .ok used ∧ ∀ k, k ∈ used ↔ 1 ≤ k ∧ k ≤ count

theorem usesExactly_one_iff {count : Nat} {used : List Nat} :
    usesExactly 1 count used = true ↔ ∀ k, k ∈ used ↔ 1 ≤ k ∧ k ≤ count := by
  rw [usesExactly_iff]
  constructor
  · intro h k
    constructor
    · intro member
      have range := (h k).mp ⟨k, member, rfl⟩
      omega
    · intro range
      obtain ⟨n, member, same⟩ := (h k).mpr ⟨by omega, by omega⟩
      rwa [← Int.ofNat_inj.mp same]
  · intro h k
    constructor
    · rintro ⟨n, member, rfl⟩
      have range := (h n).mp member
      omega
    · intro range
      exact ⟨k.toNat, (h k.toNat).mpr ⟨by omega, by omega⟩, by omega⟩

/-- Whether a condition is numbered can be told from its numerals. -/
theorem numberedUpTo_iff {count : Nat} {condition : String} :
    NumberedUpTo count condition ↔
      (∀ digits ∈ numerals condition.toList, digits.length ≤ maxDigits) ∧
        ∀ k, k ∈ (numerals condition.toList).map digitsValue ↔ 1 ≤ k ∧ k ≤ count := by
  constructor
  · rintro ⟨used, read, range⟩
    obtain ⟨short, rfl⟩ := placeholders_eq_ok_iff.mp read
    exact ⟨short, range⟩
  · rintro ⟨short, range⟩
    exact ⟨_, placeholders_eq_ok_iff.mpr ⟨short, rfl⟩, range⟩

/-- One placeholder after the others, for the next number. -/
theorem NumberedUpTo.succ {count : Nat} {condition extended : String}
    (numbered : NumberedUpTo count condition) (written : count + 1 < 10 ^ maxDigits)
    (more : numerals extended.toList =
      numerals condition.toList ++ [Nat.toDigits 10 (count + 1)]) :
    NumberedUpTo (count + 1) extended := by
  obtain ⟨short, range⟩ := numberedUpTo_iff.mp numbered
  rw [numberedUpTo_iff, more]
  constructor
  · intro digits member
    rcases List.mem_append.mp member with member | member
    · exact short digits member
    · rw [List.mem_singleton.mp member]
      exact length_toDigits_le_maxDigits.mpr written
  · intro k
    rw [List.map_append, List.mem_append, range, List.map_singleton, digitsValue_toDigits,
      List.mem_singleton]
    omega

theorem NumberedUpTo.congr {count : Nat} {condition other : String}
    (numbered : NumberedUpTo count condition)
    (same : numerals other.toList = numerals condition.toList) : NumberedUpTo count other := by
  rw [numberedUpTo_iff, same]
  exact numberedUpTo_iff.mp numbered

theorem numberedUpTo_zero {condition : String} (quiet : Quiet condition.toList) :
    NumberedUpTo 0 condition := by
  refine ⟨[], placeholders_quiet quiet, fun k => ?_⟩
  rw [List.mem_nil_iff, false_iff]
  omega

/-- A condition with one placeholder, of the first number. -/
theorem numberedUpTo_one {before after : List Char} (hb : Quiet before) (ha : Quiet after)
    (stops : after.head?.any isDigit = false) :
    NumberedUpTo 1 (String.ofList (before ++ numberText 1 ++ after)) := by
  refine ⟨[1], placeholders_number hb ha stops (short_of_lt_maxDigits (by decide)), fun k => ?_⟩
  rw [List.mem_singleton]
  omega

theorem eq_digitsRead_of_placeholders {condition : String} {fault : LimitFault}
    (h : placeholders condition = .error fault) : ∃ count, fault = .digitsRead count := by
  obtain ⟨digits, -, failed⟩ := exists_of_mapM_eq_error h
  unfold readNumeral at failed
  split at failed
  · cases failed
  · cases failed
    exact ⟨_, rfl⟩

/-- Two conditions joined by AND, each guarded; the first may be empty. -/
def conjoined (condition clause : List Char) : List Char :=
  if condition = [] then guarded clause
  else guarded condition ++ " AND ".toList ++ guarded clause

theorem conjoined_ne_nil {condition clause : List Char} (h : clause ≠ []) :
    conjoined condition clause ≠ [] := by
  have nonempty : guarded clause ≠ [] := by
    unfold guarded
    split
    · exact List.cons_ne_nil _ _
    · exact h
  unfold conjoined
  split
  · exact nonempty
  · exact List.append_ne_nil_of_right_ne_nil _ nonempty

theorem unmarked_guarded {cs : List Char} (h : ∀ c ∈ cs, isMark c = false) :
    ∀ c ∈ guarded cs, isMark c = false := by
  intro c member
  unfold guarded at member
  split at member
  · rcases List.mem_append.mp member with member | member
    · rcases List.mem_cons.mp member with rfl | member
      · decide
      · exact h c member
    · rw [List.mem_singleton.mp member]
      decide
  · exact h c member

/-- Joining a clause without marks keeps the placeholders of both, one after the other. -/
theorem numerals_conjoined (condition : List Char) {clause : List Char}
    (unmarked : ∀ c ∈ clause, isMark c = false) :
    numerals (conjoined condition clause) = numerals condition ++ numerals clause := by
  unfold conjoined
  split
  · rename_i empty
    have none : numerals [] = [] := numerals_quiet (by decide)
    rw [empty, numerals_guarded, none, List.nil_append]
  · have joint : Quiet " AND ".toList := by decide
    have marks : ∀ c ∈ " AND ".toList ++ guarded clause, isMark c = false := by
      intro c member
      rcases List.mem_append.mp member with member | member
      · exact (joint c member).1
      · exact unmarked_guarded unmarked c member
    rw [List.append_assoc, numerals_append marks rfl, numerals_guarded,
      numerals_quiet_append joint, numerals_guarded]

end Sql

/-! ### The clause of a predicate -/

variable {predicate : Predicate} {count : Nat} {clause : String}

theorem Predicate.PlacedAfter.unmarked (placed : predicate.PlacedAfter count clause) :
    ∀ c ∈ clause.toList, Sql.isMark c = false := by
  cases placed with
  | deny _ _ => exact fun c member => (quiet_denyClause c member).1
  | restrict frame _ _ =>
    intro c member
    rw [String.toList_ofList, List.mem_append, List.mem_append] at member
    rcases member with (member | member) | member
    · exact (frame.quietBefore c member).1
    · exact Sql.unmarked_numberText _ c member
    · exact (frame.quietAfter c member).1

/-- The numerals of a clause are as many as its values, each for the next number. -/
theorem Predicate.PlacedAfter.numerals (placed : predicate.PlacedAfter count clause) :
    predicate.values = [] ∧ Sql.numerals clause.toList = [] ∨
      ∃ value, predicate.values = [value] ∧
        Sql.numerals clause.toList = [Nat.toDigits 10 (count + 1)] := by
  cases placed with
  | deny _ values => exact .inl ⟨values, Sql.numerals_quiet quiet_denyClause⟩
  | restrict frame _ values =>
    refine .inr ⟨_, values, ?_⟩
    rw [String.toList_ofList]
    exact Sql.numerals_number frame.quietBefore frame.quietAfter frame.stops (count + 1)

theorem Predicate.PlacedAfter.length_values (placed : predicate.PlacedAfter count clause) :
    predicate.values.length ≤ 1 := by
  rcases placed.numerals with ⟨values, -⟩ | ⟨value, values, -⟩
  · rw [values]
    exact Nat.zero_le 1
  · rw [values]
    exact Nat.le_refl 1

theorem Predicate.PlacedAfter.ne_empty (placed : predicate.PlacedAfter count clause) :
    predicate.clause ≠ "" ∧ clause.toList ≠ [] := by
  cases placed with
  | deny same _ =>
    rw [same]
    exact ⟨by decide, by decide⟩
  | restrict frame same _ =>
    have text := (frame.text (Sql.numberText (count + 1))).ne_empty
    refine ⟨?_, fun empty => text (String.toList_eq_nil_iff.mp empty)⟩
    rw [same]
    exact (frame.text _).ne_empty

/-! ### Composing -/

/-- A base condition is refused for its placeholders: they cannot be read, or they are not those
of its values. -/
theorem compose_of_not_numbered {base : String} {params : List Value} (predicate : Predicate)
    (h : ¬ Sql.NumberedUpTo params.length (String.ofList (Sql.stripWhere base.toList))) :
    ∃ failure, compose base params predicate = .error failure ∧
      ((∃ used, failure = .argument (.basePlaceholders used params.length)) ∨
        ∃ digits, failure = .placeholder (.limit (.digitsRead digits))) := by
  unfold compose
  dsimp only
  cases read : Sql.placeholders (String.ofList (Sql.stripWhere base.toList)) with
  | error fault =>
    obtain ⟨digits, rfl⟩ := Sql.eq_digitsRead_of_placeholders read
    rw [usedPlaceholders, read]
    exact ⟨_, rfl, .inr ⟨digits, rfl⟩⟩
  | ok used =>
    have other : ¬ Sql.usesExactly 1 params.length used = true :=
      fun exact => h ⟨used, read, Sql.usesExactly_one_iff.mp exact⟩
    rw [usedPlaceholders_eq_ok_iff.mpr read]
    dsimp only
    rw [if_neg other]
    exact ⟨_, rfl, .inl ⟨used, rfl⟩⟩

theorem compose_of_empty {base : String} {params : List Value} {predicate : Predicate}
    (numbered : Sql.NumberedUpTo params.length (String.ofList (Sql.stripWhere base.toList)))
    (empty : predicate.clause = "") : compose base params predicate =
      .ok ⟨whereText (Sql.stripWhere base.toList), params, predicate.applied⟩ := by
  obtain ⟨used, read, range⟩ := numbered
  unfold compose
  dsimp only
  rw [usedPlaceholders_eq_ok_iff.mpr read]
  dsimp only
  rw [if_pos (Sql.usesExactly_one_iff.mpr range), if_pos empty]

theorem compose_of_after {base : String} {params : List Value} {predicate : Predicate}
    {clause : String}
    (numbered : Sql.NumberedUpTo params.length (String.ofList (Sql.stripWhere base.toList)))
    (nonempty : predicate.clause ≠ "") (after : predicate.after params.length = .ok clause) :
    compose base params predicate =
      .ok ⟨whereText (Sql.conjoined (Sql.stripWhere base.toList) clause.toList),
        params ++ predicate.values, predicate.applied⟩ := by
  obtain ⟨used, read, range⟩ := numbered
  unfold compose
  dsimp only
  rw [usedPlaceholders_eq_ok_iff.mpr read]
  dsimp only
  rw [if_pos (Sql.usesExactly_one_iff.mpr range), if_neg nonempty, after]
  rfl

/-- A base condition without literals and placeholders is composed without values. -/
theorem compose_of_quiet (base : String) {predicate : Predicate} {clause : String}
    (quiet : Sql.Quiet (Sql.stripWhere base.toList)) (nonempty : predicate.clause ≠ "")
    (after : predicate.after 0 = .ok clause) :
    compose base [] predicate =
      .ok ⟨whereText (Sql.conjoined (Sql.stripWhere base.toList) clause.toList), predicate.values,
        predicate.applied⟩ := by
  rw [← String.toList_ofList (l := Sql.stripWhere base.toList)] at quiet
  exact @compose_of_after base [] predicate clause (Sql.numberedUpTo_zero quiet) nonempty after

/-- The keyword in front of a condition is no placeholder. -/
theorem numerals_whereText (condition : List Char) :
    Sql.numerals (whereText condition).toList = Sql.numerals condition := by
  unfold whereText
  split
  · rename_i empty
    rw [empty]
    rfl
  · have keyword : Sql.Quiet "WHERE ".toList := by decide
    rw [String.toList_append, Sql.numerals_quiet_append keyword, String.toList_ofList]

theorem placeholders_paginate {composed : Composed} (limit offset : Value)
    (written : composed.params.length + 2 < 10 ^ maxDigits) :
    Sql.placeholders (composed.paginate limit offset).1 =
      .ok [composed.params.length + 1, composed.params.length + 2] := by
  set next := composed.params.length + 1 with hnext
  have text : (composed.paginate limit offset).1.toList =
      "LIMIT ".toList ++ Sql.numberText next ++ (" OFFSET ".toList ++ Sql.numberText (next + 1) ++
        []) := by
    show ("LIMIT $" ++ toString next ++ " OFFSET $" ++ toString (next + 1)).toList = _
    simp only [String.toList_append, Nat.toString_eq_repr, Nat.toList_repr, List.append_nil]
    show "LIMIT ".toList ++ ['$'] ++ Nat.toDigits 10 next ++ (" OFFSET ".toList ++ ['$']) ++
      Nat.toDigits 10 (next + 1) = _
    simp only [Sql.numberText, List.append_assoc, List.singleton_append]
  have unmarked : ∀ c ∈ " OFFSET ".toList ++ Sql.numberText (next + 1) ++ [],
      Sql.isMark c = false := by
    intro c member
    rw [List.append_nil] at member
    rcases List.mem_append.mp member with member | member
    · exact (show Sql.Quiet " OFFSET ".toList by decide) c member |>.1
    · exact Sql.unmarked_numberText _ c member
  have limits := Sql.numerals_number (show Sql.Quiet "LIMIT ".toList by decide)
    (show Sql.Quiet [] by decide) rfl next
  have offsets := Sql.numerals_number (show Sql.Quiet " OFFSET ".toList by decide)
    (show Sql.Quiet [] by decide) rfl (next + 1)
  rw [List.append_nil] at limits
  have all : Sql.numerals (composed.paginate limit offset).1.toList =
      [Nat.toDigits 10 next, Nat.toDigits 10 (next + 1)] := by
    rw [text, Sql.numerals_append unmarked rfl, limits, offsets]
    rfl
  rw [Sql.placeholders_eq_ok_iff, all]
  constructor
  · intro digits member
    rcases List.mem_cons.mp member with rfl | member
    · exact Sql.length_toDigits_le_maxDigits.mpr (by omega)
    · rw [List.mem_singleton.mp member]
      exact Sql.length_toDigits_le_maxDigits.mpr written
  · show _ = [digitsValue _, digitsValue _]
    rw [Sql.digitsValue_toDigits, Sql.digitsValue_toDigits]

/-- A clause that binds a value stands at the end of a condition, with what is before it. -/
theorem exists_whereText_conjoined (condition : List Char) {clause : List Char}
    (h : clause ≠ []) : ∃ front,
      whereText (Sql.conjoined condition clause) = front ++ String.ofList (Sql.guarded clause) := by
  rw [whereText, if_neg (Sql.conjoined_ne_nil h)]
  unfold Sql.conjoined
  split
  · exact ⟨"WHERE ", rfl⟩
  · refine ⟨"WHERE " ++ String.ofList (Sql.guarded condition ++ " AND ".toList), ?_⟩
    rw [String.ofList_append, String.append_assoc]

theorem page_values (values : List Value) (limit offset : Value) :
    (values ++ [limit, offset])[values.length]? = some limit ∧
      (values ++ [limit, offset])[values.length + 1]? = some offset := by
  constructor
  · rw [List.getElem?_append_right (Nat.le_refl _), Nat.sub_self]
    rfl
  · rw [List.getElem?_append_right (Nat.le_add_right _ 1), Nat.add_sub_cancel_left]
    rfl

/-! ### The whole -/

/-- That the clause of a page uses the two numbers after those of the composed clause, and that the
values of the page stand at their places. -/
structure PageInStep (composed : Composed) (limit offset : Value) : Prop where
  numbers : Sql.placeholders (composed.paginate limit offset).1 =
    .ok [composed.params.length + 1, composed.params.length + 2]
  limitPlace : (composed.paginate limit offset).2[composed.params.length]? = some limit
  offsetPlace : (composed.paginate limit offset).2[composed.params.length + 1]? = some offset
  earlier : (composed.paginate limit offset).2.take composed.params.length = composed.params

/-- That a composed clause has its placeholders and values in step: those of the base first, that
of the predicate next, those of a page last. -/
structure InStep (params : List Value) (predicate : Predicate) (composed : Composed) : Prop where
  values : composed.params = params ++ predicate.values
  numbered : Sql.NumberedUpTo composed.params.length composed.whereClause
  restriction : predicate.values ≠ [] → ∃ front clause,
    predicate.after params.length = .ok clause ∧
      composed.whereClause = front ++ String.ofList (Sql.guarded clause.toList) ∧
      Sql.placeholders clause = .ok [params.length + 1]
  page : ∀ limit offset, PageInStep composed limit offset

/-- That a base condition and a predicate are put together in step, or refused for the
placeholders of the base. -/
structure StaysNumbered (base : String) (params : List Value) (predicate : Predicate) : Prop where
  refused : (∃ failure, compose base params predicate = .error failure) ↔
    ¬ Sql.NumberedUpTo params.length (String.ofList (Sql.stripWhere base.toList))
  fault : ∀ failure, compose base params predicate = .error failure →
    (∃ used, failure = .argument (.basePlaceholders used params.length)) ∨
      ∃ digits, failure = .placeholder (.limit (.digitsRead digits))
  composed : ∀ composed, compose base params predicate = .ok composed →
    InStep params predicate composed

variable {base : String} {params : List Value}

theorem staysNumbered_of_ok {composed : Composed}
    (numbered : Sql.NumberedUpTo params.length (String.ofList (Sql.stripWhere base.toList)))
    (result : compose base params predicate = .ok composed)
    (inStep : InStep params predicate composed) : StaysNumbered base params predicate := by
  refine ⟨⟨?_, fun other => absurd numbered other⟩, ?_, ?_⟩
  · rintro ⟨failure, failed⟩
    rw [result] at failed
    cases failed
  · intro failure failed
    rw [result] at failed
    cases failed
  · intro other made
    rw [result] at made
    cases made
    exact inStep

theorem staysNumbered_of_not_numbered
    (other : ¬ Sql.NumberedUpTo params.length (String.ofList (Sql.stripWhere base.toList))) :
    StaysNumbered base params predicate := by
  obtain ⟨failure, result, kind⟩ := compose_of_not_numbered predicate other
  refine ⟨⟨fun _ => other, fun _ => ⟨failure, result⟩⟩, ?_, ?_⟩
  · intro found failed
    rw [result] at failed
    cases failed
    exact kind
  · intro composed made
    rw [result] at made
    cases made

theorem page_inStep {composed : Composed}
    (written : composed.params.length + 2 < 10 ^ maxDigits) (limit offset : Value) :
    PageInStep composed limit offset :=
  have values := page_values composed.params limit offset
  ⟨placeholders_paginate limit offset written, values.1, values.2, List.take_left⟩

theorem inStep_of_empty (written : params.length + 3 < 10 ^ maxDigits)
    (numbered : Sql.NumberedUpTo params.length (String.ofList (Sql.stripWhere base.toList)))
    (none : predicate.values = []) : InStep params predicate
      ⟨whereText (Sql.stripWhere base.toList), params, predicate.applied⟩ := by
  refine ⟨?_, ?_, fun some => absurd none some, ?_⟩
  · rw [none, List.append_nil]
  · refine numbered.congr ?_
    rw [numerals_whereText, String.toList_ofList]
  · refine page_inStep ?_
    show params.length + 2 < _
    omega

/-- Put after a numbered condition, the clause of a predicate brings one number for each value. -/
theorem numberedUpTo_of_placed {condition : List Char}
    (written : params.length + 1 < 10 ^ maxDigits)
    (numbered : Sql.NumberedUpTo params.length (String.ofList condition))
    (placed : predicate.PlacedAfter params.length clause) :
    Sql.NumberedUpTo (params ++ predicate.values).length
      (whereText (Sql.conjoined condition clause.toList)) := by
  -- the clause has no marks, so the base is cut into the same pieces as before
  have joined : Sql.numerals (whereText (Sql.conjoined condition clause.toList)).toList =
      Sql.numerals (String.ofList condition).toList ++ Sql.numerals clause.toList := by
    rw [numerals_whereText, Sql.numerals_conjoined condition placed.unmarked, String.toList_ofList]
  rcases placed.numerals with ⟨values, none⟩ | ⟨value, values, one⟩
  · -- a clause without values has no placeholder
    rw [values, List.append_nil]
    refine numbered.congr ?_
    rw [joined, none, List.append_nil]
  · -- its one placeholder is the next numeral after those of the base
    rw [values, List.length_append, List.length_singleton]
    refine numbered.succ written ?_
    rw [joined, one]

theorem inStep_of_placed {condition : List Char}
    (written : params.length + 3 < 10 ^ maxDigits)
    (numbered : Sql.NumberedUpTo params.length (String.ofList condition))
    (after : predicate.after params.length = .ok clause)
    (placed : predicate.PlacedAfter params.length clause) : InStep params predicate
      ⟨whereText (Sql.conjoined condition clause.toList), params ++ predicate.values,
        predicate.applied⟩ := by
  have next : params.length + 1 < 10 ^ maxDigits := by omega
  have count := placed.length_values
  refine ⟨rfl, numberedUpTo_of_placed next numbered placed, fun some => ?_, page_inStep ?_⟩
  · rcases placed.numerals with ⟨values, -⟩ | ⟨value, -, one⟩
    · exact absurd values some
    · obtain ⟨front, text⟩ := exists_whereText_conjoined condition placed.ne_empty.2
      refine ⟨front, clause, after, text, ?_⟩
      rw [Sql.placeholders_eq_ok_iff, one, List.map_singleton, Sql.digitsValue_toDigits]
      refine ⟨fun digits member => ?_, rfl⟩
      rw [List.mem_singleton.mp member]
      exact Sql.length_toDigits_le_maxDigits.mpr next
  · show (params ++ predicate.values).length + 2 < _
    rw [List.length_append]
    omega

/-- A numbered base and a predicate that is built are put together in step. -/
theorem exists_inStep {config : Config} {lookup : Lookup} {links : Option LinkRegistry}
    {context : Option Context} {table : String} {offset : Int} {stack : Stack} (start : 0 ≤ offset)
    (built : (buildPredicate config lookup links context table offset stack).outcome =
      .ok predicate)
    (written : params.length + 3 < 10 ^ maxDigits)
    (numbered : Sql.NumberedUpTo params.length (String.ofList (Sql.stripWhere base.toList))) :
    ∃ composed, compose base params predicate = .ok composed ∧
      InStep params predicate composed ∧ composed.params.length ≤ params.length + 1 := by
  have short : params.length + 1 < 10 ^ maxDigits := by omega
  rcases buildPredicate_placed start built short with ⟨empty, none⟩ | ⟨clause, after, placed⟩
  · exact ⟨_, compose_of_empty numbered empty, inStep_of_empty written numbered none, Nat.le_succ _⟩
  · refine ⟨_, compose_of_after numbered placed.ne_empty.1 after,
      inStep_of_placed written numbered after placed, ?_⟩
    rw [List.length_append]
    exact Nat.add_le_add_left placed.length_values _

/-- For every base condition, and every predicate that is built, placeholders and values stay in
step. No list has so many values that the numbers after them could not be written. -/
theorem compose_staysNumbered {config : Config} {lookup : Lookup} {links : Option LinkRegistry}
    {context : Option Context} {table : String} {offset : Int} {stack : Stack} (start : 0 ≤ offset)
    (built : (buildPredicate config lookup links context table offset stack).outcome =
      .ok predicate)
    (written : params.length + 3 < 10 ^ maxDigits) : StaysNumbered base params predicate := by
  by_cases numbered :
      Sql.NumberedUpTo params.length (String.ofList (Sql.stripWhere base.toList))
  · obtain ⟨composed, result, inStep, -⟩ := exists_inStep start built written numbered
    exact staysNumbered_of_ok numbered result inStep
  · exact staysNumbered_of_not_numbered numbered

/-- The files of a customer's orders, among those of one status. -/
theorem compose_staysNumbered_files :
    ∃ predicate composed, (buildPredicate .standard customerLookup
        (some (.ofLinks [fileLink, orderLink])) (some fileContext) "" 5 .standard).outcome =
          .ok predicate ∧
      predicate.values = [.int 7] ∧
      compose " where status = $1 OR open" [.text "new"] predicate = .ok composed ∧
      InStep [.text "new"] predicate composed := by
  obtain ⟨predicate, built, values⟩ : ∃ predicate, (buildPredicate .standard customerLookup
      (some (.ofLinks [fileLink, orderLink])) (some fileContext) "" 5 .standard).outcome =
        .ok predicate ∧ predicate.values = [.int 7] := ⟨_, rfl, rfl⟩
  have stays : StaysNumbered " where status = $1 OR open" [.text "new"] predicate :=
    compose_staysNumbered (by decide) built (Sql.short_of_lt_maxDigits (by decide))
  have text : "status = $1 OR open" =
      String.ofList ("status = ".toList ++ Sql.numberText 1 ++ " OR open".toList) := by decide
  have numbered : Sql.NumberedUpTo 1 "status = $1 OR open" := by
    rw [text]
    exact Sql.numberedUpTo_one (by decide) (by decide) rfl
  cases result : compose " where status = $1 OR open" [.text "new"] predicate with
  | error failure => exact absurd numbered (stays.refused.mp ⟨failure, result⟩)
  | ok composed => exact ⟨predicate, composed, built, values, result, stays.composed _ result⟩

end RowSecurity
