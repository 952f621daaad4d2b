/-
What has been composed can be composed again.

* `Predicate.Built`: the predicates that requests have, wherever their placeholders start;
* `Composed.Tidy`: a clause that is read as it is written, with its values numbered;
* `Sql.Spells`: the ways in which one condition can be written.

Main statements:

* `composeAll_tidy`: one predicate after another can be put to what has been composed, and all of
  their values are bound;
* `compose_closed`: the same of two predicates and any base condition, marks without a partner
  included, and that composing does not tell the ways of writing apart.

Design notes: a composed clause is trimmed and starts with one keyword, so that what is read of it
is the condition that was put together (`stripWhere_whereText`). Its placeholders are then as many
as its values, and nothing else could be refused.
-/
import RowSecurity.Proofs.Joining

namespace RowSecurity

open Text

/-! ### Blanks around a condition -/

namespace Sql

/-- The blanks that are dropped after a text are the last of what is left before it. -/
theorem exists_append_strip (cs : List Char) :
    ∃ right, Blanks right ∧ cs.dropWhile isBlank = strip cs ++ right := by
  set rest := cs.dropWhile isBlank with hrest
  refine ⟨(rest.reverse.takeWhile isBlank).reverse, fun c member => ?_, ?_⟩
  · exact List.mem_takeWhile_imp (List.mem_reverse.mp member)
  · rw [strip, ← hrest, ← List.reverse_append, List.takeWhile_append_dropWhile,
      List.reverse_reverse]

/-- A text is its stripped form with blanks around it. -/
theorem exists_blanks_strip (cs : List Char) :
    ∃ left right, Blanks left ∧ Blanks right ∧ cs = left ++ (strip cs ++ right) := by
  obtain ⟨right, blanks, rest⟩ := exists_append_strip cs
  refine ⟨cs.takeWhile isBlank, right, fun c member => List.mem_takeWhile_imp member, blanks, ?_⟩
  rw [← rest, List.takeWhile_append_dropWhile]

/-- What is left after stripping is trimmed, if anything is. -/
theorem trimmed_strip {cs : List Char} (nonempty : strip cs ≠ []) : Trimmed (strip cs) := by
  obtain ⟨right, -, rest⟩ := exists_append_strip cs
  refine ⟨nonempty, ?_, ?_⟩
  · rw [← head_append nonempty right, ← rest]
    exact head?_dropWhile isBlank cs
  · rw [strip, List.getLast?_reverse]
    exact head?_dropWhile isBlank _

theorem strip_of_blanks {cs : List Char} (blanks : Blanks cs) : strip cs = [] := by
  have none : cs.dropWhile isBlank = [] := List.dropWhile_eq_nil_iff.mpr blanks
  rw [strip, none]
  rfl

/-- More blanks around a text change nothing. -/
theorem strip_append_blanks {left cs right : List Char} (hl : Blanks left) (hr : Blanks right) :
    strip (left ++ (cs ++ right)) = strip cs := by
  obtain ⟨before, after, hb, ha, whole⟩ := exists_blanks_strip cs
  have text : left ++ (cs ++ right) = left ++ before ++ (strip cs ++ (after ++ right)) :=
    calc left ++ (cs ++ right) = left ++ ((before ++ (strip cs ++ after)) ++ right) := by
          rw [← whole]
      _ = left ++ before ++ (strip cs ++ (after ++ right)) := by
          simp only [List.append_assoc]
  have outer : Blanks (left ++ before) := List.forall_mem_append.mpr ⟨hl, hb⟩
  have inner : Blanks (after ++ right) := List.forall_mem_append.mpr ⟨ha, hr⟩
  rw [text]
  by_cases empty : strip cs = []
  · rw [empty, List.nil_append]
    exact strip_of_blanks (List.forall_mem_append.mpr ⟨outer, inner⟩)
  · exact strip_blanks outer (trimmed_strip empty) inner

theorem stripWhere_trimmed (cs : List Char) : stripWhere cs = [] ∨ Trimmed (stripWhere cs) := by
  have either : ∀ ds, strip ds = [] ∨ Trimmed (strip ds) := fun ds =>
    or_iff_not_imp_left.mpr trimmed_strip
  unfold stripWhere
  split
  · exact either _
  · exact either _

/-- The condition is read back from a clause that is made of it. -/
theorem stripWhere_whereText {condition : List Char} (h : condition = [] ∨ Trimmed condition) :
    stripWhere (whereText condition).toList = condition := by
  rcases h with rfl | trimmed
  · rfl
  · have wraps : Wraps ([] ++ (("WHERE".toList ++ ([' '] ++ condition)) ++ [])) condition :=
      .keyword (by decide) (by decide) (by decide) (by decide) rfl
    have text : (whereText condition).toList =
        [] ++ (("WHERE".toList ++ ([' '] ++ condition)) ++ []) := by
      rw [whereText, if_neg trimmed.nonempty, String.toList_append, String.toList_ofList]
      simp
    rw [text]
    exact wraps.stripWhere_eq trimmed

theorem Trimmed.guarded {cs : List Char} (trimmed : Trimmed cs) : Trimmed (guarded cs) := by
  unfold Sql.guarded
  split
  · exact trimmed_group cs
  · exact trimmed

theorem Trimmed.conjoined {condition clause : List Char} (h : condition = [] ∨ Trimmed condition)
    (trimmed : Trimmed clause) : Trimmed (conjoined condition clause) := by
  unfold Sql.conjoined
  split
  · exact trimmed.guarded
  · rename_i nonempty
    rw [List.append_assoc]
    exact (h.resolve_left nonempty).guarded.join trimmed.guarded _

/-! ### The ways of writing a condition -/

/-- That a text is a condition as it is or with blanks around it, or one with the keyword, in any
case, and blanks in front of it. -/
inductive Spells : List Char → List Char → Prop
  | bare {left condition right : List Char} : Blanks left → Blanks right →
    Spells (left ++ (condition ++ right)) condition
  | keyword {left word middle condition right : List Char} : Blanks left → Blanks middle →
    Blanks right → word.map Char.toUpper = ['W', 'H', 'E', 'R', 'E'] → middle ≠ [] →
    Spells (left ++ (word ++ (middle ++ (condition ++ right)))) condition

/-- However a condition is written, it is read as itself. -/
theorem Spells.stripWhere_eq {text condition : List Char} (spells : Spells text condition)
    (other : afterKeyword ['W', 'H', 'E', 'R', 'E'] (strip condition) = none) :
    stripWhere text = stripWhere condition := by
  rw [stripWhere_of_not_keyword other]
  cases spells with
  | bare hl hr =>
    have same := @strip_append_blanks _ condition _ hl hr
    rw [stripWhere_of_not_keyword (by rw [same]; exact other), same]
  | @keyword left word middle condition right hl hm hr spelled nonempty =>
    have letters := isAlpha_of_map_toUpper (by decide) spelled
    have some : word ≠ [] := by
      rintro rfl
      cases spelled
    have word' := trimmed_of_isAlpha some letters
    by_cases empty : strip condition = []
    · -- the keyword with nothing but blanks around it
      obtain ⟨before, after, hb, ha, whole⟩ := exists_blanks_strip condition
      rw [empty, List.nil_append] at whole
      have blanks : Blanks (middle ++ (condition ++ right)) := by
        rw [whole]
        exact List.forall_mem_append.mpr ⟨hm, List.forall_mem_append.mpr
          ⟨List.forall_mem_append.mpr ⟨hb, ha⟩, hr⟩⟩
      have alone := afterKeyword_append spelled (rfl : startsWord [] = false)
      rw [List.append_nil] at alone
      rw [stripWhere, strip_blanks hl word' blanks, alone, empty]
      rfl
    · obtain ⟨before, after, hb, ha, whole⟩ := exists_blanks_strip condition
      have text : left ++ (word ++ (middle ++ (condition ++ right))) =
          left ++ ((word ++ ((middle ++ before) ++ strip condition)) ++ (after ++ right)) :=
        calc left ++ (word ++ (middle ++ (condition ++ right)))
          _ = left ++ (word ++ (middle ++ ((before ++ (strip condition ++ after)) ++ right))) := by
            rw [← whole]
          _ = left ++ ((word ++ ((middle ++ before) ++ strip condition)) ++ (after ++ right)) := by
            simp only [List.append_assoc]
      have apart : startsWord ((middle ++ before) ++ strip condition) = false := by
        rw [List.append_assoc, startsWord_append nonempty]
        exact startsWord_blanks hm
      rw [text]
      exact (Wraps.keyword hl (List.forall_mem_append.mpr ⟨hm, hb⟩)
        (List.forall_mem_append.mpr ⟨ha, hr⟩) spelled apart).stripWhere_eq (trimmed_strip empty)

end Sql

/-! ### The predicates of requests -/

/-- That some request has this predicate, whatever its context and its offset are. -/
def Predicate.Built (predicate : Predicate) : Prop :=
  ∃ config lookup links context table offset stack,
    (buildPredicate config lookup links context table offset stack).outcome = .ok predicate

section Negative

variable {config : Config} {policy : PolicyValue} {identifiers : Fields} {table : String}
  {offset : Int} {stack : Stack} {predicate : Predicate}

theorem interpret_ne_ok (negative : offset < 0) :
    (interpret config policy identifiers table offset).outcome ≠ .ok predicate := by
  unfold interpret
  rw [if_pos negative]
  intro h
  cases h

/-- Where placeholders cannot start, the only predicate at the end of links is the denial. -/
theorem Scoped.eq_deny {setting : ScopeSetting} {hops : Nat} {resource : String}
    (negative : setting.offset < 0)
    (followed : Scoped setting hops resource policy table predicate) :
    predicate = .deny setting.offset := by
  induction followed with
  | decided _ interpreted => exact absurd interpreted (interpret_ne_ok negative)
  | denied _ _ => rfl
  | hop _ _ _ _ ih =>
    rw [ih]
    rfl

theorem framed_of_negative {lookup : Lookup} {links : Option LinkRegistry}
    {context : Option Context} (negative : offset < 0)
    (built : (buildPredicate config lookup links context table offset stack).outcome =
      .ok predicate) :
    predicate.clause = "" ∧ predicate.values = [] ∨ predicate.Framed offset := by
  cases context with
  | none =>
    cases built
    exact .inl ⟨rfl, rfl⟩
  | some context =>
    unfold buildPredicate at built
    dsimp only at built
    split at built
    · rw [(scoped_of_scope _ built).eq_deny negative]
      exact .inr .deny
    · exact absurd built (interpret_ne_ok negative)

end Negative

/-- Whatever offset a predicate is built for, it is empty or can be placed after any values. -/
theorem Predicate.Built.placed {predicate : Predicate} (built : predicate.Built) {count : Nat}
    (short : count + 1 < 10 ^ maxDigits) :
    predicate.clause = "" ∧ predicate.values = [] ∨
      ∃ clause, predicate.after count = .ok clause ∧ predicate.PlacedAfter count clause := by
  obtain ⟨config, lookup, links, context, table, offset, stack, built⟩ := built
  by_cases start : 0 ≤ offset
  · exact buildPredicate_placed start built short
  · refine (framed_of_negative (Int.not_le.mp start) built).imp_right fun framed => ?_
    obtain ⟨clause, after⟩ := framed.exists_after short
    exact ⟨clause, after, framed.placed after⟩

/-! ### One predicate after another -/

/-- A clause made of a trimmed condition, or of none, with the numbers of its values. -/
structure Composed.Tidy (composed : Composed) : Prop where
  text : ∃ condition, (condition = [] ∨ Sql.Trimmed condition) ∧
    composed.whereClause = whereText condition
  numbered : Sql.NumberedUpTo composed.params.length composed.whereClause

namespace Composed

variable {composed : Composed}

/-- The condition of a tidy clause, read from it, makes the same clause. -/
theorem Tidy.whereText_eq (tidy : composed.Tidy) :
    whereText (Sql.stripWhere composed.whereClause.toList) = composed.whereClause := by
  obtain ⟨condition, trimmed, text⟩ := tidy.text
  rw [text, Sql.stripWhere_whereText trimmed]

/-- A tidy clause is the base of a composition that is not refused for its placeholders. -/
theorem Tidy.numberedUpTo (tidy : composed.Tidy) : Sql.NumberedUpTo composed.params.length
    (String.ofList (Sql.stripWhere composed.whereClause.toList)) := by
  refine tidy.numbered.congr ?_
  rw [String.toList_ofList, ← numerals_whereText, tidy.whereText_eq]

end Composed

variable {base : String} {params : List Value} {predicate : Predicate} {composed : Composed}

/-- What composing makes of a base condition and a predicate: a tidy clause with the values of
both, which is the base itself where there is nothing to add. -/
structure Extends (base : String) (params : List Value) (predicate : Predicate)
    (composed : Composed) : Prop where
  tidy : composed.Tidy
  values : composed.params = params ++ predicate.values
  unchanged : predicate.clause = "" →
    composed.whereClause = whereText (Sql.stripWhere base.toList)
  short : composed.params.length ≤ params.length + 1

theorem exists_extends
    (numbered : Sql.NumberedUpTo params.length (String.ofList (Sql.stripWhere base.toList)))
    (built : predicate.Built) (written : params.length + 1 < 10 ^ maxDigits) :
    ∃ composed, compose base params predicate = .ok composed ∧
      Extends base params predicate composed := by
  have trimmed := Sql.stripWhere_trimmed base.toList
  rcases built.placed written with ⟨empty, none⟩ | ⟨clause, after, placed⟩
  · have same : Sql.NumberedUpTo params.length (whereText (Sql.stripWhere base.toList)) := by
      refine numbered.congr ?_
      rw [numerals_whereText, String.toList_ofList]
    refine ⟨_, compose_of_empty numbered empty, ⟨⟨_, trimmed, rfl⟩, same⟩, ?_, fun _ => rfl,
      Nat.le_succ _⟩
    rw [none, List.append_nil]
  · have joined := numberedUpTo_of_placed written numbered placed
    refine ⟨_, compose_of_after numbered placed.ne_empty.1 after,
      ⟨⟨_, .inr (.conjoined trimmed placed.trimmed), rfl⟩, joined⟩, rfl,
      fun empty => absurd empty placed.ne_empty.1, ?_⟩
    rw [List.length_append]
    exact Nat.add_le_add_left placed.length_values _

theorem extends_of_compose (built : predicate.Built) (written : params.length + 1 < 10 ^ maxDigits)
    (result : compose base params predicate = .ok composed) :
    Extends base params predicate composed := by
  by_cases numbered :
      Sql.NumberedUpTo params.length (String.ofList (Sql.stripWhere base.toList))
  · obtain ⟨other, made, extended⟩ := exists_extends numbered built written
    rw [result] at made
    cases made
    exact extended
  · obtain ⟨failure, failed, -⟩ := compose_of_not_numbered predicate numbered
    rw [result] at failed
    cases failed

/-- Predicates put one after another to what has been composed. -/
def Composed.composeAll (composed : Composed) (predicates : List Predicate) :
    Except Failure Composed :=
  predicates.foldlM (fun clause predicate => compose clause.whereClause clause.params predicate)
    composed

/-- However many predicates are put to a tidy clause, none is refused, and their values follow
each other. -/
theorem composeAll_tidy {predicates : List Predicate} (tidy : composed.Tidy)
    (built : ∀ predicate ∈ predicates, predicate.Built)
    (written : composed.params.length + predicates.length < 10 ^ maxDigits) :
    ∃ whole, composed.composeAll predicates = .ok whole ∧ whole.Tidy ∧
      whole.params = composed.params ++ predicates.flatMap Predicate.values := by
  induction predicates generalizing composed with
  | nil =>
    refine ⟨composed, rfl, tidy, ?_⟩
    rw [List.flatMap_nil, List.append_nil]
  | cons predicate predicates ih =>
    obtain ⟨first, rest⟩ := List.forall_mem_cons.mp built
    rw [List.length_cons] at written
    obtain ⟨next, result, extended⟩ := exists_extends tidy.numberedUpTo first (by omega)
    have short := extended.short
    obtain ⟨whole, results, tidy', values⟩ := ih extended.tidy rest (by omega)
    refine ⟨whole, ?_, tidy', ?_⟩
    · rw [Composed.composeAll, List.foldlM_cons, result]
      exact results
    · rw [values, extended.values, List.flatMap_cons, List.append_assoc]

/-! ### The whole -/

/-- What becomes of a composed clause and one more predicate: all values are bound, in order and in
step, and a predicate without a condition leaves the clause as it is. -/
structure Recomposes (composed : Composed) (predicate : Predicate) (values : List Value)
    (whole : Composed) : Prop where
  result : compose composed.whereClause composed.params predicate = .ok whole
  bound : whole.params = values
  numbered : Sql.NumberedUpTo values.length whole.whereClause
  unchanged : predicate.clause = "" → whole.whereClause = composed.whereClause

/-- What composing takes, and that it takes what it gives. -/
structure ComposesClosed (base : String) (params : List Value) : Prop where
  /-- Two predicates can be put to a base condition one after the other, unless there are so many
  values that the numbers after them could not be written. -/
  again : ∀ {first second : Predicate} {composed : Composed}, first.Built → second.Built →
    params.length + 2 < 10 ^ maxDigits → compose base params first = .ok composed →
    ∃ whole, Recomposes composed second (params ++ first.values ++ second.values) whole
  /-- A base condition that does not begin with the keyword can be written in all ways. -/
  spelled : Sql.afterKeyword ['W', 'H', 'E', 'R', 'E'] (strip base.toList) = none →
    ∀ {text : String}, Sql.Spells text.toList base.toList →
      ∀ predicate, compose text params predicate = compose base params predicate

theorem exists_recomposes {first second : Predicate} (firstBuilt : first.Built)
    (secondBuilt : second.Built) (written : params.length + 2 < 10 ^ maxDigits)
    (result : compose base params first = .ok composed) :
    ∃ whole, Recomposes composed second (params ++ first.values ++ second.values) whole := by
  have extended := extends_of_compose firstBuilt (by omega) result
  have short := extended.short
  obtain ⟨whole, made, again⟩ :=
    exists_extends extended.tidy.numberedUpTo secondBuilt (by omega)
  have values : whole.params = params ++ first.values ++ second.values := by
    rw [again.values, extended.values]
  refine ⟨whole, made, values, ?_, fun empty => ?_⟩
  · rw [← values]
    exact again.tidy.numbered
  · rw [again.unchanged empty, extended.tidy.whereText_eq]

/-- For every base condition: what is composed of it can be composed again, and however the
condition is written, the same is composed. -/
theorem compose_closed (base : String) (params : List Value) : ComposesClosed base params where
  again := exists_recomposes
  spelled other text spells predicate := by
    unfold compose
    dsimp only
    rw [spells.stripWhere_eq other]

/-- The files of a customer's orders, restricted a second time after a base condition with a mark
that is never closed, and the same base with its keyword. -/
theorem compose_closed_files :
    ∃ predicate composed whole, predicate.Built ∧
      compose "status = $1 OR note = 'new" [.text "new"] predicate = .ok composed ∧
      Recomposes composed predicate [.text "new", .int 7, .int 7] whole ∧
      compose " Where status = $1 OR note = 'new" [.text "new"] predicate = .ok composed := by
  obtain ⟨predicate, outcome, values⟩ : ∃ predicate, (buildPredicate .standard customerLookup
      (some (.ofLinks [fileLink, orderLink])) (some fileContext) "" 5 .standard).outcome =
        .ok predicate ∧ predicate.values = [.int 7] := ⟨_, rfl, rfl⟩
  have built : predicate.Built := ⟨_, _, _, _, _, _, _, outcome⟩
  have closed : ComposesClosed "status = $1 OR note = 'new" [.text "new"] := compose_closed _ _
  have numbered : Sql.NumberedUpTo 1 "status = $1 OR note = 'new" := by
    refine Sql.numberedUpTo_iff.mpr ?_
    have one : Sql.numerals "status = $1 OR note = 'new".toList = [['1']] := by decide +kernel
    rw [one]
    refine ⟨fun digits member => ?_, fun k => ?_⟩
    · rw [List.mem_singleton.mp member]
      decide
    · rw [List.map_singleton, List.mem_singleton]
      show k = 1 ↔ _
      omega
  obtain ⟨composed, result, -⟩ :=
    @exists_extends "status = $1 OR note = 'new" [.text "new"] predicate numbered built
      (Sql.short_of_lt_maxDigits (by decide))
  obtain ⟨whole, again⟩ := closed.again built built (Sql.short_of_lt_maxDigits (by decide)) result
  rw [values] at again
  have spells : Sql.Spells " Where status = $1 OR note = 'new".toList
      "status = $1 OR note = 'new".toList :=
    @Sql.Spells.keyword [' '] "Where".toList [' '] "status = $1 OR note = 'new".toList []
      (by decide) (by decide) (by decide) (by decide) (by decide)
  refine ⟨predicate, composed, whole, built, result, again, ?_⟩
  rw [closed.spelled (by decide) spells, result]

end RowSecurity
