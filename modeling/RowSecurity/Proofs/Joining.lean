/-
A permissive base condition never widens a restriction.

* `Sql.Wraps`: the ways in which a base condition may be given, with its keyword or without;
* `ClauseFrame.isAtom`: the clause of a predicate is one condition by itself.

Main statement: `compose_conjoins`, for every base condition that can be read and every predicate
that is built: what is composed is true where both are.

Design notes: the names at the head of a restriction are the only part of it that stands outside
parentheses and could be taken for a connective. Moving the restriction to another number leaves
them as they are.
-/
import RowSecurity.Proofs.Numbering
import RowSecurity.Proofs.Reading

namespace RowSecurity

open Text

/-! ### Names and numbers among words -/

theorem Text.startsName_of_plainPath {cs : List Char} (h : plainPath cs = true) :
    cs.head?.any startsName = true := by
  have named : ∀ {ds : List Char}, plainName ds = true → ds.head?.any startsName = true := by
    intro ds name
    cases ds with
    | nil => cases name
    | cons d ds =>
      rw [plainName, Bool.and_eq_true] at name
      exact name.1
  have first : plainName (cs.takeWhile (· != '.')) = true := by
    unfold plainPath at h
    dsimp only at h
    split at h
    · exact h
    · rw [Bool.and_eq_true] at h
      exact h.1
  have start := named first
  cases cs with
  | nil => cases start
  | cons c cs =>
    rw [List.takeWhile_cons] at start
    split at start
    · exact start
    · cases start

theorem Text.startsName_of_isTableName {s : String} (h : isTableName s = true) :
    s.toList.head?.any startsName = true := by
  rw [isTableName, dropFinalBreak] at h
  split at h
  · rename_i last
    obtain ⟨front, whole⟩ := List.getLast?_eq_some_iff.mp last
    rw [whole, List.dropLast_concat] at h
    have start := startsName_of_plainPath h
    rw [whole]
    cases front with
    | nil => cases start
    | cons c front => exact start
  · exact startsName_of_plainPath h

theorem startsName_append {s : String} (h : isTableName s = true) (cs : List Char) :
    (s.toList ++ cs).head?.any startsName = true := by
  have start := startsName_of_isTableName h
  rw [Sql.head_append]
  · exact start
  · intro empty
    rw [empty] at start
    cases start

theorem startsName_columnText {table field : String}
    (named : table = "" ∨ isTableName table = true) (name : isName field = true) :
    (columnText table field).toList.head?.any startsName = true := by
  unfold columnText
  split
  · exact startsName_of_isTableName (isTableName_of_isName name)
  · rename_i given
    rw [String.toList_append, String.toList_append, List.append_assoc]
    exact startsName_append (named.resolve_left given) _

theorem Sql.Phrase.level {cs : List Char} (h : Phrase cs) : Level cs :=
  level_of_class h (by decide)

/-- A name begins neither with a blank nor with a parenthesis. -/
theorem head?_of_startsName {cs : List Char} (h : cs.head?.any startsName = true) :
    cs ≠ [] ∧ cs.head?.any isBlank = false ∧ cs.head? ≠ some '(' := by
  cases cs with
  | nil => cases h
  | cons c cs =>
    have start : startsName c = true := h
    refine ⟨List.cons_ne_nil c cs, ?_, ?_⟩
    · show isBlank c = false
      by_contra blank
      have none := Sql.isWord_of_isBlank (by simpa using blank)
      rw [startsName, Bool.or_eq_true] at start
      rcases start with letter | line
      · rw [Sql.isWord_of_isAlpha letter] at none
        cases none
      · rw [beq_iff_eq.mp line] at none
        exact absurd none (by decide)
    · intro opening
      rw [Option.some.inj opening] at start
      exact absurd start (by decide)

/-- A digit is no letter and no blank. -/
theorem isAlpha_of_isDigit {c : Char} (h : c.isDigit = true) :
    c.isAlpha = false ∧ isBlank c = false :=
  @Sql.of_isDigit (fun c => c.isAlpha = false ∧ isBlank c = false) (by decide) c h

theorem Sql.any_isAlpha_numberText (n : Nat) : (numberText n).any Char.isAlpha = false := by
  refine List.any_eq_false.mpr fun c member => ?_
  rcases List.mem_cons.mp member with rfl | member
  · decide
  · rw [(isAlpha_of_isDigit (Nat.isDigit_of_mem_toDigits (by decide) (by decide) member)).1]
    decide

theorem Sql.level_numberText (n : Nat) : Level (numberText n) := by
  have digits : Level (Nat.toDigits 10 n) := level_of_class isDigit_of_mem_toDigits (by decide)
  exact List.forall_mem_cons.mpr ⟨by decide, digits⟩

theorem Sql.getLast?_numberText (n : Nat) : (numberText n).getLast?.any isBlank = false := by
  have digits : Nat.toDigits 10 n ≠ [] := Nat.toDigits_ne_nil
  have whole : numberText n = ['$'] ++ Nat.toDigits 10 n := rfl
  rw [whole, getLast_append _ digits, List.getLast?_eq_some_getLast digits]
  exact (isAlpha_of_isDigit
    (Nat.isDigit_of_mem_toDigits (by decide) (by decide) (List.getLast_mem digits))).2

/-! ### The clause of a predicate -/

/-- A search that finds no keyword in the blanked text has overlooked none. -/
theorem Sql.not_hasWord_of_search {cs : List Char} {k : Connective}
    (h : hasKeyword k.keyword false (blanked Cursor.topLevel Cursor.start cs) = false) :
    ¬ HasWord k cs := by
  intro found
  rw [hasKeyword_of_hasWord found] at h
  cases h

/-- What follows the names at the head of a restriction: nothing there can be taken for a
connective. -/
structure Sql.IsTail (cs : List Char) : Prop where
  nonempty : cs ≠ []
  closed : Closed cs
  starts : startsWord cs = false
  free : ∀ k, ¬ HasWord k cs
  last : cs.getLast?.any isBlank = false

theorem isTail_equals (n : Nat) : Sql.IsTail (" = ".toList ++ Sql.numberText n) := by
  have number : Sql.numberText n ≠ [] := List.cons_ne_nil _ _
  refine ⟨List.cons_ne_nil _ _, ?_, rfl, fun k => ?_, ?_⟩
  · have equals : Sql.Closed " = ".toList := by decide
    exact equals.append (Sql.closed_of_level (Sql.level_numberText n))
  · refine Sql.not_hasWord_of_no_letter ?_
    rw [List.any_append, Sql.any_isAlpha_numberText]
    rfl
  · rw [Sql.getLast_append _ number]
    exact Sql.getLast?_numberText n

theorem isTail_in {cs : List Char} (closed : Sql.Closed cs) :
    Sql.IsTail (" IN ".toList ++ ('(' :: cs ++ [')'])) := by
  have among : Sql.Closed " IN ".toList := by decide
  refine ⟨List.cons_ne_nil _ _, among.append closed.group, rfl, fun k h => ?_, ?_⟩
  · rcases Sql.hasWord_append among (.inl rfl) h with h | h
    · refine Sql.not_hasWord_of_search ?_ h
      cases k <;> decide
    · exact Sql.not_hasWord_group closed h
  · rw [← List.append_assoc, Sql.getLast_append _ (List.cons_ne_nil _ _)]
    rfl

variable {before after : List Char}

/-- The parts of a membership, up to its selection and after it. -/
theorem member_text (heading selection number : List Char) :
    heading ++ " IN ".toList ++ ('(' :: (selection ++ before)) ++ number ++ (after ++ [')']) =
      heading ++
        (" IN ".toList ++ ('(' :: (selection ++ (before ++ number ++ after)) ++ [')'])) := by
  simp only [List.append_assoc, List.cons_append]

theorem ClauseFrame.closed (frame : ClauseFrame before after) (n : Nat) :
    Sql.Closed (before ++ Sql.numberText n ++ after) := by
  induction frame with
  | column named name =>
    have heading := Sql.closed_of_level (phrase_columnText named name).level
    rw [List.append_nil, List.append_assoc]
    exact heading.append (isTail_equals n).closed
  | member link named _ ih =>
    have heading := Sql.closed_of_level (link.phrase_reference named).level
    have selection := Sql.closed_of_level link.phrase_selection.level
    rw [member_text]
    exact heading.append (isTail_in (selection.append ih)).closed

/-- A restriction is names, the same for each number, and what follows them. -/
theorem ClauseFrame.exists_heading (frame : ClauseFrame before after) :
    ∃ heading, Sql.Phrase heading ∧ heading.head?.any startsName = true ∧
      ∀ n, ∃ tail, before ++ Sql.numberText n ++ after = heading ++ tail ∧ Sql.IsTail tail := by
  cases frame with
  | column named name =>
    refine ⟨_, phrase_columnText named name, startsName_columnText named name, fun n => ?_⟩
    refine ⟨_, ?_, isTail_equals n⟩
    rw [List.append_nil, List.append_assoc]
  | @member before after link table named frame =>
    refine ⟨_, link.phrase_reference named, ?_, fun n => ?_⟩
    · rw [ParentLink.reference, String.toList_append, String.toList_append, List.append_assoc]
      exact startsName_append named _
    · have selection := Sql.closed_of_level link.phrase_selection.level
      exact ⟨_, member_text _ _ _, isTail_in (selection.append (frame.closed n))⟩

theorem trimmed_of_heading {heading tail : List Char}
    (start : heading.head?.any startsName = true) (tailed : Sql.IsTail tail) :
    Sql.Trimmed (heading ++ tail) := by
  obtain ⟨nonempty, blank, -⟩ := head?_of_startsName start
  refine ⟨List.append_ne_nil_of_left_ne_nil nonempty tail, ?_, ?_⟩
  · rw [Sql.head_append nonempty]
    exact blank
  · rw [Sql.getLast_append _ tailed.nonempty]
    exact tailed.last

/-- Names and a tail are one condition by themselves, if no name is a connective. -/
theorem isAtom_of_heading {heading tail : List Char} (phrase : Sql.Phrase heading)
    (start : heading.head?.any startsName = true) (tailed : Sql.IsTail tail)
    (named : ∀ k, ¬ Sql.HasWord k heading) : Sql.IsAtom (heading ++ tail) := by
  have closed := Sql.closed_of_level phrase.level
  obtain ⟨nonempty, -, plain⟩ := head?_of_startsName start
  refine ⟨trimmed_of_heading start tailed, closed.append tailed.closed, ?_, fun k h => ?_⟩
  · rw [Sql.head_append nonempty]
    exact plain
  · rcases Sql.hasWord_append closed (.inr tailed.starts) h with h | h
    · exact named k h
    · exact tailed.free k h

theorem isAtom_denyClause : Sql.IsAtom denyClause.toList := by
  refine ⟨⟨by decide, by decide, by decide⟩, by decide, by decide, fun k => ?_⟩
  exact Sql.not_hasWord_of_no_letter (by decide)

/-- Wherever a predicate is placed, its clause neither begins nor ends with a blank. -/
theorem Predicate.PlacedAfter.trimmed {predicate : Predicate} {count : Nat} {clause : String}
    (placed : predicate.PlacedAfter count clause) : Sql.Trimmed clause.toList := by
  cases placed with
  | deny _ _ => exact isAtom_denyClause.trimmed
  | restrict frame _ _ =>
    obtain ⟨heading, -, start, tails⟩ := frame.exists_heading
    obtain ⟨tail, moved, tailed⟩ := tails (count + 1)
    rw [String.toList_ofList, moved]
    exact trimmed_of_heading start tailed

/-- Wherever a predicate is placed, its clause is one condition by itself. -/
theorem Predicate.PlacedAfter.isAtom {predicate : Predicate} {count : Nat} {clause : String}
    (placed : predicate.PlacedAfter count clause)
    (named : ∀ k, ¬ Sql.HasWord k predicate.clause.toList) : Sql.IsAtom clause.toList := by
  cases placed with
  | deny _ _ => exact isAtom_denyClause
  | @restrict before after number value frame same _ =>
    obtain ⟨heading, phrase, start, tails⟩ := frame.exists_heading
    obtain ⟨first, original, ends⟩ := tails number
    obtain ⟨tail, moved, tailed⟩ := tails (count + 1)
    -- the names are those of the clause as it was made, whatever its number was then
    rw [same, String.toList_ofList, original] at named
    rw [String.toList_ofList, moved]
    exact isAtom_of_heading phrase start tailed fun k h => named k (h.append ends.starts)

/-! ### The base condition -/

namespace Sql

/-- The ways in which a condition may be given: without the keyword, which it then does not begin
with, or with it, and in any case with blanks around it. -/
inductive Wraps : List Char → List Char → Prop
  | bare {left cs right : List Char} : Blanks left → Blanks right →
    afterKeyword ['W', 'H', 'E', 'R', 'E'] cs = none → Wraps (left ++ (cs ++ right)) cs
  | keyword {left word middle cs right : List Char} : Blanks left → Blanks middle → Blanks right →
    word.map Char.toUpper = ['W', 'H', 'E', 'R', 'E'] → startsWord (middle ++ cs) = false →
    Wraps (left ++ ((word ++ (middle ++ cs)) ++ right)) cs

theorem dropWhile_isBlank {cs : List Char} (h : cs.head?.any isBlank = false) :
    cs.dropWhile isBlank = cs := by
  cases cs with
  | nil => rfl
  | cons c cs =>
    have other : ¬ isBlank c = true := by
      rw [show isBlank c = false from h]
      decide
    exact List.dropWhile_cons_of_neg other

/-- Only blanks are stripped from a trimmed text. -/
theorem strip_blanks {left cs right : List Char} (hl : Blanks left) (trimmed : Trimmed cs)
    (hr : Blanks right) : strip (left ++ (cs ++ right)) = cs := by
  have front : (cs ++ right).head?.any isBlank = false := by
    rw [head_append trimmed.nonempty]
    exact trimmed.head
  have back : cs.reverse.head?.any isBlank = false := by
    rw [List.head?_reverse]
    exact trimmed.last
  have blanks : ∀ c ∈ right.reverse, isBlank c = true :=
    fun c member => hr c (List.mem_reverse.mp member)
  rw [strip, List.dropWhile_append_of_pos hl, dropWhile_isBlank front, List.reverse_append,
    List.dropWhile_append_of_pos blanks, dropWhile_isBlank back, List.reverse_reverse]

/-- However a condition is given, it is found. -/
theorem Wraps.stripWhere_eq {base cs : List Char} (wraps : Wraps base cs)
    (trimmed : Trimmed cs) : stripWhere base = cs := by
  cases wraps with
  | bare hl hr other =>
    have stripped := strip_blanks hl trimmed hr
    rw [stripWhere_of_not_keyword (by rw [stripped]; exact other), stripped]
  | @keyword left word middle cs right hl hm hr spelled apart =>
    have letters := isAlpha_of_map_toUpper (by decide) spelled
    have nonempty : word ≠ [] := by
      rintro rfl
      cases spelled
    have word' := trimmed_of_isAlpha nonempty letters
    have none : Blanks [] := by decide
    have rest := strip_blanks hm trimmed none
    rw [List.append_nil] at rest
    rw [stripWhere, strip_blanks hl (word'.join trimmed middle) hr,
      afterKeyword_append spelled apart]
    exact rest

end Sql

/-! ### The whole -/

/-- The condition of a read that both a base condition and a predicate restrict. -/
structure Conjoins (f : Sql.Formula) (clause text : List Char) : Prop where
  /-- It can be read, -/
  readable : ∃ e, Sql.Reads .condition e text
  /-- and whatever way it is read, it is true where the base and the clause are. -/
  meaning : ∀ e, Sql.Reads .condition e text →
    ∀ truth, e.eval truth = (f.eval truth && truth clause)

theorem conjoins_conjoined {f : Sql.Formula} {condition clause : List Char}
    (reads : Sql.Reads .condition f condition) (atom : Sql.IsAtom clause) :
    Conjoins f clause (Sql.conjoined condition clause) := by
  have restriction : Sql.Reads .term (.atom clause) (Sql.guarded clause) :=
    Sql.Reads.guarded (.condition (.term (.atom atom)))
  obtain ⟨e, joined, meaning⟩ := reads.guarded.exists_and restriction
  rw [Sql.conjoined, if_neg reads.trimmed.nonempty]
  -- there is this reading, and by uniqueness no other
  refine ⟨⟨e, .condition joined⟩, fun other h truth => ?_⟩
  rw [h.unique (.condition joined) rfl]
  exact meaning truth

/-- A base condition, however permissive, and a predicate that is built are put together into a
condition that is true exactly where both are. No schema, table or column that stands outside the
parentheses of the predicate may be called like a connective. -/
theorem compose_conjoins {config : Config} {lookup : Lookup} {links : Option LinkRegistry}
    {context : Option Context} {table : String} {offset : Int} {stack : Stack}
    {predicate : Predicate}
    {base : String} {params : List Value} {condition : List Char} {f : Sql.Formula}
    (start : 0 ≤ offset)
    (built : (buildPredicate config lookup links context table offset stack).outcome =
      .ok predicate)
    (nonempty : predicate.clause ≠ "")
    (named : ∀ k, ¬ Sql.HasWord k predicate.clause.toList)
    (wraps : Sql.Wraps base.toList condition) (reads : Sql.Reads .condition f condition)
    (numbered : Sql.NumberedUpTo params.length (String.ofList condition))
    (written : params.length + 1 < 10 ^ maxDigits) :
    ∃ composed clause text, compose base params predicate = .ok composed ∧
      predicate.after params.length = .ok clause ∧
      composed.whereClause = "WHERE " ++ String.ofList text ∧ Conjoins f clause.toList text := by
  have stripped := wraps.stripWhere_eq reads.trimmed
  rcases buildPredicate_placed start built written with ⟨empty, -⟩ | ⟨clause, after, placed⟩
  · exact absurd empty nonempty
  · rw [← stripped] at numbered
    have result := compose_of_after numbered nonempty after
    rw [stripped] at result
    refine ⟨_, clause, Sql.conjoined condition clause.toList, result, after, ?_,
      conjoins_conjoined reads (placed.isAtom named)⟩
    show whereText _ = _
    rw [whereText, if_neg (Sql.conjoined_ne_nil placed.ne_empty.2)]

def sharedCondition : Sql.Formula := .or (.atom "open".toList) (.atom "shared = $1".toList)

theorem reads_sharedCondition :
    Sql.Reads .condition sharedCondition "open or shared = $1".toList := by
  have first : Sql.IsAtom "open".toList := by
    refine ⟨⟨by decide, by decide, by decide⟩, by decide, by decide, fun k => ?_⟩
    refine Sql.not_hasWord_of_search ?_
    cases k <;> decide
  have second : Sql.IsAtom "shared = $1".toList := by
    refine ⟨⟨by decide, by decide, by decide⟩, by decide, by decide, fun k => ?_⟩
    refine Sql.not_hasWord_of_search ?_
    cases k <;> decide
  have joint : Sql.Joint .or "open".toList [' '] "or".toList [' '] "shared = $1".toList :=
    ⟨by decide, by decide, by decide, by decide, by decide⟩
  exact .or joint (.term (.atom first)) (.condition (.term (.atom second)))

def customerContext : Context :=
  ⟨"customers", "customer", .raw (.text "user_id"), [(userIdKey, .int 7)]⟩

/-- The customers of a user, among those that are open or shared. -/
theorem compose_conjoins_customers :
    ∃ predicate composed clause text,
      (buildPredicate .standard customerLookup none (some customerContext) "c" 5 .standard).outcome =
        .ok predicate ∧
      compose "where open or shared = $1" [.bool true] predicate = .ok composed ∧
      predicate.after 1 = .ok clause ∧ composed.whereClause = "WHERE " ++ String.ofList text ∧
      Conjoins sharedCondition clause.toList text := by
  obtain ⟨predicate, built, shown⟩ : ∃ predicate,
      (buildPredicate .standard customerLookup none (some customerContext) "c" 5 .standard).outcome =
        .ok predicate ∧ predicate.clause = "c.user_id = $6" := ⟨_, rfl, rfl⟩
  have nonempty : predicate.clause ≠ "" := by
    rw [shown]
    decide
  have named : ∀ k, ¬ Sql.HasWord k predicate.clause.toList := by
    intro k
    refine Sql.not_hasWord_of_search ?_
    rw [shown]
    cases k <;> decide
  have wraps : Sql.Wraps "where open or shared = $1".toList "open or shared = $1".toList :=
    @Sql.Wraps.keyword [] "where".toList [' '] "open or shared = $1".toList []
      (by decide) (by decide) (by decide) (by decide) (by decide)
  have text : "open or shared = $1".toList =
      "open or shared = ".toList ++ Sql.numberText 1 ++ [] := by decide
  have numbered : Sql.NumberedUpTo [Value.bool true].length
      (String.ofList "open or shared = $1".toList) := by
    rw [text]
    exact Sql.numberedUpTo_one (by decide) (by decide) rfl
  have short : [Value.bool true].length + 1 < 10 ^ maxDigits :=
    Sql.short_of_lt_maxDigits (by decide)
  obtain ⟨composed, clause, text, result, after, whole, conjoins⟩ :=
    compose_conjoins (by decide) built nonempty named wraps reads_sharedCondition numbered short
  exact ⟨predicate, composed, clause, text, built, result, after, whole, conjoins⟩

end RowSecurity
