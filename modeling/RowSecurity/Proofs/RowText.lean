/-
The text of the statement that reads one row by its key.

* `Sql.Enclosed`: that a text stands as it is or in parentheses;
* `firstName`: the name that a table begins with;
* `KeyCondition`: the condition of the statement, for each predicate that may be built.

Main statements:

* `stripWhere_keyFrame`: the comparison of the key is taken whole, unless the table begins with the
  keyword;
* `ClauseFrame.mem_definedNames`: the placeholder of a frame becomes a parameter wherever it stands;
* `exists_statement`: every predicate that is built is composed with the comparison of the key, and
  the result is a statement.

Design notes: the comparison of the key is a frame around its placeholder, as the comparison of a
policy's column is, so what is known of frames holds of both. A placeholder in a frame follows a
blank, and closing parentheses or nothing follow it, whatever the names beside it are.
-/
import RowSecurity.Proofs.Joining
import RowSecurity.Proofs.PageText
import RowSecurity.Proofs.Parameters

namespace RowSecurity

open Text

/-! ### Enclosing -/

namespace Sql

/-- That a text stands as it is or in parentheses. -/
inductive Enclosed (cs : List Char) : List Char → Prop
  | bare : Enclosed cs cs
  | group : Enclosed cs ('(' :: cs ++ [')'])

theorem enclosed_guarded (cs : List Char) : Enclosed cs (guarded cs) := by
  unfold guarded
  split
  · exact .group
  · exact .bare

/-- Text that cannot change the name of a parameter in front of it. -/
structure EndsName (cs : List Char) : Prop where
  word : cs.head?.any isWord = false
  colon : cs.head? ≠ some ':'

theorem endsName_closing {closing rest : List Char} (closes : ∀ c ∈ closing, c = ')')
    (ends : EndsName rest) : EndsName (closing ++ rest) := by
  cases closing with
  | nil => exact ends
  | cons c closing =>
    rw [closes c List.mem_cons_self]
    exact ⟨show isWord ')' = false by decide, by simp⟩

theorem endsName_nil : EndsName [] := ⟨rfl, nofun⟩

theorem endsName_and (cs : List Char) : EndsName (" AND ".toList ++ cs) := ⟨rfl, by simp⟩

/-- A text in parentheses or not has nothing else around it. -/
theorem Enclosed.exists_parts {cs ds : List Char} (enclosed : Enclosed cs ds) :
    ∃ opening closing, ds = opening ++ cs ++ closing ∧ ∀ c ∈ closing, c = ')' := by
  cases enclosed with
  | bare => exact ⟨[], [], (List.append_nil _).symm, nofun⟩
  | group => exact ⟨['('], [')'], rfl, by simp⟩

theorem named_quiet {cs : List Char} (quiet : Quiet cs) : named cs = cs := by
  have whole := named_quiet_append quiet []
  rw [List.append_nil] at whole
  rw [whole, named, lexemes]
  exact List.append_nil cs

/-- Parentheses stay where they are when the values of a text are named. -/
theorem Enclosed.named {cs ds : List Char} (enclosed : Enclosed cs ds) :
    Enclosed (named cs) (Sql.named ds) := by
  cases enclosed with
  | bare => exact .bare
  | group =>
    have opening : Quiet ['('] := by decide
    have closing : Quiet [')'] := by decide
    have inside : Sql.named ('(' :: cs ++ [')']) = '(' :: Sql.named cs ++ [')'] := by
      rw [named_append (fun c member => (closing c member).1) rfl, named_quiet closing]
      exact congrArg (· ++ [')']) (named_quiet_append opening cs)
    rw [inside]
    exact .group

/-- Two conditions that are joined are named one after the other. -/
theorem exists_named_conjoined {condition clause : List Char} (nonempty : condition ≠ [])
    (unmarked : ∀ c ∈ clause, isMark c = false) :
    ∃ first second, Enclosed (named condition) first ∧ Enclosed (named clause) second ∧
      named (conjoined condition clause) = first ++ " AND ".toList ++ second := by
  have joint : Quiet " AND ".toList := by decide
  have marks : ∀ c ∈ " AND ".toList ++ guarded clause, isMark c = false :=
    List.forall_mem_append.mpr
      ⟨fun c member => (joint c member).1, unmarked_guarded unmarked⟩
  refine ⟨_, _, (enclosed_guarded condition).named, (enclosed_guarded clause).named, ?_⟩
  rw [conjoined, if_neg nonempty, List.append_assoc, named_append marks rfl,
    named_quiet_append joint, List.append_assoc]

/-- A placeholder after a blank becomes a parameter of its own, if what follows it lets its name
end. -/
theorem mem_definedNames_of_apart {front back : List Char} (number : Nat)
    (blank : front.getLast? = some ' ') (ends : EndsName back) :
    parameterName number ∈ definedNames true (front ++ parameterText number ++ back) := by
  rw [mem_definedNames_iff]
  refine ⟨front, parameterName number ++ back, ?_, ?_⟩
  · rw [parameterText, List.append_assoc]
    rfl
  · have name := (nameAfterColon_append_of_stops isWord_of_mem_parameterName
      (parameterName_ne_nil number) ends.word).mpr ends.colon
    rw [parameterAt_eq_some_iff, blank]
    exact ⟨by decide, name, parameterName_ne_nil number⟩

end Sql

/-! ### Frames -/

namespace ClauseFrame

variable {before after : List Char}

/-- Before a placeholder stands a blank. -/
theorem getLast?_before (frame : ClauseFrame before after) : before.getLast? = some ' ' := by
  induction frame with
  | column _ _ => rw [List.getLast?_append]; rfl
  | member _ _ _ ih =>
    rw [List.getLast?_append, List.getLast?_cons, List.getLast?_append, ih]
    rfl

/-- After a placeholder stand closing parentheses, one for each selection. -/
theorem closes_after (frame : ClauseFrame before after) : ∀ c ∈ after, c = ')' := by
  induction frame with
  | column _ _ => nofun
  | member _ _ _ ih => exact List.forall_mem_append.mpr ⟨ih, by simp⟩

theorem named_text (frame : ClauseFrame before after) (number : Nat) :
    Sql.named (before ++ Sql.numberText number ++ after) =
      before ++ Sql.parameterText number ++ after := by
  rw [List.append_assoc, Sql.named_quiet_append frame.quietBefore,
    Sql.named_append (fun c member => (frame.quietAfter c member).1) frame.stops,
    Sql.named_numberText, Sql.named_quiet frame.quietAfter, List.append_assoc]
  rfl

/-- The parameter of a frame is defined wherever the frame stands, in parentheses or not. -/
theorem mem_definedNames (frame : ClauseFrame before after) {number : Nat} {shown : List Char}
    (enclosed : Sql.Enclosed (before ++ Sql.parameterText number ++ after) shown)
    (front : List Char) {back : List Char} (ends : Sql.EndsName back) :
    Sql.parameterName number ∈ Sql.definedNames true (front ++ shown ++ back) := by
  obtain ⟨opening, closing, rfl, closes⟩ := enclosed.exists_parts
  have blank : (front ++ opening ++ before).getLast? = some ' ' := by
    rw [List.getLast?_append, frame.getLast?_before]
    rfl
  have rest := Sql.endsName_closing frame.closes_after (Sql.endsName_closing closes ends)
  have defined := Sql.mem_definedNames_of_apart number blank rest
  simpa only [List.append_assoc] using defined

end ClauseFrame

/-! ### The comparison of the key -/

/-- What stands before the placeholder of a table's key. -/
def keyFrame (table keyColumn : String) : List Char :=
  (table ++ "." ++ keyColumn).toList ++ " = ".toList

/-- The name that a table begins with: that of its schema, if it is given with one. -/
def firstName (table : String) : List Char := table.toList.takeWhile continuesName

section Key

variable {table keyColumn : String}

theorem ne_empty_of_isTableName (named : isTableName table = true) : table ≠ "" := by
  rintro rfl
  exact absurd named (by decide)

theorem columnText_of_isTableName (named : isTableName table = true) (column : String) :
    columnText table column = table ++ "." ++ column :=
  if_neg (ne_empty_of_isTableName named)

/-- The comparison of a key is a frame like that of a policy's column. -/
theorem clauseFrame_keyFrame (named : isTableName table = true) (name : isName keyColumn = true) :
    ClauseFrame (keyFrame table keyColumn) [] := by
  rw [keyFrame, ← columnText_of_isTableName named]
  exact .column (.inr named) name

theorem toList_keyBase (table keyColumn : String) :
    (table ++ "." ++ keyColumn ++ " = $1").toList =
      keyFrame table keyColumn ++ Sql.numberText 1 := by
  rw [String.toList_append, keyFrame, List.append_assoc]
  rfl

theorem isWord_of_continuesName {c : Char} (name : continuesName c = true) : isWord c = true := by
  rw [continuesName] at name
  rw [isWord, name]
  rfl

/-- A text that starts with the keyword has it for its first name. -/
theorem takeWhile_of_afterKeyword {keyword cs back : List Char}
    (upper : keyword.all Char.isUpper = true) (found : Sql.afterKeyword keyword cs = some back) :
    (cs.takeWhile continuesName).map Char.toUpper = keyword := by
  unfold Sql.afterKeyword at found
  dsimp only at found
  split at found
  · rename_i spelled
    obtain ⟨spelled, ends⟩ := spelled
    have letters : ∀ c ∈ cs.take keyword.length, continuesName c = true := by
      intro c member
      rw [continuesName, Char.isAlphanum, Sql.isAlpha_of_map_toUpper upper spelled c member]
      rfl
    -- the keyword ends where no word goes on, and so no name does
    have stops : (cs.drop keyword.length).head?.any continuesName = false := by
      cases rest : cs.drop keyword.length with
      | nil => rfl
      | cons d ds =>
        rw [rest] at ends
        refine Bool.eq_false_iff.mpr fun name => ?_
        exact absurd (isWord_of_continuesName name) (Bool.eq_false_iff.mp ends)
    have word := (Sql.takeWhile_append_of_stops (cs.take keyword.length) stops).1
    rw [List.take_append_drop, List.takeWhile_eq_self_iff.mpr letters] at word
    rw [word]
    exact spelled
  · cases found

/-- The keyword is not found before a table that does not begin with it. -/
theorem afterKeyword_of_firstName
    (apart : (firstName table).map Char.toUpper ≠ ['W', 'H', 'E', 'R', 'E']) (rest : List Char) :
    Sql.afterKeyword ['W', 'H', 'E', 'R', 'E'] (table.toList ++ '.' :: rest) = none := by
  rw [Option.eq_none_iff_forall_ne_some]
  intro back found
  have stops : ('.' :: rest).head?.any continuesName = false :=
    show continuesName '.' = false by decide
  have word := takeWhile_of_afterKeyword (by decide) found
  rw [(Sql.takeWhile_append_of_stops table.toList stops).1] at word
  exact apart word

/-- The comparison of a key is taken whole. -/
theorem stripWhere_keyFrame (named : isTableName table = true)
    (apart : (firstName table).map Char.toUpper ≠ ['W', 'H', 'E', 'R', 'E']) :
    Sql.stripWhere (keyFrame table keyColumn ++ Sql.numberText 1) =
      keyFrame table keyColumn ++ Sql.numberText 1 := by
  have text : keyFrame table keyColumn ++ Sql.numberText 1 =
      table.toList ++ '.' :: (keyColumn.toList ++ (" = ".toList ++ Sql.numberText 1)) := by
    simp only [keyFrame, String.toList_append, List.append_assoc]
    rfl
  have start := startsName_append named
    ('.' :: (keyColumn.toList ++ (" = ".toList ++ Sql.numberText 1)))
  rw [← text] at start
  obtain ⟨nonempty, head, -⟩ := head?_of_startsName start
  have last : (keyFrame table keyColumn ++ Sql.numberText 1).getLast?.any isBlank = false := by
    have digits : Sql.numberText 1 ≠ [] := List.cons_ne_nil _ _
    rw [Sql.getLast_append _ digits]
    exact Sql.getLast?_numberText 1
  have wraps : Sql.Wraps ([] ++ ((keyFrame table keyColumn ++ Sql.numberText 1) ++ []))
      (keyFrame table keyColumn ++ Sql.numberText 1) := by
    refine .bare nofun nofun ?_
    rw [text]
    exact afterKeyword_of_firstName apart _
  rw [List.nil_append, List.append_nil] at wraps
  exact wraps.stripWhere_eq ⟨nonempty, head, last⟩

end Key

/-! ### The statement -/

/-- The text that reads the rows of a table that meet a condition. -/
def rowSql (table : String) (condition : List Char) : String :=
  pageHead table ++ " WHERE " ++ String.ofList condition

/-- The condition of the statement that reads one row, for each predicate: its key, and the clause
of the predicate if it has one. -/
inductive KeyCondition (table keyColumn : String) : Predicate → List Char → Prop
  /-- there is no context, or its policy restricts nothing -/
  | alone {predicate : Predicate} : predicate = .unapplied ∨ predicate = .unrestricted 1 →
    KeyCondition table keyColumn predicate (keyFrame table keyColumn ++ Sql.parameterText 1)
  | denied {first second : List Char} :
    Sql.Enclosed (keyFrame table keyColumn ++ Sql.parameterText 1) first →
    Sql.Enclosed denyClause.toList second →
    KeyCondition table keyColumn (.deny 1) (first ++ " AND ".toList ++ second)
  /-- the value of the clause is bound to the second parameter -/
  | restricted {before after first second : List Char} (value : Value) : ClauseFrame before after →
    Sql.Enclosed (keyFrame table keyColumn ++ Sql.parameterText 1) first →
    Sql.Enclosed (before ++ Sql.parameterText 2 ++ after) second →
    KeyCondition table keyColumn
      (.restrict (String.ofList (before ++ Sql.numberText 2 ++ after)) [value] 1)
      (first ++ " AND ".toList ++ second)

/-- The values of the statement that reads one row: its key, and that of the predicate. -/
def keyBinds (key : Value) (predicate : Predicate) : List (Nat × Value) :=
  (1, key) :: predicate.values.map fun value => (2, value)

section Statement

variable {table keyColumn : String} {key : Value} {predicate : Predicate}

theorem whereText_of_ne_nil {condition : List Char} (nonempty : condition ≠ []) :
    whereText condition = "WHERE " ++ String.ofList condition := if_neg nonempty

/-- A condition whose parameters are all defined becomes a statement as it stands. -/
theorem ofText_rowSql {condition : List Char} {values : List Value}
    (named : isTableName table = true) (nonempty : condition ≠ [])
    (numbered : Sql.NumberedUpTo values.length (whereText condition))
    (defined : ∀ number, 1 ≤ number → number ≤ values.length →
      Sql.parameterName number ∈ Sql.definedNames true (Sql.named condition)) :
    Sql.Statement.ofText (pageHead table ++ " " ++ whereText condition) values =
      .ok ⟨rowSql table (Sql.named condition), (List.range' 1 values.length).zip values⟩ := by
  have keyword : Sql.Neutral " WHERE".toList := by decide
  have words : Sql.Neutral ((pageHead table).toList ++ " WHERE".toList) :=
    (neutral_pageHead named).append keyword
  have text : (pageHead table ++ " " ++ whereText condition).toList =
      ((pageHead table).toList ++ " WHERE".toList) ++ ' ' :: condition := by
    rw [whereText_of_ne_nil nonempty]
    simp only [String.toList_append, String.toList_ofList, List.append_assoc]
    rfl
  have shown : String.ofList (((pageHead table).toList ++ " WHERE".toList) ++
      ' ' :: Sql.named condition) = rowSql table (Sql.named condition) := by
    rw [← String.toList_inj, String.toList_ofList, rowSql]
    simp only [String.toList_append, String.toList_ofList, List.append_assoc]
    rfl
  obtain ⟨names, numerals, -⟩ := words.before condition
  have whole : Sql.NumberedUpTo values.length (pageHead table ++ " " ++ whereText condition) :=
    numbered.congr (by rw [text, numerals, numerals_whereText])
  have all : Sql.unnamed? values.length
      (Sql.named (pageHead table ++ " " ++ whereText condition).toList) = none := by
    rw [Sql.unnamed?_eq_none_iff, text, names, (words.before _).2.2]
    exact defined
  rw [Sql.Statement.ofText_eq whole, all, text, names, shown]

theorem keyFrame_ne_nil (table keyColumn : String) :
    keyFrame table keyColumn ++ Sql.numberText 1 ≠ [] :=
  List.append_ne_nil_of_right_ne_nil _ (List.cons_ne_nil _ _)

variable (named : isTableName table = true) (name : isName keyColumn = true)
include named name

theorem named_keyFrame : Sql.named (keyFrame table keyColumn ++ Sql.numberText 1) =
    keyFrame table keyColumn ++ Sql.parameterText 1 := by
  have whole := (clauseFrame_keyFrame named name).named_text 1
  rwa [List.append_nil, List.append_nil] at whole

/-- The placeholder of a key is numbered like its one value. -/
theorem numbered_keyFrame (key : Value) :
    Sql.NumberedUpTo [key].length
      (String.ofList (keyFrame table keyColumn ++ Sql.numberText 1)) := by
  have frame := clauseFrame_keyFrame named name
  have numbered := Sql.numberedUpTo_one frame.quietBefore frame.quietAfter frame.stops
  rwa [List.append_nil] at numbered

/-- The first parameter is defined by the key, whether that is in parentheses or not. -/
theorem mem_definedNames_key {first : List Char}
    (enclosed : Sql.Enclosed (keyFrame table keyColumn ++ Sql.parameterText 1) first)
    {back : List Char} (ends : Sql.EndsName back) :
    Sql.parameterName 1 ∈ Sql.definedNames true (first ++ back) := by
  rw [← List.append_nil (keyFrame table keyColumn ++ Sql.parameterText 1)] at enclosed
  exact (clauseFrame_keyFrame named name).mem_definedNames enclosed [] ends

/-- The comparison of a key by itself. -/
theorem ofText_key (key : Value) :
    Sql.Statement.ofText
        (pageHead table ++ " " ++ whereText (keyFrame table keyColumn ++ Sql.numberText 1)) [key] =
      .ok ⟨rowSql table (keyFrame table keyColumn ++ Sql.parameterText 1), [(1, key)]⟩ := by
  have numbered : Sql.NumberedUpTo [key].length
      (whereText (keyFrame table keyColumn ++ Sql.numberText 1)) :=
    (numbered_keyFrame named name key).congr (by rw [numerals_whereText, String.toList_ofList])
  have bound := ofText_rowSql named (keyFrame_ne_nil table keyColumn) numbered
  rw [named_keyFrame named name] at bound
  refine bound fun number low high => ?_
  have one : number = 1 := Nat.le_antisymm high low
  rw [one, ← List.append_nil (keyFrame table keyColumn ++ Sql.parameterText 1)]
  exact mem_definedNames_key named name .bare Sql.endsName_nil

/-- The comparison of a key and a clause are named one after the other. -/
theorem exists_named_key_conjoined {clause : List Char}
    (unmarked : ∀ c ∈ clause, Sql.isMark c = false) :
    ∃ first second, Sql.Enclosed (keyFrame table keyColumn ++ Sql.parameterText 1) first ∧
      Sql.Enclosed (Sql.named clause) second ∧
      Sql.named (Sql.conjoined (keyFrame table keyColumn ++ Sql.numberText 1) clause) =
        first ++ " AND ".toList ++ second := by
  have joined := Sql.exists_named_conjoined (keyFrame_ne_nil table keyColumn) unmarked
  rwa [named_keyFrame named name] at joined

variable (apart : (firstName table).map Char.toUpper ≠ ['W', 'H', 'E', 'R', 'E'])
include apart

/-- A predicate without a clause leaves the comparison of the key. -/
theorem compose_key_of_empty (key : Value) (empty : predicate.clause = "") :
    compose (table ++ "." ++ keyColumn ++ " = $1") [key] predicate =
      .ok ⟨whereText (keyFrame table keyColumn ++ Sql.numberText 1), [key], predicate.applied⟩ := by
  have stripped : Sql.stripWhere (keyFrame table keyColumn ++ Sql.numberText 1) =
      keyFrame table keyColumn ++ Sql.numberText 1 := stripWhere_keyFrame named apart
  have numbered := numbered_keyFrame named name key
  rw [← stripped, ← toList_keyBase] at numbered
  have made := compose_of_empty numbered empty
  rwa [toList_keyBase, stripped] at made

/-- A predicate with a clause is joined to the comparison of the key. What is left to show of the
statement is that the clause defines its parameter. -/
theorem exists_statement_of_after (key : Value) {clause : String}
    (after : predicate.after 1 = .ok clause) (placed : predicate.PlacedAfter 1 clause) :
    ∃ composed first second,
      compose (table ++ "." ++ keyColumn ++ " = $1") [key] predicate = .ok composed ∧
      Sql.Enclosed (keyFrame table keyColumn ++ Sql.parameterText 1) first ∧
      Sql.Enclosed (Sql.named clause.toList) second ∧
      ((∀ number, 2 ≤ number → number ≤ (key :: predicate.values).length →
          Sql.parameterName number ∈ Sql.definedNames true (first ++ " AND ".toList ++ second)) →
        Sql.Statement.ofText (pageHead table ++ " " ++ composed.whereClause) composed.params =
          .ok ⟨rowSql table (first ++ " AND ".toList ++ second),
            (List.range' 1 (key :: predicate.values).length).zip (key :: predicate.values)⟩) := by
  have stripped : Sql.stripWhere (keyFrame table keyColumn ++ Sql.numberText 1) =
      keyFrame table keyColumn ++ Sql.numberText 1 := stripWhere_keyFrame named apart
  have numbered := numbered_keyFrame named name key
  have written : [key].length + 3 < 10 ^ maxDigits :=
    Sql.short_of_lt_maxDigits (show 1 + 3 < maxDigits by decide)
  have inStep := @inStep_of_placed predicate clause [key] _ written numbered after placed
  rw [← stripped, ← toList_keyBase] at numbered
  have made := @compose_of_after _ [key] predicate clause numbered placed.ne_empty.1 after
  rw [toList_keyBase, stripped] at made
  have nonempty : Sql.conjoined (keyFrame table keyColumn ++ Sql.numberText 1) clause.toList ≠ [] :=
    Sql.conjoined_ne_nil placed.ne_empty.2
  obtain ⟨first, second, shown, restricted, joined⟩ :=
    exists_named_key_conjoined named name placed.unmarked
  have bound := ofText_rowSql named nonempty inStep.numbered
  rw [joined] at bound
  refine ⟨_, first, second, made, shown, restricted, fun later => bound fun number low high => ?_⟩
  by_cases one : number = 1
  · rw [one, List.append_assoc]
    exact mem_definedNames_key named name shown (Sql.endsName_and second)
  · exact later number (by omega) high

/-- Every predicate that is built is composed with the comparison of the key, and the result is a
statement. -/
theorem exists_statement (key : Value)
    (built : predicate = .unapplied ∨ predicate = .unrestricted 1 ∨ predicate.Framed 1) :
    ∃ composed condition,
      compose (table ++ "." ++ keyColumn ++ " = $1") [key] predicate = .ok composed ∧
      KeyCondition table keyColumn predicate condition ∧
      Sql.Statement.ofText (pageHead table ++ " " ++ composed.whereClause) composed.params =
        .ok ⟨rowSql table condition, keyBinds key predicate⟩ := by
  rcases built with rfl | rfl | framed
  · exact ⟨_, _, compose_key_of_empty named name apart key rfl, .alone (.inl rfl),
      ofText_key named name key⟩
  · exact ⟨_, _, compose_key_of_empty named name apart key rfl, .alone (.inr rfl),
      ofText_key named name key⟩
  cases framed with
  | deny =>
    obtain ⟨composed, first, second, made, shown, denied, bound⟩ :=
      exists_statement_of_after named name apart key (Predicate.after_deny 1 1) (.deny rfl rfl)
    rw [Sql.named_quiet quiet_denyClause] at denied
    refine ⟨composed, _, made, .denied shown denied, bound fun number low high => ?_⟩
    -- a denial has no value, so there is no second parameter
    exact absurd (Nat.le_trans low high) (show ¬ 2 ≤ 1 by decide)
  | @restrict before after number value frame following _ =>
    have written : 2 < 10 ^ maxDigits := Sql.short_of_lt_maxDigits (by decide)
    -- the key has the first placeholder, so the clause was built with the second
    obtain rfl : number = 2 := by omega
    have moved := @ClauseFrame.after_restrict before after frame 2 1 following written value 1
    rw [Sql.placeholder_natCast written] at moved
    obtain ⟨composed, first, second, made, shown, restricted, bound⟩ :=
      exists_statement_of_after named name apart key moved (.restrict frame rfl rfl)
    rw [String.toList_ofList, frame.named_text] at restricted
    refine ⟨composed, _, made, .restricted value frame shown restricted,
      bound fun number low high => ?_⟩
    obtain rfl : number = 2 := Nat.le_antisymm high low
    have defined := frame.mem_definedNames restricted (first ++ " AND ".toList) Sql.endsName_nil
    rwa [List.append_nil] at defined

end Statement

end RowSecurity
