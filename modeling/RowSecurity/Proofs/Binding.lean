/-
Statements whose numbered placeholders become named parameters.

* `Sql.named`: a text with each placeholder turned into the parameter of its number;
* `Sql.Fits`: that a placeholder has one of so many values;
* `Sql.Neutral`: texts without marks, placeholders and colons.

Main statements:

* `distinctNumbers_eq_range'`: numbers that are those from one to `count` are listed in order;
* `definedNames_append_blank`: a blank parts the names of the text before it from those after it;
* `Statement.ofText_eq`: a text that is numbered like its values is bound to all of them in order,
  unless one of its placeholders defines no parameter.

Design notes: whether a colon defines a parameter can be told from the character before it and the
run of word characters after it. A blank ends such a run and hinders no colon, so texts with a
blank between them can be looked at one by one.
-/
import RowSecurity.Proofs.Numbering

namespace RowSecurity.Sql

open Text

/-! ### Numbers in order -/

theorem pairwise_insertNumber {n : Nat} {numbers : List Nat} (sorted : numbers.Pairwise (· < ·)) :
    (insertNumber n numbers).Pairwise (· < ·) := by
  induction numbers with
  | nil => exact List.pairwise_singleton _ _
  | cons m rest ih =>
    obtain ⟨first, later⟩ := List.pairwise_cons.mp sorted
    rw [insertNumber]
    split
    · rename_i below
      refine List.pairwise_cons.mpr ⟨fun k member => ?_, sorted⟩
      rcases List.mem_cons.mp member with rfl | member
      · exact below
      · exact Nat.lt_trans below (first k member)
    · split
      · exact sorted
      · refine List.pairwise_cons.mpr ⟨fun k member => ?_, ih later⟩
        rcases mem_insertNumber.mp member with rfl | member
        · omega
        · exact first k member

theorem pairwise_distinctNumbers (numbers : List Nat) :
    (distinctNumbers numbers).Pairwise (· < ·) := by
  induction numbers with
  | nil => exact List.Pairwise.nil
  | cons n numbers ih => exact pairwise_insertNumber ih

/-- Numbers that are those from one to `count`, in whatever order, are listed in order. -/
theorem distinctNumbers_eq_range' {count : Nat} {used : List Nat}
    (range : ∀ k, k ∈ used ↔ 1 ≤ k ∧ k ≤ count) : distinctNumbers used = List.range' 1 count := by
  have same : ∀ k, k ∈ distinctNumbers used ↔ k ∈ List.range' 1 count := by
    intro k
    rw [mem_distinctNumbers, range, List.mem_range'_1]
    omega
  have left := pairwise_distinctNumbers used
  have right : (List.range' 1 count).Pairwise (· < ·) := List.pairwise_lt_range'
  refine List.Perm.eq_of_pairwise (fun a b _ _ below above => ?_) left right ?_
  · omega
  · exact (List.perm_ext_iff_of_nodup (left.imp Nat.ne_of_lt) (right.imp Nat.ne_of_lt)).mpr same

/-- Each value stands at the number after its index. -/
theorem map_range'_eq_zip (values : List Value) :
    (List.range' 1 values.length).map (fun number => (number, values.getD (number - 1) .null)) =
      (List.range' 1 values.length).zip values := by
  refine List.ext_getElem (by simp) fun i hi _ => ?_
  have inside : i < values.length := by simpa using hi
  simp [inside]

/-! ### Placeholders with names -/

/-- A piece whose placeholder has become a parameter. -/
def Lexeme.named : Lexeme → List Char
  | .placeholder digits => ':' :: parameterName (digitsValue digits)
  | piece => piece.chars

/-- A text with each placeholder turned into the parameter of its number. -/
def named (cs : List Char) : List Char := (lexemes cs).flatMap Lexeme.named

theorem mapM_replace_eq_named {replacement : Nat → Except PlaceholderFault (List Char)}
    {pieces : List Lexeme}
    (short : ∀ digits ∈ pieces.filterMap Lexeme.digits?, digits.length ≤ maxDigits)
    (names : ∀ digits ∈ pieces.filterMap Lexeme.digits?,
      replacement (digitsValue digits) = .ok (':' :: parameterName (digitsValue digits))) :
    pieces.mapM (Lexeme.replace replacement) = .ok (pieces.map Lexeme.named) := by
  induction pieces with
  | nil => rfl
  | cons piece pieces ih =>
    have later : ∀ digits ∈ pieces.filterMap Lexeme.digits?,
        digits ∈ (piece :: pieces).filterMap Lexeme.digits? := by
      intro digits member
      obtain ⟨other, inside, same⟩ := List.mem_filterMap.mp member
      exact List.mem_filterMap.mpr ⟨other, List.mem_cons_of_mem _ inside, same⟩
    have first : piece.replace replacement = .ok piece.named := by
      cases piece with
      | literal mark body => rfl
      | plain c => rfl
      | placeholder digits =>
        have member : digits ∈ (Lexeme.placeholder digits :: pieces).filterMap Lexeme.digits? :=
          List.mem_cons_self
        have read : readNumeral digits = .ok (digitsValue digits) :=
          readNumeral_eq_ok_iff.mpr ⟨short digits member, rfl⟩
        exact (replace_placeholder replacement read).trans (names digits member)
    rw [List.mapM_cons, first, ih (fun digits h => short digits (later digits h))
      fun digits h => names digits (later digits h)]
    rfl

/-- That a placeholder has a value: its numeral can be read, and its number is one of those up to
`count`. -/
structure Fits (count : Nat) (digits : List Char) : Prop where
  short : digits.length ≤ maxDigits
  low : 1 ≤ digitsValue digits
  high : digitsValue digits ≤ count

theorem NumberedUpTo.fits {count : Nat} {sql : String} (numbered : NumberedUpTo count sql) :
    ∀ digits ∈ numerals sql.toList, Fits count digits := by
  obtain ⟨short, range⟩ := numberedUpTo_iff.mp numbered
  intro digits member
  obtain ⟨low, high⟩ := (range _).mp (List.mem_map_of_mem member)
  exact ⟨short digits member, low, high⟩

/-- Where all placeholders have values, each becomes the parameter of its number. -/
theorem namePlaceholders_of_fits {count : Nat} {sql : String}
    (fit : ∀ digits ∈ numerals sql.toList, Fits count digits) :
    namePlaceholders count sql = .ok (String.ofList (named sql.toList)) := by
  rw [namePlaceholders, substitute, mapM_replace_eq_named fun digits member =>
    (fit digits member).short]
  · rw [named, List.flatMap]
    rfl
  · exact fun digits member => if_pos ⟨(fit digits member).low, (fit digits member).high⟩

theorem namePlaceholders_eq_named {count : Nat} {sql : String} (numbered : NumberedUpTo count sql) :
    namePlaceholders count sql = .ok (String.ofList (named sql.toList)) :=
  namePlaceholders_of_fits numbered.fits

theorem named_append {cs ds : List Char} (unmarked : ∀ c ∈ ds, isMark c = false)
    (stops : ds.head?.any isDigit = false) : named (cs ++ ds) = named cs ++ named ds := by
  rw [named, lexemes_append unmarked stops, List.flatMap_append]
  rfl

theorem named_quiet_append {cs : List Char} (quiet : Quiet cs) (ds : List Char) :
    named (cs ++ ds) = cs ++ named ds := by
  have plain : (cs.map Lexeme.plain).flatMap Lexeme.named = cs := by
    rw [List.flatMap_map]
    exact List.flatMap_singleton' cs
  rw [named, lexemes_quiet_append quiet, List.flatMap_append, plain]
  rfl

theorem named_numberText (n : Nat) : named (numberText n) = ':' :: parameterName n := by
  have pieces : lexemes ('$' :: Nat.toDigits 10 n ++ []) =
      .placeholder (Nat.toDigits 10 n) :: lexemes [] :=
    lexemes_placeholder_append isDigit_of_mem_toDigits Nat.toDigits_ne_nil rfl
  rw [List.append_nil] at pieces
  rw [named, numberText, pieces]
  show (':' :: parameterName (digitsValue (Nat.toDigits 10 n))) ++ _ = _
  rw [digitsValue_toDigits, lexemes]
  exact List.append_nil _

/-! ### The names that a text defines -/

theorem nameAfterColon_append_blank (cs ds : List Char) :
    nameAfterColon (cs ++ ' ' :: ds) = nameAfterColon cs := by
  have stops : (' ' :: ds).head?.any isWord = false := by
    show isWord ' ' = false
    decide
  obtain ⟨taken, left⟩ := takeWhile_append_of_stops cs stops
  unfold nameAfterColon
  dsimp only
  rw [taken, left]
  cases cs.dropWhile isWord with
  | nil => rfl
  | cons d rest => rfl

theorem definedNames_cons_of_ne {c : Char} (other : c ≠ ':') (free : Bool) (cs : List Char) :
    definedNames free (c :: cs) = definedNames (!bindsNothingAfter c) cs := by
  have noColon : (c == ':') = false := beq_eq_false_iff_ne.mpr other
  rw [definedNames, noColon, Bool.and_false, Bool.false_and]
  rfl

/-- A blank parts the names of the text before it from those of the text after it. -/
theorem definedNames_append_blank (free : Bool) (cs ds : List Char) :
    definedNames free (cs ++ ' ' :: ds) = definedNames free cs ++ definedNames true ds := by
  induction cs generalizing free with
  | nil =>
    have hinders : bindsNothingAfter ' ' = false := by decide
    rw [List.nil_append, definedNames_cons_of_ne (by decide), hinders]
    rfl
  | cons c cs ih =>
    rw [List.cons_append, definedNames, definedNames, nameAfterColon_append_blank, ih]
    split
    · rfl
    · rfl

theorem definedNames_eq_nil {cs : List Char} (free : Bool) (h : ':' ∉ cs) :
    definedNames free cs = [] := by
  induction cs generalizing free with
  | nil => rfl
  | cons c cs ih =>
    rw [List.mem_cons, not_or] at h
    rw [definedNames_cons_of_ne (Ne.symm h.1), ih _ h.2]

theorem isWord_of_mem_parameterName {n : Nat} : ∀ c ∈ parameterName n, isWord c = true := by
  intro c member
  rcases List.mem_cons.mp member with rfl | member
  · decide
  rcases List.mem_cons.mp member with rfl | member
  · decide
  · rw [Nat.toString_eq_repr, Nat.toList_repr] at member
    exact isWord_of_isDigit (isDigit_of_mem_toDigits c member)

/-- A parameter that stands by itself defines its name. -/
theorem definedNames_parameter (n : Nat) :
    definedNames true (':' :: parameterName n) = [parameterName n] := by
  have colon : ':' ∉ parameterName n := by
    intro member
    exact absurd (isWord_of_mem_parameterName _ member) (by decide)
  have name : nameAfterColon (parameterName n) = parameterName n := by
    unfold nameAfterColon
    dsimp only
    rw [List.takeWhile_eq_self_iff.mpr isWord_of_mem_parameterName,
      List.dropWhile_eq_nil_iff.mpr isWord_of_mem_parameterName]
    rfl
  rw [definedNames, name, definedNames_eq_nil _ colon]
  rfl

/-! ### Statements -/

/-- The lowest number up to `count` for which a text defines no parameter. -/
def unnamed? (count : Nat) (text : List Char) : Option Nat :=
  (List.range' 1 count).find? fun number =>
    !(definedNames true text).contains (parameterName number)

/-- The numbers of a text's placeholders, in order and each once. -/
def usedNumbers (cs : List Char) : List Nat := distinctNumbers ((numerals cs).map digitsValue)

/-- A text whose placeholders have values is bound to those, unless one of its placeholders defines
no parameter. -/
theorem Statement.ofText_of_fits {sql : String} {values : List Value}
    (fit : ∀ digits ∈ numerals sql.toList, Fits values.length digits) :
    Statement.ofText sql values =
      match (usedNumbers sql.toList).find? fun number =>
        !(definedNames true (named sql.toList)).contains (parameterName number) with
      | some number => .error (.undefinedName number)
      | none => .ok ⟨String.ofList (named sql.toList),
        (usedNumbers sql.toList).map fun number => (number, values.getD (number - 1) .null)⟩ := by
  have read : placeholders sql = .ok ((numerals sql.toList).map digitsValue) :=
    placeholders_eq_ok_iff.mpr ⟨fun digits member => (fit digits member).short, rfl⟩
  unfold Statement.ofText
  rw [namePlaceholders_of_fits fit, read]
  show (match (usedNumbers sql.toList).find? fun number =>
      !(definedNames true (String.ofList (named sql.toList)).toList).contains
        (parameterName number) with
    | some number => Except.error (PlaceholderFault.undefinedName number)
    | none => Except.ok (Statement.mk (String.ofList (named sql.toList))
        ((usedNumbers sql.toList).map fun number => (number, values.getD (number - 1) .null)))) = _
  rw [String.toList_ofList]

/-- A text that is numbered like its values is bound to all of them in order, unless one of its
placeholders defines no parameter. -/
theorem Statement.ofText_eq {sql : String} {values : List Value}
    (numbered : NumberedUpTo values.length sql) :
    Statement.ofText sql values =
      match unnamed? values.length (named sql.toList) with
      | some number => .error (.undefinedName number)
      | none =>
        .ok ⟨String.ofList (named sql.toList), (List.range' 1 values.length).zip values⟩ := by
  have used : usedNumbers sql.toList = List.range' 1 values.length :=
    distinctNumbers_eq_range' (numberedUpTo_iff.mp numbered).2
  rw [ofText_of_fits numbered.fits, used, map_range'_eq_zip]
  rfl

theorem unnamed?_eq_some {count number : Nat} {text : List Char}
    (h : unnamed? count text = some number) :
    1 ≤ number ∧ number ≤ count ∧ parameterName number ∉ definedNames true text := by
  have member := List.mem_range'_1.mp (List.mem_of_find?_eq_some h)
  have missing := List.find?_some h
  rw [Bool.not_eq_true', List.contains_eq_mem, decide_eq_false_iff_not] at missing
  exact ⟨member.1, by omega, missing⟩

theorem unnamed?_eq_none_iff {count : Nat} {text : List Char} :
    unnamed? count text = none ↔
      ∀ number, 1 ≤ number → number ≤ count → parameterName number ∈ definedNames true text := by
  rw [unnamed?, List.find?_eq_none]
  constructor
  · intro h number low high
    have found := h number (List.mem_range'_1.mpr ⟨low, by omega⟩)
    simpa using found
  · intro h number member
    obtain ⟨low, high⟩ := List.mem_range'_1.mp member
    simpa using h number low (by omega)

/-! ### Texts with a blank between them -/

/-- No mark, no placeholder and no colon, so that nothing is named or bound. -/
def Neutral (cs : List Char) : Prop := ∀ c ∈ cs, isMark c = false ∧ c ≠ '$' ∧ c ≠ ':'

instance (cs : List Char) : Decidable (Neutral cs) :=
  List.decidableBAll (fun c => isMark c = false ∧ c ≠ '$' ∧ c ≠ ':') cs

/-- Characters of a class without marks, dollar signs and colons. -/
theorem neutral_of_class {p : Char → Bool} {cs : List Char} (all : ∀ c ∈ cs, p c = true)
    (single : p singleMark = false) (double : p doubleMark = false) (dollar : p '$' = false)
    (colon : p ':' = false) : Neutral cs := by
  intro c member
  refine ⟨isMark_of_class (all c member) single double, ?_, ?_⟩
  · rintro rfl
    exact absurd (all '$' member) (by rw [dollar]; decide)
  · rintro rfl
    exact absurd (all ':' member) (by rw [colon]; decide)

theorem Neutral.append {cs ds : List Char} (hc : Neutral cs) (hd : Neutral ds) :
    Neutral (cs ++ ds) := by
  intro c member
  rcases List.mem_append.mp member with member | member
  · exact hc c member
  · exact hd c member

theorem Neutral.append_text {s t : String} (hs : Neutral s.toList) (ht : Neutral t.toList) :
    Neutral (s ++ t).toList := by
  rw [String.toList_append]
  exact hs.append ht

theorem Neutral.quiet {cs : List Char} (h : Neutral cs) : Quiet cs :=
  fun c member => ⟨(h c member).1, (h c member).2.1⟩

theorem Neutral.no_names {cs : List Char} (h : Neutral cs) (free : Bool) :
    definedNames free cs = [] :=
  definedNames_eq_nil free fun member => (h ':' member).2.2 rfl

theorem neutral_of_isTableName {s : String} (h : isTableName s = true) : Neutral s.toList :=
  neutral_of_class (isNameChar_of_isTableName h) (by decide) (by decide) (by decide) (by decide)

theorem quiet_blank : Quiet [' '] := by decide

theorem unmarked_blank {cs : List Char} (h : ∀ c ∈ cs, isMark c = false) :
    ∀ c ∈ ' ' :: cs, isMark c = false :=
  List.forall_mem_cons.mpr ⟨by decide, h⟩

/-- What stands after a blank is cut into pieces by itself, if it has no marks. -/
theorem named_append_blank (cs : List Char) {ds : List Char}
    (unmarked : ∀ c ∈ ds, isMark c = false) :
    named (cs ++ ' ' :: ds) = named cs ++ ' ' :: named ds := by
  rw [named_append (unmarked_blank unmarked) rfl]
  exact congrArg (named cs ++ ·) (named_quiet_append quiet_blank ds)

theorem numerals_append_blank (cs : List Char) {ds : List Char}
    (unmarked : ∀ c ∈ ds, isMark c = false) :
    numerals (cs ++ ' ' :: ds) = numerals cs ++ numerals ds := by
  rw [numerals_append (unmarked_blank unmarked) rfl]
  exact congrArg (numerals cs ++ ·) (numerals_quiet_append quiet_blank ds)

theorem numerals_numberText (n : Nat) : numerals (numberText n) = [Nat.toDigits 10 n] := by
  have nothing : Quiet [] := by decide
  have one := numerals_number nothing nothing rfl n
  rwa [List.append_nil] at one

/-- Neutral words and a blank in front change nothing of the text after them. -/
theorem Neutral.before {words : List Char} (neutral : Neutral words) (cs : List Char) :
    named (words ++ ' ' :: cs) = words ++ ' ' :: named cs ∧
      numerals (words ++ ' ' :: cs) = numerals cs ∧
      definedNames true (words ++ ' ' :: cs) = definedNames true cs := by
  have quiet := neutral.quiet.append quiet_blank
  rw [← List.singleton_append, ← List.append_assoc]
  refine ⟨?_, numerals_quiet_append quiet cs, ?_⟩
  · rw [named_quiet_append quiet, List.append_assoc]
    rfl
  · rw [List.append_assoc, List.singleton_append, definedNames_append_blank, neutral.no_names,
      List.nil_append]

end RowSecurity.Sql
