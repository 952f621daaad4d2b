/-
Texts whose placeholders get other digits.

* `Lexeme.respell`: a piece with other digits, if it is a placeholder;
* `Spelling`: a choice of digits for each numeral.

Main statement: `lexemes_respelled`, a text whose numerals are replaced is cut into the same pieces,
marks without a partner included.

Design notes: what stands behind a literal decides where the literal ends. It does so by its first
character and by how often it has the mark, and other digits change neither.
-/
import RowSecurity.Proofs.Lexing

namespace RowSecurity.Sql

open Text

/-- A piece with other digits, if it is a placeholder. -/
def Lexeme.respell (spelling : List Char → List Char) : Lexeme → Lexeme
  | .placeholder digits => .placeholder (spelling digits)
  | piece => piece

/-- A text with other digits in its placeholders. -/
def respelled (spelling : List Char → List Char) (pieces : List Lexeme) : List Char :=
  (pieces.map (Lexeme.respell spelling)).flatMap Lexeme.chars

section Respelled

variable {spelling : List Char → List Char}

theorem respelled_cons (piece : Lexeme) (pieces : List Lexeme) :
    respelled spelling (piece :: pieces) =
      (piece.respell spelling).chars ++ respelled spelling pieces := by
  rw [respelled, List.map_cons, List.flatMap_cons]
  rfl

/-- The first character of a text is the same whatever the digits are. -/
theorem head?_respelled (cs : List Char) :
    (respelled spelling (lexemes cs)).head? = cs.head? := by
  have first : ∀ pieces : List Lexeme,
      (respelled spelling pieces).head? = (pieces.flatMap Lexeme.chars).head? := by
    intro pieces
    cases pieces with
    | nil => rfl
    | cons piece pieces =>
      rw [respelled_cons, List.flatMap_cons]
      cases piece <;> rfl
  rw [first, flatMap_chars_lexemes]

theorem count_of_digits {mark : Char} (marks : isMark mark = true) {cs : List Char}
    (all : ∀ c ∈ cs, isDigit c = true) : cs.count mark = 0 := by
  refine List.count_eq_zero.mpr fun member => ?_
  have unmarked := isMark_of_class (all mark member) (by decide) (by decide)
  rw [marks] at unmarked
  cases unmarked

/-- A spelling for numerals: some digits, whatever it is given. -/
def Spelling (spelling : List Char → List Char) : Prop :=
  ∀ digits, spelling digits ≠ [] ∧ ∀ c ∈ spelling digits, isDigit c = true

/-- A mark stands in a text as often, whatever the digits are. -/
theorem count_respelled (spells : Spelling spelling) {mark : Char} (marks : isMark mark = true)
    (cs : List Char) : (respelled spelling (lexemes cs)).count mark = cs.count mark := by
  fun_induction lexemes cs with
  | case1 => rfl
  | case2 c cs _ body rest found ih =>
    have whole : c :: cs = (Lexeme.literal c body).chars ++ rest := by
      show c :: cs = c :: ((body ++ [c]) ++ rest)
      rw [append_of_splitLiteral found, List.append_assoc]
      rfl
    rw [respelled_cons, whole, List.count_append, List.count_append, ih]
    rfl
  | case3 c cs _ found ih =>
    rw [respelled_cons, List.count_append, ih, ← List.count_append]
    rfl
  | case4 c cs _ dollar ih =>
    have run : ∀ c ∈ cs.takeWhile isDigit, isDigit c = true :=
      fun c member => List.mem_takeWhile_imp member
    have whole : c :: cs = ['$'] ++ (cs.takeWhile isDigit ++ cs.dropWhile isDigit) := by
      rw [List.takeWhile_append_dropWhile, dollar.1]
      rfl
    have text : (Lexeme.respell spelling (.placeholder (cs.takeWhile isDigit))).chars =
        ['$'] ++ spelling (cs.takeWhile isDigit) := rfl
    rw [respelled_cons, text, whole]
    simp only [List.count_append, ih, count_of_digits marks run,
      count_of_digits marks (spells (cs.takeWhile isDigit)).2, Nat.add_zero, Nat.zero_add]
  | case5 c cs _ _ ih =>
    rw [respelled_cons, List.count_append, ih, ← List.count_append]
    rfl

/-- With other digits in its placeholders, a text is cut into the same pieces. -/
theorem lexemes_respelled (spells : Spelling spelling) (cs : List Char) :
    lexemes (respelled spelling (lexemes cs)) = (lexemes cs).map (Lexeme.respell spelling) := by
  -- by the pieces of the text as it was; what is behind a literal ends it still
  fun_induction lexemes cs with
  | case1 => exact lexemes_quiet fun _ member => absurd member List.not_mem_nil
  | case2 c cs mark body rest found ih =>
    obtain ⟨-, inner, ends⟩ := splitLiteral_eq_some_iff.mp found
    have still : Ends c (respelled spelling (lexemes rest)) := by
      rw [Ends, head?_respelled, count_respelled spells mark]
      exact ends
    have text : (Lexeme.literal c body).chars ++ respelled spelling (lexemes rest) =
        c :: (body ++ c :: respelled spelling (lexemes rest)) := by
      show c :: ((body ++ [c]) ++ _) = _
      rw [List.append_assoc]
      rfl
    have kept : (Lexeme.literal c body).respell spelling = .literal c body := rfl
    rw [List.map_cons, ← ih, respelled_cons, kept, text]
    exact lexemes_cons_literal mark (inner.splitLiteral_eq still)
  | case3 c cs mark found ih =>
    have free : c ∉ respelled spelling (lexemes cs) := by
      rw [← List.count_eq_zero, count_respelled spells mark, List.count_eq_zero]
      exact splitLiteral_eq_none_iff.mp found
    rw [List.map_cons, ← ih, respelled_cons]
    exact lexemes_cons_mark mark (splitLiteral_eq_none free)
  | case4 c cs _ dollar ih =>
    obtain ⟨nonempty, all⟩ := spells (cs.takeWhile isDigit)
    have stops :
        (respelled spelling (lexemes (cs.dropWhile isDigit))).head?.any isDigit = false := by
      rw [head?_respelled]
      exact head?_dropWhile isDigit cs
    rw [List.map_cons, ← ih, respelled_cons]
    exact lexemes_placeholder_append all nonempty stops
  | case5 c cs unmarked plain ih =>
    have free : ¬ (c = '$' ∧ (respelled spelling (lexemes cs)).takeWhile isDigit ≠ []) := by
      rintro ⟨dollar, run⟩
      rw [Ne, takeWhile_eq_nil_iff_stops, head?_respelled, ← takeWhile_eq_nil_iff_stops] at run
      exact plain ⟨dollar, run⟩
    rw [List.map_cons, ← ih, respelled_cons]
    exact lexemes_cons_plain (Bool.eq_false_iff.mpr unmarked) free

/-- The numerals of a text with other digits are the others. -/
theorem numerals_respelled (spells : Spelling spelling) (cs : List Char) :
    numerals (respelled spelling (lexemes cs)) = (numerals cs).map spelling := by
  have each : ∀ pieces : List Lexeme, (pieces.map (Lexeme.respell spelling)).filterMap
      Lexeme.digits? = (pieces.filterMap Lexeme.digits?).map spelling := by
    intro pieces
    induction pieces with
    | nil => rfl
    | cons piece pieces ih =>
      cases piece with
      | literal mark body => exact ih
      | placeholder digits => exact congrArg (spelling digits :: ·) ih
      | plain c => exact ih
  rw [numerals, lexemes_respelled spells, each, numerals]

/-- Only the spelling of the numerals that a text has counts. -/
theorem respelled_congr {other : List Char → List Char} {cs : List Char}
    (same : ∀ digits ∈ numerals cs, spelling digits = other digits) :
    respelled spelling (lexemes cs) = respelled other (lexemes cs) := by
  refine congrArg (List.flatMap Lexeme.chars) (List.map_congr_left fun piece member => ?_)
  cases piece with
  | literal mark body => rfl
  | plain c => rfl
  | placeholder digits =>
    have inside : digits ∈ numerals cs := List.mem_filterMap.mpr ⟨_, member, rfl⟩
    rw [Lexeme.respell, same digits inside]
    rfl

/-- The digits of a text may be replaced twice in one go. -/
theorem respelled_respelled (spells : Spelling spelling) (other : List Char → List Char)
    (cs : List Char) : respelled other (lexemes (respelled spelling (lexemes cs))) =
      respelled (other ∘ spelling) (lexemes cs) := by
  rw [lexemes_respelled spells, respelled, respelled, List.map_map]
  refine congrArg (List.flatMap Lexeme.chars) (List.map_congr_left fun piece _ => ?_)
  cases piece <;> rfl

theorem respelled_id (cs : List Char) : respelled id (lexemes cs) = cs := by
  have each : (lexemes cs).map (Lexeme.respell id) = lexemes cs := by
    refine List.map_id'' (fun piece => ?_) _
    cases piece <;> rfl
  rw [respelled, each, flatMap_chars_lexemes]

end Respelled

end RowSecurity.Sql
