/-
Names that may stand in a statement without quotation marks.

* `isName`: a letter or underscore, followed by letters, digits and underscores;
* `isTableName`: such a name, or two of them joined by a point.

Main statements: a plain name is accepted (`isName_of_plain`) and has none but name
characters (`continuesName_of_mem_plainName`).

Design notes: letters and digits are those of ASCII. One line break at the very end of the
text is passed over, which is why the plain form (`plainName`, `plainPath`) is kept apart
from what is accepted.
-/
namespace RowSecurity.Text

def startsName (c : Char) : Bool := c.isAlpha || c == '_'

def continuesName (c : Char) : Bool := c.isAlphanum || c == '_'

/-- A letter or underscore, followed by letters, digits and underscores. -/
def plainName : List Char → Bool
  | [] => false
  | c :: cs => startsName c && cs.all continuesName

/-- A plain name, or two of them joined by a point. -/
def plainPath (cs : List Char) : Bool :=
  let first := cs.takeWhile (· != '.')
  match cs.dropWhile (· != '.') with
  | [] => plainName first
  | _ :: second => plainName first && plainName second

/-- The text without one line break at its end. -/
def dropFinalBreak (cs : List Char) : List Char :=
  if cs.getLast? = some '\n' then cs.dropLast else cs

/-- Whether a text is accepted as the name of a column. -/
def isName (s : String) : Bool := plainName (dropFinalBreak s.toList)

/-- Whether a text is accepted as the name of a table, with or without its schema. -/
def isTableName (s : String) : Bool := plainPath (dropFinalBreak s.toList)

theorem continuesName_of_startsName {c : Char} (h : startsName c = true) :
    continuesName c = true := by
  simp only [startsName, continuesName, Char.isAlphanum, Bool.or_eq_true] at h ⊢
  exact h.imp_left Or.inl

theorem continuesName_of_mem_plainName {cs : List Char} (h : plainName cs = true) {c : Char}
    (hc : c ∈ cs) : continuesName c = true := by
  cases cs with
  | nil => simp at hc
  | cons d ds =>
    simp only [plainName, Bool.and_eq_true, List.all_eq_true] at h
    rcases List.mem_cons.1 hc with rfl | hc
    · exact continuesName_of_startsName h.1
    · exact h.2 c hc

theorem dropFinalBreak_of_getLast {cs : List Char} (h : cs.getLast? ≠ some '\n') :
    dropFinalBreak cs = cs := by
  simp [dropFinalBreak, h]

/-- A plain name does not end with a line break. -/
theorem getLast_plainName {cs : List Char} (h : plainName cs = true) :
    cs.getLast? ≠ some '\n' := by
  intro hl
  have := continuesName_of_mem_plainName h (List.mem_of_getLast? hl)
  exact absurd this (by decide)

theorem isName_of_plain {s : String} (h : plainName s.toList = true) : isName s = true := by
  rw [isName, dropFinalBreak_of_getLast (getLast_plainName h)]
  exact h

end RowSecurity.Text
