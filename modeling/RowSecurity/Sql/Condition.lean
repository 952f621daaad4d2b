/-
The condition of a WHERE clause, read as far as combining two conditions needs it.

* `stripWhere`: a condition without its keyword and the blanks around it;
* `hasTopLevelOr`: whether OR stands outside all literals and parentheses;
* `guarded`: a condition that may be joined by AND to another.

Design notes: the scan keeps the mark of the literal it is in, if any, and the number of
open parentheses. A closing parenthesis without an opening one counts for nothing. What
does not stand at the top level is blanked, character by character, so that a keyword
search over the result sees the places of the text itself.
-/
import RowSecurity.Sql.Lexeme

namespace RowSecurity.Sql

open Text

/-- What remains after a keyword, in any case, that stands as a whole word at the start of
the text. The keyword is given in upper case. -/
def afterKeyword (keyword cs : List Char) : Option (List Char) :=
  let head := cs.take keyword.length
  let rest := cs.drop keyword.length
  if head.map Char.toUpper = keyword ∧ rest.head?.any isWord = false then some rest else none

/-- A condition without the blanks around it and without one leading WHERE. -/
def stripWhere (cs : List Char) : List Char :=
  match afterKeyword ['W', 'H', 'E', 'R', 'E'] (strip cs) with
  | some rest => strip rest
  | none => strip cs

theorem stripWhere_of_not_keyword {cs : List Char}
    (h : afterKeyword ['W', 'H', 'E', 'R', 'E'] (strip cs) = none) : stripWhere cs = strip cs := by
  simp [stripWhere, h]

/-- Where the scan of a condition stands: the mark of the literal it is in, and the number of
open parentheses. -/
structure Cursor where
  mark : Option Char
  depth : Nat
deriving DecidableEq, Repr

namespace Cursor

def start : Cursor := ⟨none, 0⟩

def step (s : Cursor) (c : Char) : Cursor :=
  match s.mark with
  | some mark => if c = mark then ⟨none, s.depth⟩ else s
  | none =>
    if isMark c then ⟨some c, s.depth⟩
    else if c = '(' then ⟨none, s.depth + 1⟩
    else if c = ')' then ⟨none, s.depth - 1⟩
    else s

/-- Whether a character at this place belongs to a literal, its marks included. -/
def quoted (s : Cursor) (c : Char) : Bool := s.mark.isSome || isMark c

/-- Whether a character at this place stands outside all literals and parentheses. -/
def topLevel (s : Cursor) (c : Char) : Bool :=
  !s.quoted c && s.depth == 0 && c != '(' && c != ')'

end Cursor

/-- The text with a blank in each place that is not shown. -/
def blanked (shown : Cursor → Char → Bool) : Cursor → List Char → List Char
  | _, [] => []
  | s, c :: cs => (if shown s c then c else ' ') :: blanked shown (s.step c) cs

/-- Whether a keyword, in any case, stands somewhere in the text as a whole word; `inWord`
tells whether the text continues a word. -/
def hasKeyword (keyword : List Char) (inWord : Bool) : List Char → Bool
  | [] => false
  | c :: cs =>
    (!inWord && (afterKeyword keyword (c :: cs)).isSome) || hasKeyword keyword (isWord c) cs

/-- Whether OR stands in a condition outside all literals and parentheses. -/
def hasTopLevelOr (cs : List Char) : Bool :=
  hasKeyword ['O', 'R'] false (blanked Cursor.topLevel Cursor.start cs)

/-- A condition in parentheses if OR stands at its top level, so that joining it by AND to
another condition restricts both. -/
def guarded (cs : List Char) : List Char :=
  if hasTopLevelOr cs then '(' :: cs ++ [')'] else cs

end RowSecurity.Sql
