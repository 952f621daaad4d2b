/-
Lists of columns to order by.

* `isOrderList`: columns separated by commas, each with an optional direction.

Design notes: letters are compared without regard to case. Four characters beyond ASCII
have a case partner among the letters of ASCII and count as letters too: the dotted
capital I, the dotless small i, the long s (which also passes for an S in a direction) and
the Kelvin sign.
-/
import RowSecurity.Text.CharClass

namespace RowSecurity.Sql

open Text

/-- Characters beyond ASCII that are a letter of ASCII but for case. -/
def isCasePartner (c : Char) : Bool :=
  [0x130, 0x131, 0x17F, 0x212A].contains c.toNat

/-- Whether a text is a column to order by, its parts joined by points. -/
def isOrderColumn : List Char → Bool
  | [] => false
  | c :: cs =>
    (c.isAlpha || c == '_' || isCasePartner c) &&
      cs.all fun d => d.isAlphanum || d == '_' || d == '.' || isCasePartner d

/-- A letter in upper case, the long s included. -/
def upperLetter (c : Char) : Char := if c.toNat = 0x17F then 'S' else c.toUpper

/-- Whether a text is a direction to order in. -/
def isDirection (cs : List Char) : Bool :=
  [['A', 'S', 'C'], ['D', 'E', 'S', 'C']].contains (cs.map upperLetter)

/-- The words of a text: what stands between blanks. -/
def wordsOf (cs : List Char) : List (List Char) :=
  (cs.splitBy fun a b => isBlank a == isBlank b).filter fun word => !(word.head?.any isBlank)

/-- Whether a text is one column with an optional direction, blanks around it allowed. -/
def isOrderTerm (cs : List Char) : Bool :=
  match wordsOf cs with
  | [column] => isOrderColumn column
  | [column, direction] => isOrderColumn column && isDirection direction
  | _ => false

def commaParts : List Char → List (List Char)
  | [] => [[]]
  | c :: cs =>
    if c = ',' then [] :: commaParts cs
    else
      match commaParts cs with
      | part :: parts => (c :: part) :: parts
      | [] => [[c]]

/-- Whether a text lists columns to order by. -/
def isOrderList (s : String) : Bool := (commaParts s.toList).all isOrderTerm

end RowSecurity.Sql
