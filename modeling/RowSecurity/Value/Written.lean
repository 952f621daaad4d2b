/-
The written forms of values.

* `quote`: a text in quotation marks, with escapes;
* `Value.written`: a value as messages show it, texts quoted;
* `Value.plain`: the same, but a text at the top stands bare.

Design notes: a text is put between single marks, or between double marks if that
avoids an escape. What does not show is spelled out as a code of two, four or eight
hexadecimal digits, the shortest that fits.
-/
import RowSecurity.Text.CharClass
import RowSecurity.Text.Surrogate
import RowSecurity.Value.Basic

namespace RowSecurity

namespace Text

def singleMark : Char := Char.ofNat 39

def doubleMark : Char := Char.ofNat 34

def backslash : Char := Char.ofNat 92

/-- A number in hexadecimal digits, filled up with zeros to a width. -/
def hexDigits (width n : Nat) : List Char :=
  let digits := Nat.toDigits 16 n
  List.replicate (width - digits.length) '0' ++ digits

/-- One code inside quotation marks. -/
def escape (mark : Char) (code : Nat) : List Char :=
  let c := Char.ofNat code
  if c = mark ∨ c = backslash then [backslash, c]
  else if c = '\n' then [backslash, 'n']
  else if c = '\t' then [backslash, 't']
  else if c = '\r' then [backslash, 'r']
  else if isHidden code then
    -- the shortest of the three forms that holds the number
    if code < 0x100 then backslash :: 'x' :: hexDigits 2 code
    else if code < 0x10000 then backslash :: 'u' :: hexDigits 4 code
    else backslash :: 'U' :: hexDigits 8 code
  else [c]

/-- The mark that a text is put between: double if it holds single marks only. -/
def markFor (cs : List Char) : Char :=
  if cs.contains singleMark && !cs.contains doubleMark then doubleMark else singleMark

def quote (s : String) : String :=
  let cs := s.toList
  let mark := markFor cs
  String.ofList (mark :: (codes cs).flatMap (escape mark) ++ [mark])

def commaJoin (parts : List String) : String := ", ".intercalate parts

end Text

namespace Value

mutual

/-- A value as messages show it. -/
def written : Value → String
  | .null => "None"
  | .bool b => if b then "True" else "False"
  | .int n => toString n
  | .real x => x.decimalText
  | .text s => Text.quote s
  | .list items => "[" ++ Text.commaJoin (writtenAll items) ++ "]"
  | .record fields => "\x7b" ++ Text.commaJoin (writtenFields fields) ++ "\x7d"

def writtenAll : List Value → List String
  | [] => []
  | x :: xs => written x :: writtenAll xs

def writtenFields : List (String × Value) → List String
  | [] => []
  | (k, x) :: xs => (Text.quote k ++ ": " ++ written x) :: writtenFields xs

end

/-- A value as log records show it: a text bare, all else as messages do. -/
def plain : Value → String
  | .text s => s
  | v => v.written

/-- A fixed sequence of values in round brackets; one value alone is followed by a comma. -/
def writtenSequence (parts : List String) : String :=
  match parts with
  | [part] => "(" ++ part ++ ",)"
  | _ => "(" ++ Text.commaJoin parts ++ ")"

end Value

end RowSecurity
