/-
Writing JSON documents.

* `Layout`: what stands between the parts of a document, and which characters it is made of;
* `write`: a value as a document.

Design notes: where a document is made of ASCII characters, all others are written as the
codes of their 16-bit units, so a character beyond the first plane takes two, and half of a
surrogate pair one. Other documents hold a code as texts do. Numbers with a fraction are
written with the fewest digits that read back.
-/
import RowSecurity.Value.Written

namespace RowSecurity.Json

open Text

/-- What stands between items and after names, and whether all characters are of ASCII. -/
structure Layout where
  between : String
  afterName : String
  ascii : Bool
deriving DecidableEq, Repr

/-- A document for any reader: spaced, in ASCII. -/
def Layout.spaced : Layout := ⟨", ", ": ", true⟩

/-- A document that takes the least room. -/
def Layout.compact : Layout := ⟨",", ":", false⟩

/-- An escape for one 16-bit unit. -/
def unitEscape (unit : Nat) : List Char := backslash :: 'u' :: hexDigits 4 unit

/-- One code inside the marks of a text. -/
def writeCode (layout : Layout) (code : Nat) : List Char :=
  let c := Char.ofNat code
  if c = doubleMark ∨ c = backslash then [backslash, c]
  else if 32 ≤ code ∧ code < 127 then [c]
  else if c = '\n' then [backslash, 'n']
  else if c = '\r' then [backslash, 'r']
  else if c = '\t' then [backslash, 't']
  else if c = Char.ofNat 8 then [backslash, 'b']
  else if c = Char.ofNat 12 then [backslash, 'f']
  else if layout.ascii = false ∧ 127 ≤ code then ofCode code
  else if code < 0x10000 then unitEscape code
  else
    let beyond := code - 0x10000
    unitEscape (0xD800 + beyond / 0x400) ++ unitEscape (0xDC00 + beyond % 0x400)

def writeText (layout : Layout) (s : String) : String :=
  String.ofList (doubleMark :: (codes s.toList).flatMap (writeCode layout) ++ [doubleMark])

/-- A number; those that are not finite have a word. -/
def writeNumber (x : Binary64) : String :=
  match x with
  | .nan => "NaN"
  | .infinite negative => if negative then "-Infinity" else "Infinity"
  | .finite .. => x.decimalText

mutual

/-- A value as a document. -/
def write (layout : Layout) : Value → String
  | .null => "null"
  | .bool b => if b then "true" else "false"
  | .int n => toString n
  | .real x => writeNumber x
  | .text s => writeText layout s
  | .list items => "[" ++ layout.between.intercalate (writeItems layout items) ++ "]"
  | .record fields =>
    "\x7b" ++ layout.between.intercalate (writeMembers layout fields) ++ "\x7d"

def writeItems (layout : Layout) : List Value → List String
  | [] => []
  | item :: rest => write layout item :: writeItems layout rest

def writeMembers (layout : Layout) : List (String × Value) → List String
  | [] => []
  | (name, value) :: rest =>
    (writeText layout name ++ layout.afterName ++ write layout value) :: writeMembers layout rest

end

end RowSecurity.Json
