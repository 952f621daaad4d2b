/-
Classes of characters, for texts of every script.

* `isBlank`: white space;
* `digitValue`: the value of a decimal digit;
* `isWord`: letters, numerals and the underscore;
* `isHidden`: codes that a quoted text spells out.

Main statement: `isWord_of_isDigit`: a decimal digit is a word character.

Design notes: the tables hold what lies beyond ASCII, and the ASCII part of each
class is a comparison, so that statements about ASCII text need no table.
-/
import RowSecurity.Text.HiddenTable
import RowSecurity.Text.LetterTable

namespace RowSecurity.Text

/-- Whether `n` lies in the class whose places of change, ascending, are `bounds`: an odd
number of them lie at or below it. -/
def inBounds (bounds : List Nat) (n : Nat) : Bool :=
  (bounds.takeWhile (· ≤ n)).length % 2 == 1

/-- White space: the blanks of ASCII, the four information separators, and the spaces and
line separators of Unicode. -/
def isBlank (c : Char) : Bool :=
  let n := c.toNat
  (9 ≤ n && n ≤ 13) || (28 ≤ n && n ≤ 32) || n == 0x85 || n == 0xA0 || n == 0x1680 ||
    (0x2000 ≤ n && n ≤ 0x200A) || n == 0x2028 || n == 0x2029 || n == 0x202F || n == 0x205F ||
    n == 0x3000

/-- The digits zero beyond ASCII; each is followed by the digits one to nine of its script. -/
def zeroDigits : List Nat := [
    0x660, 0x6F0, 0x7C0, 0x966, 0x9E6, 0xA66, 0xAE6, 0xB66, 0xBE6, 0xC66, 0xCE6, 0xD66, 0xDE6,
    0xE50, 0xED0, 0xF20, 0x1040, 0x1090, 0x17E0, 0x1810, 0x1946, 0x19D0, 0x1A80, 0x1A90, 0x1B50,
    0x1BB0, 0x1C40, 0x1C50, 0xA620, 0xA8D0, 0xA900, 0xA9D0, 0xA9F0, 0xAA50, 0xABF0, 0xFF10,
    0x104A0, 0x10D30, 0x11066, 0x110F0, 0x11136, 0x111D0, 0x112F0, 0x11450, 0x114D0, 0x11650,
    0x116C0, 0x11730, 0x118E0, 0x11950, 0x11C50, 0x11D50, 0x11DA0, 0x16A60, 0x16AC0, 0x16B50,
    0x1D7CE, 0x1D7D8, 0x1D7E2, 0x1D7EC, 0x1D7F6, 0x1E140, 0x1E2F0, 0x1E950, 0x1FBF0]

/-- The value of a decimal digit of any script. -/
def digitValue (c : Char) : Option Nat :=
  if 48 ≤ c.toNat ∧ c.toNat ≤ 57 then some (c.toNat - 48)
  else (zeroDigits.find? fun z => z ≤ c.toNat && c.toNat ≤ z + 9).map (c.toNat - ·)

def isDigit (c : Char) : Bool := (digitValue c).isSome

/-- The number that a run of digits writes; other characters count as zero. -/
def digitsValue (cs : List Char) : Nat :=
  cs.foldl (fun n c => 10 * n + (digitValue c).getD 0) 0

/-- Word characters: letters and numerals of every script, and the underscore. -/
def isWord (c : Char) : Bool :=
  c.isAlphanum || c == '_' || isDigit c || (128 ≤ c.toNat && inBounds letterBounds c.toNat)

/-- Codes that a quoted text spells out: those of controls, separators other than the space,
format characters, halves of surrogate pairs, private use and unassigned code points. -/
def isHidden (code : Nat) : Bool :=
  if code < 127 then code < 32 else inBounds hiddenBounds code

theorem isWord_of_isDigit {c : Char} (h : isDigit c = true) : isWord c = true := by
  simp [isWord, h]

/-- The text without the blanks at its two ends. -/
def strip (cs : List Char) : List Char :=
  ((cs.dropWhile isBlank).reverse.dropWhile isBlank).reverse

end RowSecurity.Text
