/-
Numerals.

* `readNumeral`: the number that a run of decimal digits writes;
* `writeNumeral`: the decimal digits of a number, with its sign.

Main statements: `readNumeral_eq_ok_iff` and `writeNumeral_eq_ok_iff` say that the limit on
digits is all that stands in the way.

Design notes: the digits read may be of any script, those written are of ASCII. A sign is no
digit, but zeros in front are.
-/
import RowSecurity.Limit
import RowSecurity.Text.CharClass

namespace RowSecurity.Text

/-- The number that a run of digits writes. -/
def readNumeral (digits : List Char) : Except LimitFault Nat :=
  if digits.length ≤ maxDigits then .ok (digitsValue digits)
  else .error (.digitsRead digits.length)

/-- The digits of a number, after a minus sign if it is negative. -/
def writeNumeral (n : Int) : Except LimitFault (List Char) :=
  let digits := Nat.toDigits 10 n.natAbs
  if digits.length ≤ maxDigits then .ok (if n < 0 then '-' :: digits else digits)
  else .error .digitsWritten

theorem readNumeral_eq_ok_iff {digits : List Char} {n : Nat} :
    readNumeral digits = .ok n ↔ digits.length ≤ maxDigits ∧ digitsValue digits = n := by
  unfold readNumeral
  split
  · simp [*]
  · simp [*]

theorem writeNumeral_eq_ok_iff {n : Int} {text : List Char} :
    writeNumeral n = .ok text ↔ (Nat.toDigits 10 n.natAbs).length ≤ maxDigits ∧
      text = if n < 0 then '-' :: Nat.toDigits 10 n.natAbs else Nat.toDigits 10 n.natAbs := by
  unfold writeNumeral
  dsimp only
  split
  · rename_i h
    simp only [Except.ok.injEq, h, true_and]
    exact eq_comm
  · rename_i h
    simp [h]

end RowSecurity.Text
