/-
Binary floating-point numbers of 64 bits, kept exactly.

* `ofRatio`, `ofDecimal`: the nearest number, ties to the even neighbour;
* `shortest`: the fewest decimal digits that read back to the number;
* `decimalText`: the written form.

Design notes: a finite number is `significand * 2 ^ exponent` over the natural
numbers, so reading, writing and comparing are exact arithmetic, equality is
decidable, and the kernel can evaluate all of it. The exponent is at least
`-1074` and, above it, the significand has exactly 53 bits, so each number but
zero has one form per sign.
-/
namespace RowSecurity

inductive Binary64 where
  | finite (negative : Bool) (significand : Nat) (exponent : Int)
  | infinite (negative : Bool)
  | nan
deriving DecidableEq, Repr, Inhabited

namespace Binary64

/-- The integer nearest to `num / den`, the even one of two equally near. -/
def roundHalfEven (num den : Nat) : Nat :=
  let quotient := num / den
  let rest := 2 * (num % den)
  if rest < den then quotient
  else if den < rest then quotient + 1
  else quotient + quotient % 2

/-- The greatest `k` with `2 ^ k ≤ num / den`, for positive `num` and `den`. -/
def floorLog2 (num den : Nat) : Int :=
  let k : Int := (num.log2 : Int) - (den.log2 : Int)
  if den * Nat.pow 2 k.toNat ≤ num * Nat.pow 2 (-k).toNat then k else k - 1

/-- The number nearest to `num / den` with the given sign. -/
def ofRatio (negative : Bool) (num den : Nat) : Binary64 :=
  if num = 0 then finite negative 0 (-1074)
  else
    let exponent : Int := max (floorLog2 num den - 52) (-1074)
    let rounded :=
      roundHalfEven (num * Nat.pow 2 (-exponent).toNat) (den * Nat.pow 2 exponent.toNat)
    -- rounding up may carry into a 54th bit
    let (significand, exponent) :=
      if rounded = Nat.pow 2 53 then (Nat.pow 2 52, exponent + 1) else (rounded, exponent)
    if 971 < exponent then infinite negative else finite negative significand exponent

/-- The number nearest to `digits * 10 ^ exponent`, where `count` bounds the decimal places
of `digits` from above. Exponents far outside the range are settled without computing the
power. -/
def ofDecimal (negative : Bool) (digits count : Nat) (exponent : Int) : Binary64 :=
  if digits = 0 then finite negative 0 (-1074)
  else if 310 < exponent then infinite negative
  else if (count : Int) + exponent < -330 then finite negative 0 (-1074)
  else ofRatio negative (digits * Nat.pow 10 exponent.toNat) (Nat.pow 10 (-exponent).toNat)

def isZero : Binary64 → Bool
  | finite _ significand _ => significand == 0
  | _ => false

/-- Compare `a * 10 ^ i` with `m * 2 ^ q`. -/
def compareScaled (a : Nat) (i : Int) (m : Nat) (q : Int) : Ordering :=
  compare (a * Nat.pow 10 i.toNat * Nat.pow 2 (-q).toNat)
    (m * Nat.pow 2 q.toNat * Nat.pow 10 (-i).toNat)

/-- Whether the decimal `a * 10 ^ i` lies among the reals that round to `m * 2 ^ q`. -/
def readsBack (m : Nat) (q : Int) (a : Nat) (i : Int) : Bool :=
  -- below a power of two the neighbours lie half as far apart
  let low := if m = Nat.pow 2 52 ∧ -1074 < q then 4 * m - 1 else 4 * m - 2
  let withEnds := m % 2 == 0
  let toLow := compareScaled a i low (q - 2)
  let toHigh := compareScaled a i (4 * m + 2) (q - 2)
  (toLow == .gt || (withEnds && toLow == .eq)) && (toHigh == .lt || (withEnds && toHigh == .eq))

/-- The least `k` with `m * 2 ^ q < 10 ^ k`, found upwards from `start` in at most `steps`
steps. -/
def decimalScale (m : Nat) (q : Int) : Nat → Int → Int
  | 0, start => start
  | steps + 1, start =>
    if compareScaled 1 start m q == .gt then start else decimalScale m q steps (start + 1)

/-- The decimal with the fewest digits that reads back to `m * 2 ^ q`, as digits and the power
of ten they are scaled by; `n` counts the digits tried. Of the two neighbours on the grid of
`n` digits the nearer one wins, and the even one if both are equally near. -/
def shortestFrom (m : Nat) (q scale : Int) : Nat → Nat → Nat × Int
  | 0, _ => (m * Nat.pow 2 q.toNat * Nat.pow 5 (-q).toNat, min q 0)
  | tries + 1, n =>
    let grid := scale - n
    let num := m * Nat.pow 2 q.toNat * Nat.pow 10 (-grid).toNat
    let den := Nat.pow 2 (-q).toNat * Nat.pow 10 grid.toNat
    let below := num / den
    let nearest := roundHalfEven num den
    let other := if nearest = below then below + 1 else below
    if readsBack m q nearest grid then (nearest, grid)
    else if readsBack m q other grid then (other, grid)
    else shortestFrom m q scale tries (n + 1)

/-- The fewest digits that read back to the positive number `m * 2 ^ q`, and the power of ten
they are scaled by. Seventeen digits always suffice. -/
def shortest (m : Nat) (q : Int) : Nat × Int :=
  let estimate : Int := (((m.log2 : Int) + q) * 1233) / 4096 - 1
  let scale := decimalScale m q 4 estimate
  shortestFrom m q scale 17 1

/-- Decimal digits without the zeros at their end, and the number of zeros taken off. -/
def trimZeros : List Char → List Char × Nat := fun digits =>
  let kept := (digits.reverse.dropWhile (· == '0')).reverse
  (kept, digits.length - kept.length)

/-- How written decimals are laid out: the exponents of the leading digit for which the point
is written in place, and the least number of digits of a written exponent. -/
structure DecimalLayout where
  lowestInPlace : Int
  highestInPlace : Int
  exponentWidth : Nat

/-- Numbers from `0.0001` up to below `10 ^ 16` are written with the point in place, all
others with a signed exponent of at least two digits. -/
def layout : DecimalLayout := ⟨-4, 15, 2⟩

/-- The digits `d₁ d₂ …` standing for `d₁.d₂… * 10 ^ lead`, written as `layout` says. -/
def layDigits (layout : DecimalLayout) (digits : List Char) (lead : Int) : List Char :=
  if layout.lowestInPlace ≤ lead ∧ lead ≤ layout.highestInPlace then
    if lead < 0 then
      '0' :: '.' :: List.replicate (-lead - 1).toNat '0' ++ digits
    else
      let whole := digits.take (lead.toNat + 1)
      let fraction := digits.drop (lead.toNat + 1)
      whole ++ List.replicate (lead.toNat + 1 - whole.length) '0' ++ '.' ::
        (if fraction.isEmpty then ['0'] else fraction)
  else
    let exponent := Nat.toDigits 10 lead.natAbs
    digits.take 1 ++ (if digits.length ≤ 1 then [] else '.' :: digits.drop 1) ++
      'e' :: (if lead < 0 then '-' else '+') ::
      List.replicate (layout.exponentWidth - exponent.length) '0' ++ exponent

/-- The written form of a number: the fewest digits that read back to it. -/
def decimalText : Binary64 → String
  | nan => "nan"
  | infinite negative => if negative then "-inf" else "inf"
  | finite negative m q =>
    let magnitude :=
      if m = 0 then ['0', '.', '0']
      else
        let (number, scale) := shortest m q
        let (digits, zeros) := trimZeros (Nat.toDigits 10 number)
        layDigits layout digits (digits.length - 1 + scale + zeros)
    String.ofList (if negative then '-' :: magnitude else magnitude)

/-- The exact value of a finite number as a fraction: numerator and denominator. -/
def toRatio : Binary64 → Option (Int × Nat)
  | finite negative m q =>
    let num : Int := (m * Nat.pow 2 q.toNat : Nat)
    some (if negative then -num else num, Nat.pow 2 (-q).toNat)
  | _ => none

/-- Whether two numbers have the same value: the zeros of both signs do, and nothing equals
the number that is none. -/
def sameValue (x y : Binary64) : Bool :=
  match x, y with
  | nan, _ | _, nan => false
  | infinite a, infinite b => a == b
  | _, _ =>
    match x.toRatio, y.toRatio with
    | some (a, b), some (c, d) => a * d == c * b
    | _, _ => false

/-- Whether the number has the value of an integer. -/
def isInt (x : Binary64) (n : Int) : Bool :=
  match x.toRatio with
  | some (a, b) => a == n * b
  | none => false

end Binary64

end RowSecurity
