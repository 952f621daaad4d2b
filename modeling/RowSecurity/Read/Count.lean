/-
Reading a count of rows.

* `countOf`: the integer that the value of a count stands for.

Design notes: a number with a fraction is cut off towards zero. A text may have blanks
around it, a sign, and single underscores between digits of any script.
-/
import RowSecurity.Failure

namespace RowSecurity

/-- Blanks that may stand around a count. The four information separators are none of them. -/
def isMargin (c : Char) : Bool := Text.isBlank c && !(28 ≤ c.toNat && c.toNat ≤ 31)

/-- Whether digits stand at both ends of a run, and no two underscores next to each other. -/
def wellSpaced : List Char → Bool
  | [] => false
  | [c] => c != '_'
  | c :: d :: rest =>
    if c == '_' then false
    else if d == '_' then wellSpaced rest
    else wellSpaced (d :: rest)

/-- The integer that a text writes. -/
def countText (s : String) : Except CountFault Int :=
  let (negative, unsigned) :=
    match s.toList.dropWhile isMargin with
    | '-' :: rest => (true, rest)
    | '+' :: rest => (false, rest)
    | rest => (false, rest)
  let run := unsigned.takeWhile fun c => Text.isDigit c || c == '_'
  let rest := unsigned.dropWhile fun c => Text.isDigit c || c == '_'
  if wellSpaced run then
    -- too many digits are reported before what follows them is looked at
    match Text.readNumeral (run.filter (· != '_')) with
    | .error fault => .error (.limit fault)
    | .ok size =>
      if rest.all isMargin then .ok (if negative then -(size : Int) else size)
      else .error (.text s)
  else .error (.text s)

/-- The integer that the value of a count stands for. -/
def countOf (value : Value) : Except CountFault Int :=
  match value with
  | .bool b => .ok (if b then 1 else 0)
  | .int n => .ok n
  | .real .nan => .error .nan
  | .real x =>
    match x.toRatio with
    | some (num, den) => .ok (num.tdiv den)
    | none => .error .infinite
  | .text s => countText s
  | value => .error (.kind value.kindName)

/-- The total of the rows that answer a count: none of them counts as zero. -/
def totalOf : List Value → Except CountFault Int
  | [] => .ok 0
  | .record fields :: _ =>
    match Fields.get? fields "total" with
    | some value => countOf value
    | none => .error .missing
  | _ :: _ => .error .missing

end RowSecurity
