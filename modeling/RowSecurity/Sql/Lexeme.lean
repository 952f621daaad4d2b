/-
Placeholders and quoted literals of a condition.

* `lexemes`: a condition cut into literals, placeholders and single characters;
* `placeholders`: the numbers of its placeholders, from left to right;
* `substitute`: the condition with each placeholder replaced;
* `renumber`: the condition with a shift added to each number.

Main statements:

* `flatMap_chars_lexemes`: the lexemes put together are the condition;
* `usesExactly_iff`: what it is to use exactly the numbers of a range.

Design notes: a placeholder is a dollar sign and a run of decimal digits. Its number is read
only where it is asked for, so one with too many digits does no harm elsewhere. A literal
starts with a single or double mark and ends at the same mark; a doubled mark inside stands
for one. If the text ends before a literal is closed, the last doubled mark, if there is one,
closes it after all; if there is none, the opening mark is an ordinary character.
-/
import RowSecurity.Text.Numeral
import RowSecurity.Value.Written

namespace RowSecurity.Sql

open Text

/-- A piece of a condition. -/
inductive Lexeme where
  /-- a quoted literal, by its mark and what stands between the marks -/
  | literal (mark : Char) (body : List Char)
  /-- a placeholder, by its digits -/
  | placeholder (digits : List Char)
  /-- any other character -/
  | plain (c : Char)
deriving DecidableEq, Repr

def Lexeme.chars : Lexeme → List Char
  | .literal mark body => mark :: body ++ [mark]
  | .placeholder digits => '$' :: digits
  | .plain c => [c]

def Lexeme.digits? : Lexeme → Option (List Char)
  | .placeholder digits => some digits
  | _ => none

def isMark (c : Char) : Bool := c == singleMark || c == doubleMark

/-- The body of a literal whose opening mark has been read, and the text after its closing
mark. -/
def splitLiteral (mark : Char) : List Char → Option (List Char × List Char)
  | [] => none
  | c :: cs =>
    if c = mark then
      match cs with
      | [] => some ([], [])
      | d :: ds =>
        if d = mark then
          match splitLiteral mark ds with
          | some (body, rest) => some (c :: d :: body, rest)
          -- nothing closes the literal later on, so this mark does
          | none => some ([], d :: ds)
        else some ([], d :: ds)
    else
      match splitLiteral mark cs with
      | some (body, rest) => some (c :: body, rest)
      | none => none

theorem append_of_splitLiteral {mark : Char} {cs body rest : List Char}
    (h : splitLiteral mark cs = some (body, rest)) : cs = body ++ mark :: rest := by
  fun_induction splitLiteral mark cs generalizing body rest with
  | case1 => simp at h
  | case2 => simp at h; simp [h]
  | case3 ds b r hs ih =>
    obtain ⟨rfl, rfl⟩ : mark :: mark :: b = body ∧ r = rest := by simpa using h
    simp [ih hs]
  | case4 ds hs ih =>
    obtain ⟨rfl, rfl⟩ : [] = body ∧ mark :: ds = rest := by simpa using h
    rfl
  | case5 d ds hd =>
    obtain ⟨rfl, rfl⟩ : [] = body ∧ d :: ds = rest := by simpa using h
    rfl
  | case6 c cs hc b r hs ih =>
    obtain ⟨rfl, rfl⟩ : c :: b = body ∧ r = rest := by simpa using h
    simp [ih hs]
  | case7 => simp at h

theorem length_of_splitLiteral {mark : Char} {cs body rest : List Char}
    (h : splitLiteral mark cs = some (body, rest)) : rest.length < cs.length := by
  rw [append_of_splitLiteral h]
  simp only [List.length_append, List.length_cons]
  omega

/-- The pieces of a condition. -/
def lexemes : List Char → List Lexeme
  | [] => []
  | c :: cs =>
    if isMark c then
      match _ : splitLiteral c cs with
      | some (body, rest) => .literal c body :: lexemes rest
      -- a mark without a partner hides nothing of what follows
      | none => .plain c :: lexemes cs
    else if c = '$' ∧ cs.takeWhile isDigit ≠ [] then
      .placeholder (cs.takeWhile isDigit) :: lexemes (cs.dropWhile isDigit)
    else .plain c :: lexemes cs
termination_by cs => cs.length
decreasing_by
  all_goals simp only [List.length_cons]
  · have := length_of_splitLiteral ‹_›; omega
  · omega
  · have := (List.dropWhile_sublist isDigit (l := cs)).length_le; omega
  · omega

/-- The pieces put together are the condition. -/
theorem flatMap_chars_lexemes (cs : List Char) : (lexemes cs).flatMap Lexeme.chars = cs := by
  fun_induction lexemes cs with
  | case1 => rfl
  | case2 c cs hc body rest hs ih =>
    simp [Lexeme.chars, ih, append_of_splitLiteral hs]
  | case3 c cs hc hs ih => simp [Lexeme.chars, ih]
  | case4 c cs hc hd ih =>
    simp [Lexeme.chars, ih, hd.1, List.takeWhile_append_dropWhile]
  | case5 c cs hc hd ih => simp [Lexeme.chars, ih]

/-- The numbers of the placeholders of a condition, from left to right. -/
def placeholders (condition : String) : Except LimitFault (List Nat) :=
  ((lexemes condition.toList).filterMap Lexeme.digits?).mapM readNumeral

/-- Why the placeholders of a text cannot be replaced. -/
inductive PlaceholderFault where
  /-- a shift moves the number below one -/
  | outOfRange (number : Nat) (shift : Int)
  /-- the number is none of the numbers of the values -/
  | unbound (number count : Nat)
  /-- the text defines no parameter for the number -/
  | undefinedName (number : Nat)
  | limit (fault : LimitFault)
deriving DecidableEq, Repr

def PlaceholderFault.message : PlaceholderFault → String
  | .outOfRange number shift =>
    "placeholder $" ++ toString number ++ " shifted by " ++ toString shift ++ " is out of range"
  | .unbound number count =>
    "placeholder $" ++ toString number ++ " has no bound value (" ++ toString count ++ " given)"
  | .undefinedName number =>
    "This text() construct doesn't define a bound parameter named 'p_" ++ toString number ++ "'"
  | .limit fault => fault.message

/-- A piece with its placeholder replaced. -/
def Lexeme.replace (replacement : Nat → Except PlaceholderFault (List Char)) (piece : Lexeme) :
    Except PlaceholderFault (List Char) :=
  match piece.digits? with
  | none => .ok piece.chars
  | some digits =>
    match readNumeral digits with
    | .ok number => replacement number
    | .error fault => .error (.limit fault)

/-- The condition with each placeholder replaced; the first one from the left that cannot be
replaced decides the error. -/
def substitute (replacement : Nat → Except PlaceholderFault (List Char)) (condition : String) :
    Except PlaceholderFault String := do
  let pieces ← (lexemes condition.toList).mapM (Lexeme.replace replacement)
  return String.ofList pieces.flatten

/-- The placeholder with the given number. -/
def placeholder (number : Int) : Except LimitFault (List Char) :=
  (writeNumeral number).map ('$' :: ·)

/-- The condition with a shift added to the number of each placeholder. Shifting by zero
leaves even the spelling of the numbers alone. -/
def renumber (condition : String) (shift : Int) : Except PlaceholderFault String :=
  if shift = 0 then .ok condition
  else
    substitute (fun number =>
      if (number : Int) + shift < 1 then .error (.outOfRange number shift)
      else (placeholder (number + shift)).mapError .limit) condition

/-- A number set into an ascending list without repetition. -/
def insertNumber (n : Nat) : List Nat → List Nat
  | [] => [n]
  | m :: rest =>
    if n < m then n :: m :: rest
    else if n = m then m :: rest
    else m :: insertNumber n rest

def distinctNumbers (numbers : List Nat) : List Nat := numbers.foldr insertNumber []

/-- Whether the numbers in use are exactly the `count` numbers from `first` on. -/
def usesExactly (first : Int) (count : Nat) (used : List Nat) : Bool :=
  used.all (fun n => first ≤ (n : Int) && (n : Int) < first + count) &&
    (List.range count).all (fun i => used.any (fun n => (n : Int) == first + i))

theorem mem_insertNumber {n k : Nat} {numbers : List Nat} :
    k ∈ insertNumber n numbers ↔ k = n ∨ k ∈ numbers := by
  induction numbers with
  | nil => simp [insertNumber]
  | cons m rest ih =>
    simp only [insertNumber]
    split
    · simp
    · split
      · rename_i h; subst h; simp
      · rw [List.mem_cons, ih, List.mem_cons]; exact or_left_comm

@[simp] theorem mem_distinctNumbers {k : Nat} {numbers : List Nat} :
    k ∈ distinctNumbers numbers ↔ k ∈ numbers := by
  induction numbers with
  | nil => simp [distinctNumbers]
  | cons n rest ih =>
    simp only [distinctNumbers, List.foldr_cons, mem_insertNumber, List.mem_cons] at ih ⊢
    rw [ih]

theorem usesExactly_iff {first : Int} {count : Nat} {used : List Nat} :
    usesExactly first count used = true ↔
      ∀ k : Int, (∃ n ∈ used, (n : Int) = k) ↔ first ≤ k ∧ k < first + count := by
  simp only [usesExactly, Bool.and_eq_true, List.all_eq_true, decide_eq_true_eq, List.mem_range,
    List.any_eq_true, beq_iff_eq]
  constructor
  · rintro ⟨inside, all⟩ k
    constructor
    · rintro ⟨n, hn, rfl⟩
      exact inside n hn
    · rintro ⟨low, high⟩
      obtain ⟨n, hn, e⟩ := all (k - first).toNat (by omega)
      exact ⟨n, hn, by omega⟩
  · intro h
    refine ⟨fun n hn => (h n).1 ⟨n, hn, rfl⟩, fun i hi => ?_⟩
    exact (h (first + i)).2 ⟨by omega, by omega⟩

end RowSecurity.Sql
