/-
Reading JSON documents.

* `read`: the value of a document, or the problem and the place where reading stopped.

Main statement: `length_of_readEscape`: what is left after an escape is shorter than what was read.

Design notes: a step returns what is left of the document, and a problem is located by how
much is left there, so no position is carried along; line and column are counted once, at
the end. Values go on by a fuel that the length of the document bounds. How deep they may nest
is an argument, since it is a matter of the stack that the caller leaves. A repeated field keeps
its first place and its last value.
-/
import RowSecurity.Text.Numeral
import RowSecurity.Text.Surrogate
import RowSecurity.Value.Written

namespace RowSecurity.Json

open Text

/-- Why a document cannot be read. -/
inductive Problem where
  | expectingValue
  | expectingName
  | expectingColon
  | expectingComma
  | extraData
  | unterminatedText
  | controlCharacter
  | badEscape
  | badCode
  | byteOrderMark
deriving DecidableEq, Repr

/-- Where reading stops: at a problem with so many characters left, or at a limit. -/
inductive Stop where
  | malformed (problem : Problem) (left : Nat)
  | limit (fault : LimitFault)
deriving DecidableEq, Repr

/-- What a step reads, and what is left after it. -/
abbrev Step (α : Type) := Except Stop (α × List Char)

/-- Blanks between the parts of a document. -/
def isSpace (c : Char) : Bool := c == ' ' || c == '\t' || c == '\n' || c == '\r'

def skipSpace (cs : List Char) : List Char := cs.dropWhile isSpace

def hexValue (c : Char) : Option Nat :=
  if c.isDigit then some (c.toNat - 48)
  else if 'a' ≤ c ∧ c ≤ 'f' then some (c.toNat - 87)
  else if 'A' ≤ c ∧ c ≤ 'F' then some (c.toNat - 55)
  else none

/-- The code that four hexadecimal digits write, if a further character follows them. -/
def readCode : List Char → Option (Nat × List Char)
  | a :: b :: c :: d :: e :: rest =>
    match hexValue a, hexValue b, hexValue c, hexValue d with
    | some a, some b, some c, some d => some (((a * 16 + b) * 16 + c) * 16 + d, e :: rest)
    | _, _, _, _ => none
  | _ => none

/-- The second half of a surrogate pair, written as another escape. The outer option tells a
malformed escape from none that fits. -/
def readSecondHalf (cs : List Char) : Except Stop (Option (Nat × List Char)) :=
  match cs with
  | b :: 'u' :: rest =>
    if b = backslash ∧ 5 ≤ rest.length then
      match readCode rest with
      | some (code, rest) =>
        .ok (if 0xDC00 ≤ code ∧ code ≤ 0xDFFF then some (code, rest) else none)
      | none => .error (.malformed .badCode (rest.length + 1))
    else .ok none
  | _ => .ok none

/-- The character that a letter after a backslash stands for. -/
def escapeChar (c : Char) : Option Char :=
  if c = doubleMark ∨ c = backslash ∨ c = '/' then some c
  else if c = 'b' then some (Char.ofNat 8)
  else if c = 'f' then some (Char.ofNat 12)
  else if c = 'n' then some '\n'
  else if c = 'r' then some '\r'
  else if c = 't' then some '\t'
  else none

/-- The text that an escape after its backslash stands for. -/
def readEscape (opening : Nat) : List Char → Step (List Char)
  | [] => .error (.malformed .unterminatedText opening)
  | c :: cs =>
    if c = 'u' then
      match readCode cs with
      | none => .error (.malformed .badCode (cs.length + 1))
      | some (code, rest) =>
        if 0xD800 ≤ code ∧ code ≤ 0xDBFF then
          match readSecondHalf rest with
          | .error stop => .error stop
          | .ok (some (low, rest)) =>
            .ok (ofCode (0x10000 + (code - 0xD800) * 0x400 + (low - 0xDC00)), rest)
          | .ok none => .ok (ofCode code, rest)
        else .ok (ofCode code, rest)
    else
      match escapeChar c with
      | some d => .ok ([d], cs)
      | none => .error (.malformed .badEscape (cs.length + 2))

theorem length_of_readCode {cs rest : List Char} {code : Nat}
    (h : readCode cs = some (code, rest)) : rest.length < cs.length := by
  unfold readCode at h
  split at h
  · split at h
    · simp only [Option.some.injEq, Prod.mk.injEq] at h
      obtain ⟨-, rfl⟩ := h
      simp only [List.length_cons]
      omega
    · simp at h
  · simp at h

theorem length_of_readSecondHalf {cs rest : List Char} {code : Nat}
    (h : readSecondHalf cs = .ok (some (code, rest))) : rest.length < cs.length := by
  unfold readSecondHalf at h
  split at h
  · split at h
    · split at h
      · rename_i hc
        have := length_of_readCode hc
        split at h
        · simp only [Except.ok.injEq, Option.some.injEq, Prod.mk.injEq] at h
          obtain ⟨-, rfl⟩ := h
          simp only [List.length_cons]
          omega
        · simp at h
      · simp at h
    · simp at h
  · simp at h

theorem length_of_readEscape {opening : Nat} {cs rest text : List Char}
    (h : readEscape opening cs = .ok (text, rest)) : rest.length < cs.length := by
  unfold readEscape at h
  split at h
  · simp at h
  · split at h
    · split at h
      · simp at h
      · rename_i hc
        have hl := length_of_readCode hc
        split at h
        · split at h
          · simp at h
          · rename_i hs
            have := length_of_readSecondHalf hs
            simp only [Except.ok.injEq, Prod.mk.injEq] at h
            obtain ⟨-, rfl⟩ := h
            simp only [List.length_cons]
            omega
          · simp only [Except.ok.injEq, Prod.mk.injEq] at h
            obtain ⟨-, rfl⟩ := h
            simp only [List.length_cons]
            omega
        · simp only [Except.ok.injEq, Prod.mk.injEq] at h
          obtain ⟨-, rfl⟩ := h
          simp only [List.length_cons]
          omega
    · split at h
      · simp only [Except.ok.injEq, Prod.mk.injEq] at h
        obtain ⟨-, rfl⟩ := h
        simp
      · simp at h

/-- A text whose opening mark has been read; `opening` is what was left at that mark. -/
def readText (opening : Nat) : List Char → Step (List Char)
  | [] => .error (.malformed .unterminatedText opening)
  | c :: cs =>
    if c = doubleMark then .ok ([], cs)
    else if c = backslash then
      match _ : readEscape opening cs with
      | .error stop => .error stop
      | .ok (escaped, rest) =>
        match readText opening rest with
        | .error stop => .error stop
        | .ok (text, rest) => .ok (escaped ++ text, rest)
    else if c.toNat < 32 then .error (.malformed .controlCharacter (cs.length + 1))
    else
      match readText opening cs with
      | .error stop => .error stop
      | .ok (text, rest) => .ok (c :: text, rest)
termination_by cs => cs.length
decreasing_by
  all_goals simp only [List.length_cons]
  · have := length_of_readEscape ‹_›; omega
  · omega

def spanDigits (cs : List Char) : List Char × List Char :=
  (cs.takeWhile Char.isDigit, cs.dropWhile Char.isDigit)

/-- The digits after the point of a number, if a point and at least one digit come next. -/
def readFraction (cs : List Char) : Option (List Char × List Char) :=
  match cs with
  | '.' :: rest => if (spanDigits rest).1 = [] then none else some (spanDigits rest)
  | _ => none

/-- The exponent of a number, if its mark and at least one digit come next. -/
def readExponent (cs : List Char) : Option (Int × List Char) :=
  match cs with
  | e :: rest =>
    if e = 'e' ∨ e = 'E' then
      let (negative, unsigned) :=
        match rest with
        | '-' :: after => (true, after)
        | '+' :: after => (false, after)
        | _ => (false, rest)
      let (digits, after) := spanDigits unsigned
      if digits = [] then none
      else
        let size : Int := digitsValue digits
        some (if negative then -size else size, after)
    else none
  | [] => none

/-- The digits before the point of a number: one zero, or digits that start with none. -/
def readWhole (cs : List Char) : Option (List Char × List Char) :=
  match cs with
  | '0' :: rest => some (['0'], rest)
  | c :: _ => if c.isDigit then some (spanDigits cs) else none
  | [] => none

/-- A number: an integer if it has neither a fraction nor an exponent. -/
def readNumber (cs : List Char) : Step Value :=
  let (negative, unsigned) :=
    match cs with
    | '-' :: rest => (true, rest)
    | _ => (false, cs)
  match readWhole unsigned with
  | none => .error (.malformed .expectingValue cs.length)
  | some (whole, afterWhole) =>
    let (fraction, afterFraction) := (readFraction afterWhole).getD ([], afterWhole)
    let (exponent, rest) := (readExponent afterFraction).getD (0, afterFraction)
    let digits := whole ++ fraction
    if fraction = [] ∧ (readExponent afterFraction).isNone then
      -- only the digits of integers are limited
      match readNumeral whole with
      | .ok size => .ok (.int (if negative then -(size : Int) else size), rest)
      | .error fault => .error (.limit fault)
    else
      .ok (.real (Binary64.ofDecimal negative (digitsValue digits) digits.length
        (exponent - fraction.length)), rest)

def wordValues : List (List Char × Value) := [
  ("null".toList, .null), ("true".toList, .bool true), ("false".toList, .bool false),
  ("NaN".toList, .real .nan), ("Infinity".toList, .real (.infinite false)),
  ("-Infinity".toList, .real (.infinite true))]

def readWord (cs : List Char) : Option (Value × List Char) :=
  (wordValues.find? fun entry => entry.1.isPrefixOf cs).map fun entry =>
    (entry.2, cs.drop entry.1.length)

mutual

/-- The value at the start of a text, where lists and records may nest as deep as `depth`. -/
def readValue : (fuel depth : Nat) → List Char → Step Value
  | 0, _, cs => .error (.malformed .expectingValue cs.length)
  | fuel + 1, depth, cs =>
    match cs with
    | [] => .error (.malformed .expectingValue 0)
    | c :: rest =>
      if c = doubleMark then
        match readText cs.length rest with
        | .error stop => .error stop
        | .ok (text, rest) => .ok (.text (String.ofList text), rest)
      else if c = Char.ofNat 123 then
        match depth with
        | 0 => .error (.limit .nestedRecord)
        | depth + 1 =>
          let inside := skipSpace rest
          if inside.head? = some (Char.ofNat 125) then .ok (.record [], inside.tail)
          else
            match readMembers fuel depth inside with
            | .error stop => .error stop
            | .ok (members, rest) => .ok (.record (Fields.ofPairs members), rest)
      else if c = '[' then
        match depth with
        | 0 => .error (.limit .nestedList)
        | depth + 1 =>
          let inside := skipSpace rest
          if inside.head? = some ']' then .ok (.list [], inside.tail)
          else
            match readItems fuel depth inside with
            | .error stop => .error stop
            | .ok (items, rest) => .ok (.list items, rest)
      else
        -- words come first, since one of them starts with a minus sign
        match readWord cs with
        | some (value, rest) => .ok (value, rest)
        | none => readNumber cs

/-- The items of a list up to its closing bracket; at least one is due. -/
def readItems : (fuel depth : Nat) → List Char → Step (List Value)
  | 0, _, cs => .error (.malformed .expectingValue cs.length)
  | fuel + 1, depth, cs =>
    match readValue fuel depth cs with
    | .error stop => .error stop
    | .ok (item, rest) =>
      match skipSpace rest with
      | [] => .error (.malformed .expectingComma 0)
      | c :: rest =>
        if c = ']' then .ok ([item], rest)
        else if c = ',' then
          match readItems fuel depth (skipSpace rest) with
          | .error stop => .error stop
          | .ok (items, rest) => .ok (item :: items, rest)
        else .error (.malformed .expectingComma (rest.length + 1))

/-- The members of a record up to its closing brace; at least one is due. -/
def readMembers : (fuel depth : Nat) → List Char → Step (List (String × Value))
  | 0, _, cs => .error (.malformed .expectingName cs.length)
  | fuel + 1, depth, cs =>
    match cs with
    | [] => .error (.malformed .expectingName 0)
    | c :: afterMark =>
      if c = doubleMark then
        match readText cs.length afterMark with
        | .error stop => .error stop
        | .ok (name, rest) =>
          match skipSpace rest with
          | [] => .error (.malformed .expectingColon 0)
          | c :: rest =>
            if c = ':' then
              match readValue fuel depth (skipSpace rest) with
              | .error stop => .error stop
              | .ok (value, rest) =>
                match skipSpace rest with
                | [] => .error (.malformed .expectingComma 0)
                | c :: rest =>
                  if c = Char.ofNat 125 then .ok ([(String.ofList name, value)], rest)
                  else if c = ',' then
                    match readMembers fuel depth (skipSpace rest) with
                    | .error stop => .error stop
                    | .ok (members, rest) => .ok ((String.ofList name, value) :: members, rest)
                  else .error (.malformed .expectingComma (rest.length + 1))
            else .error (.malformed .expectingColon (rest.length + 1))
      else .error (.malformed .expectingName cs.length)

end

/-- Why a document cannot be read: a problem with its place, where line and column count from
one and the index from zero, or a limit. -/
inductive Fault where
  | malformed (problem : Problem) (line column index : Nat)
  | limit (fault : LimitFault)
deriving DecidableEq, Repr

/-- A problem is located in the document by the number of characters that are left; places
count codes. -/
def Stop.locate (document : List Char) : Stop → Fault
  | .malformed problem left =>
    let before := codes (document.take (document.length - left))
    let lineBreak := '\n'.toNat
    .malformed problem (before.count lineBreak + 1)
      ((before.reverse.takeWhile (· != lineBreak)).length + 1) before.length
  | .limit fault => .limit fault

def readAll (nesting : Nat) (document : List Char) : Except Stop Value :=
  if document.head? = some (Char.ofNat 0xFEFF) then
    .error (.malformed .byteOrderMark document.length)
  else
    match readValue (2 * document.length + 2) nesting (skipSpace document) with
    | .error stop => .error stop
    | .ok (value, rest) =>
      match skipSpace rest with
      | [] => .ok value
      | rest => .error (.malformed .extraData rest.length)

/-- The value of a document in which so many lists and records may be open at one place. -/
def read (document : String) (nesting : Nat := usualNesting) : Except Fault Value :=
  (readAll nesting document.toList).mapError (Stop.locate document.toList)

def Problem.message : Problem → String
  | .expectingValue => "Expecting value"
  | .expectingName => "Expecting property name enclosed in double quotes"
  | .expectingColon => "Expecting ':' delimiter"
  | .expectingComma => "Expecting ',' delimiter"
  | .extraData => "Extra data"
  | .unterminatedText => "Unterminated string starting at"
  | .controlCharacter => "Invalid control character at"
  | .badEscape => "Invalid \\escape"
  | .badCode => "Invalid \\uXXXX escape"
  | .byteOrderMark => "Unexpected UTF-8 BOM (decode using utf-8-sig)"

def Fault.message : Fault → String
  | .malformed problem line column index =>
    problem.message ++ ": line " ++ toString line ++ " column " ++ toString column ++
      " (char " ++ toString index ++ ")"
  | .limit fault => fault.message

end RowSecurity.Json
