/-
Statements with named parameters.

* `definedNames`: the names for which a text defines a parameter;
* `Statement.ofText`: a text with numbered placeholders, turned into a statement whose
  parameters are named and bound.

Design notes: a parameter is a colon and a name. The colon must not follow a word
character, another colon or a backslash, and the name must not run into a further colon:
its last character is given up rather than that. A placeholder that ends up in such a
place defines no parameter, and binding it is refused.
-/
import RowSecurity.Sql.Lexeme

namespace RowSecurity.Sql

open Text

/-- Characters after which a colon starts no parameter. -/
def bindsNothingAfter (c : Char) : Bool := c == ':' || isWord c || c == backslash

/-- The name that stands after a colon: the longest run of word characters that a colon does
not follow. -/
def nameAfterColon (cs : List Char) : List Char :=
  let run := cs.takeWhile isWord
  if (cs.dropWhile isWord).head? = some ':' then run.dropLast else run

/-- The names for which a text defines a parameter; `free` tells whether a colon at the start
may begin one. -/
def definedNames (free : Bool) : List Char → List (List Char)
  | [] => []
  | c :: cs =>
    let later := definedNames (!bindsNothingAfter c) cs
    if free && c == ':' && nameAfterColon cs != [] then nameAfterColon cs :: later else later

def parameterName (number : Nat) : List Char := 'p' :: '_' :: (toString number).toList

structure Statement where
  sql : String
  binds : List (Nat × Value)
deriving Repr, DecidableEq

/-- The text with each placeholder turned into the parameter of its number. -/
def namePlaceholders (count : Nat) (sql : String) : Except PlaceholderFault String :=
  substitute (fun number =>
    if 1 ≤ number ∧ number ≤ count then .ok (':' :: parameterName number)
    else .error (.unbound number count)) sql

/-- The statement for a text with numbered placeholders, where the value at index `i` is bound
to the number `i + 1`. -/
def Statement.ofText (sql : String) (values : List Value) :
    Except PlaceholderFault Statement := do
  let text ← namePlaceholders values.length sql
  let used := distinctNumbers (← (placeholders sql).mapError .limit)
  let names := definedNames true text.toList
  -- `used` ascends, so the lowest number without a parameter is the one reported
  match used.find? fun number => !names.contains (parameterName number) with
  | some number => throw (.undefinedName number)
  | none => return ⟨text, used.map fun number => (number, values.getD (number - 1) .null)⟩

end RowSecurity.Sql
