/-
Limits of size.

* `maxDigits`, `usualNesting`: how long a numeral may be, and how deep a document usually;
* `LimitFault`: a limit that was exceeded;
* `LimitFault.message`: the wording of each.

Design notes: the limits are those of the process and not of the configuration. `maxDigits` is what
a process allows unless it is told otherwise. How deep calls may be nested is left open: the readers
of documents take it as an argument, and so does whatever follows links (`Stack`). Whatever exceeds
a limit is refused and never cut down to size.
-/
namespace RowSecurity

/-- The most digits that a numeral may have, zeros in front included. -/
def maxDigits : Nat := 4300

/-- How many lists and records may be open at one place of a document, if nothing is said of it. -/
def usualNesting : Nat := 988

/-- A limit that was exceeded. -/
inductive LimitFault where
  /-- a numeral to be read has that many digits -/
  | digitsRead (count : Nat)
  /-- a number to be written has too many of them -/
  | digitsWritten
  | nestedList
  | nestedRecord
  /-- calls were nested too deep, at a place that the runtime has its own wording for -/
  | stack (place : String)
deriving DecidableEq, Repr

def LimitFault.message : LimitFault → String
  | .digitsRead count =>
    "Exceeds the limit (" ++ toString maxDigits ++ " digits) for integer string conversion: " ++
      "value has " ++ toString count ++
      " digits; use sys.set_int_max_str_digits() to increase the limit"
  | .digitsWritten =>
    "Exceeds the limit (" ++ toString maxDigits ++ " digits) for integer string conversion; " ++
      "use sys.set_int_max_str_digits() to increase the limit"
  | .nestedList =>
    "maximum recursion depth exceeded while decoding a JSON array from a unicode string"
  | .nestedRecord =>
    "maximum recursion depth exceeded while decoding a JSON object from a unicode string"
  | .stack place => "maximum recursion depth exceeded" ++ place

end RowSecurity
