/-
Security events.

* `SecurityEvent`: a name, a level and fields;
* `severity`: the word for a level;
* `SecurityEvent.toRecord`: an event as one record.

Design notes: levels are numbers, of which five have a word. A field of an event may carry
the name under which the record has the event's own name or severity; the field wins.
-/
import RowSecurity.Value.Written

namespace RowSecurity.Audit

def debug : Int := 10

def info : Int := 20

def warning : Int := 30

def error : Int := 40

def critical : Int := 50

def severity (level : Int) : String :=
  if level = 0 then "NOTSET"
  else if level = debug then "DEBUG"
  else if level = info then "INFO"
  else if level = warning then "WARNING"
  else if level = error then "ERROR"
  else if level = critical then "CRITICAL"
  else "Level " ++ toString level

/-- Something that the audit trail records. -/
structure SecurityEvent where
  name : String
  level : Int
  fields : Fields
deriving DecidableEq, Repr

namespace SecurityEvent

/-- An event as one record: its name, its severity and its fields. -/
def toRecord (event : SecurityEvent) : Fields :=
  Fields.ofPairs (("event", .text event.name) :: ("severity", .text (severity event.level)) ::
    event.fields)

/-- An event in one line: its name, then each field as key and value. -/
def line (event : SecurityEvent) : String :=
  event.name ++ " " ++
    " ".intercalate (event.fields.map fun field => field.1 ++ "=" ++ field.2.plain)

end SecurityEvent

end RowSecurity.Audit
