/-
Delivering what a computation did.

* `LogRecord`: a line of the log;
* `Journal`: the log, the recordings of events, and the commands that were sent;
* `Journal.deliver`: the journal after a computation's effects.

Design notes: an event goes to one sink only. The log covers the library's channel and all
channels below it. A line is written if its level is positive and reaches the threshold of
the log; a log whose threshold is zero has none of its own and keeps warnings.
-/
import RowSecurity.Ambient.Basic
import RowSecurity.Audit.Traced

namespace RowSecurity

open Audit

/-- A line of the log; one that an event caused has the event's record with it. -/
structure LogRecord where
  channel : String
  level : Int
  message : String
  event : Option Fields
deriving DecidableEq, Repr

/-- The log with its threshold, the recordings of events, and the commands that were sent, all
in order. -/
structure Journal where
  threshold : Int
  log : List LogRecord
  recordings : List (List SecurityEvent)
  commands : List Sql.Command
deriving DecidableEq, Repr

namespace Journal

def covers (channel : String) : Bool :=
  channel == libraryChannel || (libraryChannel ++ ".").toList.isPrefixOf channel.toList

/-- The level that a line must reach; a threshold of zero stands for that of warnings. -/
def leastLevel (journal : Journal) : Int :=
  if journal.threshold = 0 then warning else journal.threshold

/-- Write a line to the log, if its level is positive and reaches the threshold. -/
def write (journal : Journal) (record : LogRecord) : Journal :=
  if covers record.channel && 0 < record.level && journal.leastLevel ≤ record.level then
    { journal with log := journal.log ++ [record] }
  else journal

def record (journal : Journal) (index : Nat) (event : SecurityEvent) : Journal :=
  { journal with
    recordings := journal.recordings.modify index fun events => events ++ [event] }

/-- The journal after one effect, where events go to the given sink. -/
def deliverOne (sink : Sink) (journal : Journal) : Effect → Journal
  | .event event =>
    match sink with
    | .log channel => journal.write ⟨channel, event.level, event.line, some event.toRecord⟩
    | .recording index => journal.record index event
  | .note note => journal.write ⟨libraryChannel, note.level, note.message, none⟩
  | .command command => { journal with commands := journal.commands ++ [command] }

def deliver (journal : Journal) (sink : Sink) (trace : List Effect) : Journal :=
  trace.foldl (deliverOne sink) journal

/-- The journal with one more, empty recording, and its index. -/
def newRecording (journal : Journal) : Journal × Nat :=
  ({ journal with recordings := journal.recordings ++ [[]] }, journal.recordings.length)

def recording (journal : Journal) (index : Nat) : List SecurityEvent :=
  journal.recordings.getD index []

def clearRecording (journal : Journal) (index : Nat) : Journal :=
  { journal with recordings := journal.recordings.set index [] }

end Journal

/-- Run a computation with what it is given, or else with the ambient state, and deliver what
it did. -/
def Ambient.run {α : Type} (ambient : Ambient) (journal : Journal) (given : Overrides)
    (computation : Config → Lookup → Traced α) : Journal × Except Failure α :=
  let result := computation (ambient.configFor given) (ambient.lookupFor given)
  (journal.deliver (ambient.sinkFor given) result.trace, result.outcome)

end RowSecurity
