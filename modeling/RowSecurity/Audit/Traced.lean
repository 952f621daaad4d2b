/-
Computations with a trace.

* `Effect`: a security event, a note for the log, or a command sent to the database;
* `Traced`: what a computation does, in order, and how it ends.

Main statements: the equations `bind_of_ok` and `bind_of_error`, when two parts end well
(`outcome_bind_eq_ok_iff`), and the laws of a monad (`LawfulMonad Traced`).

Design notes: a computation that fails keeps what it did before, so a trace stands beside
the outcome and not inside it. To whom an event is delivered is not decided here.
-/
import RowSecurity.Audit.Event
import RowSecurity.Failure
import RowSecurity.Sql.Expression

namespace RowSecurity.Audit

structure Note where
  level : Int
  message : String
deriving DecidableEq, Repr

/-- Something a computation does beside returning a value. -/
inductive Effect where
  | event (event : SecurityEvent)
  | note (note : Note)
  | command (command : Sql.Command)
deriving DecidableEq, Repr

/-- What a computation does, in order, and how it ends. -/
structure Traced (α : Type) where
  trace : List Effect
  outcome : Except Failure α

namespace Traced

variable {α β γ : Type}

def ok (a : α) : Traced α := ⟨[], .ok a⟩

def fail (failure : Failure) : Traced α := ⟨[], .error failure⟩

/-- One computation after another, unless the first one fails. -/
def bind (x : Traced α) (f : α → Traced β) : Traced β :=
  match x.outcome with
  | .ok a => ⟨x.trace ++ (f a).trace, (f a).outcome⟩
  | .error failure => ⟨x.trace, .error failure⟩

instance : Monad Traced where
  pure := ok
  bind := bind

/-- The computation with a given outcome that does nothing beside. -/
def ofExcept (outcome : Except Failure α) : Traced α := ⟨[], outcome⟩

def emit (name : String) (level : Int) (fields : Fields) : Traced Unit :=
  ⟨[.event ⟨name, level, fields⟩], .ok ()⟩

def note (level : Int) (message : String) : Traced Unit := ⟨[.note ⟨level, message⟩], .ok ()⟩

def send (command : Sql.Command) : Traced Unit := ⟨[.command command], .ok ()⟩

def events (x : Traced α) : List SecurityEvent :=
  x.trace.filterMap fun | .event event => some event | _ => none

def notes (x : Traced α) : List Note :=
  x.trace.filterMap fun | .note note => some note | _ => none

def commands (x : Traced α) : List Sql.Command :=
  x.trace.filterMap fun | .command command => some command | _ => none

@[ext] theorem ext {x y : Traced α} (trace : x.trace = y.trace) (outcome : x.outcome = y.outcome) :
    x = y := by
  cases x; cases y; simp_all

theorem bind_of_ok {x : Traced α} {a : α} (h : x.outcome = .ok a) (f : α → Traced β) :
    x >>= f = ⟨x.trace ++ (f a).trace, (f a).outcome⟩ := by
  show bind x f = _
  simp [bind, h]

theorem bind_of_error {x : Traced α} {failure : Failure} (h : x.outcome = .error failure)
    (f : α → Traced β) : x >>= f = ⟨x.trace, .error failure⟩ := by
  show bind x f = _
  simp [bind, h]

/-- The security events of one computation after another are those of both in turn. -/
theorem events_bind_of_ok {x : Traced α} {a : α} (h : x.outcome = .ok a) (f : α → Traced β) :
    (x >>= f).events = x.events ++ (f a).events := by
  rw [bind_of_ok h, events, List.filterMap_append]
  rfl

/-- The commands of one computation after another are those of both in turn. -/
theorem commands_bind_of_ok {x : Traced α} {a : α} (h : x.outcome = .ok a) (f : α → Traced β) :
    (x >>= f).commands = x.commands ++ (f a).commands := by
  rw [bind_of_ok h, commands, List.filterMap_append]
  rfl

/-- A computation in two parts sends nothing if neither part does. -/
theorem commands_bind_eq_nil {x : Traced α} {f : α → Traced β} (first : x.commands = [])
    (second : ∀ a, (f a).commands = []) : (x >>= f).commands = [] := by
  cases h : x.outcome with
  | error failure =>
    rw [bind_of_error h]
    exact first
  | ok a => rw [commands_bind_of_ok h, first, second a, List.append_nil]

/-- A computation in two parts ends well if both parts do. -/
theorem outcome_bind_eq_ok_iff {x : Traced α} {f : α → Traced β} {b : β} :
    (x >>= f).outcome = .ok b ↔ ∃ a, x.outcome = .ok a ∧ (f a).outcome = .ok b := by
  constructor
  · intro h
    cases hx : x.outcome with
    | ok a =>
      rw [bind_of_ok hx] at h
      exact ⟨a, rfl, h⟩
    | error failure =>
      rw [bind_of_error hx] at h
      cases h
  · rintro ⟨a, hx, hf⟩
    rw [bind_of_ok hx]
    exact hf

@[simp] theorem ok_bind (a : α) (f : α → Traced β) : ok a >>= f = f a := by
  rw [bind_of_ok (x := ok a) rfl]
  ext <;> simp [ok]

@[simp] theorem ofExcept_ok_bind (a : α) (f : α → Traced β) : ofExcept (.ok a) >>= f = f a :=
  ok_bind a f

@[simp] theorem fail_bind (failure : Failure) (f : α → Traced β) :
    fail failure >>= f = fail failure := rfl

theorem bind_ok (x : Traced α) : x >>= ok = x := by
  show bind x ok = x
  cases x with
  | mk trace outcome => cases outcome <;> simp [bind, ok]

theorem bind_bind (x : Traced α) (f : α → Traced β) (g : β → Traced γ) :
    x >>= f >>= g = x >>= fun a => f a >>= g := by
  show bind (bind x f) g = bind x fun a => bind (f a) g
  cases x with
  | mk trace outcome =>
    cases outcome with
    | error failure => rfl
    | ok a =>
      simp only [bind]
      cases (f a).outcome <;> simp

instance : LawfulMonad Traced :=
  LawfulMonad.mk' _ bind_ok ok_bind bind_bind

end Traced

end RowSecurity.Audit
