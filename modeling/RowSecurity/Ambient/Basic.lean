/-
What a call falls back on where it is given nothing.

* `Ambient`: the configuration in force, the default table, and the sink for events;
* `Overrides`: what a call is given in their place;
* `Ambient.isolated`: a body that starts afresh and leaves no change behind.

Design notes: the ambient state is a value, and what changes it returns the changed value.
A table without a configuration of its own follows the one in force, the default table
among them.
-/
import RowSecurity.Policy.Table

namespace RowSecurity

/-- Where security events go: into the log under a name, or into a recording. -/
inductive Sink where
  | log (channel : String)
  | recording (index : Nat)
deriving DecidableEq, Repr

/-- The log of the library as a whole. -/
def libraryChannel : String := "sqla_rls"

def securityChannel : String := "sqla_rls.security"

def Sink.standard : Sink := .log securityChannel

/-- The configuration in force, the policies of the default table, and the sink for events. -/
structure Ambient where
  config : Config
  table : PolicyTable
  sink : Sink
deriving DecidableEq, Repr

/-- What a call is given in place of the ambient state. -/
structure Overrides where
  config : Option Config
  lookup : Option Lookup
  sink : Option Sink

namespace Ambient

/-- The state in which nothing has been set. -/
def initial : Ambient := ⟨.standard, .empty none, .standard⟩

/-- Change the configuration in force; changes that break a rule leave it as it is. -/
def configure (ambient : Ambient) (changes : Changes) : Except ConfigFault Ambient :=
  (ambient.config.merge changes).map fun config => { ambient with config }

def configFor (ambient : Ambient) (given : Overrides) : Config :=
  given.config.getD ambient.config

def lookupFor (ambient : Ambient) (given : Overrides) : Lookup :=
  given.lookup.getD (ambient.table.toLookup ambient.config)

def sinkFor (ambient : Ambient) (given : Overrides) : Sink := given.sink.getD ambient.sink

/-- Put a sink in the place of the one for events, the standard one if none is given. The one that
was there is returned. -/
def exchangeSink (ambient : Ambient) (sink : Option Sink) : Ambient × Sink :=
  ({ ambient with sink := sink.getD .standard }, ambient.sink)

/-- What is put aside while a body runs in isolation. -/
structure PutAside where
  config : Config
  policies : List ((String × String) × Policy)
  sink : Sink
deriving DecidableEq, Repr

/-- Put the state aside and start afresh: with the configuration and the sink that are given, or the
standard ones, and no policy. -/
def enter (ambient : Ambient) (config : Option Config) (sink : Option Sink) :
    Ambient × PutAside :=
  let (fresh, before) := ambient.exchangeSink sink
  ({ fresh with config := config.getD .standard, table := fresh.table.clear },
    ⟨ambient.config, ambient.table.entries, before⟩)

/-- Put back what was put aside. The table stays the same one: it is emptied, and the policies are
entered into it anew. -/
def leave (ambient : Ambient) (aside : PutAside) : Ambient :=
  let table := ambient.table.clear.refill aside.policies
  ({ ambient with config := aside.config, table }.exchangeSink (some aside.sink)).1

/-- Run a body in isolation, however it ends. -/
def isolated {σ α : Type} (config : Option Config) (sink : Option Sink)
    (body : Ambient × σ → (Ambient × σ) × α) (state : Ambient × σ) : (Ambient × σ) × α :=
  let (fresh, aside) := state.1.enter config sink
  let (after, a) := body (fresh, state.2)
  ((after.1.leave aside, after.2), a)

end Ambient

end RowSecurity
