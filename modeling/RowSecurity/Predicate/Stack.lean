/-
The stack of calls on which links are followed.

* `StepCall`: what a step along a link calls beside the next step;
* `Stack`: how many calls may be nested, how many are, and what each call of a step takes;
* `Stack.within`: what a computation comes to on a stack that may be too short for it;
* `Stack.HasRoom`: that the stack is long enough for every call, so many steps further.

Design notes: each link is followed by a call inside the call of the link before it, so the stack
that is left bounds how many can be followed. How much that is depends on the process and on the
caller, and what a call takes on the policy, the lookup and the sink. Nothing of this is known
here, so all of it is an argument. A call for which the stack is too short fails after any first
part of what it does.
-/
import RowSecurity.Audit.Traced
import RowSecurity.Policy.Basic

namespace RowSecurity

open Audit

/-- What a step along a link calls, beside the next step. -/
inductive StepCall where
  /-- the policy is read, to tell whether it delegates -/
  | read (policy : PolicyValue)
  /-- the policy of the parent is looked up -/
  | lookup (resource : String)
  | interpret (policy : PolicyValue) (table : String)
  | report (entity : String)
deriving DecidableEq, Repr

/-- What a call takes of the stack, and what comes of it where that is too much. -/
structure Demand where
  /-- how many calls are nested, the call itself among them -/
  calls : Nat
  /-- how many of its effects there are before it fails -/
  effects : Nat
  /-- how the runtime words the place where it failed -/
  place : String
deriving DecidableEq, Repr

/-- The stack where a call is made: how many calls may be nested, how many are, and what the calls
of a step take. -/
structure Stack where
  limit : Nat
  used : Nat
  demand : StepCall → Demand

namespace Stack

variable {α : Type} {stack : Stack} {call : StepCall} {steps : Nat}

/-- The stack inside of so many further calls. -/
def below (stack : Stack) (steps : Nat) : Stack := { stack with used := stack.used + steps }

/-- That the stack is long enough for a call. -/
def Fits (stack : Stack) (call : StepCall) : Prop :=
  stack.used + (stack.demand call).calls ≤ stack.limit

instance : Decidable (stack.Fits call) := inferInstanceAs (Decidable (_ ≤ _))

/-- How a call fails for which the stack is too short. -/
def overflow (stack : Stack) (call : StepCall) : Failure :=
  .limit (.stack (stack.demand call).place)

/-- What the computation of a call comes to on a stack that may be too short for it. -/
def within (stack : Stack) (call : StepCall) (computation : Traced α) : Traced α :=
  if stack.Fits call then computation
  else ⟨computation.trace.take (stack.demand call).effects, .error (stack.overflow call)⟩

/-- The usual limit, where few calls are nested and policies are looked up in a table. -/
def standard : Stack :=
  ⟨1000, 10, fun
    | .read _ => ⟨2, 0, " in __instancecheck__"⟩
    | .lookup _ => ⟨2, 0, ""⟩
    | .interpret _ _ => ⟨4, 0, " in __instancecheck__"⟩
    | .report _ => ⟨4, 0, ""⟩⟩

@[simp] theorem below_zero (stack : Stack) : stack.below 0 = stack := rfl

@[simp] theorem below_below (stack : Stack) (m n : Nat) :
    (stack.below m).below n = stack.below (m + n) := by
  simp only [below, Nat.add_assoc]

theorem within_of_fits (fits : stack.Fits call) (computation : Traced α) :
    stack.within call computation = computation := if_pos fits

/-- A computation that only ends, on a stack that is too short for it. -/
theorem within_ofExcept_of_not_fits (short : ¬ stack.Fits call) (outcome : Except Failure α) :
    stack.within call (.ofExcept outcome) = .fail (stack.overflow call) := by
  rw [within, if_neg short]
  exact Traced.ext List.take_nil rfl

theorem outcome_within_of_not_fits (short : ¬ stack.Fits call) (computation : Traced α) :
    (stack.within call computation).outcome = .error (stack.overflow call) := by
  rw [within, if_neg short]

/-- Only where the stack is long enough does a computation end well. -/
theorem outcome_within_eq_ok {computation : Traced α} {a : α}
    (h : (stack.within call computation).outcome = .ok a) :
    stack.Fits call ∧ computation.outcome = .ok a := by
  by_cases fits : stack.Fits call
  · rw [within_of_fits fits] at h
    exact ⟨fits, h⟩
  · rw [outcome_within_of_not_fits fits] at h
    cases h

/-- A computation ends as it would by itself, or because the stack is too short. -/
theorem outcome_within_eq_error {computation : Traced α} {failure : Failure}
    (h : (stack.within call computation).outcome = .error failure) :
    (stack.Fits call ∧ computation.outcome = .error failure) ∨
      (¬ stack.Fits call ∧ failure = stack.overflow call) := by
  by_cases fits : stack.Fits call
  · rw [within_of_fits fits] at h
    exact .inl ⟨fits, h⟩
  · rw [outcome_within_of_not_fits fits] at h
    cases h
    exact .inr ⟨fits, rfl⟩

/-- That the stack is long enough for every call, so many steps further. -/
def HasRoom (stack : Stack) (steps : Nat) : Prop := ∀ call, (stack.below steps).Fits call

theorem HasRoom.fits (room : stack.HasRoom 0) (call : StepCall) : stack.Fits call := room call

theorem HasRoom.of_le (room : stack.HasRoom steps) {fewer : Nat} (le : fewer ≤ steps) :
    stack.HasRoom fewer := by
  intro call
  have := room call
  unfold Fits below at this ⊢
  dsimp only at this ⊢
  omega

theorem hasRoom_below {m n : Nat} : (stack.below m).HasRoom n ↔ stack.HasRoom (m + n) := by
  unfold HasRoom
  rw [below_below]

/-- Beyond its limit the stack has room for no call at all. -/
theorem not_fits_of_limit_lt (short : stack.limit < stack.used) : ¬ stack.Fits call := by
  unfold Fits
  omega

theorem hasRoom_standard (small : steps ≤ 900) : standard.HasRoom steps := by
  intro call
  cases call <;> simp only [Fits, below, standard] <;> omega

end Stack

end RowSecurity
