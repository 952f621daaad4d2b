/-
Enforcement: a result that should have been filtered, and was not, does not get out.

* `Result`: what a read returned, as far as its marker can be told;
* `Result.wasApplied`: whether the result carries the marker of a filtered read;
* `assertApplied`: pass, or report and fail.

Main statements: `assertApplied_eq_ok_iff`: a result passes exactly if there is no context,
the context shows all records, or the marker is there.

Design notes: the marker must be the boolean itself; a value that merely is not empty does
not count.
-/
import RowSecurity.Audit.Traced
import RowSecurity.Context.Basic

namespace RowSecurity

open Audit

/-- What a read returned: nothing, a plain value, or an object with attributes. -/
inductive Result where
  | nothing
  | value (value : Value)
  | object (fields : Fields)
deriving DecidableEq, Repr

namespace Result

/-- The marker that a result carries, null if it has none. A record carries it as a field. -/
def marker : Result → Value
  | nothing => .null
  | value (.record fields) => Fields.get fields "applied"
  | value _ => .null
  | object fields => fields.get "applied"

def wasApplied (result : Result) : Bool := result.marker == .bool true

def marked (applied : Bool) : Result := .object [("applied", .bool applied)]

@[simp] theorem wasApplied_marked (applied : Bool) : (marked applied).wasApplied = applied := by
  cases applied <;> decide

end Result

/-- Pass a result on if there is no context, if the context shows all records, or if the result
carries the marker; otherwise report and fail. -/
def assertApplied (context : Option Context) (result : Result) : Traced Unit :=
  match context with
  | none => .ok ()
  | some context =>
    if context.requiresFiltering && !result.wasApplied then do
      .emit "RLS_VALIDATION_FAILED" critical [
        ("user_id", context.userId), ("role", .text context.role),
        ("resource", .text context.resource), ("filter_config", .text context.description)]
      .fail (.violation context.resource context.role context.description)
    else .ok ()

/-- A result passes, in silence, exactly if there is no context, the context shows all records,
or the marker is there. -/
theorem assertApplied_eq_ok_iff {context : Option Context} {result : Result} :
    assertApplied context result = .ok () ↔
      ∀ c ∈ context, c.policy = .ready .allRecords ∨ result.wasApplied = true := by
  cases context with
  | none => simp [assertApplied]
  | some c =>
    by_cases h : c.requiresFiltering && !result.wasApplied
    · constructor
      -- the failure is seen in the outcome, whatever the trace is
      · intro e
        have := congrArg Traced.outcome e
        simp [assertApplied, h, Traced.emit, Traced.fail, Traced.ok, Bind.bind, Traced.bind] at this
      · intro e
        rcases e c rfl with e | e
        · simp [Context.requiresFiltering, e] at h
        · simp [e] at h
    · simp only [assertApplied, h, Bool.false_eq_true, if_false, true_iff]
      intro d hd
      simp only [Option.mem_def, Option.some.injEq] at hd
      subst hd
      simp only [Context.requiresFiltering, Bool.and_eq_true, bne_iff_ne, ne_eq,
        Bool.not_eq_true', not_and, Bool.not_eq_false] at h
      by_cases hp : c.policy = .ready .allRecords
      · exact .inl hp
      · exact .inr (h hp)

end RowSecurity
