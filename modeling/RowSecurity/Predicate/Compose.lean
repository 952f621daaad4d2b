/-
Joining a predicate to the condition of a read.

* `Composed`: a WHERE clause with its bound values;
* `compose`: the clause of a base condition and a predicate;
* `Composed.paginate`: the clause that limits a read to one page.

Main statements: `params_of_compose` (the values of the base come first, those of the
predicate follow) and `applied_of_compose`.

Design notes: the placeholders of the base must be exactly those of its values, and the
predicate is renumbered to follow them, whatever offset it was made for. Each of the two
conditions is put in parentheses if OR stands at its top level, so that joining them by AND
restricts both.
-/
import RowSecurity.Failure
import RowSecurity.Predicate.Basic
import RowSecurity.Sql.Condition

namespace RowSecurity

/-- A WHERE clause, empty or starting with its keyword, and the values it binds; the value at
index `i` is bound to the number `i + 1`. -/
structure Composed where
  whereClause : String
  params : List Value
  applied : Bool
deriving DecidableEq, Repr

namespace Composed

def nextPlaceholder (composed : Composed) : Nat := composed.params.length + 1

/-- The clause that limits a read to one page, and the values with those of the page added. -/
def paginate (composed : Composed) (limit offset : Value) : String × List Value :=
  let next := composed.nextPlaceholder
  ("LIMIT $" ++ toString next ++ " OFFSET $" ++ toString (next + 1),
    composed.params ++ [limit, offset])

end Composed

def whereText (condition : List Char) : String :=
  if condition = [] then "" else "WHERE " ++ String.ofList condition

/-- The numbers of the placeholders of a condition, where one that is too long fails. -/
def usedPlaceholders (condition : String) : Except Failure (List Nat) :=
  (Sql.placeholders condition).mapError fun fault => .placeholder (.limit fault)

/-- The predicate's condition, its placeholders renumbered to follow `count` values. -/
def Predicate.after (count : Nat) (predicate : Predicate) : Except Failure String :=
  match usedPlaceholders predicate.clause with
  | .error failure => .error failure
  | .ok used =>
    if Sql.usesExactly (predicate.offset + 1) predicate.values.length used then
      (Sql.renumber predicate.clause ((count : Int) - predicate.offset)).mapError .placeholder
    else
      .error (.argument (.clausePlaceholders used predicate.values.length predicate.offset))

/-- The clause that shows the rows meeting a base condition and a predicate. -/
def compose (base : String) (params : List Value) (predicate : Predicate) :
    Except Failure Composed :=
  let condition := Sql.stripWhere base.toList
  match usedPlaceholders (String.ofList condition) with
  | .error failure => .error failure
  | .ok used =>
    if Sql.usesExactly 1 params.length used then
      if predicate.clause = "" then .ok ⟨whereText condition, params, predicate.applied⟩
      else
        match predicate.after params.length with
        | .error failure => .error failure
        | .ok clause =>
          let restriction := Sql.guarded clause.toList
          let joined :=
            if condition = [] then restriction
            else Sql.guarded condition ++ " AND ".toList ++ restriction
          .ok ⟨whereText joined, params ++ predicate.values, predicate.applied⟩
    else .error (.argument (.basePlaceholders used params.length))

/-- The values of the base come first, those of the predicate follow. -/
theorem params_of_compose {base : String} {params : List Value} {predicate : Predicate}
    {composed : Composed} (h : compose base params predicate = .ok composed) :
    composed.params = if predicate.clause = "" then params else params ++ predicate.values := by
  unfold compose at h
  simp only at h
  split at h
  · simp at h
  · split at h
    · split at h
      · rename_i hc
        simp only [Except.ok.injEq] at h
        simp [← h, hc]
      · rename_i hc
        split at h
        · simp at h
        · simp only [Except.ok.injEq] at h
          simp [← h, hc]
    · simp at h

theorem applied_of_compose {base : String} {params : List Value} {predicate : Predicate}
    {composed : Composed} (h : compose base params predicate = .ok composed) :
    composed.applied = predicate.applied := by
  unfold compose at h
  simp only at h
  split at h
  · simp at h
  · split at h
    · split at h
      · simp only [Except.ok.injEq] at h
        simp [← h]
      · split at h
        · simp at h
        · simp only [Except.ok.injEq] at h
          simp [← h]
    · simp at h

end RowSecurity
