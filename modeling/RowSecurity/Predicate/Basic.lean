/-
Predicates: conditions that show a caller the rows a policy allows.

* `Predicate`: a condition with its bound values;
* `Predicate.unapplied`, `unrestricted`, `deny`: the predicates without a bound value.
-/
import RowSecurity.Value.Written

namespace RowSecurity

/-- The condition that no row meets. -/
def denyClause : String := "1=0"

/-- A condition with its bound values. The condition is empty if all rows are shown; its
placeholders start after `offset` values that are bound elsewhere. -/
structure Predicate where
  clause : String
  values : List Value
  deniesAll : Bool
  applied : Bool
  offset : Int
deriving DecidableEq, Repr

namespace Predicate

/-- The predicate of a read that row security has nothing to do with. -/
def unapplied : Predicate := ⟨"", [], false, false, 0⟩

def unrestricted (offset : Int) : Predicate := ⟨"", [], false, true, offset⟩

def deny (offset : Int) : Predicate := ⟨denyClause, [], true, true, offset⟩

def restrict (clause : String) (values : List Value) (offset : Int) : Predicate :=
  ⟨clause, values, false, true, offset⟩

def showsAll (predicate : Predicate) : Bool := predicate.applied && predicate.clause == ""

def written (predicate : Predicate) : String :=
  "PredicateResult(clause=" ++ Text.quote predicate.clause ++
    ", bound_values=" ++ Value.writtenSequence (predicate.values.map Value.written) ++
    ", deny_all=" ++ (Value.bool predicate.deniesAll).written ++
    ", applied=" ++ (Value.bool predicate.applied).written ++
    ", parameter_offset=" ++ toString predicate.offset ++ ")"

end Predicate

end RowSecurity
