/-
Expectations on predicates and placeholders, for trying policies out.

* `expectDenies`, `expectUnrestricted`, `expectRestricts`: what a predicate does;
* `expectConsistent`: a text uses exactly the placeholders of its values.

Design notes: bound values are compared up to the kind of number, so `1` is as expected
where `true` or `1.0` is expected.
-/
import RowSecurity.Failure
import RowSecurity.Predicate.Basic
import RowSecurity.Sql.Lexeme

namespace RowSecurity

/-- Nothing, if the condition holds; else an unmet expectation. -/
def expect (condition : Bool) (message : String) : Except Failure Unit :=
  if condition then .ok () else .error (.expectation message)

def expectDenies (predicate : Predicate) : Except Failure Unit :=
  expect (predicate.deniesAll && predicate.clause == denyClause && predicate.values.isEmpty)
    ("expected a deny-all predicate, got " ++ predicate.written)

def expectUnrestricted (predicate : Predicate) : Except Failure Unit :=
  expect (predicate.showsAll && predicate.values.isEmpty && !predicate.deniesAll)
    ("expected an unrestricted predicate, got " ++ predicate.written)

def writtenValues (values : List Value) : String :=
  Value.writtenSequence (values.map Value.written)

/-- The predicate restricts rows, by exactly this condition and these values if they are
given. -/
def expectRestricts (predicate : Predicate) (clause : Option String)
    (values : Option (List Value)) : Except Failure Unit := do
  expect (!predicate.deniesAll && predicate.clause != "")
    ("expected a restricting predicate, got " ++ predicate.written)
  match clause with
  | some clause =>
    expect (predicate.clause == clause)
      ("expected clause " ++ Text.quote clause ++ ", got " ++ Text.quote predicate.clause)
  | none => .ok ()
  match values with
  | some values =>
    expect (Value.allAlike predicate.values values)
      ("expected bound values " ++ writtenValues values ++ ", got " ++
        writtenValues predicate.values)
  | none => .ok ()

/-- The text uses exactly the placeholders of that many values. -/
def expectConsistent (sql : String) (count : Nat) : Except Failure Unit := do
  let used ← (Sql.placeholders sql).mapError fun fault => .placeholder (.limit fault)
  expect (Sql.usesExactly 1 count used)
    ("placeholders " ++ writtenNumbers used ++ " do not match " ++ toString count ++
      " parameter(s) in " ++ Text.quote sql)

end RowSecurity
