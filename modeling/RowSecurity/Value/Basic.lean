/-
Values of permission documents, identifiers, bound parameters and result rows.

* `Value`: null, booleans, integers, numbers with a fraction, texts, lists and records;
* `Fields`: records, as pairs in the order of first insertion;
* `Value.isFinite`: whether a strict document can hold a value;
* `Value.alike`: equality up to the kind of number and the order of fields.

Main statements: `Fields.get?_put_self` and `Fields.get?_put_of_ne` say what a
record holds after a field is set, `Fields.keys_put` in which order.

Design notes: a record is an association list, because its order is visible where it
is written out, and setting a field keeps the place of a field that is present.
-/
import RowSecurity.Value.Binary64

namespace RowSecurity

inductive Value where
  | null
  | bool (b : Bool)
  | int (n : Int)
  | real (x : Binary64)
  | text (s : String)
  | list (items : List Value)
  | record (fields : List (String × Value))
deriving Repr, Inhabited

/-- The fields of a record, in order. -/
abbrev Fields := List (String × Value)

namespace Value

mutual

def decEq (a b : Value) : Decidable (a = b) :=
  match a with
  | .null =>
    match b with
    | .null => isTrue rfl
    | .bool _ | .int _ | .real _ | .text _ | .list _ | .record _ => isFalse nofun
  | .bool x =>
    match b with
    | .bool y => decidable_of_iff (x = y) (by simp)
    | .null | .int _ | .real _ | .text _ | .list _ | .record _ => isFalse nofun
  | .int x =>
    match b with
    | .int y => decidable_of_iff (x = y) (by simp)
    | .null | .bool _ | .real _ | .text _ | .list _ | .record _ => isFalse nofun
  | .real x =>
    match b with
    | .real y => decidable_of_iff (x = y) (by simp)
    | .null | .bool _ | .int _ | .text _ | .list _ | .record _ => isFalse nofun
  | .text x =>
    match b with
    | .text y => decidable_of_iff (x = y) (by simp)
    | .null | .bool _ | .int _ | .real _ | .list _ | .record _ => isFalse nofun
  | .list xs =>
    match b with
    | .list ys =>
      match listDecEq xs ys with
      | isTrue h => isTrue (congrArg Value.list h)
      | isFalse h => isFalse fun e => h (Value.list.inj e)
    | .null | .bool _ | .int _ | .real _ | .text _ | .record _ => isFalse nofun
  | .record xs =>
    match b with
    | .record ys =>
      match fieldsDecEq xs ys with
      | isTrue h => isTrue (congrArg Value.record h)
      | isFalse h => isFalse fun e => h (Value.record.inj e)
    | .null | .bool _ | .int _ | .real _ | .text _ | .list _ => isFalse nofun

def listDecEq : (xs ys : List Value) → Decidable (xs = ys)
  | [], [] => isTrue rfl
  | [], _ :: _ => isFalse nofun
  | _ :: _, [] => isFalse nofun
  | x :: xs, y :: ys =>
    match decEq x y, listDecEq xs ys with
    | isTrue h, isTrue t => isTrue (by rw [h, t])
    | isFalse h, _ => isFalse fun e => h (List.cons.inj e).1
    | _, isFalse t => isFalse fun e => t (List.cons.inj e).2

def fieldsDecEq : (xs ys : List (String × Value)) → Decidable (xs = ys)
  | [], [] => isTrue rfl
  | [], _ :: _ => isFalse nofun
  | _ :: _, [] => isFalse nofun
  | (k, x) :: xs, (l, y) :: ys =>
    if hk : k = l then
      match decEq x y, fieldsDecEq xs ys with
      | isTrue h, isTrue t => isTrue (by rw [hk, h, t])
      | isFalse h, _ => isFalse fun e => h (Prod.mk.inj (List.cons.inj e).1).2
      | _, isFalse t => isFalse fun e => t (List.cons.inj e).2
    else isFalse fun e => hk (Prod.mk.inj (List.cons.inj e).1).1

end

instance : DecidableEq Value := decEq

def isNull : Value → Bool
  | .null => true
  | _ => false

@[simp] theorem isNull_iff {v : Value} : v.isNull = true ↔ v = .null := by
  cases v <;> simp [isNull]

/-- Empty values: null, false, the zeros, and texts, lists and records without content. -/
def isEmpty : Value → Bool
  | .null => true
  | .bool b => !b
  | .int n => n == 0
  | .real x => x.isZero
  | .text s => s == ""
  | .list items => items.isEmpty
  | .record fields => fields.isEmpty

/-- The name under which the audit trail records the kind of a value. -/
def kindName : Value → String
  | .null => "NoneType"
  | .bool _ => "bool"
  | .int _ => "int"
  | .real _ => "float"
  | .text _ => "str"
  | .list _ => "list"
  | .record _ => "dict"

def ofText? : Option String → Value
  | some s => .text s
  | none => .null

end Value

namespace Fields

def get? : Fields → String → Option Value
  | [], _ => none
  | (k, v) :: rest, key => if k = key then some v else get? rest key

def get (fields : Fields) (key : String) : Value :=
  (fields.get? key).getD .null

/-- The record with one field set: in its place if present, else at the end. -/
def put : Fields → String → Value → Fields
  | [], key, value => [(key, value)]
  | (k, v) :: rest, key, value =>
    if k = key then (k, value) :: rest else (k, v) :: put rest key value

/-- The record that results from setting the given fields one after another. -/
def ofPairs (pairs : List (String × Value)) : Fields :=
  pairs.foldl (fun fields pair => fields.put pair.1 pair.2) []

def keys (fields : Fields) : List String := fields.map (·.1)

theorem mem_of_get?_eq_some {fields : Fields} {key : String} {value : Value}
    (found : fields.get? key = some value) : (key, value) ∈ fields := by
  induction fields with
  | nil => cases found
  | cons field rest ih =>
    rw [get?] at found
    split at found
    · rename_i same
      cases found
      rw [← same]
      exact List.mem_cons_self
    · exact List.mem_cons_of_mem _ (ih found)

theorem get?_eq_some_of_mem {fields : Fields} (distinct : fields.keys.Nodup) {key : String}
    {value : Value} (member : (key, value) ∈ fields) : fields.get? key = some value := by
  induction fields with
  | nil => exact absurd member List.not_mem_nil
  | cons field rest ih =>
    obtain ⟨fresh, distinct⟩ := List.nodup_cons.mp distinct
    rcases List.mem_cons.mp member with rfl | member
    · exact if_pos rfl
    · have other : field.1 ≠ key := by
        rintro rfl
        exact fresh (List.mem_map_of_mem (f := (·.1)) member)
      rw [get?, if_neg other]
      exact ih distinct member

theorem get?_eq_none_iff {fields : Fields} {key : String} :
    fields.get? key = none ↔ key ∉ fields.keys := by
  induction fields with
  | nil => simp [get?, keys]
  | cons field rest ih =>
    by_cases same : field.1 = key
    · simp [get?, keys, same]
    · simpa [get?, keys, same, Ne.symm same] using ih

theorem get?_put_self (fields : Fields) (key : String) (value : Value) :
    (fields.put key value).get? key = some value := by
  induction fields with
  | nil => simp [put, get?]
  | cons field rest ih =>
    by_cases h : field.1 = key
    · simp [put, get?, h]
    · simpa [put, get?, h] using ih

theorem get?_put_of_ne {key other : String} (hne : other ≠ key) (fields : Fields) (value : Value) :
    (fields.put key value).get? other = fields.get? other := by
  induction fields with
  | nil => simp [put, get?, hne.symm]
  | cons field rest ih =>
    by_cases h : field.1 = key
    · simp [put, get?, h, hne.symm]
    · by_cases ho : field.1 = other
      · simp [put, get?, ho, hne]
      · simpa [put, get?, h, ho] using ih

theorem keys_put (fields : Fields) (key : String) (value : Value) :
    (fields.put key value).keys =
      if key ∈ fields.keys then fields.keys else fields.keys ++ [key] := by
  induction fields with
  | nil => simp [put, keys]
  | cons field rest ih =>
    obtain ⟨k, v⟩ := field
    by_cases h : k = key
    · simp [put, keys, h]
    · have hk : ¬ key = k := fun e => h e.symm
      simp only [keys] at ih
      by_cases hm : key ∈ rest.map (·.1)
      · simp [put, keys, h, hk, ih, hm]
      · simp [put, keys, h, hk, ih, hm]

end Fields

namespace Value

/-- The number a value stands for, where booleans count as zero and one. -/
def asNumber : Value → Option (Int ⊕ Binary64)
  | .bool b => some (.inl (if b then 1 else 0))
  | .int n => some (.inl n)
  | .real x => some (.inr x)
  | _ => none

/-- Whether two numbers have the same value. -/
def sameNumber : Int ⊕ Binary64 → Int ⊕ Binary64 → Bool
  | .inl a, .inl b => a == b
  | .inl a, .inr y => y.isInt a
  | .inr x, .inl b => x.isInt b
  | .inr x, .inr y => x.sameValue y

mutual

/-- Whether every number in a value is finite. -/
def isFinite : Value → Bool
  | .real (.finite ..) => true
  | .real _ => false
  | .list items => allItemsFinite items
  | .record fields => allFinite fields
  | _ => true

def allItemsFinite : List Value → Bool
  | [] => true
  | x :: xs => isFinite x && allItemsFinite xs

def allFinite : List (String × Value) → Bool
  | [] => true
  | (_, x) :: xs => isFinite x && allFinite xs

end

mutual

/-- Equality up to the kind of number (`true`, `1` and `1.0` are alike) and the order of
fields. -/
def alike : Value → Value → Bool
  | .null, .null => true
  | .text a, .text b => a == b
  | .list xs, .list ys => allAlike xs ys
  | .record xs, .record ys => xs.length == ys.length && eachAlike xs ys
  | a, b =>
    match a.asNumber, b.asNumber with
    | some x, some y => sameNumber x y
    | _, _ => false

def allAlike : List Value → List Value → Bool
  | [], [] => true
  | x :: xs, y :: ys => alike x y && allAlike xs ys
  | _, _ => false

/-- Whether each field of the first record is in the second with a value alike. -/
def eachAlike : List (String × Value) → List (String × Value) → Bool
  | [], _ => true
  | (k, x) :: xs, ys =>
    (match Fields.get? ys k with
      | some y => alike x y
      | none => false) && eachAlike xs ys

end

end Value

end RowSecurity
