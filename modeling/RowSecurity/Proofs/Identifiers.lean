/-
The identifiers of a caller: which there are, and where each comes from.

* `Fields.putAll`: a record with a field set for each entry of a list;
* `Caller.firstHeld`: the first thing that a caller holds under one of two names;
* `Collected`: that a record has an identifier for each key that the configuration names.

Main statement: `collectIdentifiers_complete`, for every configuration, user and caller.

Design notes: entries of one key overwrite each other, and one of the key that holds the user's id
overwrites that, which no rule for configurations forbids (`collectIdentifiers_displaced`). So the
user's id is kept where no entry has its key, and a key is asked for as its last entry says.
-/
import Mathlib.Data.List.Nodup
import RowSecurity.Context.Build

namespace RowSecurity

/-! ### Setting fields one after another -/

/-- The record with a field set for each entry, in their order. -/
def Fields.putAll (value : String × String → Value) (entries : List (String × String))
    (start : Fields) : Fields :=
  entries.foldl (fun fields entry => fields.put entry.1 (value entry)) start

section PutAll

variable {value : String × String → Value} {entries before after : List (String × String)}
  {start : Fields} {key name : String}

/-- A field is left alone by entries of other keys. -/
theorem Fields.get?_putAll_of_not_mem (other : key ∉ entries.map (·.1)) :
    (putAll value entries start).get? key = start.get? key := by
  unfold putAll
  induction entries generalizing start with
  | nil => rfl
  | cons entry rest ih =>
    rw [List.map_cons, List.mem_cons, not_or] at other
    rw [List.foldl_cons, ih other.2, get?_put_of_ne other.1]

/-- A field holds what the last entry of its key says. -/
theorem Fields.get?_putAll_of_last (split : entries = before ++ (key, name) :: after)
    (last : key ∉ after.map (·.1)) :
    (putAll value entries start).get? key = some (value (key, name)) := by
  rw [split, putAll, List.foldl_append, List.foldl_cons]
  have kept : (putAll value after ((putAll value before start).put key
      (value (key, name)))).get? key = ((putAll value before start).put key
        (value (key, name))).get? key := get?_putAll_of_not_mem last
  exact kept.trans (get?_put_self _ _ _)

/-- Setting a field gives no key a second one. -/
theorem Fields.nodup_keys_put {fields : Fields} (once : fields.keys.Nodup) (key : String)
    (value : Value) : (fields.put key value).keys.Nodup := by
  rw [keys_put]
  split
  · exact once
  · rename_i fresh
    refine List.nodup_append.mpr ⟨once, List.nodup_singleton key, ?_⟩
    rintro held member _ same rfl
    exact fresh (List.mem_singleton.mp same ▸ member)

theorem Fields.nodup_keys_putAll (once : start.keys.Nodup) :
    (putAll value entries start).keys.Nodup := by
  unfold putAll
  induction entries generalizing start with
  | nil => exact once
  | cons entry rest ih =>
    rw [List.foldl_cons]
    exact ih (nodup_keys_put once entry.1 (value entry))

end PutAll

/-! ### What a caller holds -/

/-- What a caller holds under a name, null if there is nothing. -/
def Caller.held (caller : Caller) (name : String) : Value :=
  match caller with
  | .nobody => .null
  | .mapping entries => entries.get name
  | .object fields => fields.get name

/-- The two names of an identifier, in the order in which a caller is asked for them: a mapping has
keys, and an object attributes. -/
def Caller.asked (caller : Caller) (key name : String) : List String :=
  match caller with
  | .nobody => []
  | .mapping _ => [key, name]
  | .object _ => [name, key]

/-- The first thing but null that a caller holds under one of the two names of an identifier, null
if there is none. -/
def Caller.firstHeld (caller : Caller) (key name : String) : Value :=
  (((caller.asked key name).map caller.held).find? fun value => !value.isNull).getD .null

theorem Caller.firstPresent_eq_find? (a b : Value) :
    firstPresent a b = ([a, b].find? fun value => !value.isNull).getD .null := by
  unfold firstPresent
  by_cases first : a.isNull = true
  · by_cases second : b.isNull = true
    · rw [Value.isNull_iff.mp first, Value.isNull_iff.mp second]
      rfl
    · simp [first, second]
  · simp [first]

theorem Caller.identifier_eq_firstHeld (caller : Caller) (key name : String) :
    caller.identifier key name = caller.firstHeld key name := by
  cases caller with
  | nobody => rfl
  | mapping entries => exact firstPresent_eq_find? _ _
  | object fields => exact firstPresent_eq_find? _ _

/-! ### The whole -/

/-- That a record has an identifier for each key that the configuration names, and whose it is. -/
structure Collected (config : Config) (userId : Value) (caller : Caller) (identifiers : Fields) :
    Prop where
  once : identifiers.keys.Nodup
  keys : ∀ key, key ∈ identifiers.keys ↔ key ∈ config.identifierKeys
  /-- The user's id is what was given, whatever the caller holds, if no entry has its key. -/
  user : userIdKey ∉ config.profileIdentifiers.map (·.1) →
    identifiers.get? userIdKey = some userId
  /-- An identifier is the first thing that the caller holds under one of its two names. -/
  profile : (config.profileIdentifiers.map (·.1)).Nodup → ∀ entry ∈ config.profileIdentifiers,
    identifiers.get? entry.1 = some (caller.firstHeld entry.1 entry.2)
  /-- Of several entries of one key the last one counts. -/
  last : ∀ {before key name after}, config.profileIdentifiers = before ++ (key, name) :: after →
    key ∉ after.map (·.1) → identifiers.get? key = some (caller.firstHeld key name)

theorem collectIdentifiers_eq_putAll (config : Config) (userId : Value) (caller : Caller) :
    collectIdentifiers config userId caller =
      Fields.putAll (fun entry => caller.firstHeld entry.1 entry.2) config.profileIdentifiers
        [(userIdKey, userId)] := by
  simp only [collectIdentifiers, Fields.putAll, Caller.identifier_eq_firstHeld]

/-- The identifiers that are collected are those that the configuration names, each of them as its
last entry says. -/
theorem collectIdentifiers_complete (config : Config) (userId : Value) (caller : Caller) :
    Collected config userId caller (collectIdentifiers config userId caller) := by
  have last : ∀ {before key name after},
      config.profileIdentifiers = before ++ (key, name) :: after → key ∉ after.map (·.1) →
        (collectIdentifiers config userId caller).get? key =
          some (caller.firstHeld key name) := by
    intro before key name after split last
    rw [collectIdentifiers_eq_putAll]
    exact Fields.get?_putAll_of_last split last
  refine { once := ?once, keys := fun key => mem_keys_collectIdentifiers, user := ?user,
           profile := ?profile, last := last }
  case once =>
    rw [collectIdentifiers_eq_putAll]
    exact Fields.nodup_keys_putAll (List.nodup_singleton userIdKey)
  case user =>
    intro free
    rw [collectIdentifiers_eq_putAll, Fields.get?_putAll_of_not_mem free]
    rfl
  case profile =>
    intro once entry member
    -- where every key has one entry, each of them is the last one of its key
    obtain ⟨before, after, split⟩ := List.append_of_mem member
    refine last split fun later => ?_
    rw [split, List.map_append, List.map_cons] at once
    exact (List.nodup_cons.mp (List.nodup_append.mp once).2.1).1 later

/-- A configuration may have an entry of the key that holds the user's id, and then a caller may
put another id in its place. -/
theorem collectIdentifiers_displaced :
    ∃ config,
      Config.ofChanges { Changes.none with profileIdentifiers := some [["userId", "user_id"]] } =
        .ok config ∧
      (collectIdentifiers config (.int 7) (.mapping [("user_id", .int 99)])).get? userIdKey =
        some (.int 99) :=
  ⟨{ Config.standard with profileIdentifiers := [("userId", "user_id")] }, rfl, rfl⟩

end RowSecurity
