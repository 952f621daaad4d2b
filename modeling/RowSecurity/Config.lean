/-
Configuration in layers.

* `Config`: what a decision depends on beside the policy itself;
* `Changes`: values to override, each optional and not yet checked;
* `Config.merge`: the configuration with the changes made, or the first rule they break.

Main statements: `Config.valid_of_merge` (whatever is merged obeys every rule) and
`Config.merge_none` (no change leaves a valid configuration as it is).

Design notes: a change that is absent keeps the value below it, so `false`, the empty list
and the like are overrides as any other. Rules are checked in the order of the fields.
-/
import RowSecurity.Text.PlainName
import RowSecurity.Value.Written

namespace RowSecurity

/-- The identifier that holds the id of the authenticated user. -/
def userIdKey : String := "userId"

/-- What happens when something a decision needs is missing: no row is shown, or the request
fails. -/
inductive OnMissing where
  | deny
  | fail
deriving DecidableEq, Repr

def OnMissing.word : OnMissing → String
  | .deny => "deny"
  | .fail => "raise"

def OnMissing.ofValue? : Value → Option OnMissing
  | .text s => if s = "deny" then some .deny else if s = "raise" then some .fail else none
  | _ => none

/-- What a decision depends on beside the policy.

`profileIdentifiers` pairs the key of each further identifier with the name of the
attribute it may be read from; `maxParentDepth` bounds the steps from a resource to the
parent that decides for it. -/
structure Config where
  onMissingPolicy : OnMissing
  onMissingIdentifier : OnMissing
  defaultValueKey : String
  profileIdentifiers : List (String × String)
  logDecisions : Bool
  maxParentDepth : Nat
deriving DecidableEq, Repr

/-- The configuration where nothing has been set. -/
def Config.standard : Config where
  onMissingPolicy := .deny
  onMissingIdentifier := .deny
  defaultValueKey := userIdKey
  profileIdentifiers := [
    ("customerProfileId", "customer_profile_id"),
    ("technicianProfileId", "technician_profile_id")]
  logDecisions := false
  maxParentDepth := 3

/-- Values to override. -/
structure Changes where
  onMissingPolicy : Option Value
  onMissingIdentifier : Option Value
  defaultValueKey : Option String
  profileIdentifiers : Option (List (List String))
  logDecisions : Option Bool
  maxParentDepth : Option Int
deriving DecidableEq, Repr

def Changes.none : Changes := ⟨.none, .none, .none, .none, .none, .none⟩

/-- A rule that changes break, with the value that breaks it. -/
inductive ConfigFault where
  /-- a choice is given as a list or record, of which only the kind is told -/
  | compoundChoice (kind : String)
  | onMissingPolicy (given : Value)
  | onMissingIdentifier (given : Value)
  | defaultValueKey (given : String)
  | profileIdentifier (given : List String)
  | maxParentDepth (given : Int)
deriving DecidableEq, Repr

def ConfigFault.message : ConfigFault → String
  | .compoundChoice kind => "unhashable type: " ++ Text.quote kind
  | .onMissingPolicy given =>
    "on_missing_policy must be one of \x7b'deny', 'raise'\x7d, got " ++ given.written
  | .onMissingIdentifier given =>
    "on_missing_identifier must be one of \x7b'deny', 'raise'\x7d, got " ++ given.written
  | .defaultValueKey given =>
    "default_value_key must be a plain identifier, got " ++ Text.quote given
  | .profileIdentifier given =>
    "profile_identifiers entries must be (key, attribute) pairs, got " ++
      Value.writtenSequence (given.map Text.quote)
  | .maxParentDepth given => "max_parent_depth must be >= 1, got " ++ toString given

namespace Config

/-- The rules that every configuration obeys. -/
structure Valid (config : Config) : Prop where
  defaultValueKey : Text.isName config.defaultValueKey = true
  profileIdentifiers : ∀ entry ∈ config.profileIdentifiers,
    Text.isName entry.1 = true ∧ Text.isName entry.2 = true
  maxParentDepth : 1 ≤ config.maxParentDepth

def identifierKeys (config : Config) : List String :=
  userIdKey :: config.profileIdentifiers.map (·.1)

/-- The choice that an override makes, or the choice below it. -/
def choose (fault : Value → ConfigFault) (below : OnMissing) :
    Option Value → Except ConfigFault OnMissing
  | none => .ok below
  | some given =>
    match OnMissing.ofValue? given, given with
    | some choice, _ => .ok choice
    | none, .list _ | none, .record _ => .error (.compoundChoice given.kindName)
    | none, _ => .error (fault given)

/-- A key and an attribute, if the entry is a pair of names. -/
def profileEntry (entry : List String) : Except ConfigFault (String × String) :=
  match entry with
  | [key, source] =>
    if Text.isName key && Text.isName source then .ok (key, source)
    else .error (.profileIdentifier entry)
  | _ => .error (.profileIdentifier entry)

/-- The configuration with the changes made. -/
def merge (config : Config) (changes : Changes) : Except ConfigFault Config := do
  let onMissingPolicy ← choose .onMissingPolicy config.onMissingPolicy changes.onMissingPolicy
  let onMissingIdentifier ←
    choose .onMissingIdentifier config.onMissingIdentifier changes.onMissingIdentifier
  let key := changes.defaultValueKey.getD config.defaultValueKey
  if Text.isName key = false then throw (.defaultValueKey key)
  -- entries that were checked before pass again, so kept and changed ones are treated alike
  let entries := changes.profileIdentifiers.getD
    (config.profileIdentifiers.map fun entry => [entry.1, entry.2])
  let profileIdentifiers ← entries.mapM profileEntry
  -- an integer up to here, since the message shows a negative one as it was given
  let depth := changes.maxParentDepth.getD config.maxParentDepth
  if depth < 1 then throw (.maxParentDepth depth)
  return {
    onMissingPolicy, onMissingIdentifier, profileIdentifiers
    defaultValueKey := key
    logDecisions := changes.logDecisions.getD config.logDecisions
    maxParentDepth := depth.toNat }

def ofChanges (changes : Changes) : Except ConfigFault Config := standard.merge changes

/-- The standard configuration obeys every rule. -/
theorem standard_valid : standard.Valid := by
  refine ⟨by decide, ?_, by decide⟩
  decide

theorem profileEntry_eq_ok {entry : List String} {pair : String × String}
    (h : profileEntry entry = .ok pair) :
    [pair.1, pair.2] = entry ∧ Text.isName pair.1 = true ∧ Text.isName pair.2 = true := by
  unfold profileEntry at h
  split at h
  · split at h
    · rename_i hn
      simp only [Except.ok.injEq] at h
      subst h
      simpa using hn
    · simp at h
  · simp at h

/-- Entries that pass are kept as they are. -/
theorem mapM_profileEntry_eq_ok {entries : List (List String)} {pairs : List (String × String)}
    (h : entries.mapM profileEntry = .ok pairs) :
    (pairs.map fun pair => [pair.1, pair.2]) = entries ∧
      ∀ pair ∈ pairs, Text.isName pair.1 = true ∧ Text.isName pair.2 = true := by
  induction entries generalizing pairs with
  | nil =>
    simp only [List.mapM_nil, pure, Except.pure, Except.ok.injEq] at h
    subst h
    simp
  | cons entry rest ih =>
    rw [List.mapM_cons] at h
    cases he : profileEntry entry with
    | error e => simp [he, bind, Except.bind] at h
    | ok pair =>
      cases hr : rest.mapM profileEntry with
      | error e => simp [he, hr, bind, Except.bind] at h
      | ok later =>
        simp only [he, hr, bind, Except.bind, pure, Except.pure, Except.ok.injEq] at h
        subst h
        obtain ⟨same, names⟩ := profileEntry_eq_ok he
        obtain ⟨others, later⟩ := ih hr
        exact ⟨by rw [List.map_cons, same, others], by simpa using ⟨names, by simpa using later⟩⟩

/-- What a merge comes to if no rule is broken, field by field. -/
structure Merged (config : Config) (changes : Changes) (merged : Config) : Prop where
  onMissingPolicy : choose .onMissingPolicy config.onMissingPolicy changes.onMissingPolicy =
    .ok merged.onMissingPolicy
  onMissingIdentifier :
    choose .onMissingIdentifier config.onMissingIdentifier changes.onMissingIdentifier =
      .ok merged.onMissingIdentifier
  defaultValueKey : merged.defaultValueKey = changes.defaultValueKey.getD config.defaultValueKey
  keyName : Text.isName merged.defaultValueKey = true
  profileIdentifiers : (changes.profileIdentifiers.getD
      (config.profileIdentifiers.map fun entry => [entry.1, entry.2])).mapM profileEntry =
    .ok merged.profileIdentifiers
  logDecisions : merged.logDecisions = changes.logDecisions.getD config.logDecisions
  maxParentDepth :
    (merged.maxParentDepth : Int) = changes.maxParentDepth.getD config.maxParentDepth
  positive : 1 ≤ merged.maxParentDepth

theorem merged_of_merge {config merged : Config} {changes : Changes}
    (h : config.merge changes = .ok merged) : Merged config changes merged := by
  unfold merge at h
  simp only [bind, Except.bind, pure, Except.pure, throw, throwThe, MonadExceptOf.throw] at h
  -- one split for each rule, in the order in which the rules are checked
  split at h
  · simp at h
  · rename_i policy hpolicy
    split at h
    · simp at h
    · rename_i identifier hidentifier
      split at h
      · simp at h
      · rename_i hkey
        split at h
        · simp at h
        · rename_i pairs hpairs
          split at h
          · simp at h
          · rename_i hdepth
            simp only [Except.ok.injEq] at h
            subst h
            refine ⟨hpolicy, hidentifier, rfl, by simpa using hkey, hpairs, rfl, ?_, ?_⟩
            · dsimp only
              omega
            · dsimp only
              omega

/-- Whatever is merged obeys every rule. -/
theorem valid_of_merge {config merged : Config} {changes : Changes}
    (h : config.merge changes = .ok merged) : merged.Valid := by
  have fields := merged_of_merge h
  exact ⟨fields.keyName, (mapM_profileEntry_eq_ok fields.profileIdentifiers).2, fields.positive⟩

theorem mapM_profileEntry_pairs {pairs : List (String × String)}
    (h : ∀ pair ∈ pairs, Text.isName pair.1 = true ∧ Text.isName pair.2 = true) :
    (pairs.map fun pair => [pair.1, pair.2]).mapM profileEntry = .ok pairs := by
  induction pairs with
  | nil => rfl
  | cons pair rest ih =>
    have hp := h pair (by simp)
    have hr := ih fun other ho => h other (by simp [ho])
    rw [List.map_cons, List.mapM_cons, hr]
    simp [profileEntry, hp.1, hp.2, bind, Except.bind, pure, Except.pure]

/-- No change leaves a valid configuration as it is. -/
theorem merge_none {config : Config} (h : config.Valid) :
    config.merge Changes.none = .ok config := by
  have hpos := h.maxParentDepth
  have hdepth : ¬ (config.maxParentDepth : Int) < 1 := by omega
  simp [merge, Changes.none, choose, h.defaultValueKey, hdepth,
    mapM_profileEntry_pairs h.profileIdentifiers, bind, Except.bind, pure, Except.pure]

end Config

end RowSecurity
