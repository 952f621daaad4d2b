/-
Following the links of a resource to the policy that decides for it.

* `Leads`: the links that are followed from a resource, one for each policy that delegates;
* `nestedClause`: memberships in one another, one for each link;
* `Predicate.along`: what becomes of a predicate on its way back along a path of links.

Main statements:

* `outcome_interpret`: the predicate of a policy is that of its decision, on a table that can
  be named;
* `scope_induction`: induction along the links that are followed;
* `scoped_of_scope`: what following links comes to, whenever it comes to a predicate;
* `outcome_scope_of_leads`: links that are followed leave the predicate at their end to be
  brought back along them, if the stack has room for them;
* `outcome_scope_of_unread`: links too many for the stack end in a failure;
* `map_along_ofDecision`: what a decision is when it has been brought back.

Design notes: a path is followed as long as policies delegate, so it is fixed by its length,
and a cycle of links is a path of every length. The stack can only make a run fail, so it stands
in what is said of failures (`HasRoom`) and is left out of what is said of predicates (`Scoped`).
-/
import Mathlib.Data.List.TakeWhile
import RowSecurity.Predicate.Build

namespace RowSecurity

open Audit

/-- A policy value that leaves the decision to the parent of its resource. -/
def PolicyValue.Delegates (value : PolicyValue) : Prop :=
  value = .ready .parentDelegated ∨ value = .raw (.text parentMarker)

theorem PolicyValue.coerce_eq_parentDelegated_iff {key : String} {value : PolicyValue} :
    value.coerce key = some .parentDelegated ↔ value.Delegates := by
  constructor
  · intro h
    rcases cases_of_coerce h with ⟨_, _, same, _⟩ | ready | ⟨marker, -⟩
    · cases same
    · exact .inl ready
    · exact .inr marker
  · rintro (rfl | rfl)
    · rfl
    · rfl

/-- The links that are followed from a resource with a policy to another with another, each
because the policy before it delegates. -/
inductive Leads (links : LinkRegistry) (lookup : Lookup) (role : String) :
    String → PolicyValue → List ParentLink → String → PolicyValue → Prop
  | here {resource : String} {policy : PolicyValue} :
    Leads links lookup role resource policy [] resource policy
  | hop {resource last : String} {policy next value : PolicyValue} {link : ParentLink}
      {path : List ParentLink} :
    policy.Delegates → links.find? resource = some link →
      lookup role link.parentResource = .ok next →
      Leads links lookup role link.parentResource next path last value →
      Leads links lookup role resource policy (link :: path) last value

/-! ### The predicate of a policy -/

theorem resolve_eq (config : Config) (policy : PolicyValue) (identifiers : Fields)
    (entity : String) : resolve config policy identifiers entity =
      ⟨((Decision.ofPolicy config policy identifiers).report entity).trace,
        .ok (Decision.ofPolicy config policy identifiers)⟩ := by
  have reported :
      ((Decision.ofPolicy config policy identifiers).report entity).outcome = .ok () := by
    unfold Decision.report
    split
    · rfl
    · rfl
  unfold resolve
  dsimp only
  rw [Traced.bind_of_ok reported]
  exact Traced.ext (List.append_nil _) rfl

theorem outcome_resolve (config : Config) (policy : PolicyValue) (identifiers : Fields)
    (entity : String) : (resolve config policy identifiers entity).outcome =
      .ok (Decision.ofPolicy config policy identifiers) := by
  rw [resolve_eq]

/-- A policy is interpreted as what is decided about it, on a table that can be named. -/
theorem outcome_interpret {config : Config} {policy : PolicyValue} {identifiers : Fields}
    {table : String} {offset : Int} (start : 0 ≤ offset) :
    (interpret config policy identifiers table offset).outcome =
      if table ≠ "" ∧ Text.isTableName table = false then .ok (.deny offset)
      else (Predicate.ofDecision table offset
        (Decision.ofPolicy config policy identifiers)).mapError .limit := by
  unfold interpret
  rw [if_neg (by omega)]
  split
  · rfl
  · rw [Traced.bind_of_ok (outcome_resolve _ _ _ _)]
    dsimp only
    cases hp : (Predicate.ofDecision table offset
        (Decision.ofPolicy config policy identifiers)).mapError Failure.limit with
    | error failure => rfl
    | ok predicate =>
      rw [Traced.ofExcept_ok_bind]
      split <;> rfl

theorem Text.isTableName_of_isName {s : String} (h : isName s = true) : isTableName s = true := by
  have noPoint : ∀ c ∈ dropFinalBreak s.toList, (c != '.') = true := by
    intro c hc
    have name := continuesName_of_mem_plainName h hc
    rw [bne_iff_ne]
    rintro rfl
    exact absurd name (by decide)
  rw [isTableName, plainPath, List.takeWhile_eq_self_iff.mpr noPoint]
  rw [List.dropWhile_eq_nil_iff.mpr noPoint]
  exact h

theorem Text.ne_empty_of_isName {s : String} (h : isName s = true) : s ≠ "" := by
  rintro rfl
  exact absurd h (by decide)

theorem ParentLink.isName_foreignKey (link : ParentLink) : Text.isName link.foreignKey = true :=
  link.plain (.foreignKey, link.foreignKey) (by simp [LinkForm.columns])

/-- The parent's table of a link can be named. -/
theorem ParentLink.isName_parentTable (link : ParentLink) :
    Text.isName link.parentTable = true :=
  link.plain (.parentTable, link.parentTable) (by simp [LinkForm.columns])

theorem ParentLink.isName_parentKey (link : ParentLink) : Text.isName link.parentKey = true :=
  link.plain (.parentKey, link.parentKey) (by simp [LinkForm.columns])

/-! ### One link -/

/-- The table of a link's child, if it is not named otherwise. -/
def ParentLink.tableFor (link : ParentLink) (table : String) : String :=
  if table = "" then link.childTable else table

/-- What the predicate on the parent's table of a link is on its child's table. -/
def Predicate.through (link : ParentLink) (table : String) (offset : Int) (parent : Predicate) :
    Predicate :=
  if parent.deniesAll then .deny offset
  else if parent.showsAll then .unrestricted offset
  else if Text.isTableName (link.tableFor table) then
    .restrict (link.membership (link.tableFor table) parent.clause) parent.values offset
  else .deny offset

section Child

variable {stack : Stack} {link : ParentLink} {table entity detail : String} {offset : Int}
  {parent predicate : Predicate} {failure : Failure}

theorem outcome_denyLink (fits : stack.Fits (.report entity)) (detail : String) (offset : Int) :
    (denyLink stack entity detail offset).outcome = .ok (.deny offset) := by
  unfold denyLink
  rw [Stack.within_of_fits fits]
  rfl

theorem eq_deny_of_denyLink
    (h : (denyLink stack entity detail offset).outcome = .ok predicate) :
    predicate = .deny offset := by
  obtain ⟨fits, -⟩ := Stack.outcome_within_eq_ok h
  rw [outcome_denyLink fits] at h
  cases h
  rfl

theorem denyLink_eq_error (h : (denyLink stack entity detail offset).outcome = .error failure) :
    ¬ stack.Fits (.report entity) ∧ failure = stack.overflow (.report entity) := by
  rcases Stack.outcome_within_eq_error h with ⟨-, ended⟩ | short
  · cases ended
  · exact short

/-- A predicate comes through a link as it is on the child's table, or has to be denied there. -/
theorem outcome_scopeChild_cases (stack : Stack) (link : ParentLink) (table : String)
    (offset : Int) (parent : Predicate) :
    (scopeChild stack link table offset parent).outcome =
        .ok (parent.through link table offset) ∨
      scopeChild stack link table offset parent =
          denyLink stack (link.tableFor table) badTableDetail offset ∧
        parent.through link table offset = .deny offset := by
  unfold scopeChild Predicate.through ParentLink.tableFor
  dsimp only
  split
  · exact .inl rfl
  · split
    · exact .inl rfl
    · cases Text.isTableName (if table = "" then link.childTable else table) with
      | true => exact .inl rfl
      | false => exact .inr ⟨rfl, rfl⟩

theorem outcome_scopeChild (room : stack.HasRoom 0) (link : ParentLink) (table : String)
    (offset : Int) (parent : Predicate) :
    (scopeChild stack link table offset parent).outcome =
      .ok (parent.through link table offset) := by
  rcases outcome_scopeChild_cases stack link table offset parent with ended | ⟨same, denied⟩
  · exact ended
  · rw [same, denied, outcome_denyLink (room.fits _)]

theorem eq_through_of_scopeChild
    (h : (scopeChild stack link table offset parent).outcome = .ok predicate) :
    predicate = parent.through link table offset := by
  rcases outcome_scopeChild_cases stack link table offset parent with ended | ⟨same, denied⟩
  · rw [ended] at h
    cases h
    rfl
  · rw [same] at h
    rw [denied, eq_deny_of_denyLink h]

theorem scopeChild_eq_error
    (h : (scopeChild stack link table offset parent).outcome = .error failure) :
    ∃ call, ¬ stack.Fits call ∧ failure = stack.overflow call := by
  rcases outcome_scopeChild_cases stack link table offset parent with ended | ⟨same, -⟩
  · rw [ended] at h
    cases h
  · rw [same] at h
    exact ⟨_, denyLink_eq_error h⟩

theorem outcome_bind_scopeChild (room : stack.HasRoom 0) (parent : Traced Predicate)
    (link : ParentLink) (table : String) (offset : Int) :
    (parent >>= scopeChild stack link table offset).outcome =
      parent.outcome.map (Predicate.through link table offset) := by
  cases ended : parent.outcome with
  | error failure =>
    rw [Traced.bind_of_error ended]
    rfl
  | ok predicate =>
    rw [Traced.bind_of_ok ended]
    exact outcome_scopeChild room link table offset predicate

end Child

/-! ### One step -/

variable (setting : ScopeSetting) {stack : Stack} {resource : String} {policy : PolicyValue}
  {table : String} {hops : Nat}

theorem scope_of_unread (unread : ¬ stack.Fits (.read policy)) :
    scope setting hops stack resource policy table = .fail (stack.overflow (.read policy)) := by
  unfold scope
  rw [show Traced.ok (policy.coerce setting.config.defaultValueKey) = .ofExcept (.ok _) from rfl,
    Stack.within_ofExcept_of_not_fits unread]
  rfl

section Step

variable (fits : stack.Fits (.read policy))
include fits

theorem scope_of_not_delegates (decides : ¬ policy.Delegates) :
    scope setting hops stack resource policy table = stack.within (.interpret policy table)
      (interpret setting.config policy setting.identifiers table setting.offset) := by
  unfold scope
  rw [Stack.within_of_fits fits, Traced.ok_bind,
    if_neg (fun h => decides (PolicyValue.coerce_eq_parentDelegated_iff.mp h))]

variable (delegates : policy.Delegates)
include delegates

theorem scope_of_no_link (unlinked : setting.links.find? resource = none) :
    scope setting hops stack resource policy table =
      denyLink stack resource missingLinkDetail setting.offset := by
  unfold scope
  rw [Stack.within_of_fits fits, Traced.ok_bind,
    if_pos (PolicyValue.coerce_eq_parentDelegated_iff.mpr delegates), unlinked]

variable {link : ParentLink} (linked : setting.links.find? resource = some link)
include linked

theorem scope_of_no_hops :
    scope setting 0 stack resource policy table =
      denyLink stack resource (longChainDetail setting.config) setting.offset := by
  unfold scope
  rw [Stack.within_of_fits fits, Traced.ok_bind,
    if_pos (PolicyValue.coerce_eq_parentDelegated_iff.mpr delegates), linked]

theorem scope_of_link :
    scope setting (hops + 1) stack resource policy table =
      (stack.within (.lookup link.parentResource)
          (.ofExcept (setting.lookup setting.role link.parentResource)) >>= fun next =>
        scope setting hops (stack.below 1) link.parentResource next link.parentTable >>=
          scopeChild stack link table setting.offset) := by
  rw [scope]
  rw [Stack.within_of_fits fits, Traced.ok_bind,
    if_pos (PolicyValue.coerce_eq_parentDelegated_iff.mpr delegates), linked]

theorem scope_of_unasked (unasked : ¬ stack.Fits (.lookup link.parentResource)) :
    scope setting (hops + 1) stack resource policy table =
      .fail (stack.overflow (.lookup link.parentResource)) := by
  rw [scope_of_link setting fits delegates linked, Stack.within_ofExcept_of_not_fits unasked]
  rfl

variable (asked : stack.Fits (.lookup link.parentResource))
include asked

theorem scope_of_no_answer {failure : Failure}
    (fails : setting.lookup setting.role link.parentResource = .error failure) :
    scope setting (hops + 1) stack resource policy table = .fail failure := by
  rw [scope_of_link setting fits delegates linked, Stack.within_of_fits asked, fails]
  rfl

theorem scope_of_hop {next : PolicyValue}
    (found : setting.lookup setting.role link.parentResource = .ok next) :
    scope setting (hops + 1) stack resource policy table =
      (scope setting hops (stack.below 1) link.parentResource next link.parentTable >>=
        scopeChild stack link table setting.offset) := by
  rw [scope_of_link setting fits delegates linked, Stack.within_of_fits asked, found,
    Traced.ofExcept_ok_bind]

end Step

/-- Induction along the links that are followed. The stack may be too short to read the policy, or
to look up the next one. Otherwise a policy may decide by itself, have no link to follow, or be out
of hops; the parent's policy may not be given; or it is followed in its turn, one call further in. -/
@[elab_as_elim]
theorem scope_induction (links : LinkRegistry) (lookup : Lookup) (role : String)
    {motive : Nat → Stack → String → PolicyValue → String → Prop}
    (unread : ∀ hops stack resource policy table, ¬ stack.Fits (.read policy) →
      motive hops stack resource policy table)
    (decides : ∀ hops stack resource policy table, stack.Fits (.read policy) →
      ¬ policy.Delegates → motive hops stack resource policy table)
    (unlinked : ∀ hops stack resource policy table, stack.Fits (.read policy) →
      policy.Delegates → links.find? resource = none → motive hops stack resource policy table)
    (full : ∀ stack resource policy table link, stack.Fits (.read policy) → policy.Delegates →
      links.find? resource = some link → motive 0 stack resource policy table)
    (unasked : ∀ hops stack resource policy table link, stack.Fits (.read policy) →
      policy.Delegates → links.find? resource = some link →
      ¬ stack.Fits (.lookup link.parentResource) → motive (hops + 1) stack resource policy table)
    (unanswered : ∀ hops stack resource policy table link failure, stack.Fits (.read policy) →
      policy.Delegates → links.find? resource = some link →
      stack.Fits (.lookup link.parentResource) →
      lookup role link.parentResource = .error failure →
      motive (hops + 1) stack resource policy table)
    (hop : ∀ hops stack resource policy table link next, stack.Fits (.read policy) →
      policy.Delegates → links.find? resource = some link →
      stack.Fits (.lookup link.parentResource) → lookup role link.parentResource = .ok next →
      motive hops (stack.below 1) link.parentResource next link.parentTable →
      motive (hops + 1) stack resource policy table)
    (hops : Nat) (stack : Stack) (resource : String) (policy : PolicyValue) (table : String) :
    motive hops stack resource policy table := by
  induction hops generalizing stack resource policy table with
  | zero =>
    by_cases fits : stack.Fits (.read policy)
    · by_cases delegates : policy.Delegates
      · cases linked : links.find? resource with
        | none => exact unlinked 0 stack resource policy table fits delegates linked
        | some link => exact full stack resource policy table link fits delegates linked
      · exact decides 0 stack resource policy table fits delegates
    · exact unread 0 stack resource policy table fits
  | succ hops ih =>
    by_cases fits : stack.Fits (.read policy)
    · by_cases delegates : policy.Delegates
      · cases linked : links.find? resource with
        | none => exact unlinked _ stack resource policy table fits delegates linked
        | some link =>
          by_cases asked : stack.Fits (.lookup link.parentResource)
          · cases found : lookup role link.parentResource with
            | error failure =>
              exact unanswered hops _ _ _ _ link failure fits delegates linked asked found
            | ok next =>
              exact hop hops _ _ _ _ link next fits delegates linked asked found (ih _ _ _ _)
          · exact unasked hops _ _ _ _ link fits delegates linked asked
      · exact decides _ stack resource policy table fits delegates
    · exact unread _ stack resource policy table fits

/-- What following links comes to where it comes to a predicate: a policy that does not delegate is
interpreted, a link that is missing or one too many denies, and any other brings the predicate of
the parent back. -/
inductive Scoped (setting : ScopeSetting) :
    Nat → String → PolicyValue → String → Predicate → Prop
  | decided {hops : Nat} {resource : String} {policy : PolicyValue} {table : String}
    {predicate : Predicate} :
    ¬ policy.Delegates →
      (interpret setting.config policy setting.identifiers table setting.offset).outcome =
        .ok predicate →
      Scoped setting hops resource policy table predicate
  | denied {hops : Nat} {resource : String} {policy : PolicyValue} {table : String} :
    policy.Delegates → setting.links.find? resource = none ∨ hops = 0 →
      Scoped setting hops resource policy table (.deny setting.offset)
  | hop {hops : Nat} {resource : String} {policy next : PolicyValue} {table : String}
    {link : ParentLink} {parent : Predicate} :
    policy.Delegates → setting.links.find? resource = some link →
      setting.lookup setting.role link.parentResource = .ok next →
      Scoped setting hops link.parentResource next link.parentTable parent →
      Scoped setting (hops + 1) resource policy table (parent.through link table setting.offset)

/-- However long the stack is, it can only keep following links from coming to a predicate. -/
theorem scoped_of_scope {predicate : Predicate}
    (h : (scope setting hops stack resource policy table).outcome = .ok predicate) :
    Scoped setting hops resource policy table predicate := by
  induction hops, stack, resource, policy, table
    using scope_induction setting.links setting.lookup setting.role generalizing predicate with
  | unread hops stack resource policy table unread =>
    rw [scope_of_unread setting unread] at h
    cases h
  | decides hops stack resource policy table fits decides =>
    rw [scope_of_not_delegates setting fits decides] at h
    exact .decided decides (Stack.outcome_within_eq_ok h).2
  | unlinked hops stack resource policy table fits delegates linked =>
    rw [scope_of_no_link setting fits delegates linked] at h
    rw [eq_deny_of_denyLink h]
    exact .denied delegates (.inl linked)
  | full stack resource policy table link fits delegates linked =>
    rw [scope_of_no_hops setting fits delegates linked] at h
    rw [eq_deny_of_denyLink h]
    exact .denied delegates (.inr rfl)
  | unasked hops stack resource policy table link fits delegates linked unasked =>
    rw [scope_of_unasked setting fits delegates linked unasked] at h
    cases h
  | unanswered hops stack resource policy table link failure fits delegates linked asked fails =>
    rw [scope_of_no_answer setting fits delegates linked asked fails] at h
    cases h
  | hop hops stack resource policy table link next fits delegates linked asked found ih =>
    rw [scope_of_hop setting fits delegates linked asked found] at h
    obtain ⟨parent, followed, h⟩ := Traced.outcome_bind_eq_ok_iff.mp h
    rw [eq_through_of_scopeChild h]
    exact .hop delegates linked found (ih followed)

/-! ### A path of links -/

/-- The table at the end of a path of links that starts on a table. -/
def lastTable : List ParentLink → String → String
  | [], table => table
  | link :: path, _ => lastTable path link.parentTable

/-- What a predicate on the table at the end of a path is on the table at its start. -/
def Predicate.along (offset : Int) : List ParentLink → String → Predicate → Predicate
  | [], _, predicate => predicate
  | link :: path, table, predicate =>
    (along offset path link.parentTable predicate).through link table offset

variable {last : String} {value : PolicyValue} {path : List ParentLink} (spare : Nat)

/-- Following a path leaves the predicate at its end to be brought back along it. -/
theorem outcome_scope_of_leads
    (leads : Leads setting.links setting.lookup setting.role resource policy path last value)
    (room : stack.HasRoom path.length) :
    ∀ table : String, (scope setting (path.length + spare) stack resource policy table).outcome =
      (scope setting spare (stack.below path.length) last value (lastTable path table)).outcome.map
        (Predicate.along setting.offset path table) := by
  induction leads generalizing stack with
  | here =>
    intro table
    rw [List.length_nil, Nat.zero_add, Stack.below_zero, lastTable]
    cases (scope setting spare stack _ _ table).outcome with
    | error failure => rfl
    | ok predicate => rfl
  | @hop resource last policy next value link path delegates linked found _ ih =>
    intro table
    -- there is room for this step, and after it for the rest of the path one call further in
    have here : stack.HasRoom 0 := room.of_le (Nat.zero_le _)
    rw [List.length_cons, Nat.add_comm] at room
    rw [List.length_cons, Nat.add_right_comm,
      scope_of_hop setting (here.fits _) delegates linked (here.fits _) found, lastTable]
    rw [outcome_bind_scopeChild here, ih (Stack.hasRoom_below.mpr room) link.parentTable,
      Stack.below_below, Nat.add_comm 1]
    cases (scope setting spare (stack.below (path.length + 1)) last value
        (lastTable path link.parentTable)).outcome with
    | error failure => rfl
    | ok predicate => rfl

/-- Where the stack is too short for the policy at the end of a path, some call on the way there has
failed for want of room. -/
theorem outcome_scope_of_unread
    (leads : Leads setting.links setting.lookup setting.role resource policy path last value)
    (unread : ¬ (stack.below path.length).Fits (.read value)) :
    ∀ table : String, ∃ call,
      (scope setting (path.length + spare) stack resource policy table).outcome =
        .error (stack.overflow call) := by
  induction leads generalizing stack with
  | @here resource policy =>
    intro table
    rw [List.length_nil, Stack.below_zero] at unread
    rw [scope_of_unread setting unread]
    exact ⟨_, rfl⟩
  | @hop resource last policy next value link path delegates linked found _ ih =>
    intro table
    -- the first call without room fails, and it may well be one before the end of the path
    by_cases fits : stack.Fits (.read policy)
    · rw [List.length_cons, Nat.add_right_comm]
      by_cases asked : stack.Fits (.lookup link.parentResource)
      · rw [scope_of_hop setting fits delegates linked asked found]
        rw [List.length_cons, Nat.add_comm, ← Stack.below_below] at unread
        obtain ⟨call, ended⟩ := ih unread link.parentTable
        rw [Traced.bind_of_error ended]
        exact ⟨call, rfl⟩
      · rw [scope_of_unasked setting fits delegates linked asked]
        exact ⟨_, rfl⟩
    · rw [scope_of_unread setting fits]
      exact ⟨_, rfl⟩

/-- A path that can be followed no further depends on no lookup but its own. -/
theorem scope_eq_of_agree {other : Lookup}
    (leads : Leads setting.links setting.lookup setting.role resource policy path last value)
    (ends : ¬ value.Delegates ∨ setting.links.find? last = none ∨ spare = 0) :
    (∀ link ∈ path, other setting.role link.parentResource =
      setting.lookup setting.role link.parentResource) →
    ∀ table : String,
      scope { setting with lookup := other } (path.length + spare) stack resource policy table =
        scope setting (path.length + spare) stack resource policy table := by
  induction leads generalizing stack with
  | @here resource policy =>
    intro _ table
    rw [List.length_nil, Nat.zero_add]
    by_cases fits : stack.Fits (.read policy)
    · rcases ends with decides | unlinked | rfl
      · rw [scope_of_not_delegates _ fits decides, scope_of_not_delegates _ fits decides]
      · by_cases delegates : policy.Delegates
        · rw [scope_of_no_link setting fits delegates unlinked,
            scope_of_no_link { setting with lookup := other } fits delegates unlinked]
        · rw [scope_of_not_delegates _ fits delegates, scope_of_not_delegates _ fits delegates]
      · rw [scope, scope]
    · rw [scope_of_unread _ fits, scope_of_unread _ fits]
  | @hop resource last policy next value link path delegates linked found _ ih =>
    intro agree table
    have same : other setting.role link.parentResource = .ok next :=
      (agree link List.mem_cons_self).trans found
    rw [List.length_cons, Nat.add_right_comm]
    by_cases fits : stack.Fits (.read policy)
    · by_cases asked : stack.Fits (.lookup link.parentResource)
      · rw [scope_of_hop setting fits delegates linked asked found,
          scope_of_hop { setting with lookup := other } fits delegates linked asked same]
        rw [ih ends (fun link member => agree link (List.mem_cons_of_mem _ member))]
      · rw [scope_of_unasked setting fits delegates linked asked,
          scope_of_unasked { setting with lookup := other } fits delegates linked asked]
    · rw [scope_of_unread _ fits, scope_of_unread _ fits]

/-- Links can be followed until a policy decides, a link is missing, or the bound is reached. -/
theorem exists_leads_within (links : LinkRegistry) {lookup : Lookup} {role : String}
    (answers : ∀ resource, ∃ value, lookup role resource = .ok value) :
    ∀ (bound : Nat) (resource : String) (policy : PolicyValue), ∃ path last value,
      Leads links lookup role resource policy path last value ∧ path.length ≤ bound ∧
        (¬ value.Delegates ∨ links.find? last = none ∨ path.length = bound) := by
  intro bound
  induction bound with
  | zero =>
    intro resource policy
    exact ⟨[], resource, policy, .here, Nat.le_refl 0, .inr (.inr rfl)⟩
  | succ bound ih =>
    intro resource policy
    by_cases delegates : policy.Delegates
    · cases linked : links.find? resource with
      | none => exact ⟨[], resource, policy, .here, Nat.zero_le _, .inr (.inl linked)⟩
      | some link =>
        obtain ⟨next, found⟩ := answers link.parentResource
        obtain ⟨path, last, value, leads, short, ends⟩ := ih link.parentResource next
        refine ⟨link :: path, last, value, .hop delegates linked found leads, ?_, ?_⟩
        · rw [List.length_cons]
          omega
        · rcases ends with decides | unlinked | full
          · exact .inl decides
          · exact .inr (.inl unlinked)
          · exact .inr (.inr (by rw [List.length_cons, full]))
    · exact ⟨[], resource, policy, .here, Nat.zero_le _, .inl delegates⟩

/-! ### Predicates on their way back -/

/-- Memberships in one another along a path of links, around the condition at its end. -/
def nestedClause : String → List ParentLink → String → String
  | _, [], clause => clause
  | table, link :: path, clause =>
    link.membership table (nestedClause link.parentTable path clause)

theorem ParentLink.membership_ne_empty (link : ParentLink) (table clause : String) :
    link.membership table clause ≠ "" := by
  intro h
  have := congrArg String.length h
  simp only [membership, String.length_append] at this
  have one : ".".length = 1 := rfl
  have none : "".length = 0 := rfl
  omega

theorem nestedClause_ne_empty {clause : String} (h : clause ≠ "") (table : String)
    (path : List ParentLink) : nestedClause table path clause ≠ "" := by
  cases path with
  | nil => exact h
  | cons link path => exact link.membership_ne_empty _ _

theorem Predicate.along_deny (offset : Int) (path : List ParentLink) :
    ∀ table : String, (Predicate.deny offset).along offset path table = .deny offset := by
  induction path with
  | nil => exact fun _ => rfl
  | cons link path ih =>
    intro table
    rw [along, ih]
    rfl

theorem Predicate.along_unrestricted (offset : Int) (path : List ParentLink) :
    ∀ table : String,
      (Predicate.unrestricted offset).along offset path table = .unrestricted offset := by
  induction path with
  | nil => exact fun _ => rfl
  | cons link path ih =>
    intro table
    rw [along, ih]
    rfl

theorem Predicate.through_restrict (link : ParentLink) (table : String) (offset : Int)
    {clause : String} (hc : clause ≠ "") (values : List Value) :
    (Predicate.restrict clause values offset).through link table offset =
      if Text.isTableName (link.tableFor table) then
        .restrict (link.membership (link.tableFor table) clause) values offset
      else .deny offset := by
  have shown : (Predicate.restrict clause values offset).showsAll = false := by
    simp [Predicate.showsAll, Predicate.restrict, hc]
  rw [through, if_neg (by simp [Predicate.restrict]), if_neg (by simp [shown])]
  rfl

theorem scopeChild_restrict (stack : Stack) (link : ParentLink) (table : String) (offset : Int)
    {clause : String} (hc : clause ≠ "") (values : List Value) :
    scopeChild stack link table offset (.restrict clause values offset) =
      if Text.isTableName (link.tableFor table) then
        .ok (.restrict (link.membership (link.tableFor table) clause) values offset)
      else denyLink stack (link.tableFor table) badTableDetail offset := by
  have shown : (Predicate.restrict clause values offset).showsAll = false := by
    simp [Predicate.showsAll, Predicate.restrict, hc]
  unfold scopeChild ParentLink.tableFor
  dsimp only
  rw [if_neg (by simp [Predicate.restrict]), if_neg (by simp [shown])]
  cases Text.isTableName (if table = "" then link.childTable else table) with
  | true => rfl
  | false => rfl

/-- A restriction at the end of a path comes back as memberships in one another, if the table at
its start can be named; all other tables of the path can. -/
theorem Predicate.along_restrict {clause : String} (hc : clause ≠ "") (values : List Value)
    (offset : Int) (path : List ParentLink) : ∀ (link : ParentLink) (table : String),
    (Predicate.restrict clause values offset).along offset (link :: path) table =
      if Text.isTableName (link.tableFor table) then
        .restrict (nestedClause (link.tableFor table) (link :: path) clause) values offset
      else .deny offset := by
  induction path with
  | nil => exact fun link table => through_restrict link table offset hc values
  | cons next path ih =>
    intro link table
    have name := link.isName_parentTable
    have sameTable : next.tableFor link.parentTable = link.parentTable :=
      if_neg (Text.ne_empty_of_isName name)
    rw [along, ih next link.parentTable, sameTable, if_pos (Text.isTableName_of_isName name)]
    rw [through_restrict link table offset (nestedClause_ne_empty hc _ _) values]
    rfl

/-- The predicate that a decision at the end of a path of links gives on the table at its
start. -/
def Decision.predicateAlong (path : List ParentLink) (first : String) (offset : Int) :
    Decision → Except LimitFault Predicate
  | .all => .ok (.unrestricted offset)
  | .deny _ => .ok (.deny offset)
  | .restrict field _ value =>
    (Sql.placeholder (offset + 1)).map fun number =>
      if Text.isTableName first then
        .restrict (nestedClause first path
          (lastTable path first ++ "." ++ field ++ " = " ++ String.ofList number)) [value] offset
      else .deny offset

theorem isName_lastTable (path : List ParentLink) : ∀ (link : ParentLink) (table : String),
    Text.isName (lastTable (link :: path) table) = true := by
  induction path with
  | nil => exact fun link _ => link.isName_parentTable
  | cons next path ih => exact fun link _ => ih next link.parentTable

theorem map_along_ofDecision (decision : Decision) (link : ParentLink) (path : List ParentLink)
    (table : String) (offset : Int) :
    (Predicate.ofDecision (lastTable (link :: path) table) offset decision).map
        (Predicate.along offset (link :: path) table) =
      decision.predicateAlong (link :: path) (link.tableFor table) offset := by
  cases decision with
  | all => exact congrArg Except.ok (Predicate.along_unrestricted offset (link :: path) table)
  | deny denial => exact congrArg Except.ok (Predicate.along_deny offset (link :: path) table)
  | restrict field key value =>
    have named := Text.ne_empty_of_isName (isName_lastTable path link table)
    rw [Predicate.ofDecision, Decision.predicateAlong]
    cases Sql.placeholder (offset + 1) with
    | error fault => rfl
    | ok number =>
      refine congrArg Except.ok ?_
      rw [columnText, if_neg named, Predicate.along_restrict]
      · rfl
      · intro h
        have := congrArg String.length h
        simp only [String.length_append] at this
        have equals : " = ".length = 3 := rfl
        have none : "".length = 0 := rfl
        omega

/-! ### Every path -/

section Path

variable {links : LinkRegistry} {lookup : Lookup} {role middle : String} {between : PolicyValue}
  {path₁ path₂ loop : List ParentLink}

theorem Leads.trans (first : Leads links lookup role resource policy path₁ middle between)
    (second : Leads links lookup role middle between path₂ last value) :
    Leads links lookup role resource policy (path₁ ++ path₂) last value := by
  induction first with
  | here => exact second
  | hop delegates linked found _ ih => exact .hop delegates linked found (ih second)

/-- A path has a place after each number of links below its length, and there the policy
delegates along a link. -/
theorem Leads.exists_at
    (leads : Leads links lookup role resource policy path last value) :
    ∀ n < path.length, ∃ before middle between,
      Leads links lookup role resource policy before middle between ∧ before.length = n ∧
        between.Delegates ∧ ∃ link, links.find? middle = some link := by
  induction leads with
  | here =>
    intro n hn
    exact absurd hn (Nat.not_lt_zero n)
  | @hop resource last policy next value link path delegates linked found _ ih =>
    intro n hn
    rcases n with _ | n
    · exact ⟨[], resource, policy, .here, rfl, delegates, link, linked⟩
    · rw [List.length_cons] at hn
      obtain ⟨before, middle, between, leads, length, rest⟩ := ih n (by omega)
      exact ⟨link :: before, middle, between, .hop delegates linked found leads,
        by rw [List.length_cons, length], rest⟩

/-- A loop of links can be followed any number of times. -/
theorem Leads.exists_longer (loops : Leads links lookup role resource policy loop resource policy)
    (nonempty : loop ≠ []) :
    ∀ n, ∃ path, Leads links lookup role resource policy path resource policy ∧
      n ≤ path.length := by
  intro n
  induction n with
  | zero => exact ⟨[], .here, Nat.zero_le _⟩
  | succ n ih =>
    obtain ⟨path, leads, long⟩ := ih
    have := List.length_pos_iff.mpr nonempty
    refine ⟨loop ++ path, loops.trans leads, ?_⟩
    rw [List.length_append]
    omega

end Path

end RowSecurity
