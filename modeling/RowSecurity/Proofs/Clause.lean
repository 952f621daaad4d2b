/-
The clause of a predicate, as it is placed after the values of a base condition.

* `ClauseFrame`: what stands before and after the placeholder of a restriction;
* `Predicate.PlacedAfter`: the clauses that a predicate may have after other values;
* `Predicate.Framed`: the predicates with a condition that are built.

Main statements:

* `RestrictionText.exists_frame`: a restriction is a frame around its placeholder;
* `buildPredicate_placed`: a predicate that is not empty can be placed after any values, and its
  placeholder is then the one after them.

Design notes: the frame is the same for each number, so moving a restriction needs nothing but the
frame.
-/
import RowSecurity.Predicate.Compose
import RowSecurity.Proofs.Grant
import RowSecurity.Proofs.Lexing

namespace RowSecurity

open Text

/-! ### The characters of names -/

/-- A name, with a schema or without, has no other characters than these. -/
def Text.isNameChar (c : Char) : Bool := continuesName c || c == '.' || c == '\n'

theorem Text.isNameChar_of_plainPath {cs : List Char} (h : plainPath cs = true) {c : Char}
    (member : c ∈ cs) : isNameChar c = true := by
  have named : ∀ {ds : List Char}, plainName ds = true → ∀ d ∈ ds, isNameChar d = true := by
    intro ds name d hd
    rw [isNameChar, continuesName_of_mem_plainName name hd]
    rfl
  -- a character stands before the point, is the point, or stands after it
  rw [← List.takeWhile_append_dropWhile (p := (· != '.')) (l := cs), List.mem_append] at member
  unfold plainPath at h
  dsimp only at h
  split at h
  · rename_i rest
    rw [rest] at member
    exact named h c (member.resolve_right List.not_mem_nil)
  · rename_i point second rest
    rw [Bool.and_eq_true] at h
    rcases member with member | member
    · exact named h.1 c member
    · rw [rest] at member
      rcases List.mem_cons.mp member with rfl | member
      · have stop := List.head?_dropWhile_not (· != '.') cs
        rw [rest] at stop
        have point : c = '.' := by simpa using stop
        rw [point]
        rfl
      · exact named h.2 c member

theorem Text.isNameChar_of_isTableName {s : String} (h : isTableName s = true) :
    ∀ c ∈ s.toList, isNameChar c = true := by
  intro c member
  rw [isTableName, dropFinalBreak] at h
  split at h
  · rename_i last
    obtain ⟨front, whole⟩ := List.getLast?_eq_some_iff.mp last
    rw [whole, List.dropLast_concat] at h
    rw [whole, List.mem_append] at member
    rcases member with member | member
    · exact isNameChar_of_plainPath h member
    · rw [List.mem_singleton.mp member]
      rfl
  · exact isNameChar_of_plainPath h member

/-- The characters of names and of the blanks that separate them. -/
def Text.isPhraseChar (c : Char) : Bool := isNameChar c || c == ' '

/-- Names and blanks: text without marks, parentheses and placeholders. -/
def Sql.Phrase (cs : List Char) : Prop := ∀ c ∈ cs, isPhraseChar c = true

instance (cs : List Char) : Decidable (Sql.Phrase cs) :=
  List.decidableBAll (fun c => isPhraseChar c = true) cs

theorem Sql.Phrase.append {cs ds : List Char} (hc : Phrase cs) (hd : Phrase ds) :
    Phrase (cs ++ ds) := by
  intro c member
  rcases List.mem_append.mp member with member | member
  · exact hc c member
  · exact hd c member

theorem Sql.Phrase.quiet {cs : List Char} (h : Phrase cs) : Quiet cs := by
  intro c member
  refine ⟨isMark_of_class (h c member) (by decide) (by decide), ?_⟩
  rintro rfl
  exact absurd (h '$' member) (by decide)

theorem Sql.phrase_of_isTableName {s : String} (h : isTableName s = true) : Phrase s.toList := by
  intro c member
  rw [isPhraseChar, isNameChar_of_isTableName h c member]
  rfl

theorem Sql.phrase_of_isName {s : String} (h : isName s = true) : Phrase s.toList :=
  phrase_of_isTableName (isTableName_of_isName h)

theorem phrase_columnText {table field : String}
    (named : table = "" ∨ isTableName table = true) (name : isName field = true) :
    Sql.Phrase (columnText table field).toList := by
  unfold columnText
  split
  · exact Sql.phrase_of_isName name
  · rename_i given
    have point : Sql.Phrase ".".toList := by decide
    rw [String.toList_append, String.toList_append]
    exact ((Sql.phrase_of_isTableName (named.resolve_left given)).append point).append
      (Sql.phrase_of_isName name)

/-! ### Restrictions around their placeholder -/

/-- The column of a link's child that refers to the parent. -/
def ParentLink.reference (link : ParentLink) (table : String) : String :=
  table ++ "." ++ link.foreignKey

/-- What selects the rows of a link's parent, up to their condition. -/
def ParentLink.selection (link : ParentLink) : String :=
  "SELECT " ++ link.parentTable ++ "." ++ link.parentKey ++ " FROM " ++ link.parentTable ++
    " WHERE "

theorem ParentLink.membership_eq (link : ParentLink) (table clause : String) :
    link.membership table clause =
      link.reference table ++ " IN " ++ ("(" ++ (link.selection ++ clause) ++ ")") := by
  rw [← String.toList_inj]
  simp only [membership, reference, selection, String.toList_append, List.append_assoc]
  rfl

/-- What stands before and after the placeholder of a restriction, whatever its number. -/
inductive ClauseFrame : List Char → List Char → Prop
  | column {table field : String} : (table = "" ∨ isTableName table = true) → isName field = true →
    ClauseFrame ((columnText table field).toList ++ " = ".toList) []
  | member {before after : List Char} (link : ParentLink) {table : String} :
    isTableName table = true → ClauseFrame before after →
    ClauseFrame ((link.reference table).toList ++ " IN ".toList ++
      ('(' :: (link.selection.toList ++ before))) (after ++ [')'])

theorem ParentLink.phrase_reference (link : ParentLink) {table : String}
    (named : isTableName table = true) : Sql.Phrase (link.reference table).toList := by
  have point : Sql.Phrase ".".toList := by decide
  rw [reference, String.toList_append, String.toList_append]
  exact ((Sql.phrase_of_isTableName named).append point).append
    (Sql.phrase_of_isName link.isName_foreignKey)

theorem ParentLink.phrase_selection (link : ParentLink) : Sql.Phrase link.selection.toList := by
  have parent := Sql.phrase_of_isName link.isName_parentTable
  have key := Sql.phrase_of_isName link.isName_parentKey
  have select : Sql.Phrase "SELECT ".toList := by decide
  have point : Sql.Phrase ".".toList := by decide
  have source : Sql.Phrase " FROM ".toList := by decide
  have keyword : Sql.Phrase " WHERE ".toList := by decide
  rw [selection]
  simp only [String.toList_append]
  exact (((((select.append parent).append point).append key).append source).append parent).append
    keyword

variable {before after : List Char}

theorem ClauseFrame.quietBefore (frame : ClauseFrame before after) : Sql.Quiet before := by
  induction frame with
  | column named name =>
    have equals : Sql.Quiet " = ".toList := by decide
    exact (phrase_columnText named name).quiet.append equals
  | member link named _ ih =>
    have reference := (link.phrase_reference named).quiet
    have among : Sql.Quiet " IN ".toList := by decide
    have opening : Sql.Quiet ['('] := by decide
    exact (reference.append among).append (opening.append (link.phrase_selection.quiet.append ih))

theorem ClauseFrame.quietAfter (frame : ClauseFrame before after) : Sql.Quiet after := by
  induction frame with
  | column _ _ => decide
  | member _ _ _ ih =>
    have closing : Sql.Quiet [')'] := by decide
    exact ih.append closing

/-- The digits of the placeholder end where it ends. -/
theorem ClauseFrame.stops (frame : ClauseFrame before after) :
    after.head?.any isDigit = false := by
  induction frame with
  | column _ _ => rfl
  | @member before after _ _ _ _ ih =>
    cases after with
    | nil => rfl
    | cons c cs => exact ih

/-- A comparison, in the parts of its frame. -/
theorem column_text (table field : String) (number : List Char) :
    columnText table field ++ " = " ++ String.ofList number =
      String.ofList ((columnText table field).toList ++ " = ".toList ++ number ++ []) := by
  rw [List.append_nil, String.ofList_append, String.ofList_append, String.ofList_toList,
    String.ofList_toList]

/-- A membership, in the parts of its frame. -/
theorem ParentLink.membership_text (link : ParentLink) (table : String)
    (before number after : List Char) :
    link.membership table (String.ofList (before ++ number ++ after)) =
      String.ofList ((link.reference table).toList ++ " IN ".toList ++
        ('(' :: (link.selection.toList ++ before)) ++ number ++ (after ++ [')'])) := by
  rw [membership_eq, ← String.toList_inj]
  simp only [String.toList_append, String.toList_ofList, List.append_assoc, List.cons_append]
  rfl

theorem ClauseFrame.text (frame : ClauseFrame before after) (number : List Char) :
    RestrictionText number (String.ofList (before ++ number ++ after)) := by
  induction frame with
  | column named name =>
    rw [← column_text]
    exact .column named name
  | member link named _ ih =>
    rw [← link.membership_text]
    exact .member link named ih

/-- A restriction is a frame around its placeholder. -/
theorem RestrictionText.exists_frame {number : List Char} {clause : String}
    (h : RestrictionText number clause) :
    ∃ before after, ClauseFrame before after ∧
      clause = String.ofList (before ++ number ++ after) := by
  induction h with
  | column named name => exact ⟨_, _, .column named name, column_text _ _ _⟩
  | member link named _ ih =>
    obtain ⟨before, after, frame, rfl⟩ := ih
    exact ⟨_, _, .member link named frame, link.membership_text _ _ _ _⟩

/-! ### The clause after other values -/

/-- The clauses that a predicate has after `count` values that are bound before its own. -/
inductive Predicate.PlacedAfter (count : Nat) (predicate : Predicate) : String → Prop
  | deny : predicate.clause = denyClause → predicate.values = [] →
    PlacedAfter count predicate denyClause
  /-- the placeholder of a restriction is the one after the other values -/
  | restrict {before after : List Char} {number : Nat} {value : Value} :
    ClauseFrame before after →
    predicate.clause = String.ofList (before ++ Sql.numberText number ++ after) →
    predicate.values = [value] →
    PlacedAfter count predicate (String.ofList (before ++ Sql.numberText (count + 1) ++ after))

theorem usedPlaceholders_eq_ok_iff {condition : String} {used : List Nat} :
    usedPlaceholders condition = .ok used ↔ Sql.placeholders condition = .ok used := by
  unfold usedPlaceholders
  cases Sql.placeholders condition with
  | error fault =>
    constructor
    · intro h
      cases h
    · intro h
      cases h
  | ok numbers =>
    constructor
    · intro h
      cases h
      rfl
    · intro h
      cases h
      rfl

theorem Predicate.after_eq (predicate : Predicate) {used : List Nat}
    (read : Sql.placeholders predicate.clause = .ok used)
    (exact : Sql.usesExactly (predicate.offset + 1) predicate.values.length used = true)
    (count : Nat) : predicate.after count =
      (Sql.renumber predicate.clause ((count : Int) - predicate.offset)).mapError .placeholder := by
  rw [after, usedPlaceholders_eq_ok_iff.mpr read]
  dsimp only
  rw [if_pos exact]

theorem quiet_denyClause : Sql.Quiet denyClause.toList := by decide

theorem Predicate.after_deny (offset : Int) (count : Nat) :
    (deny offset).after count = .ok denyClause := by
  have read : Sql.placeholders (deny offset).clause = .ok [] :=
    Sql.placeholders_quiet quiet_denyClause
  have moved := Sql.renumber_quiet quiet_denyClause ((count : Int) - offset)
  rw [String.ofList_toList] at moved
  rw [after_eq (deny offset) read rfl]
  show (Sql.renumber denyClause ((count : Int) - offset)).mapError Failure.placeholder = _
  rw [moved]
  rfl

/-- Placed after other values, a restriction has the next placeholder, if that can be written,
wherever it was placed before. -/
theorem ClauseFrame.after_restrict (frame : ClauseFrame before after) {number : Nat} {offset : Int}
    (first : offset + 1 = number) (written : number < 10 ^ maxDigits) (value : Value)
    (count : Nat) :
    (Predicate.restrict (String.ofList (before ++ Sql.numberText number ++ after)) [value]
      offset).after count =
        ((Sql.placeholder (count + 1 : Nat)).mapError fun fault => .placeholder (.limit fault)).map
          fun text => String.ofList (before ++ text ++ after) := by
  set clause := String.ofList (before ++ Sql.numberText number ++ after) with hclause
  have read := Sql.placeholders_number frame.quietBefore frame.quietAfter frame.stops written
  have one : Sql.usesExactly (offset + 1) 1 [number] = true := by
    rw [first, Sql.usesExactly_iff]
    intro k
    constructor
    · rintro ⟨n, member, rfl⟩
      rw [List.mem_singleton.mp member]
      omega
    · rintro ⟨low, high⟩
      exact ⟨number, List.mem_singleton_self number, by omega⟩
  -- the shift takes the number that was written to the one that comes next
  have shift : (count : Int) - offset = ((count + 1 : Nat) : Int) - number := by omega
  rw [← hclause] at read
  rw [Predicate.after_eq (.restrict clause [value] offset) read one]
  show (Sql.renumber clause ((count : Int) - offset)).mapError Failure.placeholder = _
  rw [shift, hclause]
  rw [Sql.renumber_number frame.quietBefore frame.quietAfter frame.stops written
    (Nat.succ_pos count)]
  cases Sql.placeholder (count + 1 : Nat) with
  | error fault => rfl
  | ok text => rfl

/-- The predicates that are built and have a condition: a denial, or a frame around the number that
comes after the offset. -/
inductive Predicate.Framed (offset : Int) : Predicate → Prop
  | deny : Framed offset (.deny offset)
  | restrict {before after : List Char} {number : Nat} (value : Value) :
    ClauseFrame before after → offset + 1 = number → number < 10 ^ maxDigits →
      Framed offset
        (.restrict (String.ofList (before ++ Sql.numberText number ++ after)) [value] offset)

namespace Predicate.Framed

variable {offset : Int} {predicate : Predicate} {count : Nat}

/-- Whatever clause such a predicate has after other values, it is placed there. -/
theorem placed {clause : String} (framed : predicate.Framed offset)
    (h : predicate.after count = .ok clause) : predicate.PlacedAfter count clause := by
  cases framed with
  | deny =>
    rw [after_deny] at h
    cases h
    exact .deny rfl rfl
  | restrict value frame first written =>
    rw [frame.after_restrict first written] at h
    cases number : Sql.placeholder ((count + 1 : Nat) : Int) with
    | error fault =>
      rw [number] at h
      cases h
    | ok text =>
      rw [number] at h
      cases h
      rw [(Sql.eq_numberText_of_placeholder number).1]
      exact .restrict frame rfl rfl

theorem exists_after (framed : predicate.Framed offset) (short : count + 1 < 10 ^ maxDigits) :
    ∃ clause, predicate.after count = .ok clause := by
  cases framed with
  | deny => exact ⟨_, after_deny offset count⟩
  | restrict value frame first written =>
    rw [frame.after_restrict first written, Sql.placeholder_natCast short]
    exact ⟨_, rfl⟩

end Predicate.Framed

theorem Predicate.GrantedBy.framed {config : Config} {identifiers : Fields} {offset : Int}
    {value : PolicyValue} {predicate : Predicate} (start : 0 ≤ offset)
    (granted : predicate.GrantedBy config identifiers offset value) :
    predicate.clause = "" ∧ predicate.values = [] ∨ predicate.Framed offset := by
  cases granted with
  | all _ => exact .inl ⟨rfl, rfl⟩
  | some _ _ _ number text =>
    obtain ⟨before, after, frame, rfl⟩ := text.exists_frame
    obtain ⟨first, hfirst⟩ := Int.eq_ofNat_of_zero_le (show 0 ≤ offset + 1 by omega)
    rw [hfirst] at number
    obtain ⟨rfl, written⟩ := Sql.eq_numberText_of_placeholder number
    exact .inr (.restrict _ frame hfirst written)

section

variable {config : Config} {lookup : Lookup} {links : Option LinkRegistry}
  {context : Option Context} {table : String} {offset : Int} {stack : Stack} {predicate : Predicate}

theorem buildPredicate_framed (start : 0 ≤ offset)
    (built : (buildPredicate config lookup links context table offset stack).outcome =
      .ok predicate) :
    predicate.clause = "" ∧ predicate.values = [] ∨ predicate.Framed offset := by
  cases context with
  | none =>
    cases built
    exact .inl ⟨rfl, rfl⟩
  | some context =>
    rcases buildPredicate_eq_ok built with rfl | granted | ⟨_, _, _, _, _, _, _, _, granted⟩
    · exact .inr .deny
    · exact granted.framed start
    · exact granted.framed start

/-- A predicate that is not empty can be placed after any values, as long as the number of its
placeholder can be written. -/
theorem buildPredicate_placed (start : 0 ≤ offset)
    (built : (buildPredicate config lookup links context table offset stack).outcome =
      .ok predicate)
    {count : Nat} (short : count + 1 < 10 ^ maxDigits) :
    predicate.clause = "" ∧ predicate.values = [] ∨
      ∃ clause, predicate.after count = .ok clause ∧ predicate.PlacedAfter count clause := by
  refine (buildPredicate_framed start built).imp_right fun framed => ?_
  obtain ⟨clause, after⟩ := framed.exists_after short
  exact ⟨clause, after, framed.placed after⟩

end

/-! ### A number that cannot be written -/

/-- Where the number after the offset has too many digits, a policy that restricts cannot be
interpreted. -/
theorem outcome_interpret_of_long {config : Config} {policy : PolicyValue} {identifiers : Fields}
    {table field key : String} {value : Value} {offset : Nat} (long : 10 ^ maxDigits ≤ offset + 1)
    (named : ¬ (table ≠ "" ∧ Text.isTableName table = false))
    (decided : Decision.ofPolicy config policy identifiers = .restrict field key value) :
    (interpret config policy identifiers table offset).outcome =
      .error (.limit .digitsWritten) := by
  have next : (offset : Int) + 1 = (offset + 1 : Nat) := rfl
  rw [outcome_interpret (Int.natCast_nonneg _), if_neg named, decided]
  rw [Predicate.ofDecision, next, Sql.placeholder_natCast_of_long long]
  rfl

/-- The least offset of this kind. -/
theorem le_longOffset : 10 ^ maxDigits ≤ 10 ^ maxDigits - 1 + 1 :=
  Nat.le_add_of_sub_le (Nat.le_refl _)

end RowSecurity
