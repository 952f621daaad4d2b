/-
No base condition that is sealed takes the clause of a predicate out of force.

* `Sql.Place`: where a scan stands that knows literals, parentheses and comments;
* `Sql.Sealed`: conditions that close whatever they open, and whose comments hold no mark and no
  parenthesis;
* `Sql.HasOr`: that OR stands in a text outside literals, parentheses and comments;
* `Sql.InForce`: that a clause stands outside all of them, with no OR beside it.

Main statement: `compose_inForce`, for every predicate that is built and every sealed base condition
that is accepted.

Design notes: the search for OR knows no comments, and a parenthesis that is closed without being
open counts for nothing there. So a base condition that is not sealed can be accepted and yet leave
the clause beside an OR (`compose_unsealed`). Whether two dashes begin a comment if no blank follows is
not the same everywhere, so all is stated for both ways.
-/
import RowSecurity.Proofs.Joining

namespace RowSecurity.Sql

open Text

/-! ### Scanning a text with comments -/

/-- What a scan keeps of the characters before, to know where comments begin and end. -/
inductive Trail where
  | none
  | dash
  /-- two dashes, of which a blank would make a comment -/
  | dashes
  | slash
  /-- in a comment that ends with the line -/
  | line
  /-- in a comment that ends with a star and a slash -/
  | block
  /-- in such a comment, after a star -/
  | star
deriving DecidableEq, Repr

namespace Trail

/-- Whether the scan is in a comment. -/
def inside : Trail → Bool
  | line | block | star => true
  | none | dash | dashes | slash => false

/-- The trail after one more character outside literals. If `spaced`, two dashes begin a comment
only before a blank. -/
def next (spaced : Bool) (trail : Trail) (c : Char) : Trail :=
  match trail with
  | line => if c = '\n' then none else line
  | block => if c = '*' then star else block
  | star => if c = '/' then none else if c = '*' then star else block
  | none | dash | dashes | slash =>
    if c = '-' then
      if trail = dash then (if spaced then dashes else line)
      else if trail = dashes then dashes else dash
    else if c = '/' then slash
    else if c = '*' ∧ trail = slash then block
    else if isBlank c ∧ trail = dashes then (if c = '\n' then none else line)
    else none

end Trail

/-- Where a scan stands that knows comments. -/
structure Place where
  cursor : Cursor
  trail : Trail
deriving DecidableEq, Repr

namespace Place

def start : Place := ⟨.start, .none⟩

def raise (k : Nat) (p : Place) : Place := ⟨p.cursor.raise k, p.trail⟩

/-- A step, unless it closes a parenthesis that is not open. Comments are passed over, and in
literals none begins. -/
def advance (spaced : Bool) (p : Place) (c : Char) : Option Place :=
  if p.trail.inside then some ⟨p.cursor, p.trail.next spaced c⟩
  else (p.cursor.advance c).map fun cursor =>
    ⟨cursor, if p.cursor.mark = none then p.trail.next spaced c else .none⟩

/-- The place after a text, unless a parenthesis is closed in it that is not open. -/
def pass (spaced : Bool) (p : Place) (cs : List Char) : Option Place :=
  cs.foldlM (advance spaced) p

/-- A step, unless it would be taken for something else where comments are not known. -/
def advancePlain (spaced : Bool) (p : Place) (c : Char) : Option Place :=
  if p.trail.inside = true ∧ ¬ Level [c] then none else p.advance spaced c

/-- The place after a text, unless a comment in it holds a mark or a parenthesis. -/
def passPlain (spaced : Bool) (p : Place) (cs : List Char) : Option Place :=
  cs.foldlM (advancePlain spaced) p

end Place

variable {spaced : Bool} {p q : Place} {c : Char} {cs ds : List Char}

namespace Place

theorem passPlain_cons (spaced : Bool) (p : Place) (c : Char) (cs : List Char) :
    passPlain spaced p (c :: cs) =
      (advancePlain spaced p c).bind fun q => passPlain spaced q cs := rfl

theorem passPlain_append (spaced : Bool) (p : Place) (cs ds : List Char) :
    passPlain spaced p (cs ++ ds) =
      (passPlain spaced p cs).bind fun q => passPlain spaced q ds :=
  List.foldlM_append

theorem advance_of_plain (h : advancePlain spaced p c = some q) : p.advance spaced c = some q := by
  unfold advancePlain at h
  split at h
  · cases h
  · exact h

theorem pass_of_plain (h : passPlain spaced p cs = some q) : p.pass spaced cs = some q := by
  induction cs generalizing p with
  | nil => exact h
  | cons c cs ih =>
    rw [passPlain_cons] at h
    obtain ⟨r, one, rest⟩ := Option.bind_eq_some_iff.mp h
    show (p.advance spaced c).bind (fun r => r.pass spaced cs) = some q
    rw [advance_of_plain one]
    exact ih rest

theorem advancePlain_raise (k : Nat) (h : advancePlain spaced p c = some q) :
    advancePlain spaced (p.raise k) c = some (q.raise k) := by
  unfold advancePlain at h ⊢
  split at h
  · cases h
  · rename_i allowed
    rw [if_neg (show ¬ ((p.raise k).trail.inside = true ∧ ¬ Level [c]) from allowed)]
    unfold advance at h ⊢
    -- in a comment nobody looks at the depth, and outside the scan without comments does
    split at h
    · rename_i comment
      cases h
      exact if_pos comment
    · rename_i code
      obtain ⟨cursor, one, rfl⟩ := Option.map_eq_some_iff.mp h
      rw [if_neg (show ¬ (p.raise k).trail.inside = true from code)]
      show ((p.cursor.raise k).advance c).map _ = _
      rw [Cursor.advance_raise k one]
      rfl

theorem passPlain_raise (k : Nat) (h : passPlain spaced p cs = some q) :
    passPlain spaced (p.raise k) cs = some (q.raise k) := by
  induction cs generalizing p with
  | nil =>
    cases h
    rfl
  | cons c cs ih =>
    rw [passPlain_cons] at h ⊢
    obtain ⟨r, one, rest⟩ := Option.bind_eq_some_iff.mp h
    rw [advancePlain_raise k one]
    exact ih rest

/-- That no comment begins in a literal. -/
def Apart (p : Place) : Prop := p.trail.inside = true → p.cursor.mark = none

end Place

theorem Cursor.mark_of_advance {s t : Cursor} (plain : s.mark = none) (unmarked : isMark c = false)
    (h : s.advance c = some t) : t.mark = none := by
  obtain ⟨mark, depth⟩ := s
  subst plain
  unfold advance at h
  split at h
  · cases h
  · cases h
    show (if isMark c then _ else if c = '(' then _ else if c = ')' then _ else _ : Cursor).mark = _
    rw [if_neg (by rw [unmarked]; decide)]
    split
    · rfl
    · split
      · rfl
      · rfl

/-- A mark begins no comment. -/
theorem Trail.isMark_of_next {trail : Trail} (code : trail.inside = false)
    (h : (trail.next spaced c).inside = true) : isMark c = false := by
  by_contra marked
  rw [Bool.not_eq_false, isMark, Bool.or_eq_true, beq_iff_eq, beq_iff_eq] at marked
  have single : (trail.next spaced singleMark).inside = false := by
    cases trail with
    | line | block | star => cases code
    | none | dash | dashes | slash => rfl
  have double : (trail.next spaced doubleMark).inside = false := by
    cases trail with
    | line | block | star => cases code
    | none | dash | dashes | slash => rfl
  rcases marked with rfl | rfl
  · rw [single] at h
    cases h
  · rw [double] at h
    cases h

namespace Place

/-- A scan that knows no comments is not misled. -/
theorem cursor_of_advancePlain (apart : p.Apart) (h : advancePlain spaced p c = some q) :
    p.cursor.advance c = some q.cursor ∧ q.Apart := by
  unfold advancePlain at h
  split at h
  · cases h
  · rename_i allowed
    unfold advance at h
    split at h
    · -- what the comment holds leaves the other scan where it is
      rename_i comment
      cases h
      have level : Level [c] := not_not.mp fun other => allowed ⟨comment, other⟩
      exact ⟨Cursor.advance_of_level (apart comment) (level c List.mem_cons_self),
        fun _ => apart comment⟩
    · -- both scans read the character, and a comment that begins with it begins outside literals
      rename_i code
      obtain ⟨cursor, one, rfl⟩ := Option.map_eq_some_iff.mp h
      refine ⟨one, fun comment => ?_⟩
      have begins : (if p.cursor.mark = none then p.trail.next spaced c else Trail.none).inside =
        true := comment
      split at begins
      · rename_i plain
        exact Cursor.mark_of_advance plain
          (Trail.isMark_of_next (Bool.eq_false_iff.mpr code) begins) one
      · cases begins

theorem cursor_of_passPlain (apart : p.Apart) (h : passPlain spaced p cs = some q) :
    p.cursor.pass cs = some q.cursor := by
  induction cs generalizing p with
  | nil =>
    cases h
    rfl
  | cons c cs ih =>
    rw [passPlain_cons] at h
    obtain ⟨r, one, rest⟩ := Option.bind_eq_some_iff.mp h
    obtain ⟨moved, apart⟩ := cursor_of_advancePlain apart one
    rw [Cursor.pass, moved]
    exact ih apart rest

theorem apart_start : start.Apart := nofun

end Place

/-! ### Texts without comments -/

/-- That no comment can begin in a text. -/
def Uncommented (cs : List Char) : Prop := ∀ c ∈ cs, c ≠ '-' ∧ c ≠ '/'

instance (cs : List Char) : Decidable (Uncommented cs) :=
  List.decidableBAll (fun c => c ≠ '-' ∧ c ≠ '/') cs

theorem uncommented_of_class {p : Char → Bool} (h : ∀ c ∈ cs, p c = true)
    (apart : p '-' = false ∧ p '/' = false) : Uncommented cs := by
  intro c member
  have inside := h c member
  constructor
  · rintro rfl
    rw [apart.1] at inside
    cases inside
  · rintro rfl
    rw [apart.2] at inside
    cases inside

theorem Uncommented.append (hc : Uncommented cs) (hd : Uncommented ds) :
    Uncommented (cs ++ ds) := by
  intro c member
  rcases List.mem_append.mp member with member | member
  · exact hc c member
  · exact hd c member

theorem Place.passPlain_of_uncommented {s t : Cursor} (uncommented : Uncommented cs)
    (h : s.pass cs = some t) : passPlain spaced ⟨s, .none⟩ cs = some ⟨t, .none⟩ := by
  induction cs generalizing s with
  | nil =>
    cases h
    rfl
  | cons c cs ih =>
    obtain ⟨dash, slash⟩ := uncommented c List.mem_cons_self
    have still : Trail.none.next spaced c = .none := by
      simp only [Trail.next, if_neg dash, if_neg slash]
      rw [if_neg nofun, if_neg nofun]
    rw [Cursor.pass] at h
    obtain ⟨u, one, rest⟩ := Option.bind_eq_some_iff.mp h
    have first : advancePlain spaced ⟨s, .none⟩ c = some ⟨u, .none⟩ := by
      show (s.advance c).map _ = _
      rw [one, Option.map_some, still, ite_self]
    rw [passPlain_cons, first]
    exact ih (fun d member => uncommented d (List.mem_cons_of_mem c member)) rest

/-! ### Sealed conditions -/

/-- That a condition closes whatever it opens, also if a blank follows it, and that its comments
hold no mark and no parenthesis. -/
def Sealed (spaced : Bool) (cs : List Char) : Prop :=
  ∃ trail, Place.start.passPlain spaced cs = some ⟨.start, trail⟩ ∧ trail.next spaced ' ' = .none

theorem Sealed.closed (h : Sealed spaced cs) : Closed cs := by
  obtain ⟨trail, passed, -⟩ := h
  exact Place.cursor_of_passPlain Place.apart_start passed

/-- What follows a sealed condition after a blank is read as if it stood alone. -/
theorem Sealed.passPlain_append (h : Sealed spaced cs) (ds : List Char) :
    Place.start.passPlain spaced (cs ++ ' ' :: ds) = Place.start.passPlain spaced ds := by
  obtain ⟨trail, passed, rests⟩ := h
  rw [Place.passPlain_append, passed, Option.bind_some, Place.passPlain_cons]
  have blank : Place.advancePlain spaced ⟨.start, trail⟩ ' ' = some .start := by
    cases trail with
    | none | dash | slash => rfl
    | dashes | line | block | star => cases rests
  rw [blank]
  rfl

theorem Sealed.group (h : Sealed spaced cs) : Sealed spaced ('(' :: cs ++ [')']) := by
  obtain ⟨trail, passed, rests⟩ := h
  have inside : Place.start.passPlain spaced ('(' :: cs) = some (Place.raise 1 ⟨.start, trail⟩) :=
    Place.passPlain_raise 1 passed
  refine ⟨.none, ?_, rfl⟩
  rw [Place.passPlain_append, inside]
  cases trail with
  | none | dash | slash => rfl
  | dashes | line | block | star => cases rests

theorem Sealed.guarded (h : Sealed spaced cs) : Sealed spaced (guarded cs) := by
  unfold Sql.guarded
  split
  · exact h.group
  · exact h

/-! ### OR among comments -/

/-- That OR stands somewhere in a text, as a whole word outside literals, parentheses and
comments. -/
def HasOr (spaced : Bool) (cs : List Char) : Prop :=
  ∃ front word back trail, cs = front ++ (word ++ back) ∧
    word.map Char.toUpper = Connective.or.keyword ∧
    Place.start.pass spaced front = some ⟨.start, trail⟩ ∧ trail.inside = false ∧
    endsWord front = false ∧ startsWord back = false

/-- If comments mislead nobody, such an OR stands there also where comments are not known. -/
theorem HasOr.hasWord (passed : Place.start.passPlain spaced cs = some p) (h : HasOr spaced cs) :
    HasWord .or cs := by
  obtain ⟨front, word, back, trail, rfl, spelled, place, -, before, after⟩ := h
  rw [Place.passPlain_append] at passed
  obtain ⟨q, first, -⟩ := Option.bind_eq_some_iff.mp passed
  have same : some q = some ⟨.start, trail⟩ := (Place.pass_of_plain first).symm.trans place
  have closed := Place.cursor_of_passPlain Place.apart_start first
  rw [Option.some.inj same] at closed
  exact ⟨front, word, back, rfl, spelled, closed, before, after⟩

theorem not_hasWord_guarded (closed : Closed cs) : ¬ HasWord .or (guarded cs) := by
  unfold guarded
  split
  · exact not_hasWord_group closed
  · rename_i none
    exact fun h => none (hasTopLevelOr_of_hasWord h)

theorem Closed.guarded (closed : Closed cs) : Closed (guarded cs) := by
  unfold Sql.guarded
  split
  · exact closed.group
  · exact closed

theorem Uncommented.guarded (h : Uncommented cs) : Uncommented (guarded cs) := by
  unfold Sql.guarded
  split
  · exact (Uncommented.append (by decide : Uncommented ['(']) h).append (by decide)
  · exact h

theorem not_hasWord_append {k : Connective} (closed : Closed cs)
    (apart : endsWord cs = false ∨ startsWord ds = false) (first : ¬ HasWord k cs)
    (second : ¬ HasWord k ds) : ¬ HasWord k (cs ++ ds) := fun h =>
  (hasWord_append closed apart h).elim first second

/-! ### Conditions that are joined -/

/-- What stands before a clause that is joined to a condition. -/
def leading (condition : List Char) : List Char :=
  "WHERE ".toList ++ if condition = [] then [] else guarded condition ++ " AND ".toList

theorem leading_append (condition clause : List Char) :
    leading condition ++ guarded clause = "WHERE ".toList ++ conjoined condition clause := by
  unfold leading conjoined
  rw [List.append_assoc]
  split
  · rfl
  · rfl

theorem endsWord_leading (condition : List Char) : endsWord (leading condition) = false := by
  unfold leading
  split
  · decide
  · have joint : " AND ".toList ≠ [] := by decide
    rw [← List.append_assoc, endsWord_append _ joint]
    decide

theorem passPlain_leading {condition : List Char} (sealed : Sealed spaced condition) :
    Place.start.passPlain spaced (leading condition) = some .start := by
  have keyword : Place.start.passPlain spaced "WHERE ".toList = some .start :=
    Place.passPlain_of_uncommented (by decide) (by decide)
  have joint : Place.start.passPlain spaced "AND ".toList = some .start :=
    Place.passPlain_of_uncommented (by decide) (by decide)
  unfold leading
  rw [Place.passPlain_append, keyword, Option.bind_some]
  split
  · rfl
  · exact (sealed.guarded.passPlain_append "AND ".toList).trans joint

theorem not_hasWord_leading {condition : List Char} (closed : Closed condition) :
    ¬ HasWord .or (leading condition) := by
  have keyword : ¬ HasWord .or "WHERE ".toList := not_hasWord_of_search (by decide)
  have joint : ¬ HasWord .or " AND ".toList := not_hasWord_of_search (by decide)
  refine not_hasWord_append (by decide) (.inl (by decide)) keyword ?_
  split
  · exact not_hasWord_of_search (by decide)
  · exact not_hasWord_append closed.guarded (.inr (by decide)) (not_hasWord_guarded closed) joint

/-- That a clause at the end of a text is in force: it stands outside literals, parentheses and
comments, the text ends there as well, and no OR stands beside it. -/
structure InForce (spaced : Bool) (text front clause : List Char) : Prop where
  whole : text = front ++ clause
  starts : Place.start.pass spaced front = some .start
  ends : Place.start.pass spaced text = some .start
  alone : ¬ HasOr spaced text

/-- A clause without comments is in force after a sealed condition. -/
theorem inForce_leading {condition clause : List Char} (sealed : Sealed spaced condition)
    (closed : Closed clause) (uncommented : Uncommented clause) :
    InForce spaced ("WHERE ".toList ++ conjoined condition clause) (leading condition)
      (guarded clause) := by
  have first := passPlain_leading sealed
  have whole :
      Place.start.passPlain spaced (leading condition ++ guarded clause) = some .start := by
    rw [Place.passPlain_append, first, Option.bind_some]
    exact Place.passPlain_of_uncommented uncommented.guarded closed.guarded
  have free : ¬ HasWord .or (leading condition ++ guarded clause) :=
    not_hasWord_append (Place.cursor_of_passPlain Place.apart_start first)
      (.inl (endsWord_leading condition)) (not_hasWord_leading sealed.closed)
      (not_hasWord_guarded closed)
  rw [leading_append] at whole free
  exact ⟨(leading_append condition clause).symm, Place.pass_of_plain first,
    Place.pass_of_plain whole, fun h => free (h.hasWord whole)⟩

end Sql

/-! ### The clause of a predicate -/

variable {before after : List Char}

/-- The characters of a frame: names, blanks, and those that compare and nest. -/
theorem ClauseFrame.uncommented (frame : ClauseFrame before after) :
    Sql.Uncommented before ∧ Sql.Uncommented after := by
  induction frame with
  | column named name =>
    have heading := Sql.uncommented_of_class (phrase_columnText named name) (by decide)
    have equals : Sql.Uncommented " = ".toList := by decide
    exact ⟨heading.append equals, by decide⟩
  | member link named _ ih =>
    have heading := Sql.uncommented_of_class (link.phrase_reference named) (by decide)
    have selection := Sql.uncommented_of_class link.phrase_selection (by decide)
    have among : Sql.Uncommented " IN ".toList := by decide
    have opening : Sql.Uncommented ['('] := by decide
    have closing : Sql.Uncommented [')'] := by decide
    exact ⟨(heading.append among).append (opening.append (selection.append ih.1)),
      ih.2.append closing⟩

theorem Sql.uncommented_numberText (n : Nat) : Uncommented (numberText n) := by
  have digits : Uncommented (Nat.toDigits 10 n) :=
    uncommented_of_class isDigit_of_mem_toDigits (by decide)
  exact List.forall_mem_cons.mpr ⟨by decide, digits⟩

/-- Wherever a predicate is placed, its clause closes whatever it opens and holds no comment. -/
theorem Predicate.PlacedAfter.closed_uncommented {predicate : Predicate} {count : Nat}
    {clause : String} (placed : predicate.PlacedAfter count clause) :
    Sql.Closed clause.toList ∧ Sql.Uncommented clause.toList := by
  cases placed with
  | deny _ _ => exact ⟨by decide, by decide⟩
  | restrict frame _ _ =>
    rw [String.toList_ofList]
    obtain ⟨first, last⟩ := frame.uncommented
    exact ⟨frame.closed (count + 1), (first.append (Sql.uncommented_numberText _)).append last⟩

/-! ### The whole -/

/-- What is composed with a predicate that has a condition is composed with its clause. -/
theorem exists_after_of_compose {base : String} {params : List Value} {predicate : Predicate}
    {composed : Composed} (nonempty : predicate.clause ≠ "")
    (h : compose base params predicate = .ok composed) :
    ∃ clause, predicate.after params.length = .ok clause ∧ composed.whereClause =
      whereText (Sql.conjoined (Sql.stripWhere base.toList) clause.toList) := by
  unfold compose at h
  dsimp only at h
  split at h
  · cases h
  · split at h
    · split at h
      · cases h
      · rename_i clause after
        cases h
        exact ⟨clause, after, rfl⟩
    · cases h

variable {spaced : Bool} {config : Config} {lookup : Lookup} {links : Option LinkRegistry}
  {context : Option Context} {table : String} {offset : Int} {stack : Stack} {predicate : Predicate}
  {base : String} {params : List Value} {composed : Composed}

/-- A predicate that is built is in force in whatever it is composed into, if the base condition
is sealed. -/
theorem compose_inForce (start : 0 ≤ offset)
    (built : (buildPredicate config lookup links context table offset stack).outcome =
      .ok predicate)
    (nonempty : predicate.clause ≠ "")
    (composes : compose base params predicate = .ok composed)
    (sealed : Sql.Sealed spaced (Sql.stripWhere base.toList)) :
    ∃ front clause, predicate.after params.length = .ok clause ∧
      Sql.InForce spaced composed.whereClause.toList front (Sql.guarded clause.toList) := by
  obtain ⟨clause, after, whole⟩ := exists_after_of_compose nonempty composes
  rcases buildPredicate_framed start built with ⟨empty, -⟩ | framed
  · exact absurd empty nonempty
  · have placed := framed.placed after
    obtain ⟨closed, uncommented⟩ := placed.closed_uncommented
    have text : composed.whereClause.toList =
        "WHERE ".toList ++ Sql.conjoined (Sql.stripWhere base.toList) clause.toList := by
      rw [whole, whereText, if_neg (Sql.conjoined_ne_nil placed.ne_empty.2), String.toList_append]
      exact congrArg ("WHERE ".toList ++ ·) String.toList_ofList
    refine ⟨Sql.leading (Sql.stripWhere base.toList), clause, after, ?_⟩
    rw [text]
    exact Sql.inForce_leading sealed closed uncommented

/-- A search with a comment that names OR, and one that has a line of its own. -/
def commentedBase : String := "open /* or shared */ -- and new\nor (state = 1)"

theorem compose_inForce_customers : ∃ predicate composed,
    (buildPredicate .standard customerLookup none (some customerContext) "c" 5 .standard).outcome =
        .ok predicate ∧ predicate.clause = "c.user_id = $6" ∧
      compose commentedBase [] predicate = .ok composed ∧
      Sql.Sealed true (Sql.stripWhere commentedBase.toList) ∧
      ∃ front clause, predicate.after 0 = .ok clause ∧
        Sql.InForce true composed.whereClause.toList front (Sql.guarded clause.toList) := by
  obtain ⟨predicate, built, shown⟩ : ∃ predicate,
      (buildPredicate .standard customerLookup none (some customerContext) "c" 5 .standard).outcome =
        .ok predicate ∧ predicate.clause = "c.user_id = $6" := ⟨_, rfl, rfl⟩
  have nonempty : predicate.clause ≠ "" := by
    rw [shown]
    decide
  obtain ⟨clause, after⟩ : ∃ clause, predicate.after 0 = .ok clause := by
    rcases buildPredicate_framed (by decide) built with ⟨empty, -⟩ | framed
    · exact absurd empty nonempty
    · exact framed.exists_after (Sql.short_of_lt_maxDigits (by decide))
  have composes := compose_of_quiet commentedBase (by decide) nonempty after
  have sealed : Sql.Sealed true (Sql.stripWhere commentedBase.toList) := ⟨.none, by decide, rfl⟩
  exact ⟨predicate, _, built, shown, composes, sealed,
    compose_inForce (by decide) built nonempty composes sealed⟩

/-- A base condition that closes a parenthesis it has not opened is accepted, and leaves the clause
beside an OR. -/
theorem compose_unsealed : ∃ predicate composed,
    (buildPredicate .standard customerLookup none (some customerContext) "c" 0 .standard).outcome =
        .ok predicate ∧ predicate.clause = "c.user_id = $1" ∧
      compose "1=1) OR (1=1" [] predicate = .ok composed ∧
      composed.whereClause = "WHERE (1=1) OR (1=1) AND c.user_id = $1" ∧
      ∀ spaced, Sql.HasOr spaced composed.whereClause.toList := by
  obtain ⟨predicate, built, shown⟩ : ∃ predicate,
      (buildPredicate .standard customerLookup none (some customerContext) "c" 0 .standard).outcome =
        .ok predicate ∧ predicate = .restrict "c.user_id = $1" [.int 7] 0 := ⟨_, rfl, rfl⟩
  have frame : ClauseFrame ((columnText "c" "user_id").toList ++ " = ".toList) [] :=
    .column (.inr (by decide)) (by decide)
  have text : "c.user_id = $1" = String.ofList ((columnText "c" "user_id").toList ++
      " = ".toList ++ Sql.numberText 1 ++ []) := by decide
  have short : 1 < 10 ^ maxDigits := Sql.short_of_lt_maxDigits (by decide)
  have after : predicate.after 0 = .ok "c.user_id = $1" := by
    rw [shown, text, frame.after_restrict rfl short, Sql.placeholder_natCast short]
    rfl
  have nonempty : predicate.clause ≠ "" := by
    rw [shown]
    decide
  have composes := compose_of_quiet "1=1) OR (1=1" (by decide) nonempty after
  have whole : whereText (Sql.conjoined (Sql.stripWhere "1=1) OR (1=1".toList)
      "c.user_id = $1".toList) = "WHERE (1=1) OR (1=1) AND c.user_id = $1" := by decide
  refine ⟨predicate, _, built, by rw [shown]; rfl, composes, whole, fun spaced => ?_⟩
  show Sql.HasOr spaced (whereText _).toList
  rw [whole]
  refine ⟨"WHERE (1=1) ".toList, "OR".toList, " (1=1) AND c.user_id = $1".toList, .none,
    by decide, by decide, ?_, rfl, by decide, by decide⟩
  cases spaced with
  | false => decide
  | true => decide

end RowSecurity
