/-
What a condition says: NOT binds closer than AND, AND closer than OR.

* `Formula`: a condition put together from texts by NOT, AND and OR;
* `IsAtom`: the texts that are not taken apart;
* `Reads`: that a text is read as a formula, by the rank of its outermost connective.

Main statements:

* `Reads.unique`: a text has one reading;
* `Reads.guarded`: a guarded condition can stand under AND, and says what the condition says;
* `Reads.exists_and`: two texts joined by AND say what both say.

Design notes: a chain of the same connective is read from the right, so that a text has one reading
and not only readings of one meaning. What is left of a connective is of a higher rank, which has no
word of this connective outside parentheses; the connective is thus the first one of its kind, and
the place of the first one is determined by the text (`WordAt.unique`).
-/
import RowSecurity.Proofs.Scan

namespace RowSecurity.Sql

open Text

/-! ### Formulas -/

/-- A condition put together from texts. -/
inductive Formula where
  | atom (text : List Char)
  | not (f : Formula)
  | and (f g : Formula)
  | or (f g : Formula)
deriving DecidableEq, Repr

/-- Whether a formula is true, if its texts are as `truth` tells. -/
def Formula.eval (truth : List Char → Bool) : Formula → Bool
  | atom text => truth text
  | not f => !f.eval truth
  | and f g => f.eval truth && g.eval truth
  | or f g => f.eval truth || g.eval truth

/-- A text that is not empty, without blanks at its ends. -/
structure Trimmed (cs : List Char) : Prop where
  nonempty : cs ≠ []
  head : cs.head?.any isBlank = false
  last : cs.getLast?.any isBlank = false

/-- A text that is one condition by itself: closed, with no connective outside literals and
parentheses, and not in parentheses. -/
structure IsAtom (cs : List Char) : Prop where
  trimmed : Trimmed cs
  closed : Closed cs
  plain : cs.head? ≠ some '('
  free : ∀ k, ¬ HasWord k cs

/-- A connective between two texts, as a whole word with blanks around it. -/
structure Joint (k : Connective) (front left word right back : List Char) : Prop where
  blanksLeft : Blanks left
  blanksRight : Blanks right
  spelled : word.map Char.toUpper = k.keyword
  before : endsWord (front ++ left) = false
  after : startsWord (right ++ back) = false

/-- What may be the outermost connective of a text. -/
inductive Rank where
  /-- none, or NOT -/
  | factor
  /-- AND too -/
  | term
  /-- any -/
  | condition
deriving DecidableEq, Repr

/-- Whether a text of this rank has no such connective outside literals and parentheses. -/
def Rank.excludes : Rank → Connective → Bool
  | factor, .and | factor, .or | term, .or => true
  | _, _ => false

/-- That a text of a rank is read as a formula. -/
inductive Reads : Rank → Formula → List Char → Prop
  | atom {cs : List Char} : IsAtom cs → Reads .factor (.atom cs) cs
  /-- blanks may stand inside parentheses -/
  | group {f : Formula} {left cs right : List Char} : Blanks left → Blanks right →
    Reads .condition f cs → Reads .factor f ('(' :: (left ++ (cs ++ right)) ++ [')'])
  | not {f : Formula} {word right cs : List Char} : Joint .not [] [] word right cs →
    Reads .factor f cs → Reads .factor (.not f) (word ++ (right ++ cs))
  | term {f : Formula} {cs : List Char} : Reads .factor f cs → Reads .term f cs
  | and {f g : Formula} {cs left word right ds : List Char} : Joint .and cs left word right ds →
    Reads .factor f cs → Reads .term g ds →
    Reads .term (.and f g) (cs ++ left ++ (word ++ (right ++ ds)))
  | condition {f : Formula} {cs : List Char} : Reads .term f cs → Reads .condition f cs
  | or {f g : Formula} {cs left word right ds : List Char} : Joint .or cs left word right ds →
    Reads .term f cs → Reads .condition g ds →
    Reads .condition (.or f g) (cs ++ left ++ (word ++ (right ++ ds)))

/-! ### Blanks at the ends -/

theorem any_isBlank_getLast {cs : List Char} (nonempty : cs ≠ []) (blanks : Blanks cs) :
    cs.getLast?.any isBlank = true := by
  rw [List.getLast?_eq_some_getLast nonempty]
  exact blanks _ (List.getLast_mem nonempty)

theorem getLast_append (cs : List Char) {ds : List Char} (h : ds ≠ []) :
    (cs ++ ds).getLast? = ds.getLast? := by
  rw [List.getLast?_append, List.getLast?_eq_some_getLast h]
  rfl

/-- Blanks after a trimmed text are told from it. -/
theorem append_blanks_inj {cs ds left right : List Char} (hc : Trimmed cs) (hd : Trimmed ds)
    (hl : Blanks left) (hr : Blanks right) (same : cs ++ left = ds ++ right) : cs = ds := by
  rcases List.append_eq_append_iff.mp same with ⟨rest, rfl, rfl⟩ | ⟨rest, rfl, rfl⟩
  · by_cases empty : rest = []
    · rw [empty, List.append_nil]
    · have last := any_isBlank_getLast empty
        fun c member => hl c (List.mem_append_left right member)
      rw [← getLast_append cs empty, hd.last] at last
      cases last
  · by_cases empty : rest = []
    · rw [empty, List.append_nil]
    · have last := any_isBlank_getLast empty
        fun c member => hr c (List.mem_append_left left member)
      rw [← getLast_append ds empty, hc.last] at last
      cases last

/-- A text that does not begin with a blank is told from blanks before it. -/
theorem blanks_append_inj {cs ds left right : List Char} (hc : cs.head?.any isBlank = false)
    (hd : ds.head?.any isBlank = false) (hl : Blanks left) (hr : Blanks right)
    (same : left ++ cs = right ++ ds) : cs = ds := by
  rcases List.append_eq_append_iff.mp same with ⟨rest, rfl, rfl⟩ | ⟨rest, rfl, rfl⟩
  · cases rest with
    | nil => rfl
    | cons c rest =>
      have blank := hr c (List.mem_append_right left List.mem_cons_self)
      have other : isBlank c = false := hc
      rw [blank] at other
      cases other
  · cases rest with
    | nil => rfl
    | cons c rest =>
      have blank := hl c (List.mem_append_right right List.mem_cons_self)
      have other : isBlank c = false := hd
      rw [blank] at other
      cases other

theorem head_append {cs : List Char} (h : cs ≠ []) (ds : List Char) :
    (cs ++ ds).head? = cs.head? := by
  obtain ⟨c, rest, rfl⟩ := List.exists_cons_of_ne_nil h
  rfl

theorem isBlank_of_isAlpha {c : Char} (h : c.isAlpha = true) : isBlank c = false := by
  by_contra blank
  have none := isWord_of_isBlank (by simpa using blank)
  rw [isWord_of_isAlpha h] at none
  cases none

variable {rank : Rank} {f g : Formula} {cs ds left word right : List Char} {k : Connective}

theorem Joint.ne_nil (joint : Joint k cs left word right ds) : word ≠ [] :=
  ne_nil_of_spelled joint.spelled

/-- What stands between two trimmed texts leaves their outer ends as they are. -/
theorem Trimmed.join (hc : Trimmed cs) (hd : Trimmed ds) (middle : List Char) :
    Trimmed (cs ++ (middle ++ ds)) := by
  refine ⟨List.append_ne_nil_of_left_ne_nil hc.nonempty _, ?_, ?_⟩
  · rw [head_append hc.nonempty]
    exact hc.head
  · rw [← List.append_assoc, getLast_append _ hd.nonempty]
    exact hd.last

theorem Trimmed.between (hc : Trimmed cs) (hd : Trimmed ds) (left word right : List Char) :
    Trimmed (cs ++ left ++ (word ++ (right ++ ds))) := by
  have whole : cs ++ left ++ (word ++ (right ++ ds)) = cs ++ (left ++ word ++ right ++ ds) := by
    simp only [List.append_assoc]
  rw [whole]
  exact hc.join hd _

theorem trimmed_of_isAlpha (nonempty : word ≠ []) (letters : ∀ c ∈ word, c.isAlpha = true) :
    Trimmed word := by
  refine ⟨nonempty, ?_, ?_⟩
  · obtain ⟨c, rest, rfl⟩ := List.exists_cons_of_ne_nil nonempty
    exact isBlank_of_isAlpha (letters c List.mem_cons_self)
  · rw [List.getLast?_eq_some_getLast nonempty]
    exact isBlank_of_isAlpha (letters _ (List.getLast_mem nonempty))

theorem trimmed_group (cs : List Char) : Trimmed ('(' :: cs ++ [')']) := by
  refine ⟨List.cons_ne_nil _ _, rfl, ?_⟩
  rw [getLast_append _ (List.cons_ne_nil _ _)]
  rfl

/-! ### What readings are like -/

theorem Reads.trimmed (h : Reads rank f cs) : Trimmed cs := by
  induction h with
  | atom atom => exact atom.trimmed
  | group _ _ _ _ => exact trimmed_group _
  | not joint _ ih =>
    have word := trimmed_of_isAlpha joint.ne_nil (isAlpha_of_spelled joint.spelled)
    exact word.join ih _
  | term _ ih => exact ih
  | and _ _ _ first second => exact first.between second _ _ _
  | condition _ ih => exact ih
  | or _ _ _ first second => exact first.between second _ _ _

theorem Joint.closed_front (joint : Joint k cs left word right ds) (closed : Closed cs) :
    Closed (cs ++ left) :=
  closed.append (closed_of_blanks joint.blanksLeft)

theorem Joint.closed_back (joint : Joint k cs left word right ds) (closed : Closed ds) :
    Closed (word ++ (right ++ ds)) :=
  (closed_of_level (level_of_isAlpha (isAlpha_of_spelled joint.spelled))).append
    ((closed_of_blanks joint.blanksRight).append closed)

theorem Reads.closed (h : Reads rank f cs) : Closed cs := by
  induction h with
  | atom atom => exact atom.closed
  | group before after _ ih =>
    exact ((closed_of_blanks before).append (ih.append (closed_of_blanks after))).group
  | not joint _ ih => exact joint.closed_back ih
  | term _ ih => exact ih
  | and joint _ _ first second => exact (joint.closed_front first).append (joint.closed_back second)
  | condition _ ih => exact ih
  | or joint _ _ first second => exact (joint.closed_front first).append (joint.closed_back second)

/-! ### Words of a reading -/

theorem not_hasWord_blanks (blanks : Blanks left) : ¬ HasWord k left := by
  refine not_hasWord_of_no_letter (List.any_eq_false.mpr fun c member letter => ?_)
  have blank := isBlank_of_isAlpha letter
  rw [blanks c member] at blank
  cases blank

theorem startsWord_blanks (blanks : Blanks left) : startsWord left = false := by
  cases left with
  | nil => rfl
  | cons c rest => exact isWord_of_isBlank (blanks c List.mem_cons_self)

theorem endsWord_blanks (blanks : Blanks left) : endsWord left = false := by
  by_cases empty : left = []
  · rw [empty]
    rfl
  · rw [endsWord, List.getLast?_eq_some_getLast empty]
    exact isWord_of_isBlank (blanks _ (List.getLast_mem empty))

theorem hasWord_of_append_blanks (closed : Closed cs) (blanks : Blanks left)
    (h : HasWord k (cs ++ left)) : HasWord k cs :=
  (hasWord_append closed (.inr (startsWord_blanks blanks)) h).resolve_right
    (not_hasWord_blanks blanks)

theorem hasWord_of_blanks_append (blanks : Blanks left) (h : HasWord k (left ++ cs)) :
    HasWord k cs :=
  (hasWord_append (closed_of_blanks blanks) (.inl (endsWord_blanks blanks)) h).resolve_left
    (not_hasWord_blanks blanks)

/-- After a connective, another connective stands in what follows. -/
theorem Joint.hasWord_back {j : Connective} (joint : Joint k cs left word right ds)
    (other : j ≠ k) (h : HasWord j (word ++ (right ++ ds))) : HasWord j ds := by
  have closed := closed_of_level (level_of_isAlpha (isAlpha_of_spelled joint.spelled))
  rcases hasWord_append closed (.inr joint.after) h with h | h
  · exact absurd (eq_of_hasWord_spelled joint.spelled h) other
  · exact hasWord_of_blanks_append joint.blanksRight h

/-- The place of a connective between a closed text and another. -/
theorem Joint.wordAt (joint : Joint k cs left word right ds) (closed : Closed cs) :
    WordAt k (cs ++ left) word (right ++ ds) :=
  ⟨joint.spelled, joint.closed_front closed, joint.before, joint.after⟩

theorem Joint.hasWord (joint : Joint k cs left word right ds) (closed : Closed cs) :
    HasWord k (cs ++ left ++ (word ++ (right ++ ds))) :=
  ⟨_, _, _, rfl, joint.wordAt closed⟩

/-- A text of a rank has no connective that binds less, outside parentheses. -/
theorem Reads.not_hasWord (h : Reads rank f cs) :
    ∀ k, rank.excludes k = true → ¬ HasWord k cs := by
  induction h with
  | atom atom => exact fun k _ => atom.free k
  | group before after inner _ =>
    intro k _
    have closed := (closed_of_blanks before).append (inner.closed.append (closed_of_blanks after))
    exact not_hasWord_group closed
  | not joint _ ih =>
    intro k excluded h
    have other : k ≠ .not := by
      rintro rfl
      cases excluded
    exact ih k excluded (joint.hasWord_back other h)
  | term _ ih =>
    intro k excluded
    refine ih k ?_
    cases k
    · cases excluded
    · rfl
    · cases excluded
  | and joint first _ ih₁ ih₂ =>
    intro k excluded h
    have or : k = .or := by
      cases k
      · cases excluded
      · rfl
      · cases excluded
    subst or
    -- an OR would stand in the factor before the AND or in the term after it
    rcases hasWord_append (joint.closed_front first.closed) (.inl joint.before) h with h | h
    · exact ih₁ .or rfl (hasWord_of_append_blanks first.closed joint.blanksLeft h)
    · exact ih₂ .or rfl (joint.hasWord_back (by decide) h)
  | condition _ _ =>
    intro k excluded
    cases excluded
  | or _ _ _ _ _ =>
    intro k excluded
    cases excluded

/-- The two sides of a connective are determined by the text, if it does not stand in the first. -/
theorem Joint.unique {cs' ds' left' word' right' : List Char}
    (joint : Joint k cs left word right ds) (joint' : Joint k cs' left' word' right' ds')
    (trimmed : Trimmed cs ∧ Trimmed ds) (trimmed' : Trimmed cs' ∧ Trimmed ds')
    (closed : Closed cs) (closed' : Closed cs') (first : ¬ HasWord k cs) (first' : ¬ HasWord k cs')
    (same : cs ++ left ++ (word ++ (right ++ ds)) = cs' ++ left' ++ (word' ++ (right' ++ ds'))) :
    cs = cs' ∧ ds = ds' := by
  obtain ⟨fronts, -, backs⟩ := (joint.wordAt closed).unique (joint'.wordAt closed') same
    (fun h => first (hasWord_of_append_blanks closed joint.blanksLeft h))
    (fun h => first' (hasWord_of_append_blanks closed' joint'.blanksLeft h))
  exact ⟨append_blanks_inj trimmed.1 trimmed'.1 joint.blanksLeft joint'.blanksLeft fronts,
    blanks_append_inj trimmed.2.head trimmed'.2.head joint.blanksRight joint'.blanksRight backs⟩

theorem head_of_spelled (spelled : word.map Char.toUpper = k.keyword) (cs : List Char) :
    (word ++ cs).head? ≠ some '(' := by
  obtain ⟨c, rest, rfl⟩ := List.exists_cons_of_ne_nil (ne_nil_of_spelled spelled)
  have letter := isAlpha_of_spelled spelled c List.mem_cons_self
  intro opening
  rw [Option.some.inj opening] at letter
  exact absurd letter (by decide)

/-- A text has one reading. -/
theorem Reads.unique (h : Reads rank f cs) : ∀ {g ds}, Reads rank g ds → cs = ds → f = g := by
  -- equal texts and not one text, so that cases can be taken on the other reading
  induction h with
  | atom atom =>
    intro g ds h same
    cases h with
    | atom _ => rw [same]
    | group _ _ _ => exact absurd (congrArg List.head? same) atom.plain
    | not joint _ =>
      subst same
      exact absurd ⟨[], _, _, rfl, joint.spelled, closed_nil, rfl, joint.after⟩ (atom.free .not)
  | group before after inner ih =>
    intro g ds h same
    cases h with
    | atom atom => exact absurd (congrArg List.head? same.symm) atom.plain
    | group before' after' inner' =>
      refine ih inner' ?_
      have insides := List.append_cancel_right (List.cons.inj same).2
      have rests := blanks_append_inj ?_ ?_ before before' insides
      · exact append_blanks_inj inner.trimmed inner'.trimmed after after' rests
      · rw [head_append inner.trimmed.nonempty]
        exact inner.trimmed.head
      · rw [head_append inner'.trimmed.nonempty]
        exact inner'.trimmed.head
    | not joint _ =>
      exact absurd (congrArg List.head? same.symm) (head_of_spelled joint.spelled _)
  | not joint inner ih =>
    intro g ds h same
    cases h with
    | atom atom =>
      subst same
      exact absurd ⟨[], _, _, rfl, joint.spelled, closed_nil, rfl, joint.after⟩ (atom.free .not)
    | group _ _ _ =>
      exact absurd (congrArg List.head? same) (head_of_spelled joint.spelled _)
    | not joint' inner' =>
      have lengths := congrArg List.length (joint.spelled.trans joint'.spelled.symm)
      rw [List.length_map, List.length_map] at lengths
      have rests := (List.append_inj same lengths).2
      have texts := blanks_append_inj inner.trimmed.head inner'.trimmed.head joint.blanksRight
        joint'.blanksRight rests
      rw [ih inner' texts]
  | term inner ih =>
    intro g ds h same
    cases h with
    | term inner' => exact ih inner' same
    | and joint first _ =>
      subst same
      exact absurd (joint.hasWord first.closed) (inner.not_hasWord .and rfl)
  | and joint first second ih₁ ih₂ =>
    intro g ds h same
    cases h with
    | term inner =>
      subst same
      exact absurd (joint.hasWord first.closed) (inner.not_hasWord .and rfl)
    | and joint' first' second' =>
      obtain ⟨fronts, backs⟩ := joint.unique joint' ⟨first.trimmed, second.trimmed⟩
        ⟨first'.trimmed, second'.trimmed⟩ first.closed first'.closed
        (first.not_hasWord .and rfl) (first'.not_hasWord .and rfl) same
      rw [ih₁ first' fronts, ih₂ second' backs]
  | condition inner ih =>
    intro g ds h same
    cases h with
    | condition inner' => exact ih inner' same
    | or joint first _ =>
      subst same
      exact absurd (joint.hasWord first.closed) (inner.not_hasWord .or rfl)
  | or joint first second ih₁ ih₂ =>
    intro g ds h same
    cases h with
    | condition inner =>
      subst same
      exact absurd (joint.hasWord first.closed) (inner.not_hasWord .or rfl)
    | or joint' first' second' =>
      obtain ⟨fronts, backs⟩ := joint.unique joint' ⟨first.trimmed, second.trimmed⟩
        ⟨first'.trimmed, second'.trimmed⟩ first.closed first'.closed
        (first.not_hasWord .or rfl) (first'.not_hasWord .or rfl) same
      rw [ih₁ first' fronts, ih₂ second' backs]

/-! ### Joining by AND -/

/-- A guarded condition can stand under AND, and says what the condition says. -/
theorem Reads.guarded (h : Reads .condition f cs) : Reads .term f (guarded cs) := by
  unfold Sql.guarded
  split
  · have none : Blanks [] := by decide
    have grouped := Reads.group none none h
    rw [List.nil_append, List.append_nil] at grouped
    exact .term grouped
  · rename_i noOr
    -- what has no OR outside parentheses is a term
    cases h with
    | condition inner => exact inner
    | or joint first _ =>
      exact absurd (hasTopLevelOr_of_hasWord (joint.hasWord first.closed)) noOr

theorem joint_and (cs ds : List Char) : Joint .and cs [' '] ['A', 'N', 'D'] [' '] ds := by
  refine ⟨by decide, by decide, by decide, ?_, rfl⟩
  rw [endsWord_append cs (List.cons_ne_nil _ _)]
  rfl

/-- Two texts joined by AND say what both say. -/
theorem Reads.exists_and (h : Reads .term f cs) (hg : Reads .term g ds) :
    ∃ e, Reads .term e (cs ++ " AND ".toList ++ ds) ∧
      ∀ truth, e.eval truth = (f.eval truth && g.eval truth) := by
  -- along the chain of factors: the second text is joined to the last one
  generalize hrank : Rank.term = rank at h
  induction h with
  | @term f cs inner ih =>
    refine ⟨.and f g, ?_, fun truth => rfl⟩
    have text : cs ++ " AND ".toList ++ ds = cs ++ [' '] ++ (['A', 'N', 'D'] ++ ([' '] ++ ds)) := by
      show cs ++ ([' '] ++ ['A', 'N', 'D'] ++ [' ']) ++ ds = _
      simp only [List.append_assoc]
    rw [text]
    exact .and (joint_and cs ds) inner hg
  | @and f f' cs left word right cs' joint first second ih₁ ih₂ =>
    obtain ⟨e, reads, meaning⟩ := ih₂ rfl
    refine ⟨.and f e, ?_, fun truth => ?_⟩
    · have text : cs ++ left ++ (word ++ (right ++ cs')) ++ " AND ".toList ++ ds =
          cs ++ left ++ (word ++ (right ++ (cs' ++ " AND ".toList ++ ds))) := by
        simp only [List.append_assoc]
      have nonempty : right ++ cs' ≠ [] :=
        List.append_ne_nil_of_right_ne_nil right second.trimmed.nonempty
      have after := joint.after
      rw [← startsWord_append nonempty (" AND ".toList ++ ds), List.append_assoc,
        ← List.append_assoc cs'] at after
      rw [text]
      exact .and ⟨joint.blanksLeft, joint.blanksRight, joint.spelled, joint.before, after⟩ first
        reads
    · rw [Formula.eval, Formula.eval, meaning, Bool.and_assoc]
  | _ => cases hrank

end RowSecurity.Sql
