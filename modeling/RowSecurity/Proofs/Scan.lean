/-
Whole words of a condition outside its literals and parentheses.

* `Cursor.pass`: a scan that stops at a parenthesis closed without being open;
* `Closed`: texts whose literals are closed and whose parentheses balance;
* `HasWord`: that a connective stands in a text as a whole word, after closed text.

Main statements:

* `Closed.group`: parentheses around closed text make closed text;
* `hasWord_append`: a word of two texts in a row stands in one of them, unless it is made by
  putting them together;
* `WordAt.unique`: the first place of a word is determined by the text;
* `hasTopLevelOr_of_hasWord`: no OR between closed texts is overlooked.

Design notes: the scan goes from left to right, so being closed is a property of what stands before
a word, and what stands after it may be anything.
-/
import Mathlib.Tactic.ByContra
import RowSecurity.Proofs.Lexing
import RowSecurity.Text.PlainName

namespace RowSecurity.Sql

open Text

/-! ### Closed texts -/

namespace Cursor

/-- A step, unless it closes a parenthesis that is not open. -/
def advance (s : Cursor) (c : Char) : Option Cursor :=
  if s.mark = none ∧ c = ')' ∧ s.depth = 0 then none else some (s.step c)

/-- The place after a text, unless a parenthesis is closed in it that is not open. -/
def pass (s : Cursor) : List Char → Option Cursor
  | [] => some s
  | c :: cs => (s.advance c).bind fun t => t.pass cs

/-- The same place under `k` more open parentheses. -/
def raise (k : Nat) (s : Cursor) : Cursor := ⟨s.mark, s.depth + k⟩

theorem pass_append (s : Cursor) (cs ds : List Char) :
    s.pass (cs ++ ds) = (s.pass cs).bind fun t => t.pass ds := by
  induction cs generalizing s with
  | nil => rfl
  | cons c cs ih =>
    rw [List.cons_append, pass, pass]
    cases s.advance c with
    | none => rfl
    | some t => exact ih t

theorem advance_raise {s t : Cursor} {c : Char} (k : Nat) (h : s.advance c = some t) :
    (s.raise k).advance c = some (t.raise k) := by
  obtain ⟨mark, depth⟩ := s
  unfold advance at h
  split at h
  · cases h
  · rename_i allowed
    cases h
    have other : ¬ (mark = none ∧ c = ')' ∧ depth + k = 0) :=
      fun ⟨plain, closing, bottom⟩ => allowed ⟨plain, closing, by show depth = 0; omega⟩
    show (if mark = none ∧ c = ')' ∧ depth + k = 0 then none else some _) = _
    rw [if_neg other]
    congr 1
    -- the depth is looked at by a closing parenthesis only, and this one is not at the bottom
    cases mark with
    | some mark =>
      show (if c = mark then _ else _) = raise k (if c = mark then _ else _)
      split
      · rfl
      · rfl
    | none =>
      show (if isMark c then _ else if c = '(' then _ else if c = ')' then _ else _) =
        raise k (if isMark c then _ else if c = '(' then _ else if c = ')' then _ else _)
      split
      · rfl
      · split
        · show Cursor.mk none (depth + k + 1) = ⟨none, depth + 1 + k⟩
          rw [Nat.add_right_comm]
        · split
          · rename_i closing
            have open_ : depth ≠ 0 := fun bottom => allowed ⟨rfl, closing, bottom⟩
            show Cursor.mk none (depth + k - 1) = ⟨none, depth - 1 + k⟩
            congr 1
            omega
          · rfl

theorem pass_raise {s t : Cursor} {cs : List Char} (k : Nat) (h : s.pass cs = some t) :
    (s.raise k).pass cs = some (t.raise k) := by
  induction cs generalizing s with
  | nil =>
    cases h
    rfl
  | cons c cs ih =>
    rw [pass] at h ⊢
    cases next : s.advance c with
    | none =>
      rw [next] at h
      cases h
    | some u =>
      rw [next] at h
      rw [advance_raise k next]
      exact ih h

/-- What is neither a mark nor a parenthesis moves no scan that is outside literals. -/
theorem advance_of_level {s : Cursor} {c : Char} (plain : s.mark = none)
    (level : isMark c = false ∧ c ≠ '(' ∧ c ≠ ')') : s.advance c = some s := by
  obtain ⟨mark, depth⟩ := s
  subst plain
  obtain ⟨unmarked, opening, closing⟩ := level
  rw [advance, if_neg fun h => closing h.2.1]
  show some (if isMark c then _ else if c = '(' then _ else if c = ')' then _ else _) = _
  rw [if_neg (by rw [unmarked]; decide), if_neg opening, if_neg closing]

theorem pass_eq_foldl {s t : Cursor} {cs : List Char} (h : s.pass cs = some t) :
    cs.foldl step s = t := by
  induction cs generalizing s with
  | nil =>
    cases h
    rfl
  | cons c cs ih =>
    rw [pass, advance] at h
    split at h
    · cases h
    · exact ih h

end Cursor

/-- No mark and no parenthesis, so that a scan passes over the text without moving. -/
def Level (cs : List Char) : Prop := ∀ c ∈ cs, isMark c = false ∧ c ≠ '(' ∧ c ≠ ')'

instance (cs : List Char) : Decidable (Level cs) :=
  List.decidableBAll (fun c => isMark c = false ∧ c ≠ '(' ∧ c ≠ ')') cs

/-- Each literal is closed, and the parentheses outside literals balance and are never closed
without being open. -/
def Closed (cs : List Char) : Prop := Cursor.start.pass cs = some Cursor.start

instance (cs : List Char) : Decidable (Closed cs) :=
  inferInstanceAs (Decidable (Cursor.start.pass cs = some Cursor.start))

theorem closed_nil : Closed [] := rfl

theorem closed_of_level {cs : List Char} (level : Level cs) : Closed cs := by
  induction cs with
  | nil => rfl
  | cons c cs ih =>
    rw [Closed, Cursor.pass, Cursor.advance_of_level rfl (level c List.mem_cons_self)]
    exact ih fun d member => level d (List.mem_cons_of_mem c member)

theorem Closed.append {cs ds : List Char} (hc : Closed cs) (hd : Closed ds) :
    Closed (cs ++ ds) := by
  rw [Closed, Cursor.pass_append, hc]
  exact hd

/-- What follows closed text in closed text is closed. -/
theorem Closed.of_append {cs ds : List Char} (hc : Closed cs) (h : Closed (cs ++ ds)) :
    Closed ds := by
  rw [Closed, Cursor.pass_append, hc] at h
  exact h

/-- After an opening parenthesis a scan of closed text is back where it was. -/
theorem Closed.pass_inside {cs : List Char} (h : Closed cs) :
    Cursor.start.pass ('(' :: cs) = some ⟨none, 1⟩ :=
  Cursor.pass_raise 1 h

theorem Closed.group {cs : List Char} (h : Closed cs) : Closed ('(' :: cs ++ [')']) := by
  rw [Closed, Cursor.pass_append, h.pass_inside]
  rfl

/-- No part of a group that begins with it and ends inside is closed. -/
theorem Closed.not_closed_inside {cs ds : List Char} (h : Closed (cs ++ ds)) :
    ¬ Closed ('(' :: cs) := by
  intro inside
  rw [Closed, Cursor.pass_append] at h
  cases passed : Cursor.start.pass cs with
  | none =>
    rw [passed] at h
    cases h
  | some s =>
    have raised : Cursor.start.pass ('(' :: cs) = some (s.raise 1) := Cursor.pass_raise 1 passed
    rw [Closed, raised] at inside
    have depth := congrArg Cursor.depth (Option.some.inj inside)
    exact absurd depth (Nat.succ_ne_zero s.depth)

/-! ### Letters and blanks -/

theorem isAlpha_of_isUpper_toUpper {c : Char} (h : c.toUpper.isUpper = true) :
    c.isAlpha = true := by
  unfold Char.toUpper at h
  split at h
  · rename_i lower
    have small : c.isLower = true :=
      Bool.and_eq_true_iff.mpr ⟨decide_eq_true lower.1, decide_eq_true lower.2⟩
    exact Bool.or_eq_true_iff.mpr (.inr small)
  · exact Bool.or_eq_true_iff.mpr (.inl h)

theorem isWord_of_isAlpha {c : Char} (h : c.isAlpha = true) : isWord c = true := by
  rw [isWord, Char.isAlphanum, h]
  rfl

/-- The code points of white space. -/
def blankCodes : List Nat := [9, 10, 11, 12, 13, 28, 29, 30, 31, 32, 0x85, 0xA0, 0x1680, 0x2000,
  0x2001, 0x2002, 0x2003, 0x2004, 0x2005, 0x2006, 0x2007, 0x2008, 0x2009, 0x200A, 0x2028, 0x2029,
  0x202F, 0x205F, 0x3000]

theorem mem_blankCodes_of_isBlank {c : Char} (h : isBlank c = true) : c.toNat ∈ blankCodes := by
  simp only [isBlank, Bool.or_eq_true, Bool.and_eq_true, decide_eq_true_eq, beq_iff_eq] at h
  simp only [blankCodes, List.mem_cons, List.not_mem_nil, or_false]
  omega

/-- White space is no part of a word. -/
theorem isWord_of_isBlank {c : Char} (h : isBlank c = true) : isWord c = false := by
  have none : ∀ n ∈ blankCodes, isWord (Char.ofNat n) = false := by decide +kernel
  have apart := none c.toNat (mem_blankCodes_of_isBlank h)
  rwa [Char.ofNat_toNat] at apart

/-- A class of characters without marks and parentheses. -/
theorem level_of_class {p : Char → Bool} {cs : List Char} (h : ∀ c ∈ cs, p c = true)
    (apart : [singleMark, doubleMark, '(', ')'].any p = false) : Level cs := by
  intro c member
  have inside := h c member
  have other : ∀ d ∈ [singleMark, doubleMark, '(', ')'], p d = false := fun d place =>
    Bool.eq_false_iff.mpr (List.any_eq_false.mp apart d place)
  refine ⟨isMark_of_class inside (other _ (by decide)) (other _ (by decide)), ?_, ?_⟩
  · rintro rfl
    rw [other '(' (by decide)] at inside
    cases inside
  · rintro rfl
    rw [other ')' (by decide)] at inside
    cases inside

theorem level_of_isAlpha {cs : List Char} (h : ∀ c ∈ cs, c.isAlpha = true) : Level cs :=
  level_of_class h (by decide)

/-- Text that consists of white space. -/
def Blanks (cs : List Char) : Prop := ∀ c ∈ cs, isBlank c = true

instance (cs : List Char) : Decidable (Blanks cs) :=
  List.decidableBAll (fun c => isBlank c = true) cs

theorem closed_of_blanks {cs : List Char} (h : Blanks cs) : Closed cs :=
  closed_of_level (level_of_class h (by decide))

/-! ### Words -/

/-- Whether the text breaks off inside a word, if word characters follow. -/
def endsWord (cs : List Char) : Bool := cs.getLast?.any isWord

/-- Whether the text goes on with a word, if word characters stand before it. -/
def startsWord (cs : List Char) : Bool := cs.head?.any isWord

theorem endsWord_append (cs : List Char) {ds : List Char} (h : ds ≠ []) :
    endsWord (cs ++ ds) = endsWord ds := by
  rw [endsWord, endsWord, List.getLast?_append, List.getLast?_eq_some_getLast h]
  rfl

theorem startsWord_append {cs : List Char} (h : cs ≠ []) (ds : List Char) :
    startsWord (cs ++ ds) = startsWord cs := by
  obtain ⟨c, rest, rfl⟩ := List.exists_cons_of_ne_nil h
  rfl

theorem endsWord_of_forall {cs : List Char} (nonempty : cs ≠ [])
    (h : ∀ c ∈ cs, isWord c = true) : endsWord cs = true := by
  rw [endsWord, List.getLast?_eq_some_getLast nonempty]
  exact h _ (List.getLast_mem nonempty)

theorem startsWord_of_forall {cs : List Char} (nonempty : cs ≠ [])
    (h : ∀ c ∈ cs, isWord c = true) : startsWord cs = true := by
  obtain ⟨c, rest, rfl⟩ := List.exists_cons_of_ne_nil nonempty
  exact h c List.mem_cons_self

/-- The words that connect conditions. -/
inductive Connective where
  | and
  | or
  | not
deriving DecidableEq, Repr

/-- The word of a connective, in upper case. -/
def Connective.keyword : Connective → List Char
  | and => ['A', 'N', 'D']
  | or => ['O', 'R']
  | not => ['N', 'O', 'T']

theorem Connective.all_isUpper (k : Connective) : k.keyword.all Char.isUpper = true := by
  cases k <;> rfl

/-- That a word between two texts is that of a connective, in any case, and stands there as a
whole, after closed text. -/
structure WordAt (k : Connective) (front word back : List Char) : Prop where
  spelled : word.map Char.toUpper = k.keyword
  closed : Closed front
  before : endsWord front = false
  after : startsWord back = false

/-- That the word of a connective stands somewhere in a text outside literals and parentheses. -/
def HasWord (k : Connective) (cs : List Char) : Prop :=
  ∃ front word back, cs = front ++ (word ++ back) ∧ WordAt k front word back

variable {k : Connective} {word : List Char}

theorem isAlpha_of_map_toUpper {keyword : List Char} (upper : keyword.all Char.isUpper = true)
    (spelled : word.map Char.toUpper = keyword) : ∀ c ∈ word, c.isAlpha = true := by
  intro c member
  refine isAlpha_of_isUpper_toUpper (List.all_eq_true.mp upper _ ?_)
  rw [← spelled]
  exact List.mem_map_of_mem member

theorem isAlpha_of_spelled (spelled : word.map Char.toUpper = k.keyword) :
    ∀ c ∈ word, c.isAlpha = true :=
  isAlpha_of_map_toUpper k.all_isUpper spelled

theorem ne_nil_of_spelled (spelled : word.map Char.toUpper = k.keyword) : word ≠ [] := by
  rintro rfl
  cases k <;> cases spelled

theorem isWord_of_spelled (spelled : word.map Char.toUpper = k.keyword) :
    ∀ c ∈ word, isWord c = true :=
  fun c member => isWord_of_isAlpha (isAlpha_of_spelled spelled c member)

/-- A text without letters has no words. -/
theorem not_hasWord_of_no_letter {cs : List Char} (h : cs.any Char.isAlpha = false) :
    ¬ HasWord k cs := by
  rintro ⟨front, word, back, rfl, place⟩
  obtain ⟨c, rest, rfl⟩ := List.exists_cons_of_ne_nil (ne_nil_of_spelled place.spelled)
  have letter := isAlpha_of_spelled place.spelled c List.mem_cons_self
  have member : c ∈ front ++ (c :: rest ++ back) :=
    List.mem_append_right front (List.mem_append_left back List.mem_cons_self)
  exact List.any_eq_false.mp h c member letter

/-- A word is not changed by what follows apart from it. -/
theorem HasWord.append {cs ds : List Char} (h : HasWord k cs) (apart : startsWord ds = false) :
    HasWord k (cs ++ ds) := by
  obtain ⟨front, word, back, rfl, place⟩ := h
  refine ⟨front, word, back ++ ds, ?_, place.spelled, place.closed, place.before, ?_⟩
  · simp only [List.append_assoc]
  · by_cases empty : back = []
    · rw [empty]
      exact apart
    · rw [startsWord_append empty]
      exact place.after

/-- A word of two texts in a row stands in one of them, unless they are put together inside a
word. -/
theorem hasWord_append {cs ds : List Char} (closed : Closed cs)
    (apart : endsWord cs = false ∨ startsWord ds = false) (h : HasWord k (cs ++ ds)) :
    HasWord k cs ∨ HasWord k ds := by
  obtain ⟨front, word, back, whole, place⟩ := h
  rcases List.append_eq_append_iff.mp whole with ⟨rest, rfl, rfl⟩ | ⟨rest, rfl, same⟩
  · -- the word begins in the second text
    refine .inr ⟨rest, word, back, rfl, place.spelled, closed.of_append place.closed, ?_,
      place.after⟩
    by_cases empty : rest = []
    · rw [empty]
      rfl
    · rw [← endsWord_append cs empty]
      exact place.before
  · by_cases empty : rest = []
    · rw [empty, List.nil_append] at same
      exact .inr ⟨[], word, back, same.symm, place.spelled, closed_nil, rfl, place.after⟩
    · rcases List.append_eq_append_iff.mp same with ⟨left, rfl, rfl⟩ | ⟨left, rfl, rfl⟩
      · -- it ends in the first
        refine .inl ⟨front, word, left, rfl, place.spelled, place.closed, place.before, ?_⟩
        by_cases none : left = []
        · rw [none]
          rfl
        · rw [← startsWord_append none ds]
          exact place.after
      · by_cases none : left = []
        · subst none
          refine .inl ⟨front, rest, [], ?_, ?_, place.closed, place.before, rfl⟩
          · rw [List.append_nil]
          · rw [← place.spelled, List.append_nil]
        · -- it would go over the place where they meet
          have letters := isWord_of_spelled place.spelled
          rcases apart with apart | apart
          · have ends := endsWord_of_forall empty
              fun c member => letters c (List.mem_append_left left member)
            rw [endsWord_append front empty, ends] at apart
            cases apart
          · have starts := startsWord_of_forall none
              fun c member => letters c (List.mem_append_right rest member)
            rw [startsWord_append none back, starts] at apart
            cases apart

/-- The first of two places of a word does not lie before the second, if the word does not stand
in front of the second. -/
theorem WordAt.eq_nil_of_append {front rest word back other end_ : List Char}
    (place : WordAt k front word back) (second : WordAt k (front ++ rest) other end_)
    (same : word ++ back = rest ++ (other ++ end_)) (first : ¬ HasWord k (front ++ rest)) :
    rest = [] := by
  by_contra nonempty
  rcases List.append_eq_append_iff.mp same with ⟨left, rfl, rfl⟩ | ⟨left, rfl, -⟩
  · -- the first word ends before the second place
    refine first ⟨front, word, left, rfl, place.spelled, place.closed, place.before, ?_⟩
    by_cases none : left = []
    · rw [none]
      rfl
    · rw [← startsWord_append none (other ++ end_)]
      exact place.after
  · -- the second place lies inside it
    have letters := isWord_of_spelled place.spelled
    have ends := endsWord_of_forall nonempty
      fun c member => letters c (List.mem_append_left left member)
    have before := second.before
    rw [endsWord_append front nonempty, ends] at before
    cases before

/-- Where a word stands first is determined by the text. -/
theorem WordAt.unique {front word back front' word' back' : List Char}
    (place : WordAt k front word back) (place' : WordAt k front' word' back')
    (same : front ++ (word ++ back) = front' ++ (word' ++ back'))
    (first : ¬ HasWord k front) (first' : ¬ HasWord k front') :
    front = front' ∧ word = word' ∧ back = back' := by
  have fronts : front = front' := by
    rcases List.append_eq_append_iff.mp same with ⟨rest, rfl, tails⟩ | ⟨rest, rfl, tails⟩
    · rw [place.eq_nil_of_append place' tails first', List.append_nil]
    · rw [place'.eq_nil_of_append place tails first, List.append_nil]
  subst fronts
  have lengths : word.length = word'.length := by
    rw [← List.length_map Char.toUpper, place.spelled, ← place'.spelled, List.length_map]
  exact ⟨rfl, List.append_inj (List.append_cancel_left same) lengths⟩

/-- A word is no other. -/
theorem eq_of_hasWord_spelled {j : Connective} (spelled : word.map Char.toUpper = j.keyword)
    (h : HasWord k word) : k = j := by
  obtain ⟨front, other, back, rfl, place⟩ := h
  have letters := isWord_of_spelled spelled
  have noFront : front = [] := by
    by_contra nonempty
    have ends := endsWord_of_forall nonempty
      fun c member => letters c (List.mem_append_left _ member)
    rw [place.before] at ends
    cases ends
  have noBack : back = [] := by
    by_contra nonempty
    have starts := startsWord_of_forall nonempty
      fun c member => letters c (List.mem_append_right _ (List.mem_append_right _ member))
    rw [place.after] at starts
    cases starts
  rw [noFront, noBack, List.nil_append, List.append_nil, place.spelled] at spelled
  cases k <;> cases j <;> first | rfl | cases spelled

/-- No word stands in parentheses. -/
theorem not_hasWord_group {cs : List Char} (closed : Closed cs) :
    ¬ HasWord k ('(' :: cs ++ [')']) := by
  rintro ⟨front, word, back, whole, place⟩
  have letters := isAlpha_of_spelled place.spelled
  obtain ⟨c, rest, rfl⟩ := List.exists_cons_of_ne_nil (ne_nil_of_spelled place.spelled)
  have letter := letters c List.mem_cons_self
  cases front with
  | nil =>
    have opening : '(' = c := (List.cons.inj whole).1
    rw [← opening] at letter
    exact absurd letter (by decide)
  | cons d front =>
    -- what stands before the word is the opening parenthesis and a part of the inside
    obtain ⟨rfl, inside⟩ := List.cons.inj whole
    have inside : cs ++ [')'] = front ++ (c :: rest ++ back) := inside
    rcases List.append_eq_append_iff.mp inside with ⟨left, rfl, last⟩ | ⟨left, rfl, -⟩
    · cases left with
      | nil =>
        have closing : ')' = c := (List.cons.inj last).1
        rw [← closing] at letter
        exact absurd letter (by decide)
      | cons d left =>
        have none := congrArg List.length last
        simp only [List.length_cons, List.length_append, List.length_nil] at none
        omega
    · exact closed.not_closed_inside place.closed

/-! ### The search for a keyword -/

theorem blanked_append (shown : Cursor → Char → Bool) (s : Cursor) (cs ds : List Char) :
    blanked shown s (cs ++ ds) =
      blanked shown s cs ++ blanked shown (cs.foldl Cursor.step s) ds := by
  induction cs generalizing s with
  | nil => rfl
  | cons c cs ih =>
    rw [List.cons_append, blanked, blanked, ih, List.cons_append, List.foldl_cons]

theorem Closed.foldl_step {cs : List Char} (h : Closed cs) :
    cs.foldl Cursor.step Cursor.start = Cursor.start :=
  Cursor.pass_eq_foldl h

theorem blanked_level {cs : List Char} (level : Level cs) :
    blanked Cursor.topLevel Cursor.start cs = cs := by
  induction cs with
  | nil => rfl
  | cons c cs ih =>
    have rest : Level cs := fun d member => level d (List.mem_cons_of_mem c member)
    have one : Closed [c] := closed_of_level fun d member =>
      level d (List.mem_singleton.mp member ▸ List.mem_cons_self)
    obtain ⟨unmarked, opening, closing⟩ := level c List.mem_cons_self
    have shown : Cursor.topLevel Cursor.start c = true := by
      rw [Cursor.topLevel, Cursor.quoted, unmarked, bne_iff_ne.mpr opening, bne_iff_ne.mpr closing]
      rfl
    have still : Cursor.start.step c = Cursor.start := one.foldl_step
    rw [blanked, shown, if_pos rfl, still, ih rest]

theorem startsWord_blanked (shown : Cursor → Char → Bool) (s : Cursor) {cs : List Char}
    (h : startsWord cs = false) : startsWord (blanked shown s cs) = false := by
  cases cs with
  | nil => rfl
  | cons c cs =>
    show isWord (if shown s c then c else ' ') = false
    split
    · exact h
    · rfl

theorem endsWord_blanked (shown : Cursor → Char → Bool) (s : Cursor) {cs : List Char}
    (h : endsWord cs = false) : endsWord (blanked shown s cs) = false := by
  by_cases empty : cs = []
  · rw [empty]
    rfl
  · rw [← List.dropLast_concat_getLast empty] at h ⊢
    rw [endsWord_append _ (List.cons_ne_nil _ _)] at h
    rw [blanked_append, blanked, blanked, endsWord_append _ (List.cons_ne_nil _ _)]
    have one : startsWord [cs.getLast empty] = false := h
    exact startsWord_blanked shown _ one

theorem afterKeyword_append {keyword word back : List Char}
    (spelled : word.map Char.toUpper = keyword) (after : startsWord back = false) :
    afterKeyword keyword (word ++ back) = some back := by
  subst spelled
  unfold afterKeyword
  dsimp only
  rw [List.length_map, List.take_left, List.drop_left, if_pos ⟨rfl, after⟩]

theorem hasKeyword_append {keyword front back : List Char} {inWord : Bool} (nonempty : back ≠ [])
    (before : (front.getLast?.map isWord).getD inWord = false)
    (found : (afterKeyword keyword back).isSome = true) :
    hasKeyword keyword inWord (front ++ back) = true := by
  induction front generalizing inWord with
  | nil =>
    obtain ⟨c, rest, rfl⟩ := List.exists_cons_of_ne_nil nonempty
    have outside : inWord = false := before
    rw [List.nil_append, hasKeyword, outside, found]
    rfl
  | cons c front ih =>
    rw [List.cons_append, hasKeyword, Bool.or_eq_true]
    refine .inr (ih ?_)
    cases front with
    | nil => exact before
    | cons d front => exact before

/-- A word that stands in a text is found by a search in the blanked text. -/
theorem hasKeyword_of_hasWord {cs : List Char} (h : HasWord k cs) :
    hasKeyword k.keyword false (blanked Cursor.topLevel Cursor.start cs) = true := by
  obtain ⟨front, word, back, rfl, place⟩ := h
  have letters := isAlpha_of_spelled place.spelled
  have level := level_of_isAlpha letters
  -- the word is shown as it is, and what was apart from it is still
  rw [blanked_append, place.closed.foldl_step, blanked_append, blanked_level level]
  refine hasKeyword_append ?_ ?_ ?_
  · exact List.append_ne_nil_of_left_ne_nil (ne_nil_of_spelled place.spelled) _
  · have before := endsWord_blanked Cursor.topLevel Cursor.start place.before
    rw [endsWord] at before
    cases last : (blanked Cursor.topLevel Cursor.start front).getLast? with
    | none => rfl
    | some c =>
      rw [last] at before
      exact before
  · rw [afterKeyword_append place.spelled (startsWord_blanked _ _ place.after)]
    rfl

/-- An OR outside literals and parentheses is not overlooked. -/
theorem hasTopLevelOr_of_hasWord {cs : List Char} (h : HasWord .or cs) :
    hasTopLevelOr cs = true :=
  hasKeyword_of_hasWord h

end RowSecurity.Sql
