/-
How texts that are put together are cut into pieces.

* `Body` and `Ends`: what stands inside a literal, and what can follow it;
* `Quiet`: texts without marks and placeholders;
* `numerals`: the digits of the placeholders of a text.

Main statements:

* `splitLiteral_eq_some_iff`: which texts are cut behind a literal, as a property of the two parts;
* `lexemes_append`: a text without marks that does not go on with a digit leaves the pieces
  before it as they are, literals that are never closed included;
* `numerals_guarded`: parentheses hide no placeholder and make none;
* `placeholders_eq_ok_iff`: the numbers of a text are those of its numerals, if none is too long;
* `renumber_number`: a shift replaces one placeholder by another and nothing else.

Design notes: a mark without a partner hides nothing, and whether it has one is decided by the
text after it. Text without marks can be added there, but not text with marks.
-/
import Mathlib.Algebra.Group.Nat.Defs
import Mathlib.Data.List.TakeWhile
import RowSecurity.Sql.Condition

namespace RowSecurity.Sql

open Text

/-! ### The pieces, one after another -/

theorem splitLiteral_cons_of_ne {mark c : Char} (unlike : c ≠ mark) (cs : List Char) :
    splitLiteral mark (c :: cs) =
      (splitLiteral mark cs).map fun found => (c :: found.1, found.2) := by
  rw [splitLiteral.eq_def]
  dsimp only
  rw [if_neg unlike]
  cases splitLiteral mark cs with
  | none => rfl
  | some found => rfl

theorem lexemes_cons_literal {c : Char} {cs body rest : List Char} (mark : isMark c = true)
    (found : splitLiteral c cs = some (body, rest)) :
    lexemes (c :: cs) = .literal c body :: lexemes rest := by
  rw [lexemes.eq_def]
  dsimp only
  rw [if_pos mark]
  split
  · rename_i found'
    rw [found] at found'
    cases found'
    rfl
  · rename_i found'
    rw [found] at found'
    cases found'

theorem lexemes_cons_mark {c : Char} {cs : List Char} (mark : isMark c = true)
    (found : splitLiteral c cs = none) : lexemes (c :: cs) = .plain c :: lexemes cs := by
  rw [lexemes.eq_def]
  dsimp only
  rw [if_pos mark]
  split
  · rename_i found'
    rw [found] at found'
    cases found'
  · rfl

theorem lexemes_cons_dollar {cs : List Char} (digits : cs.takeWhile isDigit ≠ []) :
    lexemes ('$' :: cs) =
      .placeholder (cs.takeWhile isDigit) :: lexemes (cs.dropWhile isDigit) := by
  rw [lexemes.eq_def]
  dsimp only
  rw [if_neg (by decide), if_pos ⟨rfl, digits⟩]

theorem lexemes_cons_plain {c : Char} {cs : List Char} (unmarked : isMark c = false)
    (free : ¬ (c = '$' ∧ cs.takeWhile isDigit ≠ [])) :
    lexemes (c :: cs) = .plain c :: lexemes cs := by
  rw [lexemes.eq_def]
  dsimp only
  rw [if_neg (by simp [unmarked]), if_neg free]

/-! ### Where a literal ends -/

theorem splitLiteral_eq_none {mark : Char} {cs : List Char} (free : mark ∉ cs) :
    splitLiteral mark cs = none := by
  induction cs with
  | nil => rfl
  | cons c cs ih =>
    rw [List.mem_cons, not_or] at free
    rw [splitLiteral_cons_of_ne (Ne.symm free.1), ih free.2]
    rfl

/-- A mark has no partner in a text without that mark, and in no other. -/
theorem splitLiteral_eq_none_iff {mark : Char} {cs : List Char} :
    splitLiteral mark cs = none ↔ mark ∉ cs := by
  refine ⟨fun none member => ?_, splitLiteral_eq_none⟩
  fun_induction splitLiteral mark cs with
  | case1 => cases member
  | case2 => cases none
  | case3 => cases none
  | case4 => cases none
  | case5 => cases none
  | case6 => cases none
  | case7 c cs other split ih =>
    rcases List.mem_cons.mp member with rfl | member
    · exact other rfl
    · exact ih split member

/-- What may stand between two marks: the mark itself only doubled. -/
inductive Body (mark : Char) : List Char → Prop
  | nil : Body mark []
  | other {c : Char} {cs : List Char} : c ≠ mark → Body mark cs → Body mark (c :: cs)
  | doubled {cs : List Char} : Body mark cs → Body mark (mark :: mark :: cs)

/-- That a literal ends before a text: the text does not begin with the mark, or has no other. -/
def Ends (mark : Char) (cs : List Char) : Prop := cs.head? = some mark → cs.count mark = 1

theorem Body.splitLiteral_eq {mark : Char} {body rest : List Char} (h : Body mark body)
    (ends : Ends mark rest) : splitLiteral mark (body ++ mark :: rest) = some (body, rest) := by
  induction h with
  | nil =>
    rw [List.nil_append, splitLiteral.eq_def]
    dsimp only
    rw [if_pos rfl]
    cases rest with
    | nil => rfl
    | cons d ds =>
      dsimp only
      by_cases same : d = mark
      · have once := ends (congrArg some same)
        have alone : mark ∉ ds := by
          rw [same, List.count_cons_self] at once
          exact List.count_eq_zero.mp (Nat.succ.inj once)
        rw [if_pos same, splitLiteral_eq_none alone]
      · rw [if_neg same]
  | other unlike _ ih =>
    rw [List.cons_append, splitLiteral_cons_of_ne unlike, ih]
    rfl
  | doubled _ ih =>
    rw [List.cons_append, List.cons_append, splitLiteral.eq_def]
    dsimp only
    rw [if_pos rfl, if_pos rfl, ih]

/-- A text is cut where a literal's body and mark are followed by what ends the literal. -/
theorem splitLiteral_eq_some_iff {mark : Char} {cs body rest : List Char} :
    splitLiteral mark cs = some (body, rest) ↔
      cs = body ++ mark :: rest ∧ Body mark body ∧ Ends mark rest := by
  constructor
  · intro found
    refine ⟨append_of_splitLiteral found, ?_⟩
    fun_induction splitLiteral mark cs generalizing body rest with
    | case1 => cases found
    | case2 =>
      cases found
      exact ⟨.nil, fun none => by cases none⟩
    | case3 ds inner left split ih =>
      cases found
      exact ⟨.doubled (ih split).1, (ih split).2⟩
    | case4 ds none ih =>
      cases found
      refine ⟨.nil, fun _ => ?_⟩
      rw [List.count_cons_self, List.count_eq_zero.mpr (splitLiteral_eq_none_iff.mp none)]
    | case5 d ds unlike =>
      cases found
      exact ⟨.nil, fun same => absurd (Option.some.inj same) unlike⟩
    | case6 c cs unlike inner left split ih =>
      cases found
      exact ⟨.other unlike (ih split).1, (ih split).2⟩
    | case7 => cases found
  · rintro ⟨rfl, body, ends⟩
    exact body.splitLiteral_eq ends

theorem Ends.append {mark : Char} {cs ds : List Char} (ends : Ends mark cs) (free : mark ∉ ds) :
    Ends mark (cs ++ ds) := by
  intro head
  rw [List.count_append, List.count_eq_zero.mpr free, Nat.add_zero]
  cases cs with
  | nil => exact absurd (List.mem_of_head? head) free
  | cons c cs => exact ends head

/-! ### Texts in a row -/

/-- Text without the mark changes nothing about the literals before it. -/
theorem splitLiteral_append {mark : Char} {cs ds : List Char} (free : mark ∉ ds) :
    splitLiteral mark (cs ++ ds) =
      (splitLiteral mark cs).map fun found => (found.1, found.2 ++ ds) := by
  cases found : splitLiteral mark cs with
  | none =>
    have alone := splitLiteral_eq_none_iff.mp found
    exact splitLiteral_eq_none (List.not_mem_append alone free)
  | some parts =>
    obtain ⟨body, rest⟩ := parts
    obtain ⟨rfl, inner, ends⟩ := splitLiteral_eq_some_iff.mp found
    rw [List.append_assoc]
    exact inner.splitLiteral_eq (ends.append free)

/-- Text whose first character does not go on with a run of characters leaves the run as it is. -/
theorem takeWhile_append_of_stops {p : Char → Bool} (cs : List Char) {ds : List Char}
    (stops : ds.head?.any p = false) :
    (cs ++ ds).takeWhile p = cs.takeWhile p ∧ (cs ++ ds).dropWhile p = cs.dropWhile p ++ ds := by
  induction cs with
  | nil =>
    cases ds with
    | nil => exact ⟨rfl, rfl⟩
    | cons d ds =>
      have other : ¬ p d = true := by simpa using stops
      simp [other]
  | cons c cs ih =>
    rw [List.cons_append, List.takeWhile_cons, List.takeWhile_cons, List.dropWhile_cons,
      List.dropWhile_cons, ih.1, ih.2]
    split
    · exact ⟨rfl, rfl⟩
    · exact ⟨rfl, rfl⟩

/-- What follows the characters that are dropped begins with no character of the kind. -/
theorem head?_dropWhile (p : Char → Bool) (cs : List Char) :
    (cs.dropWhile p).head?.any p = false := by
  induction cs with
  | nil => rfl
  | cons c cs ih =>
    rw [List.dropWhile_cons]
    split
    · exact ih
    · rename_i other
      exact Bool.eq_false_iff.mpr other

theorem takeWhile_eq_nil_iff_stops {p : Char → Bool} {cs : List Char} :
    cs.takeWhile p = [] ↔ cs.head?.any p = false := by
  cases cs with
  | nil => exact ⟨fun _ => rfl, fun _ => rfl⟩
  | cons c cs =>
    show _ ↔ p c = false
    rw [List.takeWhile_cons]
    cases p c with
    | true => exact ⟨fun h => absurd h (List.cons_ne_nil _ _), fun h => by cases h⟩
    | false => exact ⟨fun _ => rfl, fun _ => rfl⟩

/-- Text without marks leaves the pieces before it as they are, if it does not go on with the
digits of a placeholder. -/
theorem lexemes_append {cs ds : List Char} (unmarked : ∀ c ∈ ds, isMark c = false)
    (stops : ds.head?.any isDigit = false) :
    lexemes (cs ++ ds) = lexemes cs ++ lexemes ds := by
  have free : ∀ c, isMark c = true → c ∉ ds := by
    intro c mark member
    rw [unmarked c member] at mark
    cases mark
  -- by the pieces of the first text: a mark closed in it stays closed where it was, and one without
  -- a partner finds none in the second
  fun_induction lexemes cs with
  | case1 => rfl
  | case2 c cs mark body rest found ih =>
    have found' : splitLiteral c (cs ++ ds) = some (body, rest ++ ds) := by
      rw [splitLiteral_append (free c mark), found]
      rfl
    rw [List.cons_append, lexemes_cons_literal mark found', ih, List.cons_append]
  | case3 c cs mark found ih =>
    have found' : splitLiteral c (cs ++ ds) = none := by
      rw [splitLiteral_append (free c mark), found]
      rfl
    rw [List.cons_append, lexemes_cons_mark mark found', ih, List.cons_append]
  | case4 c cs _ dollar ih =>
    obtain ⟨rfl, digits⟩ := dollar
    obtain ⟨taken, left⟩ := takeWhile_append_of_stops cs stops
    rw [List.cons_append, lexemes_cons_dollar (by rwa [taken]), taken, left, ih, List.cons_append]
  | case5 c cs plain free ih =>
    obtain ⟨taken, -⟩ := takeWhile_append_of_stops cs stops
    rw [List.cons_append, lexemes_cons_plain (by simpa using plain) (by rwa [taken]), ih,
      List.cons_append]

/-! ### Quiet texts -/

/-- A class of characters without marks. -/
theorem isMark_of_class {p : Char → Bool} {c : Char} (h : p c = true)
    (single : p singleMark = false) (double : p doubleMark = false) : isMark c = false := by
  rw [isMark, Bool.or_eq_false_iff, beq_eq_false_iff_ne, beq_eq_false_iff_ne]
  constructor
  · rintro rfl
    rw [single] at h
    cases h
  · rintro rfl
    rw [double] at h
    cases h

/-- No mark and no placeholder, so that each character is a piece of its own. -/
def Quiet (cs : List Char) : Prop := ∀ c ∈ cs, isMark c = false ∧ c ≠ '$'

instance (cs : List Char) : Decidable (Quiet cs) :=
  List.decidableBAll (fun c => isMark c = false ∧ c ≠ '$') cs

theorem Quiet.append {cs ds : List Char} (hc : Quiet cs) (hd : Quiet ds) : Quiet (cs ++ ds) := by
  intro c member
  rcases List.mem_append.mp member with member | member
  · exact hc c member
  · exact hd c member

theorem lexemes_quiet_append {cs : List Char} (quiet : Quiet cs) (ds : List Char) :
    lexemes (cs ++ ds) = cs.map .plain ++ lexemes ds := by
  induction cs with
  | nil => rfl
  | cons c cs ih =>
    obtain ⟨unmarked, other⟩ := quiet c List.mem_cons_self
    rw [List.cons_append, lexemes_cons_plain unmarked fun dollar => other dollar.1]
    rw [ih fun d member => quiet d (List.mem_cons_of_mem c member)]
    rfl

theorem lexemes_quiet {cs : List Char} (quiet : Quiet cs) : lexemes cs = cs.map .plain := by
  have := lexemes_quiet_append quiet []
  rw [List.append_nil] at this
  rw [this, lexemes, List.append_nil]

/-- A dollar sign and digits are a placeholder, up to where the digits end. -/
theorem lexemes_placeholder_append {digits ds : List Char} (all : ∀ c ∈ digits, isDigit c = true)
    (nonempty : digits ≠ []) (stops : ds.head?.any isDigit = false) :
    lexemes ('$' :: digits ++ ds) = .placeholder digits :: lexemes ds := by
  obtain ⟨taken, left⟩ := takeWhile_append_of_stops digits stops
  rw [List.takeWhile_eq_self_iff.mpr all] at taken
  rw [List.dropWhile_eq_nil_iff.mpr all] at left
  rw [List.cons_append, lexemes_cons_dollar (by rwa [taken]), taken, left]
  rfl

/-! ### Numerals -/

/-- The digits of the placeholders of a text, from left to right. -/
def numerals (cs : List Char) : List (List Char) := (lexemes cs).filterMap Lexeme.digits?

theorem numerals_append {cs ds : List Char} (unmarked : ∀ c ∈ ds, isMark c = false)
    (stops : ds.head?.any isDigit = false) : numerals (cs ++ ds) = numerals cs ++ numerals ds := by
  rw [numerals, lexemes_append unmarked stops, List.filterMap_append]
  rfl

theorem filterMap_digits_map_plain (cs : List Char) :
    (cs.map Lexeme.plain).filterMap Lexeme.digits? = [] := by
  induction cs with
  | nil => rfl
  | cons c cs ih => exact ih

theorem numerals_quiet_append {cs : List Char} (quiet : Quiet cs) (ds : List Char) :
    numerals (cs ++ ds) = numerals ds := by
  rw [numerals, lexemes_quiet_append quiet, List.filterMap_append, filterMap_digits_map_plain]
  rfl

theorem numerals_quiet {cs : List Char} (quiet : Quiet cs) : numerals cs = [] := by
  rw [numerals, lexemes_quiet quiet, filterMap_digits_map_plain]

theorem numerals_append_quiet {cs ds : List Char} (quiet : Quiet ds)
    (stops : ds.head?.any isDigit = false) : numerals (cs ++ ds) = numerals cs := by
  rw [numerals_append (fun c member => (quiet c member).1) stops, numerals_quiet quiet,
    List.append_nil]

/-- Parentheses hide no placeholder and make none. -/
theorem numerals_guarded (cs : List Char) : numerals (guarded cs) = numerals cs := by
  unfold guarded
  split
  · have closing : Quiet [')'] := by decide
    have opening : Quiet ['('] := by decide
    rw [numerals_append_quiet closing (by decide)]
    exact numerals_quiet_append opening cs
  · rfl

/-- A list is gone through if each of its elements is, and in no other way. -/
theorem mapM_eq_ok_iff {α β ε : Type} {f : α → Except ε β} {P : α → Prop} {g : α → β}
    (each : ∀ x y, f x = .ok y ↔ P x ∧ y = g x) {xs : List α} {ys : List β} :
    xs.mapM f = .ok ys ↔ (∀ x ∈ xs, P x) ∧ ys = xs.map g := by
  induction xs generalizing ys with
  | nil =>
    constructor
    · intro h
      cases h
      exact ⟨fun _ member => absurd member List.not_mem_nil, rfl⟩
    · rintro ⟨-, rfl⟩
      rfl
  | cons x xs ih =>
    rw [List.mapM_cons]
    constructor
    · intro h
      cases first : f x with
      | error fault =>
        rw [first] at h
        cases h
      | ok y =>
        cases rest : xs.mapM f with
        | error fault =>
          rw [first, rest] at h
          cases h
        | ok zs =>
          rw [first, rest] at h
          cases h
          obtain ⟨here, rfl⟩ := (each x y).mp first
          obtain ⟨later, rfl⟩ := ih.mp rest
          exact ⟨List.forall_mem_cons.mpr ⟨here, later⟩, rfl⟩
    · rintro ⟨all, rfl⟩
      obtain ⟨here, later⟩ := List.forall_mem_cons.mp all
      rw [(each x (g x)).mpr ⟨here, rfl⟩, ih.mpr ⟨later, rfl⟩]
      rfl

/-- A failure along a list is that of one of its elements. -/
theorem exists_of_mapM_eq_error {α β ε : Type} {f : α → Except ε β} {xs : List α} {e : ε}
    (h : xs.mapM f = .error e) : ∃ x ∈ xs, f x = .error e := by
  induction xs with
  | nil => cases h
  | cons x xs ih =>
    rw [List.mapM_cons] at h
    cases first : f x with
    | error other =>
      rw [first] at h
      cases h
      exact ⟨x, List.mem_cons_self, first⟩
    | ok y =>
      cases rest : xs.mapM f with
      | error other =>
        rw [first, rest] at h
        cases h
        obtain ⟨z, member, failed⟩ := ih rest
        exact ⟨z, List.mem_cons_of_mem x member, failed⟩
      | ok ys =>
        rw [first, rest] at h
        cases h

/-- The numbers of a text are those of its numerals, if none is too long. -/
theorem placeholders_eq_ok_iff {condition : String} {used : List Nat} :
    placeholders condition = .ok used ↔
      (∀ digits ∈ numerals condition.toList, digits.length ≤ maxDigits) ∧
        used = (numerals condition.toList).map digitsValue :=
  mapM_eq_ok_iff fun _ _ => readNumeral_eq_ok_iff.trans (and_congr_right fun _ => eq_comm)

theorem placeholders_quiet {condition : String} (quiet : Quiet condition.toList) :
    placeholders condition = .ok [] := by
  rw [placeholders_eq_ok_iff, numerals_quiet quiet]
  exact ⟨fun _ member => absurd member List.not_mem_nil, rfl⟩

/-! ### The numbers that are written -/

theorem range_of_isDigit {c : Char} (h : c.isDigit = true) : 48 ≤ c.toNat ∧ c.toNat ≤ 57 := by
  simp only [Char.isDigit, Bool.and_eq_true, decide_eq_true_eq, ge_iff_le, UInt32.le_iff_toNat_le]
    at h
  exact h

/-- What holds of the ten digits holds of every digit of ASCII. -/
theorem of_isDigit {P : Char → Prop} (all : ∀ i ∈ List.range 10, P (Char.ofNat (48 + i))) {c : Char}
    (h : c.isDigit = true) : P c := by
  obtain ⟨low, high⟩ := range_of_isDigit h
  have one := all (c.toNat - 48) (List.mem_range.mpr (by omega))
  rwa [Nat.add_sub_cancel' low, Char.ofNat_toNat] at one

theorem digitValue_of_isDigit {c : Char} (h : c.isDigit = true) :
    digitValue c = some (c.toNat - 48) := by
  rw [digitValue, if_pos (range_of_isDigit h)]

theorem digitsValue_toDigits (n : Nat) : digitsValue (Nat.toDigits 10 n) = n := by
  -- digits of every script are read, those of ASCII as the core library reads them
  have steps : ∀ (cs : List Char) (start : Nat), (∀ c ∈ cs, c.isDigit = true) →
      cs.foldl (fun n c => 10 * n + (digitValue c).getD 0) start =
        Nat.ofDigitChars 10 cs start := by
    intro cs
    induction cs with
    | nil => exact fun start _ => Nat.ofDigitChars_nil.symm
    | cons c cs ih =>
      intro start all
      rw [List.foldl_cons, digitValue_of_isDigit (all c List.mem_cons_self), Nat.ofDigitChars_cons]
      exact ih _ fun d member => all d (List.mem_cons_of_mem c member)
  have digits : ∀ c ∈ Nat.toDigits 10 n, c.isDigit = true :=
    fun c member => Nat.isDigit_of_mem_toDigits (by decide) (by decide) member
  rw [digitsValue, steps _ _ digits]
  exact Nat.ofDigitChars_ten_toDigits

/-- The placeholder of a number, as it is written. -/
def numberText (n : Nat) : List Char := '$' :: Nat.toDigits 10 n

theorem isDigit_of_mem_toDigits {n : Nat} : ∀ c ∈ Nat.toDigits 10 n, isDigit c = true := by
  intro c member
  have ascii : c.isDigit = true := Nat.isDigit_of_mem_toDigits (by decide) (by decide) member
  rw [isDigit, digitValue_of_isDigit ascii]
  rfl

theorem unmarked_numberText (n : Nat) : ∀ c ∈ numberText n, isMark c = false := by
  intro c member
  rcases List.mem_cons.mp member with rfl | member
  · decide
  · exact isMark_of_class (isDigit_of_mem_toDigits c member) (by decide) (by decide)

theorem length_toDigits_le_maxDigits {n : Nat} :
    (Nat.toDigits 10 n).length ≤ maxDigits ↔ n < 10 ^ maxDigits :=
  Nat.length_toDigits_le_iff (by decide) (by decide)

theorem short_of_lt_maxDigits {n : Nat} (h : n < maxDigits) : n < 10 ^ maxDigits :=
  Nat.lt_trans h (Nat.lt_pow_self (by decide))

theorem placeholder_natCast {n : Nat} (short : n < 10 ^ maxDigits) :
    placeholder (n : Int) = .ok (numberText n) := by
  have nonneg : ¬ ((n : Int) < 0) := by omega
  have written : writeNumeral (n : Int) = .ok (Nat.toDigits 10 n) := by
    rw [writeNumeral_eq_ok_iff, if_neg nonneg]
    exact ⟨length_toDigits_le_maxDigits.mpr short, rfl⟩
  rw [placeholder, written]
  rfl

theorem placeholder_natCast_of_long {n : Nat} (long : 10 ^ maxDigits ≤ n) :
    placeholder (n : Int) = .error .digitsWritten := by
  have digits : ¬ (Nat.toDigits 10 (n : Int).natAbs).length ≤ maxDigits :=
    fun short => Nat.not_lt.mpr long (length_toDigits_le_maxDigits.mp short)
  rw [placeholder, writeNumeral, if_neg digits]
  rfl

theorem eq_numberText_of_placeholder {n : Nat} {text : List Char}
    (h : placeholder (n : Int) = .ok text) : text = numberText n ∧ n < 10 ^ maxDigits := by
  by_cases short : n < 10 ^ maxDigits
  · rw [placeholder_natCast short] at h
    cases h
    exact ⟨rfl, short⟩
  · rw [placeholder_natCast_of_long (Nat.not_lt.mp short)] at h
    cases h

/-- The one numeral of a text with one placeholder. -/
theorem numerals_number {before after : List Char} (hb : Quiet before) (ha : Quiet after)
    (stops : after.head?.any isDigit = false) (n : Nat) :
    numerals (before ++ numberText n ++ after) = [Nat.toDigits 10 n] := by
  rw [List.append_assoc, numerals_quiet_append hb, numerals, numberText]
  rw [lexemes_placeholder_append isDigit_of_mem_toDigits Nat.toDigits_ne_nil stops]
  rw [lexemes_quiet ha, List.filterMap_cons, filterMap_digits_map_plain]
  rfl

theorem placeholders_number {before after : List Char} (hb : Quiet before) (ha : Quiet after)
    (stops : after.head?.any isDigit = false) {n : Nat} (short : n < 10 ^ maxDigits) :
    placeholders (String.ofList (before ++ numberText n ++ after)) = .ok [n] := by
  rw [placeholders_eq_ok_iff, String.toList_ofList, numerals_number hb ha stops]
  refine ⟨?_, ?_⟩
  · intro digits member
    rw [List.mem_singleton.mp member]
    exact length_toDigits_le_maxDigits.mpr short
  · rw [List.map_singleton, digitsValue_toDigits]

/-! ### Replacing and shifting -/

theorem replace_placeholder (replacement : Nat → Except PlaceholderFault (List Char))
    {digits : List Char} {n : Nat} (read : readNumeral digits = .ok n) :
    (Lexeme.placeholder digits).replace replacement = replacement n := by
  rw [Lexeme.replace, Lexeme.digits?]
  simp only [read]

theorem mapM_replace_map_plain (replacement : Nat → Except PlaceholderFault (List Char))
    (cs : List Char) :
    (cs.map Lexeme.plain).mapM (Lexeme.replace replacement) = .ok (cs.map fun c => [c]) := by
  induction cs with
  | nil => rfl
  | cons c cs ih =>
    rw [List.map_cons, List.mapM_cons, ih]
    rfl

theorem flatten_map_singleton (cs : List Char) : (cs.map fun c => [c]).flatten = cs := by
  induction cs with
  | nil => rfl
  | cons c cs ih => rw [List.map_cons, List.flatten_cons, ih, List.singleton_append]

theorem substitute_quiet (replacement : Nat → Except PlaceholderFault (List Char))
    {cs : List Char} (quiet : Quiet cs) :
    substitute replacement (String.ofList cs) = .ok (String.ofList cs) := by
  rw [substitute, String.toList_ofList, lexemes_quiet quiet, mapM_replace_map_plain]
  show Except.ok (String.ofList (cs.map fun c => [c]).flatten) = _
  rw [flatten_map_singleton]

/-- Where a text has one placeholder, a replacement of the text is one of it. -/
theorem substitute_number (replacement : Nat → Except PlaceholderFault (List Char))
    {before after : List Char} (hb : Quiet before) (ha : Quiet after)
    (stops : after.head?.any isDigit = false) {n : Nat} (short : n < 10 ^ maxDigits) :
    substitute replacement (String.ofList (before ++ numberText n ++ after)) =
      (replacement n).map fun text => String.ofList (before ++ text ++ after) := by
  have read : readNumeral (Nat.toDigits 10 n) = .ok n :=
    readNumeral_eq_ok_iff.mpr ⟨length_toDigits_le_maxDigits.mpr short, digitsValue_toDigits n⟩
  rw [substitute, String.toList_ofList, List.append_assoc, lexemes_quiet_append hb, numberText]
  rw [lexemes_placeholder_append isDigit_of_mem_toDigits Nat.toDigits_ne_nil stops]
  rw [lexemes_quiet ha, List.mapM_append, List.mapM_cons, replace_placeholder replacement read,
    mapM_replace_map_plain, mapM_replace_map_plain]
  cases replacement n with
  | error fault => rfl
  | ok text =>
    show Except.ok (String.ofList
      ((before.map fun c => [c]) ++ text :: after.map fun c => [c]).flatten) = _
    rw [List.flatten_append, List.flatten_cons, flatten_map_singleton, flatten_map_singleton,
      ← List.append_assoc]
    rfl

theorem renumber_quiet {cs : List Char} (quiet : Quiet cs) (shift : Int) :
    renumber (String.ofList cs) shift = .ok (String.ofList cs) := by
  unfold renumber
  split
  · rfl
  · exact substitute_quiet _ quiet

/-- A shift replaces the one placeholder of a text by another, if that can be written. -/
theorem renumber_number {before after : List Char} (hb : Quiet before) (ha : Quiet after)
    (stops : after.head?.any isDigit = false) {m n : Nat} (short : m < 10 ^ maxDigits)
    (positive : 1 ≤ n) :
    renumber (String.ofList (before ++ numberText m ++ after)) ((n : Int) - m) =
      ((placeholder n).mapError .limit).map fun text =>
        String.ofList (before ++ text ++ after) := by
  unfold renumber
  split
  · have same : n = m := by omega
    rw [same, placeholder_natCast short]
    rfl
  · have moved : (m : Int) + ((n : Int) - m) = n := by omega
    rw [substitute_number _ hb ha stops short, moved, if_neg (by omega)]

end RowSecurity.Sql
