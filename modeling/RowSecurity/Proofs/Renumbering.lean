/-
Shifting the placeholders of a text, again and again.

* `Movable`: that a shift can move a numeral;
* `WithinLimits`: that no numeral is too long, before a shift and after it;
* `Canonical`: numerals as they are written;
* `ActsOnPlaceholders`: what shifts do to a text.

Main statements:

* `renumber_eq_ok_iff`: which texts a shift can move, and into what;
* `renumber_acts`: shifts act on the placeholders of every text, and on nothing else.

Design notes: a text is cut anew for each shift, into the same pieces as before. A shift by zero
does not even read the numerals, so it is not limited by their length; each other shift is
(`renumber_longNumeral`).
-/
import Mathlib.Data.List.Induction
import RowSecurity.Proofs.Respelling

namespace RowSecurity.Sql

open Text

/-! ### Numbers -/

/-- A numeral without zeros in front, in the digits of ASCII. -/
structure Canonical (digits : List Char) : Prop where
  ascii : ∀ c ∈ digits, c.isDigit = true
  leading : digits.head? = some '0' → digits = ['0']

theorem digitChar_of_isDigit {c : Char} (h : c.isDigit = true) :
    Nat.digitChar (c.toNat - 48) = c :=
  @of_isDigit (fun c => Nat.digitChar (c.toNat - 48) = c) (by decide) c h

theorem digitsValue_append_digit (front : List Char) {c : Char} (h : c.isDigit = true) :
    digitsValue (front ++ [c]) = 10 * digitsValue front + (c.toNat - 48) := by
  rw [digitsValue, List.foldl_append, List.foldl_cons, List.foldl_nil, digitValue_of_isDigit h]
  rfl

/-- What stands before the last digit of a canonical numeral does not begin with a zero. -/
theorem Canonical.front {front : List Char} {c : Char} (canonical : Canonical (front ++ [c]))
    (nonempty : front ≠ []) : Canonical front ∧ front.head? ≠ some '0' := by
  have head : front.head? ≠ some '0' := by
    intro zero
    have whole := canonical.leading (by rw [List.head?_append, zero]; rfl)
    have length := congrArg List.length whole
    rw [List.length_append, List.length_singleton] at length
    exact nonempty (List.length_eq_zero_iff.mp (Nat.succ.inj length))
  refine ⟨⟨fun d member => ?_, fun zero => absurd zero head⟩, head⟩
  exact canonical.ascii d (List.mem_append_left _ member)

/-- A canonical numeral is the one that is written for its number. -/
theorem Canonical.toDigits_digitsValue {digits : List Char} (canonical : Canonical digits)
    (nonempty : digits ≠ []) : Nat.toDigits 10 (digitsValue digits) = digits := by
  induction digits using List.reverseRecOn with
  | nil => exact absurd rfl nonempty
  | append_singleton front c ih =>
    have last : c.isDigit = true :=
      canonical.ascii c (List.mem_append_right front (List.mem_singleton_self c))
    obtain ⟨low, high⟩ := range_of_isDigit last
    have one : Nat.toDigits 10 (c.toNat - 48) = [c] := by
      rw [Nat.toDigits_of_lt_base (by omega), digitChar_of_isDigit last]
    rw [digitsValue_append_digit front last]
    by_cases empty : front = []
    · subst empty
      show Nat.toDigits 10 (0 + (c.toNat - 48)) = [c]
      rw [Nat.zero_add, one]
    · -- the digits in front do not begin with a zero, so they write a positive number
      obtain ⟨rest, head⟩ := canonical.front empty
      have written := ih rest empty
      have positive : 0 < digitsValue front := by
        refine Nat.pos_of_ne_zero fun zero => head ?_
        rw [zero] at written
        rw [← written]
        rfl
      rw [← Nat.toDigits_append_toDigits (by decide) positive (by omega), written, one]

/-- The digits that are written for the number of a numeral after a shift. -/
def shiftedDigits (shift : Int) (digits : List Char) : List Char :=
  Nat.toDigits 10 ((digitsValue digits : Int) + shift).toNat

theorem spelling_shiftedDigits (shift : Int) : Spelling (shiftedDigits shift) :=
  fun _ => ⟨Nat.toDigits_ne_nil, isDigit_of_mem_toDigits⟩

/-- What a shift makes of the digits of placeholders: nothing, if it is zero. -/
def spellingAfter (shift : Int) : List Char → List Char :=
  if shift = 0 then id else shiftedDigits shift

/-- That a shift can move a numeral: it can be read, and the number it is moved to is positive and
can be written. -/
structure Movable (shift : Int) (digits : List Char) : Prop where
  short : digits.length ≤ maxDigits
  positive : 1 ≤ (digitsValue digits : Int) + shift
  written : ((digitsValue digits : Int) + shift).toNat < 10 ^ maxDigits

/-- That no numeral of a text is too long, as it is and after a shift. -/
def WithinLimits (shift : Int) (clause : String) : Prop :=
  ∀ digits ∈ numerals clause.toList, digits.length ≤ maxDigits ∧
    ((digitsValue digits : Int) + shift).toNat < 10 ^ maxDigits

/-- The placeholder of a number after a shift. -/
def shiftedPlaceholder (shift : Int) (number : Nat) : Except PlaceholderFault (List Char) :=
  if (number : Int) + shift < 1 then .error (.outOfRange number shift)
  else (placeholder (number + shift)).mapError .limit

/-! ### One shift -/

theorem digitsValue_shiftedDigits (shift : Int) (digits : List Char) :
    digitsValue (shiftedDigits shift digits) = ((digitsValue digits : Int) + shift).toNat :=
  digitsValue_toDigits _

theorem movable_iff {shift : Int} {digits : List Char} (short : digits.length ≤ maxDigits)
    (written : ((digitsValue digits : Int) + shift).toNat < 10 ^ maxDigits) :
    Movable shift digits ↔ 1 ≤ (digitsValue digits : Int) + shift :=
  ⟨Movable.positive, fun positive => ⟨short, positive, written⟩⟩

theorem shiftedPlaceholder_eq_ok_iff {shift : Int} {number : Nat} {text : List Char} :
    shiftedPlaceholder shift number = .ok text ↔
      (1 ≤ (number : Int) + shift ∧ ((number : Int) + shift).toNat < 10 ^ maxDigits) ∧
        text = numberText ((number : Int) + shift).toNat := by
  unfold shiftedPlaceholder
  split
  · rename_i low
    constructor
    · intro h
      cases h
    · rintro ⟨⟨positive, -⟩, -⟩
      omega
  · rename_i positive
    obtain ⟨moved, same⟩ := Int.eq_ofNat_of_zero_le (show 0 ≤ (number : Int) + shift by omega)
    rw [same, Int.toNat_natCast]
    by_cases short : moved < 10 ^ maxDigits
    · rw [placeholder_natCast short]
      constructor
      · intro h
        cases h
        exact ⟨⟨by omega, short⟩, rfl⟩
      · rintro ⟨-, rfl⟩
        rfl
    · rw [placeholder_natCast_of_long (Nat.not_lt.mp short)]
      constructor
      · intro h
        cases h
      · rintro ⟨⟨-, other⟩, -⟩
        exact absurd other short

theorem replace_eq_ok_iff {shift : Int} (piece : Lexeme) (text : List Char) :
    piece.replace (shiftedPlaceholder shift) = .ok text ↔
      (∀ digits, piece.digits? = some digits → Movable shift digits) ∧
        text = (piece.respell (shiftedDigits shift)).chars := by
  cases run : piece.digits? with
  | none =>
    have kept : piece.respell (shiftedDigits shift) = piece := by
      cases piece with
      | placeholder digits => cases run
      | literal mark body => rfl
      | plain c => rfl
    rw [Lexeme.replace, run, kept]
    constructor
    · intro h
      cases h
      exact ⟨fun digits some => (by cases some), rfl⟩
    · rintro ⟨-, rfl⟩
      rfl
  | some digits =>
    have only : (∀ other, some digits = some other → Movable shift other) ↔
        Movable shift digits :=
      ⟨fun all => all digits rfl, fun movable other same => Option.some.inj same ▸ movable⟩
    have moved : (piece.respell (shiftedDigits shift)).chars =
        numberText ((digitsValue digits : Int) + shift).toNat := by
      cases piece with
      | placeholder own =>
        cases run
        rfl
      | literal mark body => cases run
      | plain c => cases run
    rw [Lexeme.replace, run, only, moved]
    dsimp only
    by_cases short : digits.length ≤ maxDigits
    · rw [readNumeral_eq_ok_iff.mpr ⟨short, rfl⟩]
      dsimp only
      rw [shiftedPlaceholder_eq_ok_iff]
      refine and_congr_left fun _ => ⟨fun range => ⟨short, range.1, range.2⟩, ?_⟩
      exact fun movable => ⟨movable.positive, movable.written⟩
    · rw [readNumeral, if_neg short]
      dsimp only
      constructor
      · intro h
        cases h
      · rintro ⟨movable, -⟩
        exact absurd movable.short short

theorem forall_mem_numerals {P : List Char → Prop} {cs : List Char} :
    (∀ digits ∈ numerals cs, P digits) ↔
      ∀ piece ∈ lexemes cs, ∀ digits, piece.digits? = some digits → P digits := by
  constructor
  · intro all piece member digits same
    exact all digits (List.mem_filterMap.mpr ⟨piece, member, same⟩)
  · intro all digits member
    obtain ⟨piece, inside, same⟩ := List.mem_filterMap.mp member
    exact all piece inside digits same

/-- A placeholder has a digit. -/
theorem ne_nil_of_mem_numerals {cs : List Char} : ∀ digits ∈ numerals cs, digits ≠ [] := by
  rw [forall_mem_numerals]
  fun_induction lexemes cs with
  | case1 => exact fun _ member => absurd member List.not_mem_nil
  | case2 c cs _ body rest found ih =>
    exact List.forall_mem_cons.mpr ⟨fun digits some => (by cases some), ih⟩
  | case3 c cs _ found ih =>
    exact List.forall_mem_cons.mpr ⟨fun digits some => (by cases some), ih⟩
  | case4 c cs _ dollar ih =>
    refine List.forall_mem_cons.mpr ⟨fun digits some => ?_, ih⟩
    rw [← Option.some.inj some]
    exact dollar.2
  | case5 c cs _ _ ih =>
    exact List.forall_mem_cons.mpr ⟨fun digits some => (by cases some), ih⟩

variable {clause moved whole : String} {shift : Int}

theorem renumber_of_ne_zero (nonzero : shift ≠ 0) (clause : String) :
    renumber clause shift = substitute (shiftedPlaceholder shift) clause := if_neg nonzero

theorem respelled_spellingAfter_zero (cs : List Char) :
    respelled (spellingAfter 0) (lexemes cs) = cs := respelled_id cs

/-- A text is renumbered if each of its numerals can be moved, and into the text with the digits of
the numbers that they are moved to. -/
theorem renumber_eq_ok_iff : renumber clause shift = .ok moved ↔
    (shift ≠ 0 → ∀ digits ∈ numerals clause.toList, Movable shift digits) ∧
      moved = String.ofList (respelled (spellingAfter shift) (lexemes clause.toList)) := by
  by_cases zero : shift = 0
  · subst zero
    rw [respelled_spellingAfter_zero, String.ofList_toList]
    constructor
    · intro h
      cases h
      exact ⟨fun other => absurd rfl other, rfl⟩
    · rintro ⟨-, rfl⟩
      rfl
  · have spelling : spellingAfter shift = shiftedDigits shift := if_neg zero
    have pieces := @mapM_eq_ok_iff _ _ _ _ _ _ (@replace_eq_ok_iff shift)
      (lexemes clause.toList)
    rw [renumber_of_ne_zero zero, substitute, spelling, forall_mem_numerals]
    constructor
    · intro h
      cases texts : (lexemes clause.toList).mapM (Lexeme.replace (shiftedPlaceholder shift)) with
      | error fault =>
        rw [texts] at h
        cases h
      | ok parts =>
        rw [texts] at h
        cases h
        obtain ⟨movable, rfl⟩ := pieces.mp texts
        refine ⟨fun _ => movable, ?_⟩
        rw [respelled, List.flatMap, List.map_map]
        rfl
    · rintro ⟨movable, rfl⟩
      rw [pieces.mpr ⟨movable zero, rfl⟩, respelled, List.flatMap, List.map_map]
      rfl

/-- What a shift makes of a text that it can move. -/
structure ShiftsEach (clause : String) (shift : Int) (moved : String) : Prop where
  /-- The pieces are as they were, but for the digits of the placeholders. -/
  pieces : lexemes moved.toList =
    (lexemes clause.toList).map (Lexeme.respell (spellingAfter shift))
  /-- The shift is added to each number, -/
  numbers : (numerals moved.toList).map (fun digits => (digitsValue digits : Int)) =
    (numerals clause.toList).map fun digits => (digitsValue digits : Int) + shift
  /-- also to those that are read of the text. -/
  read : placeholders moved = (placeholders clause).map fun used =>
    used.map fun number : Nat => ((number : Int) + shift).toNat

theorem shiftsEach_of_renumber (h : renumber clause shift = .ok moved) :
    ShiftsEach clause shift moved := by
  obtain ⟨movable, rfl⟩ := renumber_eq_ok_iff.mp h
  by_cases zero : shift = 0
  · subst zero
    rw [respelled_spellingAfter_zero, String.ofList_toList]
    refine ⟨?_, ?_, ?_⟩
    · refine (List.map_id'' (fun piece => ?_) _).symm
      cases piece <;> rfl
    · simp only [Int.add_zero]
    · simp only [Int.add_zero, Int.toNat_natCast, List.map_id']
      cases placeholders clause <;> rfl
  · have spelling : spellingAfter shift = shiftedDigits shift := if_neg zero
    have moves := movable zero
    have spells := spelling_shiftedDigits shift
    rw [spelling]
    have runs := numerals_respelled spells clause.toList
    refine ⟨?_, ?_, ?_⟩
    · rw [String.toList_ofList, spelling, lexemes_respelled spells]
    · rw [String.toList_ofList, runs, List.map_map]
      refine List.map_congr_left fun digits member => ?_
      have positive := (moves digits member).positive
      show (digitsValue (shiftedDigits shift digits) : Int) = _
      rw [digitsValue_shiftedDigits, Int.toNat_of_nonneg (by omega)]
    · have before : placeholders clause = .ok ((numerals clause.toList).map digitsValue) :=
        placeholders_eq_ok_iff.mpr ⟨fun digits member => (moves digits member).short, rfl⟩
      rw [before]
      show placeholders _ = .ok (((numerals clause.toList).map digitsValue).map _)
      rw [placeholders_eq_ok_iff, String.toList_ofList, runs]
      constructor
      · intro digits member
        obtain ⟨run, inside, rfl⟩ := List.mem_map.mp member
        exact length_toDigits_le_maxDigits.mpr (moves run inside).written
      · rw [List.map_map, List.map_map]
        exact List.map_congr_left fun digits _ => (digitsValue_shiftedDigits shift digits).symm

/-! ### Two shifts -/

/-- One shift and another are their sum. -/
theorem renumber_add {a b : Int} (first : renumber clause a = .ok moved)
    (second : renumber moved b = .ok whole) (nonzero : a + b ≠ 0) :
    renumber clause (a + b) = .ok whole := by
  by_cases noneFirst : a = 0
  · subst noneFirst
    cases first
    rwa [Int.zero_add]
  by_cases noneSecond : b = 0
  · subst noneSecond
    cases second
    rwa [Int.add_zero]
  obtain ⟨movable, rfl⟩ := renumber_eq_ok_iff.mp first
  obtain ⟨again, rfl⟩ := renumber_eq_ok_iff.mp second
  have one : spellingAfter a = shiftedDigits a := if_neg noneFirst
  have two : spellingAfter b = shiftedDigits b := if_neg noneSecond
  have both : spellingAfter (a + b) = shiftedDigits (a + b) := if_neg nonzero
  have spells := spelling_shiftedDigits a
  rw [one, String.toList_ofList, numerals_respelled spells] at again
  -- what the second shift adds to is the number that the first has moved to
  have sums : ∀ digits ∈ numerals clause.toList,
      ((digitsValue (shiftedDigits a digits) : Int) + b) = (digitsValue digits : Int) + (a + b) := by
    intro digits member
    have positive := (movable noneFirst digits member).positive
    rw [digitsValue_shiftedDigits, Int.toNat_of_nonneg (by omega), Int.add_assoc]
  rw [renumber_eq_ok_iff, one, two, both, String.toList_ofList, respelled_respelled spells]
  refine ⟨fun _ digits member => ?_, congrArg String.ofList (respelled_congr ?_)⟩
  · have next := again noneSecond _ (List.mem_map_of_mem member)
    have positive := next.positive
    have written := next.written
    rw [sums digits member] at positive written
    exact ⟨(movable noneFirst digits member).short, positive, written⟩
  · intro digits member
    show Nat.toDigits 10 ((digitsValue (shiftedDigits a digits) : Int) + b).toNat = _
    rw [sums digits member]
    rfl

/-- A shift back gives a text again whose numerals are canonical. -/
theorem renumber_back {a : Int} (first : renumber clause a = .ok moved)
    (second : renumber moved (-a) = .ok whole)
    (canonical : ∀ digits ∈ numerals clause.toList, Canonical digits) : whole = clause := by
  by_cases none : a = 0
  · subst none
    cases first
    cases second
    rfl
  obtain ⟨movable, rfl⟩ := renumber_eq_ok_iff.mp first
  obtain ⟨-, rfl⟩ := renumber_eq_ok_iff.mp second
  have one : spellingAfter a = shiftedDigits a := if_neg none
  have two : spellingAfter (-a) = shiftedDigits (-a) := if_neg (by omega)
  rw [one, two, String.toList_ofList, respelled_respelled (spelling_shiftedDigits a)]
  have same : respelled (shiftedDigits (-a) ∘ shiftedDigits a) (lexemes clause.toList) =
      respelled id (lexemes clause.toList) := by
    refine respelled_congr fun digits member => ?_
    have positive := (movable none digits member).positive
    have back : ((digitsValue (shiftedDigits a digits) : Int) + -a).toNat = digitsValue digits := by
      rw [digitsValue_shiftedDigits]
      omega
    show Nat.toDigits 10 _ = digits
    rw [back]
    exact (canonical digits member).toDigits_digitsValue (ne_nil_of_mem_numerals digits member)
  rw [same, respelled_id, String.ofList_toList]

/-! ### Texts that cannot be moved -/

/-- A text is refused if some numeral cannot be moved, unless there is nothing to move. -/
theorem renumber_eq_error_iff : (∃ fault, renumber clause shift = .error fault) ↔
    shift ≠ 0 ∧ ∃ digits ∈ numerals clause.toList, ¬ Movable shift digits := by
  constructor
  · rintro ⟨fault, failed⟩
    by_contra movable
    have all : shift ≠ 0 → ∀ digits ∈ numerals clause.toList, Movable shift digits := by
      intro nonzero digits member
      by_contra unmoved
      exact movable ⟨nonzero, digits, member, unmoved⟩
    rw [renumber_eq_ok_iff.mpr ⟨all, rfl⟩] at failed
    cases failed
  · rintro ⟨nonzero, digits, member, unmoved⟩
    cases result : renumber clause shift with
    | error fault => exact ⟨fault, rfl⟩
    | ok moved => exact absurd ((renumber_eq_ok_iff.mp result).1 nonzero digits member) unmoved

/-- A piece that cannot be moved is a placeholder; if it is within the limits, its number would be
moved below one. -/
theorem replace_eq_error {piece : Lexeme} {fault : PlaceholderFault}
    (failed : piece.replace (shiftedPlaceholder shift) = .error fault) :
    ∃ digits, piece.digits? = some digits ∧ (digits.length ≤ maxDigits →
      ((digitsValue digits : Int) + shift).toNat < 10 ^ maxDigits →
        (digitsValue digits : Int) + shift < 1 ∧
          fault = .outOfRange (digitsValue digits) shift) := by
  unfold Lexeme.replace at failed
  split at failed
  · cases failed
  · rename_i digits run
    refine ⟨digits, run, fun short written => ?_⟩
    rw [readNumeral_eq_ok_iff.mpr ⟨short, rfl⟩] at failed
    dsimp only at failed
    by_cases low : (digitsValue digits : Int) + shift < 1
    · rw [shiftedPlaceholder, if_pos low] at failed
      cases failed
      exact ⟨low, rfl⟩
    · rw [shiftedPlaceholder_eq_ok_iff.mpr ⟨⟨by omega, written⟩, rfl⟩] at failed
      cases failed

/-- Within the limits, what stands in the way of a shift is a number that it would move below
one. -/
theorem eq_outOfRange_of_renumber {fault : PlaceholderFault} (within : WithinLimits shift clause)
    (failed : renumber clause shift = .error fault) : ∃ digits ∈ numerals clause.toList,
      (digitsValue digits : Int) + shift < 1 ∧ fault = .outOfRange (digitsValue digits) shift := by
  have nonzero := (renumber_eq_error_iff.mp ⟨fault, failed⟩).1
  rw [renumber_of_ne_zero nonzero, substitute] at failed
  cases texts : (lexemes clause.toList).mapM (Lexeme.replace (shiftedPlaceholder shift)) with
  | ok parts =>
    rw [texts] at failed
    cases failed
  | error first =>
    rw [texts] at failed
    cases failed
    obtain ⟨piece, inside, stuck⟩ := exists_of_mapM_eq_error texts
    obtain ⟨digits, run, low⟩ := replace_eq_error stuck
    have member : digits ∈ numerals clause.toList := List.mem_filterMap.mpr ⟨piece, inside, run⟩
    obtain ⟨short, written⟩ := within digits member
    exact ⟨digits, member, low short written⟩

/-! ### The whole -/

/-- That shifts act on the placeholders of a text and on nothing else. -/
structure ActsOnPlaceholders (clause : String) : Prop where
  /-- A shift other than zero needs numerals that it can move. -/
  refused : ∀ {shift}, (∃ fault, renumber clause shift = .error fault) ↔
    shift ≠ 0 ∧ ∃ digits ∈ numerals clause.toList, ¬ Movable shift digits
  /-- Where no numeral is too long, these are the ones whose numbers stay positive, -/
  refusedLow : ∀ {shift}, shift = 0 ∨ WithinLimits shift clause →
    ((∃ fault, renumber clause shift = .error fault) ↔
      shift ≠ 0 ∧ ∃ digits ∈ numerals clause.toList, (digitsValue digits : Int) + shift < 1)
  /-- and the error names one that would not. -/
  fault : ∀ {shift fault}, shift = 0 ∨ WithinLimits shift clause →
    renumber clause shift = .error fault → ∃ digits ∈ numerals clause.toList,
      (digitsValue digits : Int) + shift < 1 ∧ fault = .outOfRange (digitsValue digits) shift
  /-- The shift is added to the numbers, and all else is as it was. -/
  shifts : ∀ {shift moved}, renumber clause shift = .ok moved → ShiftsEach clause shift moved
  /-- One shift and another are their sum. -/
  adds : ∀ {a b moved whole}, renumber clause a = .ok moved → renumber moved b = .ok whole →
    a + b ≠ 0 → renumber clause (a + b) = .ok whole
  /-- A shift back gives the text again. -/
  back : ∀ {a moved whole}, renumber clause a = .ok moved → renumber moved (-a) = .ok whole →
    (∀ digits ∈ numerals clause.toList, Canonical digits) → whole = clause

/-- Shifts act on the placeholders of every text. -/
theorem renumber_acts (clause : String) : ActsOnPlaceholders clause where
  refused := renumber_eq_error_iff
  refusedLow {shift} within := by
    rw [renumber_eq_error_iff]
    refine and_congr_right fun nonzero => exists_congr fun digits => and_congr_right ?_
    intro member
    obtain ⟨short, written⟩ := within.resolve_left nonzero digits member
    rw [movable_iff short written, Int.not_le]
  fault {shift fault} within failed := by
    have nonzero := (renumber_eq_error_iff.mp ⟨fault, failed⟩).1
    exact eq_outOfRange_of_renumber (within.resolve_left nonzero) failed
  shifts := shiftsEach_of_renumber
  adds := renumber_add
  back := renumber_back

/-- Shifts of a text with a dollar sign in a literal and a mark that has no partner. -/
theorem renumber_acts_costs :
    ∃ moved whole, renumber "note = 'costs $5' OR $1 <> 'it" 9 = .ok moved ∧
      ShiftsEach "note = 'costs $5' OR $1 <> 'it" 9 moved ∧ renumber moved (-4) = .ok whole ∧
      renumber "note = 'costs $5' OR $1 <> 'it" 5 = .ok whole := by
  have first : renumber "note = 'costs $5' OR $1 <> 'it" 9 =
      .ok "note = 'costs $5' OR $10 <> 'it" := by decide +kernel
  have second : renumber "note = 'costs $5' OR $10 <> 'it" (-4) =
      .ok "note = 'costs $5' OR $6 <> 'it" := by decide +kernel
  have acts := renumber_acts "note = 'costs $5' OR $1 <> 'it"
  exact ⟨_, _, first, acts.shifts first, second, acts.adds first second (by decide)⟩

/-- A placeholder whose number has more digits than can be read. -/
def longClause : List Char := "a = $".toList ++ List.replicate 4301 '1'

theorem numerals_longClause : numerals longClause = [List.replicate 4301 '1'] := by
  have quiet : Quiet "a = ".toList := by decide
  have digits : ∀ c ∈ List.replicate 4301 '1', isDigit c = true := by
    intro c member
    rw [List.eq_of_mem_replicate member]
    decide
  have text : longClause = "a = ".toList ++ ('$' :: List.replicate 4301 '1' ++ []) := by
    rw [List.append_nil]
    rfl
  have nonempty : List.replicate 4301 '1' ≠ [] := List.cons_ne_nil _ _
  have none : Quiet [] := by decide
  rw [text, numerals_quiet_append quiet, numerals,
    lexemes_placeholder_append digits nonempty rfl, lexemes_quiet none]
  rfl

/-- A number that is too long is refused, though the shift would not move it below one. -/
theorem renumber_longNumeral :
    (∀ digits ∈ numerals (String.ofList longClause).toList, 1 ≤ (digitsValue digits : Int) + 1) ∧
      ∃ fault, renumber (String.ofList longClause) 1 = .error fault := by
  rw [String.toList_ofList]
  refine ⟨fun digits _ => by omega, renumber_eq_error_iff.mpr ⟨by decide, ?_⟩⟩
  rw [String.toList_ofList, numerals_longClause]
  refine ⟨_, List.mem_singleton_self _, fun movable => ?_⟩
  have short := movable.short
  rw [List.length_replicate] at short
  exact absurd short (by decide)

end RowSecurity.Sql
