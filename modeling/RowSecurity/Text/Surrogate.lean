/-
Halves of surrogate pairs.

* `ofCode`: how a text holds a code;
* `codes`: the codes that a text stands for;
* `ofString`: the text of a string, which holds no halves;
* `inOrder`: texts in the order of their codes.

Main statement: `codes_flatMap_ofCode` says that nothing is lost: a text stands for the codes
that were put into it.

Design notes: an escape can write half of a surrogate pair, which is no character. A text
holds it as the character `halfShift` above its code, and a character that lies there itself
stands behind a `shield`. No character is assigned there, so neither is letter, digit or
blank, and reading a text goes past them. What is counted, shown or put in order goes by
codes.
-/
namespace RowSecurity.Text

/-- Whether a code is that of half of a surrogate pair. -/
def isHalf (code : Nat) : Bool := 0xD800 ≤ code && code ≤ 0xDFFF

/-- How far above its code the character lies that stands for a half. -/
def halfShift : Nat := 0xD0000

/-- The character that stands before one that is meant as itself, where that one lies in the
stretch that holds halves or is a shield too. -/
def shield : Char := Char.ofNat 0xDE000

/-- The characters that a text holds for a code. -/
def ofCode (code : Nat) : List Char :=
  if isHalf code then [Char.ofNat (code + halfShift)]
  else if isHalf (code - halfShift) || code == shield.toNat then [shield, Char.ofNat code]
  else [Char.ofNat code]

/-- The code that a character stands for without a shield. -/
def bareCode (c : Char) : Nat :=
  if isHalf (c.toNat - halfShift) then c.toNat - halfShift else c.toNat

/-- The codes that a text stands for. -/
def codes : List Char → List Nat
  | [] => []
  | [c] => [bareCode c]
  | c :: d :: cs => if c = shield then d.toNat :: codes cs else bareCode c :: codes (d :: cs)

def ofString (s : String) : String := String.ofList (s.toList.flatMap fun c => ofCode c.toNat)

/-- Where the first half of a text stands, and it with the halves that follow it at once. -/
def firstHalves (cs : List Char) : Option (Nat × List Nat) :=
  match ((codes cs).dropWhile (!isHalf ·)).takeWhile isHalf with
  | [] => none
  | halves => some (((codes cs).takeWhile (!isHalf ·)).length, halves)

/-- Whether the first of two texts comes no later in the order of codes. -/
def inOrder (a b : String) : Bool := ¬ codes b.toList < codes a.toList

theorem inOrder_iff {a b : String} : inOrder a b = true ↔ ¬ codes b.toList < codes a.toList := by
  simp [inOrder]

theorem inOrder_trans (a b c : String) (h : inOrder a b = true) (h' : inOrder b c = true) :
    inOrder a c = true := by
  rw [inOrder_iff, List.not_lt] at *
  exact List.le_trans h h'

theorem inOrder_total (a b : String) : (inOrder a b || inOrder b a) = true := by
  rw [Bool.or_eq_true, inOrder_iff, inOrder_iff, List.not_lt, List.not_lt]
  exact List.le_total _ _

/-- Texts that come before one another stand for the same codes. -/
theorem codes_eq_of_inOrder {a b : String} (h : inOrder a b = true) (h' : inOrder b a = true) :
    codes a.toList = codes b.toList := by
  rw [inOrder_iff, List.not_lt] at *
  exact List.le_antisymm h h'

theorem isHalf_iff {n : Nat} : isHalf n = true ↔ 0xD800 ≤ n ∧ n ≤ 0xDFFF := by
  simp [isHalf]

theorem toNat_ofNat {n : Nat} (h : n.isValidChar) : (Char.ofNat n).toNat = n := by
  rw [Char.ofNat, dif_pos h]
  rfl

theorem codes_shield (c : Char) (cs : List Char) :
    codes (shield :: c :: cs) = c.toNat :: codes cs := by
  simp [codes]

theorem codes_cons {c : Char} (h : c ≠ shield) (cs : List Char) :
    codes (c :: cs) = bareCode c :: codes cs := by
  cases cs with
  | nil => rfl
  | cons d cs => simp [codes, h]

theorem codes_ofCode_append {n : Nat} (valid : n < 0x110000) (cs : List Char) :
    codes (ofCode n ++ cs) = n :: codes cs := by
  have shielded : shield.toNat = 0xDE000 := rfl
  unfold ofCode
  split
  · rename_i half
    rw [isHalf_iff] at half
    have held : (Char.ofNat (n + halfShift)).toNat = n + halfShift :=
      toNat_ofNat (by simp only [Nat.isValidChar, halfShift]; omega)
    have unlike : Char.ofNat (n + halfShift) ≠ shield := by
      intro same
      rw [same, shielded, halfShift] at held
      omega
    rw [List.singleton_append, codes_cons unlike, bareCode, held, Nat.add_sub_cancel,
      if_pos (isHalf_iff.2 half)]
  · rename_i whole
    rw [isHalf_iff] at whole
    have held : (Char.ofNat n).toNat = n :=
      toNat_ofNat (by simp only [Nat.isValidChar]; omega)
    split
    · rw [List.cons_append, List.singleton_append, codes_shield, held]
    · rename_i free
      simp only [Bool.or_eq_true, beq_iff_eq, not_or, Bool.not_eq_true] at free
      have unlike : Char.ofNat n ≠ shield := by
        intro same
        rw [same] at held
        exact free.2 held.symm
      rw [List.singleton_append, codes_cons unlike, bareCode, held, free.1]
      rfl

theorem codes_flatMap_ofCode {ns : List Nat} (valid : ∀ n ∈ ns, n < 0x110000) :
    codes (ns.flatMap ofCode) = ns := by
  induction ns with
  | nil => rfl
  | cons n ns ih =>
    rw [List.flatMap_cons, codes_ofCode_append (valid n List.mem_cons_self),
      ih fun m hm => valid m (List.mem_cons_of_mem n hm)]

theorem codes_ofString (s : String) : codes (ofString s).toList = s.toList.map Char.toNat := by
  rw [ofString, String.toList_ofList, ← List.flatMap_map]
  apply codes_flatMap_ofCode
  intro n hn
  obtain ⟨c, -, rfl⟩ := List.mem_map.1 hn
  have h : c.toNat.isValidChar := c.valid
  simp only [Nat.isValidChar] at h
  omega

end RowSecurity.Text
