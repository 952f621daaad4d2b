/-
Two scans of a condition agree on what is quoted.

* `unquoted`: a text with a blank in each place that the scan for OR takes for quoted;
* `IsToken`: that a dollar sign and all of the digits after it stand at a place of a text;
* `spans`: the placeholders among the pieces of a text, by their places.

Main statement: `scans_agree`, for every text whose literals are closed: what is cut out of it as a
literal is what the other scan takes for quoted, and its placeholders are the tokens of the rest.

Design notes: a doubled mark is one character of a literal to the one scan, the end of a literal and
the start of the next to the other. Both marks are quoted either way, and after the literal both
scans stand outside (`Body.blanked`). They part where a literal is not closed: the one takes the
whole rest for quoted, the other hides nothing.
-/
import RowSecurity.Proofs.Scan

namespace RowSecurity.Sql

open Text

/-! ### The two scans -/

/-- Whether the scan for OR takes a character at this place for a part of the condition itself. -/
def Cursor.unquoted (s : Cursor) (c : Char) : Bool := !s.quoted c

/-- The text with a blank in each place that belongs to a literal. -/
def unquoted (cs : List Char) : List Char := blanked Cursor.unquoted Cursor.start cs

/-- A piece with blanks in place of a literal. -/
def Lexeme.shown : Lexeme → List Char
  | .literal mark body => List.replicate (Lexeme.literal mark body).chars.length ' '
  | .placeholder digits => '$' :: digits
  | .plain c => [c]

/-- The placeholders among pieces, by the places of their dollar signs, if the pieces begin at
`place`. -/
def spans (place : Nat) : List Lexeme → List (Nat × List Char)
  | [] => []
  | piece :: pieces =>
    let later := spans (place + piece.chars.length) pieces
    match piece.digits? with
    | some digits => (place, digits) :: later
    | none => later

/-- The dollar signs of a text that digits follow, by their places, each with all of the digits. -/
def tokens (place : Nat) : List Char → List (Nat × List Char)
  | [] => []
  | c :: cs =>
    let later := tokens (place + 1) cs
    if c = '$' ∧ cs.takeWhile isDigit ≠ [] then (place, cs.takeWhile isDigit) :: later else later

/-- That a dollar sign stands at a place of a text, followed by these digits and no more. -/
structure IsToken (place : Nat) (digits text : List Char) : Prop where
  stands : ∃ before after, text = before ++ '$' :: (digits ++ after) ∧ before.length = place ∧
    after.head?.any isDigit = false
  nonempty : digits ≠ []
  all : ∀ c ∈ digits, isDigit c = true

/-! ### Literals -/

theorem Cursor.step_opening {c : Char} (mark : isMark c = true) (depth : Nat) :
    Cursor.step ⟨none, depth⟩ c = ⟨some c, depth⟩ := if_pos mark

theorem Cursor.step_inside {c mark : Char} (other : c ≠ mark) (depth : Nat) :
    Cursor.step ⟨some mark, depth⟩ c = ⟨some mark, depth⟩ := if_neg other

theorem Cursor.unquoted_of_isMark {c : Char} (mark : isMark c = true) (s : Cursor) :
    s.unquoted c = false := by
  rw [Cursor.unquoted, Cursor.quoted, mark, Bool.or_true]
  rfl

/-- Outside literals, only a mark leads into one. -/
theorem Cursor.step_unmarked {c : Char} (unmarked : isMark c = false) (depth : Nat) :
    Cursor.step ⟨none, depth⟩ c = ⟨none, (Cursor.step ⟨none, depth⟩ c).depth⟩ := by
  have other : ¬ isMark c = true := Bool.eq_false_iff.mp unmarked
  simp only [Cursor.step, if_neg other]
  split
  · rfl
  · split
    · rfl
    · rfl

/-- What is quoted opens and closes no parenthesis. -/
theorem Cursor.depth_step_of_quoted {s : Cursor} {c : Char} (quoted : s.quoted c = true) :
    (s.step c).depth = s.depth := by
  obtain ⟨mark, depth⟩ := s
  cases mark with
  | some mark =>
    simp only [Cursor.step]
    split
    · rfl
    · rfl
  | none =>
    have mark : isMark c = true := quoted
    simp only [Cursor.step, if_pos mark]

/-- Outside literals, text without marks is shown as it is. -/
theorem blanked_unmarked {cs : List Char} (unmarked : ∀ c ∈ cs, isMark c = false) (s : Cursor)
    (plain : s.mark = none) :
    blanked Cursor.unquoted s cs = cs ∧ (cs.foldl Cursor.step s).mark = none := by
  induction cs generalizing s with
  | nil => exact ⟨rfl, plain⟩
  | cons c cs ih =>
    obtain ⟨mark, depth⟩ := s
    subst plain
    obtain ⟨first, rest⟩ := List.forall_mem_cons.mp unmarked
    have shown : Cursor.unquoted ⟨none, depth⟩ c = true := by
      rw [Cursor.unquoted, Cursor.quoted, first]
      rfl
    have still : (Cursor.step ⟨none, depth⟩ c).mark = none :=
      congrArg Cursor.mark (Cursor.step_unmarked first depth)
    rw [blanked, if_pos shown, List.foldl_cons, (ih rest _ still).1]
    exact ⟨rfl, (ih rest _ still).2⟩

/-- The inside of a literal and its closing mark are quoted for the scan for OR, which is outside
literals after them. -/
theorem Body.blanked {mark : Char} {body : List Char} (h : Body mark body)
    (marks : isMark mark = true) (depth : Nat) :
    blanked Cursor.unquoted ⟨some mark, depth⟩ (body ++ [mark]) =
        List.replicate (body.length + 1) ' ' ∧
      (body ++ [mark]).foldl Cursor.step ⟨some mark, depth⟩ = ⟨none, depth⟩ := by
  have closes : Cursor.step ⟨some mark, depth⟩ mark = ⟨none, depth⟩ := if_pos rfl
  induction h with
  | nil => exact ⟨rfl, closes⟩
  | @other c cs unlike _ ih =>
    obtain ⟨blanks, ends⟩ := ih
    have still := Cursor.step_inside unlike depth
    constructor
    · show ' ' :: Sql.blanked _ (Cursor.step _ c) (cs ++ [mark]) = _
      rw [still, blanks]
      rfl
    · show (cs ++ [mark]).foldl Cursor.step (Cursor.step _ c) = _
      rw [still, ends]
  | @doubled cs _ ih =>
    -- the first of the two marks closes a literal, the second opens another
    obtain ⟨blanks, ends⟩ := ih
    have opens := Cursor.step_opening marks depth
    have hidden := Cursor.unquoted_of_isMark marks ⟨none, depth⟩
    constructor
    · show ' ' :: Sql.blanked _ (Cursor.step _ mark) _ = _
      rw [closes]
      show ' ' :: (if Cursor.unquoted _ mark then mark else ' ') ::
        Sql.blanked _ (Cursor.step _ mark) (cs ++ [mark]) = _
      rw [opens, blanks, hidden]
      rfl
    · show (cs ++ [mark]).foldl Cursor.step (Cursor.step (Cursor.step _ mark) mark) = _
      rw [closes, opens, ends]

/-- Where a mark has no partner, the scan for OR does not leave the literal. -/
theorem foldl_step_of_unpaired {mark : Char} {cs : List Char} (free : mark ∉ cs) (depth : Nat) :
    cs.foldl Cursor.step ⟨some mark, depth⟩ = ⟨some mark, depth⟩ := by
  induction cs with
  | nil => rfl
  | cons c cs ih =>
    obtain ⟨other, rest⟩ := not_or.mp (mt List.mem_cons.mpr free)
    rw [List.foldl_cons, Cursor.step_inside (Ne.symm other), ih rest]

/-- Where every literal is closed, the two scans take the same characters for quoted. -/
theorem blanked_eq_shown {cs : List Char} {s : Cursor} (plain : s.mark = none)
    (closed : (cs.foldl Cursor.step s).mark = none) :
    blanked Cursor.unquoted s cs = (lexemes cs).flatMap Lexeme.shown := by
  -- by the pieces; between two of them the scan for OR is outside literals
  fun_induction lexemes cs generalizing s with
  | case1 => rfl
  | case2 c cs mark body rest found ih =>
    obtain ⟨_, depth⟩ := s
    subst plain
    obtain ⟨parts, inner, -⟩ := splitLiteral_eq_some_iff.mp found
    have whole : cs = (body ++ [c]) ++ rest := by
      rw [parts, List.append_assoc]
      rfl
    have opens := Cursor.step_opening mark depth
    have hidden := Cursor.unquoted_of_isMark mark ⟨none, depth⟩
    obtain ⟨blanks, ends⟩ := inner.blanked mark depth
    rw [List.foldl_cons, opens, whole, List.foldl_append, ends] at closed
    rw [blanked, hidden, opens, whole, blanked_append, blanks, ends, ih rfl closed,
      List.flatMap_cons]
    simp [Lexeme.shown, Lexeme.chars, List.replicate_succ]
  | case3 c cs mark unpaired ih =>
    obtain ⟨_, depth⟩ := s
    subst plain
    rw [List.foldl_cons, Cursor.step_opening mark,
      foldl_step_of_unpaired (splitLiteral_eq_none_iff.mp unpaired)] at closed
    cases closed
  | case4 c cs _ dollar ih =>
    obtain ⟨rfl, digits⟩ := dollar
    have whole : '$' :: cs = '$' :: cs.takeWhile isDigit ++ cs.dropWhile isDigit := by
      rw [List.cons_append, List.takeWhile_append_dropWhile]
    have unmarked : ∀ c ∈ '$' :: cs.takeWhile isDigit, isMark c = false := by
      refine List.forall_mem_cons.mpr ⟨by decide, fun c member => ?_⟩
      exact isMark_of_class (List.mem_takeWhile_imp member) (by decide) (by decide)
    obtain ⟨shown, outside⟩ := blanked_unmarked unmarked s plain
    rw [whole, List.foldl_append] at closed
    rw [whole, blanked_append, shown, ih outside closed, List.flatMap_cons]
    rfl
  | case5 c cs unmarked _ ih =>
    have one : ∀ d ∈ [c], isMark d = false := fun d member => by
      rw [List.mem_singleton.mp member]
      exact Bool.eq_false_iff.mpr unmarked
    obtain ⟨shown, outside⟩ := blanked_unmarked one s plain
    have whole : c :: cs = [c] ++ cs := rfl
    rw [whole, List.foldl_append] at closed
    rw [whole, blanked_append, shown, ih outside closed, List.flatMap_cons]
    rfl

/-! ### Places -/

theorem tokens_append_of_no_dollar {cs : List Char} (free : '$' ∉ cs) (place : Nat)
    (ds : List Char) : tokens place (cs ++ ds) = tokens (place + cs.length) ds := by
  induction cs generalizing place with
  | nil => rfl
  | cons c cs ih =>
    obtain ⟨other, rest⟩ := not_or.mp (mt List.mem_cons.mpr free)
    rw [List.cons_append, tokens, if_neg fun dollar => other dollar.1.symm, ih rest,
      List.length_cons, Nat.add_assoc, Nat.add_comm 1]

theorem head?_shown {cs : List Char} (stops : cs.head?.any isDigit = false) :
    ((lexemes cs).flatMap Lexeme.shown).head?.any isDigit = false := by
  fun_cases lexemes cs with
  | case1 => rfl
  | case2 c cs mark body rest found => rfl
  | case3 c cs mark found => exact stops
  | case4 c cs _ dollar => rfl
  | case5 c cs _ _ => exact stops

/-- Once the literals are blanked, the tokens of a text are its placeholders. -/
theorem tokens_shown (cs : List Char) (place : Nat) :
    tokens place ((lexemes cs).flatMap Lexeme.shown) = spans place (lexemes cs) := by
  fun_induction lexemes cs generalizing place with
  | case1 => rfl
  | case2 c cs mark body rest found ih =>
    have free : '$' ∉ (Lexeme.literal c body).shown := fun member => by
      have blank := List.eq_of_mem_replicate member
      exact absurd blank (by decide)
    rw [List.flatMap_cons, tokens_append_of_no_dollar free, ih]
    rw [Lexeme.shown, List.length_replicate]
    rfl
  | case3 c cs mark found ih =>
    have free : '$' ∉ [c] := fun member => by
      rw [← List.mem_singleton.mp member] at mark
      exact absurd mark (by decide)
    rw [List.flatMap_cons]
    exact (tokens_append_of_no_dollar free place _).trans (ih _)
  | case4 c cs _ dollar ih =>
    have all : ∀ c ∈ cs.takeWhile isDigit, isDigit c = true :=
      fun c member => List.mem_takeWhile_imp member
    have free : '$' ∉ cs.takeWhile isDigit :=
      fun member => absurd (all '$' member) (by decide)
    -- the digits end where the pieces after them begin
    obtain ⟨taken, -⟩ := takeWhile_append_of_stops (cs.takeWhile isDigit)
      (head?_shown (head?_dropWhile isDigit cs))
    rw [List.takeWhile_eq_self_iff.mpr all] at taken
    rw [List.flatMap_cons]
    show tokens place ('$' :: (cs.takeWhile isDigit ++ _)) = (place, _) :: spans _ _
    rw [tokens, taken, if_pos ⟨rfl, dollar.2⟩, tokens_append_of_no_dollar free, ih]
    rw [Lexeme.chars, List.length_cons, Nat.add_assoc, Nat.add_comm 1]
  | case5 c cs unmarked plain ih =>
    have other : ¬ (c = '$' ∧ ((lexemes cs).flatMap Lexeme.shown).takeWhile isDigit ≠ []) := by
      rintro ⟨dollar, digits⟩
      refine digits (takeWhile_eq_nil_iff_stops.mpr (head?_shown ?_))
      exact takeWhile_eq_nil_iff_stops.mp (not_not.mp fun some => plain ⟨dollar, some⟩)
    rw [List.flatMap_cons]
    show tokens place (c :: (lexemes cs).flatMap Lexeme.shown) = spans (place + 1) _
    rw [tokens, if_neg other, ih]

theorem isToken_cons {place : Nat} {digits cs : List Char} {c : Char} :
    IsToken place digits (c :: cs) ↔
      (place = 0 ∧ c = '$' ∧ digits = cs.takeWhile isDigit ∧ digits ≠ []) ∨
        ∃ next, place = next + 1 ∧ IsToken next digits cs := by
  constructor
  · rintro ⟨⟨before, after, whole, rfl, stops⟩, nonempty, all⟩
    cases before with
    | nil =>
      obtain ⟨rfl, rfl⟩ := List.cons.inj whole
      obtain ⟨taken, -⟩ := takeWhile_append_of_stops digits stops
      rw [List.takeWhile_eq_self_iff.mpr all] at taken
      exact .inl ⟨rfl, rfl, taken.symm, nonempty⟩
    | cons d before =>
      obtain ⟨rfl, rest⟩ := List.cons.inj whole
      exact .inr ⟨before.length, rfl, ⟨before, after, rest, rfl, stops⟩, nonempty, all⟩
  · rintro (⟨rfl, rfl, rfl, nonempty⟩ |
      ⟨next, rfl, ⟨before, after, rfl, rfl, stops⟩, nonempty, all⟩)
    · refine ⟨⟨[], cs.dropWhile isDigit, ?_, rfl, head?_dropWhile isDigit cs⟩, nonempty,
        fun c member => List.mem_takeWhile_imp member⟩
      rw [List.takeWhile_append_dropWhile]
      rfl
    · exact ⟨⟨c :: before, after, rfl, rfl, stops⟩, nonempty, all⟩

/-- All of the tokens of a text are found, and nothing else is. -/
theorem mem_tokens_iff {cs digits : List Char} {start place : Nat} :
    (place, digits) ∈ tokens start cs ↔
      ∃ next, place = start + next ∧ IsToken next digits cs := by
  induction cs generalizing start with
  | nil =>
    constructor
    · intro member
      cases member
    · rintro ⟨next, -, ⟨before, after, whole, -⟩, -⟩
      exact absurd whole.symm (List.append_ne_nil_of_right_ne_nil _ (List.cons_ne_nil _ _))
  | cons c cs ih =>
    have split : (place, digits) ∈ tokens start (c :: cs) ↔
        (place = start ∧ c = '$' ∧ digits = cs.takeWhile isDigit ∧ digits ≠ []) ∨
          (place, digits) ∈ tokens (start + 1) cs := by
      rw [tokens]
      split
      · rename_i dollar
        rw [List.mem_cons, Prod.mk.injEq]
        refine or_congr_left ⟨fun ⟨same, run⟩ => ⟨same, dollar.1, run, run ▸ dollar.2⟩, ?_⟩
        exact fun ⟨same, _, run, _⟩ => ⟨same, run⟩
      · rename_i other
        refine ⟨.inr, fun h => h.resolve_left ?_⟩
        rintro ⟨-, dollar, rfl, nonempty⟩
        exact other ⟨dollar, nonempty⟩
    rw [split, ih]
    constructor
    · rintro (⟨rfl, here⟩ | ⟨next, rfl, token⟩)
      · exact ⟨0, rfl, isToken_cons.mpr (.inl ⟨rfl, here⟩)⟩
      · exact ⟨next + 1, by omega, isToken_cons.mpr (.inr ⟨next, rfl, token⟩)⟩
    · rintro ⟨next, rfl, token⟩
      rcases isToken_cons.mp token with ⟨rfl, here⟩ | ⟨before, rfl, rest⟩
      · exact .inl ⟨rfl, here⟩
      · exact .inr ⟨before, by omega, rest⟩

/-- The tokens are found from left to right. -/
theorem pairwise_tokens (start : Nat) (cs : List Char) :
    (tokens start cs).Pairwise fun one other => one.1 < other.1 := by
  induction cs generalizing start with
  | nil => exact .nil
  | cons c cs ih =>
    rw [tokens]
    split
    · refine List.pairwise_cons.mpr ⟨?_, ih _⟩
      rintro ⟨place, digits⟩ member
      obtain ⟨next, rfl, -⟩ := mem_tokens_iff.mp member
      show start < start + 1 + next
      omega
    · exact ih _

theorem map_snd_spans (place : Nat) (pieces : List Lexeme) :
    (spans place pieces).map Prod.snd = pieces.filterMap Lexeme.digits? := by
  induction pieces generalizing place with
  | nil => rfl
  | cons piece pieces ih =>
    cases piece with
    | literal mark body => exact ih _
    | placeholder digits => exact congrArg (digits :: ·) (ih _)
    | plain c => exact ih _

/-! ### OR -/

/-- A scan of the text with its literals blanked shows the same places of it. -/
theorem blanked_topLevel_blanked (s : Cursor) (cs : List Char) :
    blanked Cursor.topLevel ⟨none, s.depth⟩ (blanked Cursor.unquoted s cs) =
      blanked Cursor.topLevel s cs := by
  induction cs generalizing s with
  | nil => rfl
  | cons c cs ih =>
    rw [blanked, blanked, blanked]
    cases quoted : s.quoted c with
    | true =>
      have hidden : Cursor.unquoted s c = false := by rw [Cursor.unquoted, quoted]; rfl
      have below : Cursor.topLevel s c = false := by rw [Cursor.topLevel, quoted]; rfl
      have still := ih (s.step c)
      rw [Cursor.depth_step_of_quoted quoted] at still
      rw [hidden, below, ← still]
      -- the blank moves no scan, and is a blank whether it is shown or not
      show (if _ then ' ' else ' ') :: _ = ' ' :: _
      rw [ite_self]
      rfl
    | false =>
      have shown : Cursor.unquoted s c = true := by rw [Cursor.unquoted, quoted]; rfl
      obtain ⟨plain, unmarked⟩ := Bool.or_eq_false_iff.mp quoted
      have outside : s = ⟨none, s.depth⟩ := by
        obtain ⟨mark, depth⟩ := s
        cases mark with
        | none => rfl
        | some mark => cases plain
      have next : s.step c = ⟨none, (s.step c).depth⟩ := by
        rw [outside]
        exact Cursor.step_unmarked unmarked s.depth
      have rest := ih (s.step c)
      rw [← next] at rest
      rw [if_pos shown, ← outside]
      show (if s.topLevel c = true then c else ' ') :: blanked _ (s.step c) _ = _
      rw [rest]

/-- Whether OR stands in a condition is seen from what is not quoted. -/
theorem hasTopLevelOr_unquoted (cs : List Char) :
    hasTopLevelOr (unquoted cs) = hasTopLevelOr cs :=
  congrArg (hasKeyword ['O', 'R'] false) (blanked_topLevel_blanked Cursor.start cs)

/-! ### The whole -/

/-- That the scan for placeholders and the scan for OR have one notion of what is quoted. -/
structure ScansAgree (cs : List Char) : Prop where
  /-- What is quoted for the one is a literal for the other. -/
  literals : unquoted cs = (lexemes cs).flatMap Lexeme.shown
  /-- The placeholders are the tokens of what is not quoted, in order and by their places. -/
  placeholders : spans 0 (lexemes cs) = tokens 0 (unquoted cs)
  each : ∀ place digits, (place, digits) ∈ spans 0 (lexemes cs) ↔
    IsToken place digits (unquoted cs)
  ordered : (spans 0 (lexemes cs)).Pairwise fun one other => one.1 < other.1
  /-- Their numbers are those that are read of the text. -/
  numbers : Sql.placeholders (String.ofList cs) =
    ((tokens 0 (unquoted cs)).map Prod.snd).mapM readNumeral
  /-- OR is looked for in the same text. -/
  connective : hasTopLevelOr cs = hasTopLevelOr (unquoted cs)

/-- In a text whose literals are closed, placeholders and OR are judged by the same notion of what
is quoted. -/
theorem scans_agree {cs : List Char}
    (closed : (cs.foldl Cursor.step Cursor.start).mark = none) : ScansAgree cs := by
  have literals : unquoted cs = (lexemes cs).flatMap Lexeme.shown := blanked_eq_shown rfl closed
  have places : spans 0 (lexemes cs) = tokens 0 (unquoted cs) := by
    rw [literals, tokens_shown]
  refine ⟨literals, places, fun place digits => ?_, ?_, ?_, (hasTopLevelOr_unquoted cs).symm⟩
  · rw [places, mem_tokens_iff]
    constructor
    · rintro ⟨next, rfl, token⟩
      rwa [Nat.zero_add]
    · intro token
      exact ⟨place, (Nat.zero_add place).symm, token⟩
  · rw [places]
    exact pairwise_tokens 0 _
  · rw [← places, map_snd_spans, Sql.placeholders, String.toList_ofList]

/-- A single mark between double ones, a doubled mark, and a placeholder after each. -/
theorem scans_agree_nested :
    ("a = \"it's $1\" or b = $2 and c = 'no''$3'".toList.foldl Cursor.step Cursor.start).mark =
        none ∧
      ScansAgree "a = \"it's $1\" or b = $2 and c = 'no''$3'".toList :=
  ⟨by decide, scans_agree (by decide)⟩

/-- A mark without a partner quotes the rest of a text for the scan for OR alone. -/
example : spans 0 (lexemes "'$1".toList) = [(1, ['1'])] ∧ tokens 0 (unquoted "'$1".toList) = [] := by
  decide +kernel

end RowSecurity.Sql
