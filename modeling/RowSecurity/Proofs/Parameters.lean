/-
Each placeholder becomes a parameter of its own, where its neighbours let it.

* `Sql.parameterAt`: the name of the parameter that a colon between two texts begins;
* `Sql.StandsFree`: places where what stands beside a placeholder keeps it from nothing;
* `Sql.BindsEach`: what a statement makes of each placeholder of a text;
* `Sql.Converts`: which texts become statements, and what they then are.

Main statements:

* `mem_definedNames_iff`: the names that a text defines are those of its places;
* `parameterAt_eq_iff_standsFree`: a placeholder becomes a parameter of its own just where it stands
  free;
* `ofText_converts`, for every text and all values.

Design notes: a text is refused for a number without a parameter, and not for a placeholder without
one. So one that stands free covers up for others of its number that do not (`ofText_covered`).
-/
import RowSecurity.Proofs.Binding

namespace RowSecurity.Sql

open Text

/-! ### Names and their places -/

/-- The name of the parameter that a colon between two texts begins. -/
def parameterAt (before after : List Char) : Option (List Char) :=
  if before.getLast?.any bindsNothingAfter || nameAfterColon after == [] then none
  else some (nameAfterColon after)

theorem parameterAt_eq_some_iff {before after name : List Char} :
    parameterAt before after = some name ↔
      before.getLast?.any bindsNothingAfter = false ∧ nameAfterColon after = name ∧ name ≠ [] := by
  unfold parameterAt
  split
  · rename_i none
    refine ⟨nofun, ?_⟩
    rintro ⟨free, rfl, given⟩
    rw [free, Bool.false_or, beq_iff_eq] at none
    exact absurd none given
  · rename_i begins
    rw [Bool.or_eq_true, not_or, Bool.not_eq_true, beq_iff_eq] at begins
    constructor
    · intro same
      cases same
      exact ⟨begins.1, rfl, begins.2⟩
    · rintro ⟨-, rfl, -⟩
      rfl

/-- Whether a colon may begin a parameter after a text; before the first character that is told by
`free`. -/
def mayBegin (free : Bool) (before : List Char) : Bool :=
  (before.getLast?.map fun c => !bindsNothingAfter c).getD free

theorem mayBegin_cons (free : Bool) (c : Char) (before : List Char) :
    mayBegin free (c :: before) = mayBegin (!bindsNothingAfter c) before := by
  rw [mayBegin, mayBegin, List.getLast?_cons]
  cases before.getLast? with
  | none => rfl
  | some d => rfl

/-- A colon is here, or one is further on and preceded by this character. -/
theorem mem_definedNames_cons {free : Bool} {c : Char} {cs name : List Char} :
    name ∈ definedNames free (c :: cs) ↔
      (free = true ∧ c = ':' ∧ nameAfterColon cs = name ∧ name ≠ []) ∨
        name ∈ definedNames (!bindsNothingAfter c) cs := by
  rw [definedNames]
  split
  · rename_i begins
    simp only [Bool.and_eq_true, beq_iff_eq, bne_iff_ne] at begins
    rw [List.mem_cons]
    refine or_congr_left ⟨?_, fun h => h.2.2.1.symm⟩
    rintro rfl
    exact ⟨begins.1.1, begins.1.2, rfl, begins.2⟩
  · rename_i other
    simp only [Bool.and_eq_true, beq_iff_eq, bne_iff_ne] at other
    refine (or_iff_right ?_).symm
    rintro ⟨begins, colon, rfl, given⟩
    exact other ⟨⟨begins, colon⟩, given⟩

theorem mem_definedNames_iff_mayBegin {free : Bool} {text name : List Char} :
    name ∈ definedNames free text ↔ ∃ before after, text = before ++ ':' :: after ∧
      mayBegin free before = true ∧ nameAfterColon after = name ∧ name ≠ [] := by
  induction text generalizing free with
  | nil =>
    refine ⟨nofun, ?_⟩
    rintro ⟨before, after, same, -⟩
    exact absurd same.symm (List.append_ne_nil_of_right_ne_nil before (List.cons_ne_nil _ _))
  | cons c cs ih =>
    rw [mem_definedNames_cons, ih]
    constructor
    · rintro (⟨begins, rfl, named⟩ | ⟨before, after, rfl, begins, named⟩)
      · exact ⟨[], cs, rfl, begins, named⟩
      · exact ⟨c :: before, after, rfl, (mayBegin_cons free c before).trans begins, named⟩
    · rintro ⟨before, after, whole, begins, named⟩
      cases before with
      | nil =>
        cases whole
        exact .inl ⟨begins, rfl, named⟩
      | cons d before =>
        cases whole
        exact .inr ⟨before, after, rfl, (mayBegin_cons free c before).symm.trans begins, named⟩

/-- The names that a text defines are those that its colons begin. -/
theorem mem_definedNames_iff {text name : List Char} :
    name ∈ definedNames true text ↔
      ∃ before after, text = before ++ ':' :: after ∧ parameterAt before after = some name := by
  rw [mem_definedNames_iff_mayBegin]
  refine exists_congr fun before => exists_congr fun after => and_congr_right fun _ => ?_
  rw [parameterAt_eq_some_iff]
  refine and_congr_left fun _ => ?_
  rw [mayBegin]
  cases before.getLast? with
  | none => exact ⟨fun _ => rfl, fun _ => rfl⟩
  | some c =>
    show (!bindsNothingAfter c) = true ↔ bindsNothingAfter c = false
    rw [Bool.not_eq_true']

/-! ### Neighbours of a placeholder -/

/-- Whether no parameter begins right after a piece. -/
def Lexeme.hindersNext : Lexeme → Bool
  | .literal .. => false
  | .placeholder _ => true
  | .plain c => bindsNothingAfter c

/-- Whether a piece begins with a colon when it has been named. -/
def Lexeme.startsWithColon : Lexeme → Bool
  | .literal .. => false
  | .placeholder _ => true
  | .plain c => c == ':'

/-- Whether a name ends where these pieces follow. A colon takes the last character from what runs
up to it, so one word character before a colon does no harm. -/
def nameEnds : List Lexeme → Bool
  | [] => true
  | .literal .. :: _ => true
  | .placeholder _ :: _ => false
  | .plain c :: rest => if isWord c then rest.head?.any Lexeme.startsWithColon else c != ':'

/-- That a placeholder between these pieces is kept from nothing by what stands beside it. -/
structure StandsFree (front back : List Lexeme) : Prop where
  before : front.getLast?.any Lexeme.hindersNext = false
  after : nameEnds back = true

theorem apart_of_isMark {c : Char} (mark : isMark c = true) :
    bindsNothingAfter c = false ∧ isWord c = false ∧ c ≠ ':' := by
  rw [isMark, Bool.or_eq_true, beq_iff_eq, beq_iff_eq] at mark
  rcases mark with rfl | rfl
  · decide
  · decide

/-- That the literals among some pieces are marked as literals are. -/
def Marked (pieces : List Lexeme) : Prop :=
  ∀ mark body, Lexeme.literal mark body ∈ pieces → isMark mark = true

theorem marked_lexemes (cs : List Char) : Marked (lexemes cs) := by
  intro mark body member
  fun_induction lexemes cs with
  | case1 => cases member
  | case2 c cs hc found rest split ih =>
    rcases List.mem_cons.mp member with same | member
    · cases same
      exact hc
    · exact ih member
  | case3 c cs hc none ih =>
    rcases List.mem_cons.mp member with same | member
    · cases same
    · exact ih member
  | case4 c cs hc dollar ih =>
    rcases List.mem_cons.mp member with same | member
    · cases same
    · exact ih member
  | case5 c cs hc free ih =>
    rcases List.mem_cons.mp member with same | member
    · cases same
    · exact ih member

theorem parameterName_ne_nil (n : Nat) : parameterName n ≠ [] := List.cons_ne_nil _ _

/-- What a named piece hinders after it can be told from the piece. -/
theorem Lexeme.any_getLast?_named {piece : Lexeme}
    (marked : ∀ mark body, piece = .literal mark body → isMark mark = true) :
    ∃ c, piece.named.getLast? = some c ∧ bindsNothingAfter c = piece.hindersNext := by
  cases piece with
  | literal mark body =>
    have last : (mark :: body ++ [mark]).getLast? = some mark := List.getLast?_concat
    exact ⟨mark, last, (apart_of_isMark (marked mark body rfl)).1⟩
  | placeholder digits =>
    have name := parameterName_ne_nil (digitsValue digits)
    refine ⟨(parameterName (digitsValue digits)).getLast name, ?_, ?_⟩
    · show (':' :: parameterName _).getLast? = _
      rw [List.getLast?_cons, List.getLast?_eq_some_getLast name]
      rfl
    · have word := isWord_of_mem_parameterName _ (List.getLast_mem name)
      rw [bindsNothingAfter, word, Bool.or_true, Bool.true_or]
      rfl
  | plain c => exact ⟨c, rfl, rfl⟩

theorem any_getLast?_flatMap_named {front : List Lexeme} (marked : Marked front) :
    (front.flatMap Lexeme.named).getLast?.any bindsNothingAfter =
      front.getLast?.any Lexeme.hindersNext := by
  rcases List.eq_nil_or_concat front with rfl | ⟨init, piece, rfl⟩
  · rfl
  · rw [List.concat_eq_append] at marked ⊢
    obtain ⟨c, last, same⟩ := piece.any_getLast?_named fun mark body literal =>
      marked mark body (List.mem_append_right init (List.mem_singleton.mpr literal.symm))
    rw [List.flatMap_append, List.flatMap_singleton, List.getLast?_append,
      last, List.getLast?_concat]
    exact same

theorem head?_flatMap_named {back : List Lexeme} (marked : Marked back) :
    (back.flatMap Lexeme.named).head? = some ':' ↔
      back.head?.any Lexeme.startsWithColon = true := by
  cases back with
  | nil => exact ⟨nofun, nofun⟩
  | cons piece back =>
    cases piece with
    | literal mark body =>
      have other := (apart_of_isMark (marked mark body List.mem_cons_self)).2.2
      exact ⟨fun same => absurd (Option.some.inj same) other, nofun⟩
    | placeholder digits => exact ⟨fun _ => rfl, fun _ => rfl⟩
    | plain c =>
      show some c = some ':' ↔ (c == ':') = true
      rw [Option.some.injEq, beq_iff_eq]

/-! ### Where a name ends -/

section

variable {name : List Char} (words : ∀ c ∈ name, isWord c = true) (given : name ≠ [])
include words

theorem nameAfterColon_append (cs : List Char) : nameAfterColon (name ++ cs) =
    if (cs.dropWhile isWord).head? = some ':' then (name ++ cs.takeWhile isWord).dropLast
    else name ++ cs.takeWhile isWord := by
  unfold nameAfterColon
  dsimp only
  rw [List.takeWhile_append_of_pos words, List.dropWhile_append_of_pos words]

include given

/-- A name that is not gone on with ends unless a colon follows it. -/
theorem nameAfterColon_append_of_stops {cs : List Char} (stops : cs.head?.any isWord = false) :
    nameAfterColon (name ++ cs) = name ↔ cs.head? ≠ some ':' := by
  obtain ⟨taken, left⟩ := takeWhile_append_of_stops [] stops
  rw [List.nil_append] at taken left
  rw [nameAfterColon_append words, taken, left]
  show (if cs.head? = some ':' then (name ++ []).dropLast else name ++ []) = name ↔ _
  rw [List.append_nil]
  split
  · rename_i colon
    refine ⟨fun same => ?_, fun none => absurd colon none⟩
    have lengths := congrArg List.length same
    have positive := List.length_pos_iff.mpr given
    rw [List.length_dropLast] at lengths
    omega
  · rename_i none
    exact ⟨fun _ => none, fun _ => rfl⟩

omit given

/-- A name that is gone on with by one character ends before it only if a colon comes next. -/
theorem nameAfterColon_append_of_word {c : Char} (word : isWord c = true) (cs : List Char) :
    nameAfterColon (name ++ c :: cs) = name ↔ cs.head? = some ':' := by
  rw [nameAfterColon_append words, List.takeWhile_cons_of_pos word, List.dropWhile_cons_of_pos word]
  by_cases more : cs.head?.any isWord = true
  · -- then two characters go on with it, and a colon takes no more than one
    obtain ⟨d, ds, rfl⟩ : ∃ d ds, cs = d :: ds := by
      cases cs with
      | nil => cases more
      | cons d ds => exact ⟨d, ds, rfl⟩
    have next : isWord d = true := more
    rw [List.takeWhile_cons_of_pos next]
    constructor
    · intro same
      have lengths := congrArg List.length same
      split at lengths
      · simp only [List.length_dropLast, List.length_append, List.length_cons] at lengths
        omega
      · simp only [List.length_append, List.length_cons] at lengths
        omega
    · intro colon
      rw [Option.some.inj colon] at next
      exact absurd next (by decide)
  · obtain ⟨taken, left⟩ := takeWhile_append_of_stops [] (Bool.eq_false_iff.mpr more)
    rw [List.nil_append] at taken left
    rw [taken, left]
    show (if cs.head? = some ':' then (name ++ [c]).dropLast else name ++ [c]) = name ↔ _
    split
    · rename_i colon
      exact ⟨fun _ => colon, fun _ => List.dropLast_concat⟩
    · rename_i none
      refine ⟨fun same => ?_, fun colon => absurd colon none⟩
      have lengths := congrArg List.length same
      rw [List.length_append, List.length_singleton] at lengths
      omega

include given

/-- A name ends where the pieces that follow let it end. -/
theorem nameAfterColon_append_iff {back : List Lexeme} (marked : Marked back) :
    nameAfterColon (name ++ back.flatMap Lexeme.named) = name ↔ nameEnds back = true := by
  have stops := @nameAfterColon_append_of_stops name words given
  cases back with
  | nil => exact (stops rfl).trans ⟨fun _ => rfl, fun _ => nofun⟩
  | cons piece back =>
    rw [List.flatMap_cons]
    cases piece with
    | literal mark body =>
      obtain ⟨-, word, colon⟩ := apart_of_isMark (marked mark body List.mem_cons_self)
      exact (@stops (mark :: _) word).trans
        ⟨fun _ => rfl, fun _ same => colon (Option.some.inj same)⟩
    | placeholder digits =>
      exact (@stops (':' :: _) rfl).trans ⟨fun none => absurd rfl none, nofun⟩
    | plain c =>
      show nameAfterColon (name ++ c :: back.flatMap Lexeme.named) = name ↔ _
      rw [nameEnds]
      split
      · rename_i word
        have rest : Marked back := fun mark body member => marked mark body (.tail _ member)
        rw [nameAfterColon_append_of_word words word, head?_flatMap_named rest]
      · rename_i word
        refine (@stops (c :: _) (Bool.eq_false_iff.mpr word)).trans ?_
        rw [bne_iff_ne, List.head?_cons, Ne, Option.some.injEq]

end

/-! ### The parameter of a placeholder -/

theorem Marked.parts {front back : List Lexeme} {piece : Lexeme}
    (marked : Marked (front ++ piece :: back)) : Marked front ∧ Marked back :=
  ⟨fun mark body member => marked mark body (List.mem_append_left _ member),
    fun mark body member => marked mark body (List.mem_append_right _ (.tail _ member))⟩

/-- A placeholder becomes a parameter of its own number just where it stands free. -/
theorem parameterAt_eq_iff_standsFree {cs digits : List Char} {front back : List Lexeme}
    (pieces : lexemes cs = front ++ .placeholder digits :: back) :
    parameterAt (front.flatMap Lexeme.named)
        (parameterName (digitsValue digits) ++ back.flatMap Lexeme.named) =
      some (parameterName (digitsValue digits)) ↔ StandsFree front back := by
  have marked := marked_lexemes cs
  rw [pieces] at marked
  obtain ⟨before, after⟩ := marked.parts
  have given := parameterName_ne_nil (digitsValue digits)
  rw [parameterAt_eq_some_iff, any_getLast?_flatMap_named before,
    nameAfterColon_append_iff isWord_of_mem_parameterName given after]
  exact ⟨fun h => ⟨h.1, h.2.1⟩, fun h => ⟨h.before, h.after, given⟩⟩

theorem flatMap_named_append (front : List Lexeme) (digits : List Char) (back : List Lexeme) :
    (front ++ .placeholder digits :: back).flatMap Lexeme.named =
      front.flatMap Lexeme.named ++
        ':' :: (parameterName (digitsValue digits) ++ back.flatMap Lexeme.named) := by
  rw [List.flatMap_append, List.flatMap_cons]
  rfl

theorem mem_numerals_iff {cs digits : List Char} : digits ∈ numerals cs ↔
    ∃ front back, lexemes cs = front ++ .placeholder digits :: back := by
  have pieces : digits ∈ numerals cs ↔ Lexeme.placeholder digits ∈ lexemes cs := by
    rw [numerals, List.mem_filterMap]
    constructor
    · rintro ⟨piece, member, same⟩
      cases piece with
      | placeholder other =>
        cases same
        exact member
      | literal mark body => cases same
      | plain c => cases same
    · exact fun member => ⟨_, member, rfl⟩
  rw [pieces, List.mem_iff_append]

/-! ### Statements -/

/-- What a statement makes of a text with placeholders for values. -/
structure BindsEach (sql : String) (values : List Value) (statement : Statement) : Prop where
  /-- Placeholders have become parameters, and literals and all else are as they were. -/
  text : statement.sql.toList = (lexemes sql.toList).flatMap Lexeme.named
  /-- What is bound to the number of a placeholder is the value of that number alone. -/
  bound : ∀ digits ∈ numerals sql.toList, Fits values.length digits ∧
    ∀ value, (digitsValue digits, value) ∈ statement.binds ↔
      values[digitsValue digits - 1]? = some value
  /-- In its place a placeholder has become a parameter of its number if it stands free there. -/
  place : ∀ {front digits back}, lexemes sql.toList = front ++ .placeholder digits :: back →
    statement.sql.toList = front.flatMap Lexeme.named ++
        ':' :: (parameterName (digitsValue digits) ++ back.flatMap Lexeme.named) ∧
      (parameterAt (front.flatMap Lexeme.named)
          (parameterName (digitsValue digits) ++ back.flatMap Lexeme.named) =
        some (parameterName (digitsValue digits)) ↔ StandsFree front back)

/-- Which texts become statements, and what these are. -/
structure Converts (sql : String) (values : List Value) : Prop where
  /-- A text is refused, other than for want of a parameter, if some placeholder has no value. -/
  refused : (∃ fault, Statement.ofText sql values = .error fault ∧
      ∀ number, fault ≠ .undefinedName number) ↔
    ∃ digits ∈ numerals sql.toList, ¬ Fits values.length digits
  returned : ∀ {statement}, Statement.ofText sql values = .ok statement →
    BindsEach sql values statement
  /-- A text all of whose placeholders have values and stand free is not refused. -/
  returns : (∀ digits ∈ numerals sql.toList, Fits values.length digits) →
    (∀ {front digits back}, lexemes sql.toList = front ++ .placeholder digits :: back →
      StandsFree front back) →
    ∃ statement, Statement.ofText sql values = .ok statement

/-- The first failure along a list is what becomes of all of it. -/
theorem exists_mapM_eq_error {α β ε : Type} {f : α → Except ε β} {xs : List α}
    (fails : ∃ x ∈ xs, ∃ e, f x = .error e) :
    ∃ x ∈ xs, ∃ e, f x = .error e ∧ xs.mapM f = .error e := by
  induction xs with
  | nil =>
    obtain ⟨x, member, -⟩ := fails
    cases member
  | cons x xs ih =>
    rw [List.mapM_cons]
    cases first : f x with
    | error e => exact ⟨x, List.mem_cons_self, e, first, rfl⟩
    | ok y =>
      obtain ⟨z, member, e, failed⟩ := fails
      rcases List.mem_cons.mp member with rfl | member
      · rw [first] at failed
        cases failed
      · obtain ⟨w, inside, e, failed, rest⟩ := ih ⟨z, member, e, failed⟩
        rw [rest]
        exact ⟨w, List.mem_cons_of_mem x inside, e, failed, rfl⟩

/-- The parameter of a number that has one of `count` values. -/
def parameterOf (count number : Nat) : Except PlaceholderFault (List Char) :=
  if 1 ≤ number ∧ number ≤ count then .ok (':' :: parameterName number)
  else .error (.unbound number count)

/-- No piece is refused for want of a parameter. -/
theorem Lexeme.ne_undefinedName_of_replace {count : Nat} {piece : Lexeme}
    {fault : PlaceholderFault} (h : piece.replace (parameterOf count) = .error fault)
    (number : Nat) : fault ≠ .undefinedName number := by
  rintro rfl
  unfold replace at h
  split at h
  · cases h
  · split at h
    · unfold parameterOf at h
      split at h
      · cases h
      · cases h
    · cases h

theorem Lexeme.exists_replace_eq_error {count : Nat} {digits : List Char}
    (misfit : ¬ Fits count digits) :
    ∃ fault, (Lexeme.placeholder digits).replace (parameterOf count) = .error fault := by
  by_cases short : digits.length ≤ maxDigits
  · have read : readNumeral digits = .ok (digitsValue digits) :=
      readNumeral_eq_ok_iff.mpr ⟨short, rfl⟩
    have outside : ¬ (1 ≤ digitsValue digits ∧ digitsValue digits ≤ count) :=
      fun range => misfit ⟨short, range.1, range.2⟩
    rw [replace_placeholder _ read]
    exact ⟨_, if_neg outside⟩
  · have long : readNumeral digits = .error (.digitsRead digits.length) := if_neg short
    refine ⟨.limit (.digitsRead digits.length), ?_⟩
    rw [replace, digits?]
    dsimp only
    rw [long]

/-- A text with a placeholder that has no value is refused, and not for want of a parameter. -/
theorem Statement.ofText_of_not_fits {sql : String} {values : List Value}
    (misfit : ∃ digits ∈ numerals sql.toList, ¬ Fits values.length digits) :
    ∃ fault, Statement.ofText sql values = .error fault ∧
      ∀ number, fault ≠ .undefinedName number := by
  obtain ⟨digits, member, unfit⟩ := misfit
  obtain ⟨front, back, pieces⟩ := mem_numerals_iff.mp member
  have inside : Lexeme.placeholder digits ∈ lexemes sql.toList := by
    rw [pieces]
    exact List.mem_append_right front List.mem_cons_self
  obtain ⟨piece, -, fault, failed, whole⟩ :=
    exists_mapM_eq_error ⟨_, inside, Lexeme.exists_replace_eq_error unfit⟩
  have refused : namePlaceholders values.length sql = .error fault := by
    show substitute (parameterOf values.length) sql = .error fault
    rw [substitute, whole]
    rfl
  refine ⟨fault, ?_, Lexeme.ne_undefinedName_of_replace failed⟩
  rw [Statement.ofText, refused]
  rfl

theorem mem_binds_iff {values : List Value} {numbers : List Nat} {number : Nat} {value : Value}
    (used : number ∈ numbers) (low : 1 ≤ number) (high : number ≤ values.length) :
    (number, value) ∈ numbers.map (fun number => (number, values.getD (number - 1) .null)) ↔
      values[number - 1]? = some value := by
  have inside : number - 1 < values.length := by omega
  rw [List.getElem?_eq_getElem inside, Option.some.injEq, List.mem_map]
  have held : values.getD (number - 1) .null = values[number - 1] := by
    rw [List.getD_eq_getElem?_getD, List.getElem?_eq_getElem inside, Option.getD_some]
  constructor
  · rintro ⟨other, -, same⟩
    cases same
    exact held.symm
  · rintro rfl
    exact ⟨number, used, by rw [held]⟩

theorem mem_usedNumbers_iff {cs : List Char} {number : Nat} :
    number ∈ usedNumbers cs ↔ ∃ digits ∈ numerals cs, digitsValue digits = number := by
  rw [usedNumbers, mem_distinctNumbers, List.mem_map]

theorem bindsEach_of_ofText {sql : String} {values : List Value} {statement : Statement}
    (h : Statement.ofText sql values = .ok statement) : BindsEach sql values statement := by
  have fit : ∀ digits ∈ numerals sql.toList, Fits values.length digits := by
    by_contra misfit
    simp only [not_forall] at misfit
    obtain ⟨digits, member, unfit⟩ := misfit
    obtain ⟨fault, refused, -⟩ := Statement.ofText_of_not_fits ⟨digits, member, unfit⟩
    rw [refused] at h
    cases h
  rw [Statement.ofText_of_fits fit] at h
  split at h
  · cases h
  · cases h
    have text : (String.ofList (named sql.toList)).toList =
        (lexemes sql.toList).flatMap Lexeme.named := String.toList_ofList
    refine ⟨text, fun digits member => ⟨fit digits member, fun value => ?_⟩, ?_⟩
    · exact mem_binds_iff (mem_usedNumbers_iff.mpr ⟨digits, member, rfl⟩) (fit digits member).low
        (fit digits member).high
    · intro front digits back pieces
      refine ⟨?_, parameterAt_eq_iff_standsFree pieces⟩
      rw [text, pieces, flatMap_named_append]

/-- For every text and all values: what is refused, what is bound, and which placeholders become
parameters of their own. -/
theorem ofText_converts (sql : String) (values : List Value) : Converts sql values where
  refused := by
    refine ⟨?_, Statement.ofText_of_not_fits⟩
    rintro ⟨fault, refused, other⟩
    by_contra fit
    simp only [not_exists, not_and, not_not] at fit
    rw [Statement.ofText_of_fits fit] at refused
    split at refused
    · cases refused
      exact other _ rfl
    · cases refused
  returned := bindsEach_of_ofText
  returns := by
    intro fit free
    have defined : (usedNumbers sql.toList).find? (fun number =>
        !(definedNames true (named sql.toList)).contains (parameterName number)) = none := by
      rw [List.find?_eq_none]
      intro number used
      obtain ⟨digits, member, rfl⟩ := mem_usedNumbers_iff.mp used
      obtain ⟨front, back, pieces⟩ := mem_numerals_iff.mp member
      have place := (parameterAt_eq_iff_standsFree pieces).mpr (free pieces)
      have name : parameterName (digitsValue digits) ∈ definedNames true (named sql.toList) := by
        rw [mem_definedNames_iff, named, pieces, flatMap_named_append]
        exact ⟨_, _, rfl, place⟩
      simpa using name
    rw [Statement.ofText_of_fits fit, defined]
    exact ⟨_, rfl⟩

/-- A placeholder that stands free covers up for another of its number, which is glued to a word and
becomes no parameter. -/
theorem ofText_covered :
    Statement.ofText "x$1 $1" [.int 7] = .ok ⟨"x:p_1 :p_1", [(1, .int 7)]⟩ ∧
      lexemes "x$1 $1".toList =
        [.plain 'x'] ++ .placeholder ['1'] :: [.plain ' ', .placeholder ['1']] ∧
      parameterAt "x".toList "p_1 :p_1".toList = none := by
  have pieces : lexemes "x$1 $1".toList =
      [.plain 'x'] ++ .placeholder ['1'] :: [.plain ' ', .placeholder ['1']] := by
    have chars : "x$1 $1".toList = ['x', '$', '1', ' ', '$', '1'] := by decide
    rw [chars, lexemes_cons_plain (by decide) (by decide), lexemes_cons_dollar (by decide)]
    show _ :: _ :: lexemes [' ', '$', '1'] = _
    rw [lexemes_cons_plain (by decide) (by decide), lexemes_cons_dollar (by decide)]
    show _ :: _ :: _ :: _ :: lexemes [] = _
    rw [lexemes]
    rfl
  have numbers : numerals "x$1 $1".toList = [['1'], ['1']] := by
    rw [numerals, pieces]
    rfl
  have fit : ∀ digits ∈ numerals "x$1 $1".toList, Fits [Value.int 7].length digits := by
    intro digits member
    rw [numbers] at member
    have one : digits = ['1'] := by simpa using member
    rw [one]
    exact ⟨by decide, by decide, by decide⟩
  have names : named "x$1 $1".toList = "x:p_1 :p_1".toList := by
    rw [named, pieces]
    decide
  refine ⟨?_, pieces, by decide⟩
  rw [Statement.ofText_of_fits fit, usedNumbers, numbers, names]
  decide

end RowSecurity.Sql
