/-
The texts of the two statements that read a page.

* `countSql`, `pageSql`: the text of the count of a clause, and the text of one page of it;
* `Sql.mayOrder`: the characters of a list of columns to order by.

Main statements:

* `ofText_countSql`: a clause in the text of a count is bound as it is by itself;
* `ofText_pageSql`: where it is, so it is in the text of a page, after which the values of the page
  are bound.

Design notes: what stands around the clause holds no marks, placeholders or colons next to it, so
the clause is cut into the same pieces and names the same parameters in both texts.
-/
import Mathlib.Data.List.SplitBy
import RowSecurity.Proofs.Binding
import RowSecurity.Read.Fetch

namespace RowSecurity

open Audit Text

/-! ### Lists of columns to order by -/

namespace Sql

/-- The characters that a list of columns to order by may hold. -/
def mayOrder (c : Char) : Bool :=
  c == ',' || isBlank c || c.isAlphanum || c == '_' || c == '.' || isCasePartner c ||
    ['A', 'S', 'C', 'D', 'E'].contains (upperLetter c)

theorem mayOrder_of_isOrderColumn {cs : List Char} (h : isOrderColumn cs = true) :
    ∀ c ∈ cs, mayOrder c = true := by
  cases cs with
  | nil => exact fun _ member => absurd member List.not_mem_nil
  | cons d ds =>
    simp only [isOrderColumn, Bool.and_eq_true, Bool.or_eq_true, List.all_eq_true] at h
    intro c member
    simp only [mayOrder, Bool.or_eq_true]
    rcases List.mem_cons.mp member with rfl | member
    · rcases h.1 with (letter | underscore) | partner
      · exact .inl (.inl (.inl (.inl (.inr (by rw [Char.isAlphanum, letter]; rfl)))))
      · exact .inl (.inl (.inl (.inr underscore)))
      · exact .inl (.inr partner)
    · rcases h.2 c member with ((letter | underscore) | point) | partner
      · exact .inl (.inl (.inl (.inl (.inr letter))))
      · exact .inl (.inl (.inl (.inr underscore)))
      · exact .inl (.inl (.inr point))
      · exact .inl (.inr partner)

theorem mayOrder_of_isDirection {cs : List Char} (h : isDirection cs = true) :
    ∀ c ∈ cs, mayOrder c = true := by
  intro c member
  have upper : upperLetter c ∈ cs.map upperLetter := List.mem_map_of_mem member
  have letters : ([['A', 'S', 'C'], ['D', 'E', 'S', 'C']].all fun word =>
      word.all ['A', 'S', 'C', 'D', 'E'].contains) = true := rfl
  have word := List.all_eq_true.mp letters _ (List.contains_iff_mem.mp h)
  rw [mayOrder, List.all_eq_true.mp word _ upper, Bool.or_true]

/-- A run of a text that starts with a blank has no other characters. -/
theorem isBlank_of_mem_run {cs run : List Char}
    (h : run ∈ cs.splitBy fun a b => isBlank a == isBlank b)
    (blank : run.head?.any isBlank = true) : ∀ c ∈ run, isBlank c = true := by
  have chain := List.isChain_of_mem_splitBy h
  clear h
  induction run with
  | nil => exact fun _ member => absurd member List.not_mem_nil
  | cons d run ih =>
    have first : isBlank d = true := by simpa using blank
    refine List.forall_mem_cons.mpr ⟨first, ?_⟩
    cases run with
    | nil => exact fun _ member => absurd member List.not_mem_nil
    | cons e run =>
      obtain ⟨same, later⟩ := List.isChain_cons_cons.mp chain
      refine ih ?_ later
      simpa [first] using same

theorem mayOrder_of_isOrderTerm {cs : List Char} (h : isOrderTerm cs = true) :
    ∀ c ∈ cs, mayOrder c = true := by
  have words : ∀ word ∈ wordsOf cs, ∀ c ∈ word, mayOrder c = true := by
    unfold isOrderTerm at h
    split at h
    · rename_i column one
      rw [one]
      intro word member
      rw [List.mem_singleton.mp member]
      exact mayOrder_of_isOrderColumn h
    · rename_i column direction two
      rw [Bool.and_eq_true] at h
      rw [two]
      intro word member
      rcases List.mem_cons.mp member with rfl | member
      · exact mayOrder_of_isOrderColumn h.1
      · rw [List.mem_singleton.mp member]
        exact mayOrder_of_isDirection h.2
    · cases h
  intro c member
  rw [← List.flatten_splitBy (fun a b => isBlank a == isBlank b) cs] at member
  obtain ⟨run, inside, member⟩ := List.mem_flatten.mp member
  by_cases blank : run.head?.any isBlank = true
  · have space := isBlank_of_mem_run inside blank c member
    rw [mayOrder, space]
    simp
  · refine words run (List.mem_filter.mpr ⟨inside, ?_⟩) c member
    simpa using blank

/-- Each character of a text is a comma or stands between commas. -/
theorem mem_commaParts {cs : List Char} {c : Char} (member : c ∈ cs) :
    c = ',' ∨ ∃ part ∈ commaParts cs, c ∈ part := by
  induction cs with
  | nil => exact absurd member List.not_mem_nil
  | cons d cs ih =>
    by_cases comma : d = ','
    · rw [commaParts, if_pos comma]
      rcases List.mem_cons.mp member with rfl | member
      · exact .inl comma
      · rcases ih member with comma | ⟨part, inside, found⟩
        · exact .inl comma
        · exact .inr ⟨part, List.mem_cons_of_mem _ inside, found⟩
    · rw [commaParts, if_neg comma]
      cases parts : commaParts cs with
      | nil =>
        rcases List.mem_cons.mp member with rfl | member
        · exact .inr ⟨[c], List.mem_singleton_self _, List.mem_singleton_self _⟩
        · rcases ih member with comma | ⟨part, inside, _⟩
          · exact .inl comma
          · rw [parts] at inside
            exact absurd inside List.not_mem_nil
      | cons first others =>
        rcases List.mem_cons.mp member with rfl | member
        · exact .inr ⟨c :: first, List.mem_cons_self, List.mem_cons_self⟩
        · rcases ih member with comma | ⟨part, inside, found⟩
          · exact .inl comma
          · rw [parts] at inside
            rcases List.mem_cons.mp inside with rfl | inside
            · exact .inr ⟨d :: part, List.mem_cons_self, List.mem_cons_of_mem _ found⟩
            · exact .inr ⟨part, List.mem_cons_of_mem _ inside, found⟩

theorem mayOrder_of_isOrderList {s : String} (h : isOrderList s = true) :
    ∀ c ∈ s.toList, mayOrder c = true := by
  intro c member
  rcases mem_commaParts member with rfl | ⟨part, inside, member⟩
  · decide
  · exact mayOrder_of_isOrderTerm (List.all_eq_true.mp h part inside) c member

theorem mem_of_mem_strip {cs : List Char} {c : Char} (h : c ∈ strip cs) : c ∈ cs := by
  rw [strip, List.mem_reverse] at h
  have h := (List.dropWhile_sublist _).mem h
  rw [List.mem_reverse] at h
  exact (List.dropWhile_sublist _).mem h

end Sql

theorem neutral_orderClause {order : Option String} (ordered : order.all Sql.isOrderList = true) :
    Sql.Neutral (orderClause order).toList := by
  cases order with
  | none => exact fun _ member => absurd member List.not_mem_nil
  | some order =>
    have keyword : Sql.Neutral "ORDER BY ".toList := by decide
    have blank : Sql.Neutral " ".toList := by decide
    have allowed : ∀ c ∈ strip order.toList, Sql.mayOrder c = true :=
      fun c member => Sql.mayOrder_of_isOrderList ordered c (Sql.mem_of_mem_strip member)
    have columns : Sql.Neutral (String.ofList (strip order.toList)).toList := by
      rw [String.toList_ofList]
      exact Sql.neutral_of_class allowed (by decide) (by decide) (by decide) (by decide)
    exact (keyword.append_text columns).append_text blank

/-! ### The texts of the two statements -/

/-- What selects the number of rows of a table. -/
def countHead (table : String) : String := "SELECT COUNT(*) AS total FROM " ++ table

/-- What selects the rows of a table. -/
def pageHead (table : String) : String := "SELECT " ++ table ++ ".* FROM " ++ table

/-- The text that counts the rows of a table that meet a clause. -/
def countSql (table clause : String) : String := countHead table ++ " " ++ clause

/-- The text that reads one page of the rows of a table that meet a clause. -/
def pageSql (table clause : String) (order : Option String) (page : String) : String :=
  pageHead table ++ " " ++ clause ++ " " ++ orderClause order ++ page

namespace Sql

/-- What follows the clause of a page: words, and two numbers in a row, each written in one way. -/
def pageTail (words : List Char) (written : Nat → List Char) (next : Nat) : List Char :=
  words ++ ' ' :: (written next ++ ' ' :: ("OFFSET".toList ++ ' ' :: written (next + 1)))

/-- The parameter of a number, as it is written. -/
def parameterText (n : Nat) : List Char := ':' :: parameterName n

variable {words : List Char}

theorem neutral_keyword : Neutral "OFFSET".toList := by decide

theorem unmarked_offset (n : Nat) :
    ∀ c ∈ "OFFSET".toList ++ ' ' :: numberText n, isMark c = false :=
  List.forall_mem_append.mpr
    ⟨fun c member => (neutral_keyword c member).1, unmarked_blank (unmarked_numberText n)⟩

theorem unmarked_pageTail (neutral : Neutral words) (next : Nat) :
    ∀ c ∈ pageTail words numberText next, isMark c = false := by
  refine List.forall_mem_append.mpr ⟨fun c member => (neutral c member).1, unmarked_blank ?_⟩
  exact List.forall_mem_append.mpr
    ⟨unmarked_numberText next, unmarked_blank (unmarked_offset (next + 1))⟩

theorem named_pageTail (neutral : Neutral words) (next : Nat) :
    named (pageTail words numberText next) = pageTail words parameterText next := by
  rw [pageTail, (neutral.before _).1, named_append_blank _ (unmarked_offset (next + 1)),
    named_numberText, (neutral_keyword.before _).1, named_numberText]
  rfl

theorem numerals_pageTail (neutral : Neutral words) (next : Nat) :
    numerals (pageTail words numberText next) =
      [Nat.toDigits 10 next] ++ [Nat.toDigits 10 (next + 1)] := by
  rw [pageTail, (neutral.before _).2.1, numerals_append_blank _ (unmarked_offset (next + 1)),
    numerals_numberText, (neutral_keyword.before _).2.1, numerals_numberText]

/-- The tail of a page defines the two parameters that it names. -/
theorem definedNames_pageTail (neutral : Neutral words) (next : Nat) :
    definedNames true (pageTail words parameterText next) =
      [parameterName next, parameterName (next + 1)] := by
  rw [pageTail, (neutral.before _).2.2, definedNames_append_blank, (neutral_keyword.before _).2.2,
    parameterText, parameterText, definedNames_parameter, definedNames_parameter]
  rfl

end Sql

/-- The tail of a page whose values are named. -/
def namedPage (next : Nat) : String :=
  "LIMIT :p_" ++ toString next ++ " OFFSET :p_" ++ toString (next + 1)

theorem toList_namedPage (next : Nat) :
    (namedPage next).toList = Sql.pageTail "LIMIT".toList Sql.parameterText next := by
  simp only [namedPage, Sql.pageTail, Sql.parameterText, Sql.parameterName, String.toList_append,
    List.append_assoc, List.cons_append]
  rfl

theorem toList_paginate (composed : Composed) (limit offset : Value) :
    (composed.paginate limit offset).1.toList =
      Sql.pageTail "LIMIT".toList Sql.numberText (composed.params.length + 1) := by
  show ("LIMIT $" ++ toString (composed.params.length + 1) ++ " OFFSET $" ++
    toString (composed.params.length + 1 + 1)).toList = _
  simp only [Sql.pageTail, Sql.numberText, String.toList_append, Nat.toString_eq_repr,
    Nat.toList_repr, List.append_assoc, List.cons_append]
  rfl

variable {table clause : String} {order : Option String}

theorem neutral_countHead (named : isTableName table = true) :
    Sql.Neutral (countHead table).toList := by
  have keywords : Sql.Neutral "SELECT COUNT(*) AS total FROM ".toList := by decide
  exact keywords.append_text (Sql.neutral_of_isTableName named)

theorem neutral_pageHead (named : isTableName table = true) :
    Sql.Neutral (pageHead table).toList := by
  have name := Sql.neutral_of_isTableName named
  have select : Sql.Neutral "SELECT ".toList := by decide
  have all : Sql.Neutral ".* FROM ".toList := by decide
  exact ((select.append_text name).append_text all).append_text name

theorem toList_append_blank (s t : String) :
    (s ++ " " ++ t).toList = s.toList ++ ' ' :: t.toList := by
  rw [String.toList_append, String.toList_append, List.append_assoc]
  rfl

theorem toList_pageSql (table clause : String) (order : Option String) {page : String}
    {written : Nat → List Char} {next : Nat}
    (tail : page.toList = Sql.pageTail "LIMIT".toList written next) :
    (pageSql table clause order page).toList = (pageHead table).toList ++ ' ' ::
      (clause.toList ++ ' ' ::
        Sql.pageTail ((orderClause order).toList ++ "LIMIT".toList) written next) := by
  have whole : pageSql table clause order page =
      pageHead table ++ " " ++ clause ++ " " ++ (orderClause order ++ page) := String.append_assoc
  rw [whole, toList_append_blank, toList_append_blank, String.toList_append, tail, Sql.pageTail,
    Sql.pageTail]
  simp only [List.append_assoc, List.cons_append]

/-- A clause in the text of a count is bound as it is by itself. -/
theorem ofText_countSql {params : List Value} (named : isTableName table = true)
    (numbered : Sql.NumberedUpTo params.length clause) :
    Sql.Statement.ofText (countSql table clause) params =
      match Sql.unnamed? params.length (Sql.named clause.toList) with
      | some number => .error (.undefinedName number)
      | none => .ok ⟨countSql table (String.ofList (Sql.named clause.toList)),
          (List.range' 1 params.length).zip params⟩ := by
  have head := neutral_countHead named
  have text := toList_append_blank (countHead table) clause
  have result : String.ofList ((countHead table).toList ++ ' ' :: Sql.named clause.toList) =
      countSql table (String.ofList (Sql.named clause.toList)) := by
    rw [← String.toList_inj, String.toList_ofList, countSql, toList_append_blank,
      String.toList_ofList]
  have whole : Sql.NumberedUpTo params.length (countSql table clause) :=
    numbered.congr (by rw [countSql, text, (head.before _).2.1])
  rw [Sql.Statement.ofText_eq whole, countSql, text, (head.before _).1, Sql.unnamed?,
    (head.before _).2.2, result]
  rfl

theorem zip_page (values : List Value) (limit offset : Value) :
    (List.range' 1 (values ++ [limit, offset]).length).zip (values ++ [limit, offset]) =
      (List.range' 1 values.length).zip values ++
        [(values.length + 1, limit), (values.length + 2, offset)] := by
  have numbers : List.range' 1 (values ++ [limit, offset]).length =
      List.range' 1 values.length ++ [values.length + 1, values.length + 2] := by
    rw [List.length_append, ← List.range'_append_1, Nat.add_comm 1]
    rfl
  rw [numbers, List.zip_append List.length_range']
  rfl

section Page

variable {page : String} {count next : Nat}

theorem neutral_pageWords (ordered : order.all Sql.isOrderList = true) :
    Sql.Neutral ((orderClause order).toList ++ "LIMIT".toList) := by
  have keyword : Sql.Neutral "LIMIT".toList := by decide
  exact (neutral_orderClause ordered).append keyword

/-- The numbers of a page are the two after those of its clause. -/
theorem numberedUpTo_pageSql (named : isTableName table = true)
    (ordered : order.all Sql.isOrderList = true) (written : count + 2 < 10 ^ maxDigits)
    (numbered : Sql.NumberedUpTo count clause)
    (tail : page.toList = Sql.pageTail "LIMIT".toList Sql.numberText (count + 1)) :
    Sql.NumberedUpTo (count + 2) (pageSql table clause order page) := by
  have words := neutral_pageWords ordered
  have first : Sql.NumberedUpTo (count + 1)
      (String.ofList (clause.toList ++ ' ' :: Sql.numberText (count + 1))) := by
    refine numbered.succ (by omega) ?_
    rw [String.toList_ofList, Sql.numerals_append_blank _ (Sql.unmarked_numberText _),
      Sql.numerals_numberText]
  refine first.succ written ?_
  rw [toList_pageSql _ _ _ tail, ((neutral_pageHead named).before _).2.1,
    Sql.numerals_append_blank _ (Sql.unmarked_pageTail words _), Sql.numerals_pageTail words,
    String.toList_ofList, Sql.numerals_append_blank _ (Sql.unmarked_numberText _),
    Sql.numerals_numberText, List.append_assoc]

/-- Naming the values of a page is naming those of its clause and those of its tail. -/
theorem named_pageSql (named : isTableName table = true)
    (ordered : order.all Sql.isOrderList = true)
    (tail : page.toList = Sql.pageTail "LIMIT".toList Sql.numberText next) :
    String.ofList (Sql.named (pageSql table clause order page).toList) =
      pageSql table (String.ofList (Sql.named clause.toList)) order (namedPage next) := by
  have words := neutral_pageWords ordered
  have named_clause : (String.ofList (Sql.named clause.toList)).toList = Sql.named clause.toList :=
    String.toList_ofList
  rw [← String.toList_inj, toList_pageSql _ _ _ (toList_namedPage _), named_clause,
    toList_pageSql _ _ _ tail, ((neutral_pageHead named).before _).1,
    Sql.named_append_blank _ (Sql.unmarked_pageTail words _), Sql.named_pageTail words]
  exact String.toList_ofList

/-- A page defines the parameters of its clause and the two of its tail. -/
theorem definedNames_pageSql (named : isTableName table = true)
    (ordered : order.all Sql.isOrderList = true) (clause : String) (next : Nat) :
    Sql.definedNames true (pageSql table clause order (namedPage next)).toList =
      Sql.definedNames true clause.toList ++
        [Sql.parameterName next, Sql.parameterName (next + 1)] := by
  rw [toList_pageSql _ _ _ (toList_namedPage _), ((neutral_pageHead named).before _).2.2,
    Sql.definedNames_append_blank, Sql.definedNames_pageTail (neutral_pageWords ordered)]

end Page

/-- Where a clause is bound in the text of a count, so it is in that of a page, and the values of
the page come after its own. -/
theorem ofText_pageSql {composed : Composed} (named : isTableName table = true)
    (ordered : order.all Sql.isOrderList = true)
    (written : composed.params.length + 2 < 10 ^ maxDigits)
    (numbered : Sql.NumberedUpTo composed.params.length composed.whereClause)
    (defined : Sql.unnamed? composed.params.length (Sql.named composed.whereClause.toList) = none)
    (limit offset : Value) :
    Sql.Statement.ofText
        (pageSql table composed.whereClause order (composed.paginate limit offset).1)
        (composed.paginate limit offset).2 =
      .ok ⟨pageSql table (String.ofList (Sql.named composed.whereClause.toList)) order
          (namedPage (composed.params.length + 1)),
        (List.range' 1 composed.params.length).zip composed.params ++
          [(composed.params.length + 1, limit), (composed.params.length + 2, offset)]⟩ := by
  have tail := toList_paginate composed limit offset
  have whole := numberedUpTo_pageSql named ordered written numbered tail
  have result : String.ofList (Sql.named
      (pageSql table composed.whereClause order (composed.paginate limit offset).1).toList) =
      pageSql table (String.ofList (Sql.named composed.whereClause.toList)) order
        (namedPage (composed.params.length + 1)) := named_pageSql named ordered tail
  have length : (composed.params ++ [limit, offset]).length = composed.params.length + 2 :=
    List.length_append
  have all : Sql.unnamed? (composed.params.length + 2) (Sql.named
      (pageSql table composed.whereClause order (composed.paginate limit offset).1).toList) =
      none := by
    rw [Sql.unnamed?_eq_none_iff] at defined ⊢
    intro number low high
    rw [← String.toList_ofList (l := Sql.named _), result, definedNames_pageSql named ordered,
      List.mem_append, String.toList_ofList]
    by_cases inside : number ≤ composed.params.length
    · exact .inl (defined number low inside)
    · have last : number = composed.params.length + 1 ∨ number = composed.params.length + 2 := by
        omega
      rcases last with rfl | rfl
      · exact .inr List.mem_cons_self
      · exact .inr (List.mem_cons_of_mem _ List.mem_cons_self)
  show Sql.Statement.ofText _ (composed.params ++ [limit, offset]) = _
  rw [Sql.Statement.ofText_eq (by rw [length]; exact whole), zip_page, length, all, result]

end RowSecurity
