/-
Paths in web addresses.

* `isBreak`: characters that have no place in an address;
* `marks`: characters that an address would read as more than a part of its path;
* `inAddress`: a path as an address shows it.

Main statement: `inAddress_eq_self` says that a path which starts with a slash and has none of
these characters is shown as it is.

Design notes: a question mark or a number sign ends the path of an address, and a backslash may
be taken for a slash, so these are coded. Tabs and line breaks are left out, and whatever stands
before the first slash is read as part of the host. All other characters stay, percent signs,
blanks and those beyond ASCII too.
-/
namespace RowSecurity.Path

/-- Tabs and line breaks. -/
def isBreak (c : Char) : Bool := c == '\t' || c == '\n' || c == '\r'

/-- The characters that are coded, each with its code. -/
def marks : List (Char × List Char) :=
  [('?', "%3F".toList), ('#', "%23".toList), ('\\', "%5C".toList)]

/-- A character of a path, coded if it is one of the marks. -/
def codeMark (c : Char) : List Char := (marks.lookup c).getD [c]

/-- A path as an address shows it. -/
def inAddress (path : String) : String :=
  String.ofList
    (((path.toList.filter (!isBreak ·)).dropWhile (· != '/')).flatMap codeMark)

theorem flatMap_codeMark {cs : List Char} (h : ∀ c ∈ cs, marks.lookup c = none) :
    cs.flatMap codeMark = cs := by
  induction cs with
  | nil => rfl
  | cons c cs ih =>
    rw [List.flatMap_cons, ih fun d hd => h d (List.mem_cons_of_mem c hd), codeMark,
      h c List.mem_cons_self, Option.getD_none, List.singleton_append]

theorem inAddress_eq_self {path : String} (slash : path.toList.head? = some '/')
    (plain : ∀ c ∈ path.toList, isBreak c = false ∧ marks.lookup c = none) :
    inAddress path = path := by
  have unbroken : path.toList.filter (!isBreak ·) = path.toList :=
    List.filter_eq_self.2 fun c hc => by simp [(plain c hc).1]
  have whole : path.toList.dropWhile (· != '/') = path.toList := by
    obtain ⟨cs, same⟩ := List.head?_eq_some_iff.1 slash
    rw [same]
    exact List.dropWhile_cons_of_neg (by simp)
  rw [inAddress, unbroken, whole, flatMap_codeMark fun c hc => (plain c hc).2, String.ofList_toList]

end RowSecurity.Path
