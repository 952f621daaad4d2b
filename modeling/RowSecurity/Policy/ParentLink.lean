/-
Links from a resource to the parent resource that decides for it.

* `LinkForm`: how the rows of a child reach those of their parent, as it is given;
* `ParentLink`: a link whose tables and columns are plain names;
* `LinkRegistry`: links by child resource.

Main statements: `find?_register_self` and `find?_register_of_ne` say what a registry holds
after a link is entered.

Design notes: the names of a link end up in conditions, so there is no link whose names have
not been checked.
-/
import RowSecurity.Failure

namespace RowSecurity

/-- How the rows of a child resource reach those of its parent: the child's column
`foreignKey` holds the parent's `parentKey`. -/
structure LinkForm where
  childResource : String
  childTable : String
  foreignKey : String
  parentResource : String
  parentTable : String
  parentKey : String
deriving DecidableEq, Repr

/-- The names of a link that stand in conditions, in the order in which they are checked. -/
def LinkForm.columns (form : LinkForm) : List (LinkColumn × String) := [
  (.childTable, form.childTable), (.foreignKey, form.foreignKey),
  (.parentTable, form.parentTable), (.parentKey, form.parentKey)]

/-- A link whose tables and columns are plain names. -/
structure ParentLink extends LinkForm where
  plain : ∀ column ∈ toLinkForm.columns, Text.isName column.2 = true
deriving DecidableEq, Repr

/-- The link that a form describes, if all its names are plain. -/
def ParentLink.check (form : LinkForm) : Except Failure ParentLink :=
  match found : form.columns.find? fun column => !Text.isName column.2 with
  | some (column, given) => .error (.argument (.linkColumn column given))
  | none => .ok ⟨form, by simpa using found⟩

/-- Links by child resource, at most one for each. -/
structure LinkRegistry where
  links : List ParentLink
deriving DecidableEq, Repr

namespace LinkRegistry

def empty : LinkRegistry := ⟨[]⟩

/-- Enter a link, replacing the one of its child resource if there is one. -/
def register (registry : LinkRegistry) (link : ParentLink) : LinkRegistry :=
  ⟨link :: registry.links.filter fun other => other.childResource ≠ link.childResource⟩

def find? (registry : LinkRegistry) (childResource : String) : Option ParentLink :=
  registry.links.find? fun link => link.childResource = childResource

def contains (registry : LinkRegistry) (childResource : String) : Bool :=
  (registry.find? childResource).isSome

def ofLinks (links : List ParentLink) : LinkRegistry := links.foldl register empty

theorem find?_register_self (registry : LinkRegistry) (link : ParentLink) :
    (registry.register link).find? link.childResource = some link := by
  simp [find?, register]

theorem find?_register_of_ne {link : ParentLink} {childResource : String}
    (hne : childResource ≠ link.childResource) (registry : LinkRegistry) :
    (registry.register link).find? childResource = registry.find? childResource := by
  simp only [find?, register, List.find?_cons]
  rw [decide_eq_false hne.symm]
  simp only [List.find?_filter]
  congr
  funext other
  by_cases h : other.childResource = childResource
  · simp [h, hne]
  · simp [h]

end LinkRegistry

end RowSecurity
