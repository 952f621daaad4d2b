/-
The two layouts of a permission document.

* `Permissions`: a mapping from resources to roles to values;
* `Permissions.plain`, `Permissions.layered`: what a document of either layout holds;
* `LayoutsAgree`: that both layouts give the table of the mapping, and what becomes of a mapping
  that is taken for the other layout.

Main statement: `ofDocument_layoutsAgree`, for every mapping and all configurations.

Design notes: the layout of a document is guessed from its field `resources`, and a resource may
have any name. So the document of a mapping with a resource of that name is read as the other
layout, where the roles of that resource count as resources and all others are passed over. Which
text writes a record is left open: the statements are over all documents that are read as the
record, however deep a document may be nested.
-/
import RowSecurity.Policy.Document
import RowSecurity.Proofs.LastWrite

namespace RowSecurity

/-- A mapping from resources to roles to values. -/
abbrev Permissions := List (String × Fields)

namespace Permissions

/-- The document that is the mapping itself. -/
def plain (permissions : Permissions) : Fields :=
  permissions.map fun entry => (entry.1, .record entry.2)

/-- The document that has the mapping below `resources`. -/
def layered (permissions : Permissions) : Fields :=
  [("resources", .record (permissions.map fun entry =>
    (entry.1, .record [("rlsPolicy", .record entry.2)])))]

/-- The resources of a mapping. -/
def names (permissions : Permissions) : List String := permissions.map (·.1)

end Permissions

section Documents

variable {inForce : Config} {config : Option Config} {permissions : Permissions} {roles : Fields}
  {role resource document : String} {value : Value} {policy : Policy} {table : PolicyTable}
  {policies : Fields} {nesting : Nat}

/-! ### What a document holds -/

theorem policiesOf_layered (permissions : Permissions) :
    policiesOf permissions.layered = permissions.plain := by
  have entries : resourceEntry ∘ (fun entry : String × Fields =>
      (entry.1, Value.record [("rlsPolicy", .record entry.2)])) =
      some ∘ fun entry => (entry.1, .record entry.2) := by
    funext entry
    rfl
  show List.filterMap resourceEntry (permissions.map _) = _
  rw [List.filterMap_map, entries, List.filterMap_eq_map]
  rfl

theorem policiesOf_of_record (found : policies.get? "resources" = some (.record roles)) :
    policiesOf policies = roles.filterMap resourceEntry := by
  unfold policiesOf Fields.get
  rw [found]
  rfl

/-- A document without `resources` is the mapping itself. -/
theorem policiesOf_plain (unused : "resources" ∉ permissions.names) :
    policiesOf permissions.plain = permissions.plain := by
  have absent : permissions.plain.get? "resources" = none := by
    rw [Fields.get?_eq_none_iff]
    simpa [Fields.keys, Permissions.plain, Permissions.names] using unused
  unfold policiesOf Fields.get
  rw [absent]
  rfl

theorem PolicyTable.ofDocument_of_read
    (read : Json.read document nesting = .ok (.record policies)) :
    ofDocument inForce config document nesting =
      ofMapping inForce config (policiesOf policies) := by
  unfold ofDocument
  rw [read]
  rfl

/-- What counts as a resource of the second layout is a field that holds a record. -/
theorem mem_of_mem_resources (member : (resource, value) ∈ roles.filterMap resourceEntry) :
    ∃ fields, (resource, .record fields) ∈ roles := by
  obtain ⟨⟨name, held⟩, listed, entry⟩ := List.mem_filterMap.mp member
  cases held with
  | record fields =>
    cases entry
    exact ⟨fields, listed⟩
  | null | bool _ | int _ | real _ | text _ | list _ => cases entry

/-! ### What a mapping comes to -/

/-- The key of a table that is made under a configuration of its own or under the one in force. -/
def keyFor (inForce : Config) (config : Option Config) : String :=
  (config.getD inForce).defaultValueKey

theorem exists_mem_of_mem_mappingEntries {entry : MappingEntry}
    (member : entry ∈ mappingEntries policies) : ∃ value, (entry.resource, value) ∈ policies := by
  obtain ⟨⟨name, value⟩, listed, inside⟩ := List.mem_flatMap.mp member
  cases value with
  | record roles =>
    obtain ⟨_, -, rfl⟩ := List.mem_map.mp inside
    exact ⟨_, listed⟩
  | null | bool _ | int _ | real _ | text _ | list _ =>
    cases List.mem_singleton.mp inside
    exact ⟨_, listed⟩

/-- The entries of a mapping are the values of its resources' roles. -/
theorem mem_mappingEntries_plain {entry : MappingEntry} :
    entry ∈ mappingEntries permissions.plain ↔
      ∃ held ∈ permissions, ∃ field ∈ held.2, entry = ⟨held.1, some field.1, field.2⟩ := by
  simp [mappingEntries, Permissions.plain, List.mem_flatMap, eq_comm]

theorem MappingEntry.accepted_eq (key resource role : String) (value : Value) :
    (⟨resource, some role, value⟩ : MappingEntry).accepted key =
      ((PolicyValue.raw value).parse key).isSome := by
  unfold accepted change?
  cases (PolicyValue.raw value).parse key with
  | none => rfl
  | some policy => rfl

/-- All entries of a mapping are entered, or one that is refused is the reason why not. -/
theorem PolicyTable.ofMapping_cases (inForce : Config) (config : Option Config)
    (policies : Fields) :
    (∀ entry ∈ mappingEntries policies, entry.accepted (keyFor inForce config) = true) ∧
        ofMapping inForce config policies = .ok ((empty config).replay
          ((mappingEntries policies).filterMap (·.change? (keyFor inForce config)))) ∨
      ∃ entry ∈ mappingEntries policies, entry.accepted (keyFor inForce config) = false ∧
        ofMapping inForce config policies = .error entry.refusal := by
  have whole := List.takeWhile_append_dropWhile (p := (·.accepted (keyFor inForce config)))
    (l := mappingEntries policies)
  have loaded : (empty config).load inForce policies =
      enterAll (keyFor inForce config) (empty config) (mappingEntries policies) :=
    load_eq_enterAll rfl policies
  unfold ofMapping
  rw [loaded, enterAll_eq]
  -- entering stops at the first entry that is refused
  cases rest : (mappingEntries policies).dropWhile (·.accepted (keyFor inForce config)) with
  | nil =>
    rw [rest, List.append_nil] at whole
    rw [whole]
    exact .inl ⟨fun entry member => List.mem_takeWhile_imp (whole.symm ▸ member), rfl⟩
  | cons offending after =>
    have refused := List.head_dropWhile_not (·.accepted (keyFor inForce config))
      (l := mappingEntries policies) (by simp [rest])
    simp only [rest, List.head_cons] at refused
    refine .inr ⟨offending, ?_, refused, rfl⟩
    rw [← whole, rest]
    exact List.mem_append_right _ List.mem_cons_self

/-- A table that a mapping gives has policies on resources of the mapping alone. -/
theorem PolicyTable.mem_of_ofMapping (made : ofMapping inForce config policies = .ok table)
    (held : table.contains role resource = true) : ∃ value, (resource, value) ∈ policies := by
  rcases ofMapping_cases inForce config policies with ⟨-, outcome⟩ | ⟨entry, -, -, outcome⟩
  · rw [made] at outcome
    cases outcome
    -- what the table holds was entered by one of the mapping's entries
    obtain ⟨policy, member⟩ := contains_iff_mem.mp held
    obtain ⟨entry, listed, change⟩ := List.mem_filterMap.mp (entered_of_mem_replay member)
    obtain ⟨_, _, -, -, same⟩ := MappingEntry.change?_eq_some change
    cases same
    exact exists_mem_of_mem_mappingEntries listed
  · rw [made] at outcome
    cases outcome

/-- A mapping gives a table if all of its values stand for policies. -/
theorem PolicyTable.exists_ofMapping_plain :
    (∃ table, ofMapping inForce config permissions.plain = .ok table) ↔
      ∀ held ∈ permissions, ∀ field ∈ held.2,
        ((PolicyValue.raw field.2).parse (keyFor inForce config)).isSome = true := by
  constructor
  · rintro ⟨table, made⟩ held listed field inside
    rcases ofMapping_cases inForce config permissions.plain with
      ⟨accepted, -⟩ | ⟨_, -, -, outcome⟩
    · have entry := accepted _ (mem_mappingEntries_plain.mpr ⟨held, listed, field, inside, rfl⟩)
      rwa [MappingEntry.accepted_eq] at entry
    · rw [made] at outcome
      cases outcome
  · intro readable
    rcases ofMapping_cases inForce config permissions.plain with
      ⟨-, outcome⟩ | ⟨entry, member, refused, -⟩
    · exact ⟨_, outcome⟩
    · obtain ⟨held, listed, field, inside, rfl⟩ := mem_mappingEntries_plain.mp member
      rw [MappingEntry.accepted_eq, readable held listed field inside] at refused
      cases refused

/-- A mapping that gives no table has a value that stands for no policy, and that is the failure. -/
theorem PolicyTable.refusal_of_ofMapping_plain {failure : Failure}
    (failed : ofMapping inForce config permissions.plain = .error failure) :
    ∃ held ∈ permissions, ∃ field ∈ held.2,
      (PolicyValue.raw field.2).parse (keyFor inForce config) = none ∧
        failure = .invalidPolicy (.raw field.2) (some held.1) := by
  rcases ofMapping_cases inForce config permissions.plain with
    ⟨-, outcome⟩ | ⟨entry, member, refused, outcome⟩
  · rw [failed] at outcome
    cases outcome
  · obtain ⟨held, listed, field, inside, rfl⟩ := mem_mappingEntries_plain.mp member
    rw [MappingEntry.accepted_eq, Option.isSome_eq_false_iff, Option.isNone_iff_eq_none] at refused
    rw [failed] at outcome
    exact ⟨held, listed, field, inside, refused, Except.error.inj outcome⟩

/-! ### The whole -/

/-- That the documents of a mapping and the mapping itself come to the same. -/
structure LayoutsAgree (inForce : Config) (config : Option Config) (permissions : Permissions) :
    Prop where
  /-- The mapping below `resources` gives the table of the mapping, or fails as it does. -/
  layered : ∀ {document nesting},
    Json.read document nesting = .ok (.record permissions.layered) →
      PolicyTable.ofDocument inForce config document nesting =
        PolicyTable.ofMapping inForce config permissions.plain
  /-- So does the mapping itself, unless one of its resources is called `resources`. -/
  plain : "resources" ∉ permissions.names →
    ∀ {document nesting}, Json.read document nesting = .ok (.record permissions.plain) →
      PolicyTable.ofDocument inForce config document nesting =
        PolicyTable.ofMapping inForce config permissions.plain
  /-- A mapping gives a table if all of its values stand for policies. -/
  taken : (∃ table, PolicyTable.ofMapping inForce config permissions.plain = .ok table) ↔
    ∀ held ∈ permissions, ∀ field ∈ held.2,
      ((PolicyValue.raw field.2).parse (keyFor inForce config)).isSome = true
  /-- If not, the failure tells of one that does not. -/
  refused : ∀ {failure},
    PolicyTable.ofMapping inForce config permissions.plain = .error failure →
      ∃ held ∈ permissions, ∃ field ∈ held.2,
        (PolicyValue.raw field.2).parse (keyFor inForce config) = none ∧
          failure = .invalidPolicy (.raw field.2) (some held.1)
  /-- A resource that is called `resources` puts its roles in the place of all resources. -/
  displaced : ∀ {roles}, permissions.plain.get? "resources" = some (.record roles) →
    ∀ {document nesting}, Json.read document nesting = .ok (.record permissions.plain) →
      ∀ {table}, PolicyTable.ofDocument inForce config document nesting = .ok table →
        ∀ {role resource}, table.contains role resource = true →
          ∃ fields, (resource, .record fields) ∈ roles
  /-- If none of its roles has a record, the document is taken and nothing is left of it. -/
  lost : ∀ {roles}, permissions.plain.get? "resources" = some (.record roles) →
    (∀ field ∈ roles, ∀ fields, field.2 ≠ .record fields) →
      ∀ {document nesting}, Json.read document nesting = .ok (.record permissions.plain) →
        PolicyTable.ofDocument inForce config document nesting = .ok (.empty config)

/-- The layouts agree on every mapping, whatever the configurations are. -/
theorem ofDocument_layoutsAgree (inForce : Config) (config : Option Config)
    (permissions : Permissions) : LayoutsAgree inForce config permissions where
  layered := by
    intro document nesting read
    rw [PolicyTable.ofDocument_of_read read, policiesOf_layered]
  plain := by
    intro unused document nesting read
    rw [PolicyTable.ofDocument_of_read read, policiesOf_plain unused]
  taken := PolicyTable.exists_ofMapping_plain
  refused := PolicyTable.refusal_of_ofMapping_plain
  displaced := by
    intro roles found document nesting read table made role resource held
    rw [PolicyTable.ofDocument_of_read read, policiesOf_of_record found] at made
    obtain ⟨value, listed⟩ := PolicyTable.mem_of_ofMapping made held
    exact mem_of_mem_resources listed
  lost := by
    intro roles found bare document nesting read
    have nothing : roles.filterMap resourceEntry = [] := by
      rw [List.filterMap_eq_nil_iff]
      rintro ⟨name, value⟩ listed
      cases value with
      | record fields => exact absurd rfl (bare _ listed fields)
      | null | bool _ | int _ | real _ | text _ | list _ => rfl
    rw [PolicyTable.ofDocument_of_read read, policiesOf_of_record found, nothing]
    rfl

end Documents

/-- Orders that a customer sees if they are the customer's own, and a clerk all of them. -/
def orderPermissions : Permissions :=
  [("orders", [("customer", .text "owner"), ("clerk", .null)])]

theorem ofDocument_layoutsAgree_orders :
    "resources" ∉ orderPermissions.names ∧
      PolicyTable.ofDocument .standard none
          "\x7b\"orders\": \x7b\"customer\": \"owner\", \"clerk\": null\x7d\x7d" =
        PolicyTable.ofDocument .standard none
          "\x7b\"resources\": \x7b\"orders\": \x7b\"rlsPolicy\": \x7b\"customer\": \"owner\", \"clerk\": null\x7d\x7d\x7d\x7d" ∧
      ∃ table, PolicyTable.ofMapping .standard none orderPermissions.plain = .ok table := by
  have agree : LayoutsAgree .standard none orderPermissions := ofDocument_layoutsAgree _ _ _
  have unused : "resources" ∉ orderPermissions.names := by decide
  have readPlain : Json.read
      "\x7b\"orders\": \x7b\"customer\": \"owner\", \"clerk\": null\x7d\x7d" =
      .ok (.record orderPermissions.plain) := by decide +kernel
  have readLayered : Json.read
      "\x7b\"resources\": \x7b\"orders\": \x7b\"rlsPolicy\": \x7b\"customer\": \"owner\", \"clerk\": null\x7d\x7d\x7d\x7d" =
      .ok (.record orderPermissions.layered) := by decide +kernel
  refine ⟨unused, (agree.plain unused readPlain).trans (agree.layered readLayered).symm, ?_⟩
  exact agree.taken.mpr (by decide)

/-- Orders and another resource, which is called `resources`. -/
def sharedName : Permissions :=
  [("orders", [("customer", .text "user_id")]), ("resources", [("admin", .null)])]

/-- All policies of that mapping are lost in its document. -/
theorem ofDocument_sharedName :
    Json.read
        "\x7b\"orders\": \x7b\"customer\": \"user_id\"\x7d, \"resources\": \x7b\"admin\": null\x7d\x7d" =
        .ok (.record sharedName.plain) ∧
      PolicyTable.ofDocument .standard none
        "\x7b\"orders\": \x7b\"customer\": \"user_id\"\x7d, \"resources\": \x7b\"admin\": null\x7d\x7d" =
        .ok ⟨[], none⟩ ∧
      PolicyTable.ofMapping .standard none sharedName.plain =
        .ok ⟨[(("customer", "orders"), .fieldEquals "user_id" "userId"),
          (("admin", "resources"), .allRecords)], none⟩ := by
  refine ⟨by decide +kernel, by decide +kernel, rfl⟩

end RowSecurity
