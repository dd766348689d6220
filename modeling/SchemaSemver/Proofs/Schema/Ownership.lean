/-
SchemaSemver.Proofs.Schema.Ownership — which type a declaration belongs to.

Nothing is asked of the definitions here: names are any texts, kinds any words, and members may be
unsupported. Still every declaration is that of a type or of a member of one, and says so in its
path; a member's declaration has no parent other than its type; and no member of a type is declared
without the type itself, under its heading (`declared_cases`). All of it is read off the items of a
definition (`declared_eq_items`).

So declarations of types with different names have different paths, if no name has a dot
(`path_ne_of_name_ne`).
-/
import SchemaSemver.Proofs.Schema.Origin

namespace SchemaSemver

/-! ## §1 The declarations of one type -/

/-- The declaration is one of a member of the type. -/
structure Declaration.IsMemberOf (typeName : String) (declaration : Declaration) : Prop where
  path : ∃ memberName, declaration.path = memberPath typeName memberName
  parent : declaration.parent = Declaration.noParent ∨ declaration.parent = typeName

/-- What a definition declares, the constructs without a declaration left out. -/
def TypeDefinition.declared (definition : TypeDefinition) : List Declaration :=
  definition.entries.filterMap Entry.declaration?

theorem extract_eq_declared (definitions : List TypeDefinition) :
    (extract definitions).declarations = definitions.flatMap TypeDefinition.declared := by
  simp only [extract, Extraction.ofEntries, List.filterMap_flatMap]
  rfl

theorem extract_append (first second : List TypeDefinition) :
    (extract (first ++ second)).declarations
      = (extract first).declarations ++ (extract second).declarations := by
  simp only [extract_eq_declared, List.flatMap_append]

/-- A definition declares what its items are declared as. -/
theorem TypeDefinition.declared_eq_items (definition : TypeDefinition) :
    definition.declared = definition.items.filterMap Item.declaration? :=
  congrArg Extraction.declarations (ofEntries_of_standFor definition.entries_standFor_items)

theorem isMemberOf_of_item {typeName : String} {item : Item} {declaration : Declaration}
    (hitem : item.IsMemberOf typeName) (h : item.declaration? = some declaration) :
    declaration.IsMemberOf typeName := by
  constructor
  · exact ⟨item.name, (Item.path_of_declaration h).trans hitem.path⟩
  · rw [Item.parent_of_declaration h, hitem.owner]
    split
    · exact Or.inr rfl
    · exact Or.inl rfl

/-- A type declares nothing at all, or its heading and then members. -/
theorem TypeDefinition.declared_cases (definition : TypeDefinition) :
    definition.declared = []
      ∨ ∃ heading members, definition.heading? = some heading
        ∧ definition.declared = heading.declaration definition.name :: members
        ∧ ∀ declaration ∈ members, declaration.IsMemberOf definition.name := by
  cases hheading : definition.heading? with
  | none =>
    cases definition with
    | unrecognised name kind => exact Or.inl rfl
    | _ => cases hheading
  | some heading =>
    obtain ⟨members, hitems, hmembers⟩ := definition.exists_members
    refine Or.inr ⟨heading, members.filterMap Item.declaration?, rfl, ?_, fun declaration hd => ?_⟩
    · rw [definition.declared_eq_items, hitems,
        List.filterMap_cons_some (TypeDefinition.declaration?_type hheading)]
    · obtain ⟨item, hitem, hdeclared⟩ := List.mem_filterMap.mp hd
      exact isMemberOf_of_item (hmembers item hitem) hdeclared

/-- A type of a known kind declares its heading. -/
theorem TypeDefinition.heading_mem_declared {definition : TypeDefinition} {heading : Heading}
    (h : definition.heading? = some heading) :
    heading.declaration definition.name ∈ definition.declared := by
  rw [definition.declared_eq_items]
  exact List.mem_filterMap.mpr ⟨_, List.mem_cons_self, TypeDefinition.declaration?_type h⟩

/-! ## §2 Paths and parents -/

section Paths

variable {definition : TypeDefinition} {declaration : Declaration}

theorem TypeDefinition.path_of_mem_declared (h : declaration ∈ definition.declared) :
    declaration.path = definition.name
      ∨ ∃ memberName, declaration.path = memberPath definition.name memberName := by
  rcases definition.declared_cases with hnil | ⟨heading, members, -, heq, hmembers⟩
  · simp [hnil] at h
  · rw [heq] at h
    rcases List.mem_cons.mp h with rfl | h
    · exact Or.inl rfl
    · exact Or.inr (hmembers declaration h).path

theorem TypeDefinition.parent_of_mem_declared (h : declaration ∈ definition.declared)
    (hsensitive : declaration.isParentSensitive = true) :
    declaration.parent = definition.name := by
  have hne : declaration.parent ≠ Declaration.noParent := by
    simpa [Declaration.isParentSensitive] using hsensitive
  rcases definition.declared_cases with hnil | ⟨heading, members, -, heq, hmembers⟩
  · simp [hnil] at h
  · rw [heq] at h
    rcases List.mem_cons.mp h with rfl | h
    · exact absurd rfl hne
    · exact (hmembers declaration h).parent.resolve_left hne

/-- Whatever a type declares, it declares itself as well. -/
theorem TypeDefinition.exists_self_of_mem_declared (h : declaration ∈ definition.declared) :
    ∃ self ∈ definition.declared, self.path = definition.name := by
  rcases definition.declared_cases with hnil | ⟨heading, members, -, heq, -⟩
  · simp [hnil] at h
  · exact ⟨_, heq ▸ List.mem_cons_self, rfl⟩

/-- What a type declares under a path without a dot is its heading. -/
theorem TypeDefinition.heading_of_mem_declared (h : declaration ∈ definition.declared)
    (hpath : '.' ∉ declaration.path.toList) :
    ∃ heading, definition.heading? = some heading
      ∧ declaration = heading.declaration definition.name := by
  rcases definition.declared_cases with hnil | ⟨heading, members, hheading, heq, hmembers⟩
  · simp [hnil] at h
  · rw [heq] at h
    rcases List.mem_cons.mp h with rfl | h
    · exact ⟨heading, hheading, rfl⟩
    · obtain ⟨memberName, hmember⟩ := (hmembers declaration h).path
      exact absurd hmember (ne_memberPath hpath definition.name memberName)

theorem exists_declared_of_mem_extract {definitions : List TypeDefinition}
    (h : declaration ∈ (extract definitions).declarations) :
    ∃ definition ∈ definitions, declaration ∈ definition.declared := by
  rw [extract_eq_declared] at h
  exact List.mem_flatMap.mp h

/-- No declaration of a type has the name of another type as its path. -/
theorem TypeDefinition.ne_path_of_mem_declared {name : String} (hname : '.' ∉ name.toList)
    (hne : definition.name ≠ name) (h : declaration ∈ definition.declared) :
    declaration.path ≠ name := by
  rcases TypeDefinition.path_of_mem_declared h with hpath | ⟨memberName, hpath⟩
  · exact hpath ▸ hne
  · exact hpath ▸ (ne_memberPath hname definition.name memberName).symm

/-- Types of different names declare different paths. -/
theorem TypeDefinition.path_ne_of_name_ne {other : TypeDefinition} {foreign : Declaration}
    (hd : '.' ∉ definition.name.toList) (ho : '.' ∉ other.name.toList)
    (hne : definition.name ≠ other.name) (h : declaration ∈ definition.declared)
    (hforeign : foreign ∈ other.declared) : declaration.path ≠ foreign.path := by
  rcases TypeDefinition.path_of_mem_declared hforeign with hpath | ⟨memberName, hpath⟩
  · exact hpath ▸ TypeDefinition.ne_path_of_mem_declared ho hne h
  · rcases TypeDefinition.path_of_mem_declared h with hown | ⟨ownName, hown⟩
    · rw [hown, hpath]
      exact ne_memberPath hd other.name memberName
    · rw [hown, hpath]
      exact fun heq => hne ((memberPath_inj hd ho).mp heq).1

end Paths

end SchemaSemver
