/-
SchemaSemver.Proofs.Schema.Origin — where a declaration comes from, and what its parent says.

Every declaration of an extraction comes from one item of one definition (`exists_origin`). It is
parent-sensitive exactly if adding the item to a type breaks users of the type: for an enum value, a
possible type, and an input field that is not null. Its parent is then the type that the item is a
member of, and the type was declared before it by the same definition (`Origin.isClosed`). So no
parent is left dangling, whatever is skipped on the way because it is unsupported.

One type name is out of the question: a type called `@` would pass for no parent at all. Other names
may be any texts; only an exclamation mark at the end of an input field's signature takes a GraphQL
name in front of it to mean what it should.
-/
import SchemaSemver.Proofs.Schema.Accounting

namespace SchemaSemver

/-! ## §1 The parent of an item -/

namespace Item

/-- The name of the type that the item is, or is a member of. -/
def owner : Item → String
  | .type definition => definition.name
  | .field typeName _ => typeName
  | .possibleType typeName _ => typeName
  | .enumValue typeName _ => typeName
  | .inputField typeName _ => typeName

/-- The name of the item itself. -/
def name : Item → String
  | .type definition => definition.name
  | .field _ part => part.name
  | .possibleType _ part => part.name
  | .enumValue _ value => value
  | .inputField _ value => value.name

/-- Does adding the item to a type that is there break users of the type? -/
def isBreaking : Item → Bool
  | .type _ => false
  | .field _ _ => false
  | .possibleType _ _ => true
  | .enumValue _ _ => true
  | .inputField _ value => value.type.isNonNull

variable {item : Item} {declaration : Declaration}

/-- What is declared is declared as it is written down. -/
theorem spelled_of_declaration (h : item.declaration? = some declaration) :
    item.spelled? = some declaration := by
  unfold declaration? at h
  split at h
  · exact h
  · cases h

theorem path_of_declaration (h : item.declaration? = some declaration) :
    declaration.path = item.path := by
  have hspelled := spelled_of_declaration h
  cases item with
  | type definition =>
    obtain ⟨heading, -, rfl⟩ := Option.map_eq_some_iff.mp hspelled
    rfl
  | _ =>
    cases hspelled
    rfl

/-- The parent of a declaration is the type of a breaking item, or none. -/
theorem parent_of_declaration (h : item.declaration? = some declaration) :
    declaration.parent = if item.isBreaking then item.owner else Declaration.noParent := by
  have hspelled := spelled_of_declaration h
  cases item with
  | type definition =>
    obtain ⟨heading, -, rfl⟩ := Option.map_eq_some_iff.mp hspelled
    rfl
  | inputField typeName value =>
    cases hspelled
    show (if value.type.shape.isNonNull then typeName else Declaration.noParent) = _
    rw [TypeRef.isNonNull_shape]
    rfl
  | _ =>
    cases hspelled
    rfl

theorem isParentSensitive_iff (howner : item.owner ≠ Declaration.noParent)
    (h : item.declaration? = some declaration) :
    declaration.isParentSensitive = true ↔ item.isBreaking = true := by
  rw [Declaration.isParentSensitive, parent_of_declaration h, bne_iff_ne]
  cases item.isBreaking
  · simp
  · simpa using howner

/-- An input field is breaking exactly if its signature ends in an exclamation mark. -/
theorem isBreaking_inputField_iff {typeName : String} {value : InputValue}
    (hleaf : isName value.type.leaf.name = true)
    (h : (inputField typeName value).declaration? = some declaration) :
    (inputField typeName value).isBreaking = true
      ↔ ∃ text, declaration.signature = text ++ "!" := by
  cases spelled_of_declaration h
  show value.type.isNonNull = true ↔ ∃ text, value.type.shape.spelling = text ++ "!"
  rw [← TypeRef.isNonNull_shape]
  exact Shape.isNonNull_iff_spelling (by rwa [TypeRef.leafName_shape])

end Item

/-! ## §2 The items of one definition -/

/-- The item is a member of the type, and stands below it. -/
structure Item.IsMemberOf (typeName : String) (item : Item) : Prop where
  owner : item.owner = typeName
  path : item.path = memberPath typeName item.name

namespace TypeDefinition

variable {definition : TypeDefinition} {item : Item}

/-- The items of a type are the type itself and then its members. -/
theorem exists_members (definition : TypeDefinition) :
    ∃ members, definition.items = .type definition :: members
      ∧ ∀ item ∈ members, item.IsMemberOf definition.name := by
  refine ⟨_, rfl, ?_⟩
  cases definition with
  | scalar name => exact List.forall_mem_nil _
  | object name interfaces fields => exact List.forall_mem_map.mpr fun part _ => ⟨rfl, rfl⟩
  | interface name interfaces fields possibleTypes =>
    exact List.forall_mem_append.mpr ⟨List.forall_mem_map.mpr fun part _ => ⟨rfl, rfl⟩,
      List.forall_mem_map.mpr fun part _ => ⟨rfl, rfl⟩⟩
  | union name possibleTypes => exact List.forall_mem_map.mpr fun part _ => ⟨rfl, rfl⟩
  | enum name values => exact List.forall_mem_map.mpr fun part _ => ⟨rfl, rfl⟩
  | inputObject name inputFields => exact List.forall_mem_map.mpr fun part _ => ⟨rfl, rfl⟩
  | unrecognised name kind => exact List.forall_mem_nil _

theorem eq_type_or_isMemberOf (h : item ∈ definition.items) :
    item = .type definition ∨ item.IsMemberOf definition.name := by
  obtain ⟨members, hitems, hmembers⟩ := definition.exists_members
  rw [hitems] at h
  exact (List.mem_cons.mp h).imp_right (hmembers item)

theorem owner_of_mem_items (h : item ∈ definition.items) : item.owner = definition.name := by
  rcases eq_type_or_isMemberOf h with rfl | hmember
  · rfl
  · exact hmember.owner

/-- A breaking item stands below its type. -/
theorem path_of_isBreaking (h : item ∈ definition.items) (hbreaking : item.isBreaking = true) :
    item.path = memberPath definition.name item.name := by
  rcases eq_type_or_isMemberOf h with rfl | hmember
  · cases hbreaking
  · exact hmember.path

/-- A type with a breaking item is of a known kind. -/
theorem exists_heading_of_isBreaking (h : item ∈ definition.items)
    (hbreaking : item.isBreaking = true) : ∃ heading, definition.heading? = some heading := by
  cases definition with
  | unrecognised name kind =>
    obtain rfl := List.mem_singleton.mp h
    cases hbreaking
  | _ => exact ⟨_, rfl⟩

/-- A type of a known kind is declared under its heading. -/
theorem declaration?_type {heading : Heading} (h : definition.heading? = some heading) :
    (Item.type definition).declaration? = some (heading.declaration definition.name) := by
  simp [Item.declaration?, Item.references, Item.spelled?, h]

/-- A breaking item comes after the item of the type itself. -/
theorem items_before_isBreaking {front back : List Item}
    (h : definition.items = front ++ item :: back) (hbreaking : item.isBreaking = true) :
    ∃ own, front = .type definition :: own := by
  cases front with
  | nil =>
    obtain ⟨rfl, -⟩ := List.cons.inj h
    cases hbreaking
  | cons first own =>
    obtain ⟨rfl, -⟩ := List.cons.inj h
    exact ⟨own, rfl⟩

end TypeDefinition

/-! ## §3 The items of an extraction -/

theorem declarations_extract (definitions : List TypeDefinition) :
    (extract definitions).declarations = (itemsOf definitions).filterMap Item.declaration? := by
  rw [extract, ofEntries_of_standFor (entries_standFor_itemsOf definitions)]

/-- Where a declaration comes from, and all that is declared `earlier`. The items of a definition
follow one another, and the definitions do. -/
structure Origin (definitions : List TypeDefinition) (earlier : List Declaration)
    (declaration : Declaration) where
  definitionsBefore : List TypeDefinition
  definition : TypeDefinition
  definitionsAfter : List TypeDefinition
  itemsBefore : List Item
  item : Item
  itemsAfter : List Item
  definitions_eq : definitions = definitionsBefore ++ definition :: definitionsAfter
  items_eq : definition.items = itemsBefore ++ item :: itemsAfter
  earlier_eq : earlier
    = (extract definitionsBefore).declarations ++ itemsBefore.filterMap Item.declaration?
  declared : item.declaration? = some declaration

/-- A place in the items of some definitions is a place in the items of one of them. -/
theorem exists_definition_of_itemsOf {definitions : List TypeDefinition} {front back : List Item}
    {item : Item} (h : itemsOf definitions = front ++ item :: back) :
    ∃ first definition rest own others, definitions = first ++ definition :: rest
      ∧ definition.items = own ++ item :: others ∧ front = itemsOf first ++ own := by
  induction definitions generalizing front with
  | nil => simp [itemsOf] at h
  | cons definition rest ih =>
    -- the place is among the items of the first definition, or behind them
    rcases List.append_eq_append_iff.mp h with ⟨later, rfl, hrest⟩ | ⟨later, hitems, hrest⟩
    · obtain ⟨first, found, rest', own, others, rfl, hfound, rfl⟩ := ih hrest
      exact ⟨definition :: first, found, rest', own, others, rfl, hfound,
        (List.append_assoc _ _ _).symm⟩
    · cases later with
      | nil =>
        have hbehind : itemsOf rest = [] ++ item :: back := hrest.symm
        obtain ⟨first, found, rest', own, others, rfl, hfound, hown⟩ := ih hbehind
        refine ⟨definition :: first, found, rest', own, others, rfl, hfound, ?_⟩
        show front = (definition.items ++ itemsOf first) ++ own
        rw [List.append_assoc, ← hown, hitems, List.append_nil, List.append_nil]
      | cons head others =>
        obtain ⟨rfl, -⟩ := List.cons.inj hrest
        exact ⟨[], definition, rest, front, others, rfl, hitems, rfl⟩

/-- Every declaration has an origin. -/
theorem exists_origin {definitions : List TypeDefinition} {earlier later : List Declaration}
    {declaration : Declaration}
    (h : (extract definitions).declarations = earlier ++ declaration :: later) :
    Nonempty (Origin definitions earlier declaration) := by
  rw [declarations_extract] at h
  obtain ⟨front, behind, hitems, rfl, hbehind⟩ := List.filterMap_eq_append_iff.mp h
  obtain ⟨skipped, item, back, rfl, hskipped, hdeclared, -⟩ :=
    List.filterMap_eq_cons_iff.mp hbehind
  rw [← List.append_assoc] at hitems
  obtain ⟨first, definition, rest, own, others, hdefinitions, hown, hfront⟩ :=
    exists_definition_of_itemsOf hitems
  -- what is skipped right before the item declares nothing
  have hearlier : front.filterMap Item.declaration?
      = (front ++ skipped).filterMap Item.declaration? := by
    rw [List.filterMap_append, List.filterMap_eq_nil_iff.mpr hskipped, List.append_nil]
  refine ⟨⟨first, definition, rest, own, item, others, hdefinitions, hown, ?_, hdeclared⟩⟩
  rw [hearlier, hfront, List.filterMap_append, declarations_extract]

namespace Origin

variable {definitions : List TypeDefinition} {earlier : List Declaration}
  {declaration : Declaration}

theorem item_mem (origin : Origin definitions earlier declaration) :
    origin.item ∈ origin.definition.items := by
  rw [origin.items_eq]
  exact List.mem_append_right _ List.mem_cons_self

theorem definition_mem (origin : Origin definitions earlier declaration) :
    origin.definition ∈ definitions := by
  have hmem : origin.definition
      ∈ origin.definitionsBefore ++ origin.definition :: origin.definitionsAfter :=
    List.mem_append_right _ List.mem_cons_self
  rwa [← origin.definitions_eq] at hmem

/-- Before a breaking item the type itself was declared. -/
theorem exists_self_of_isBreaking (origin : Origin definitions earlier declaration)
    (h : origin.item.isBreaking = true) :
    ∃ heading own, origin.definition.heading? = some heading
      ∧ earlier = (extract origin.definitionsBefore).declarations
        ++ heading.declaration origin.definition.name :: own := by
  obtain ⟨heading, hheading⟩ :=
    TypeDefinition.exists_heading_of_isBreaking origin.item_mem h
  obtain ⟨own, hown⟩ := TypeDefinition.items_before_isBreaking origin.items_eq h
  refine ⟨heading, own.filterMap Item.declaration?, hheading, origin.earlier_eq.trans ?_⟩
  rw [hown, List.filterMap_cons_some (TypeDefinition.declaration?_type hheading)]

/-- What the parent of a declaration says about where it comes from. -/
structure IsClosed (origin : Origin definitions earlier declaration) : Prop where
  /-- Enum values, possible types and non-null input fields have a parent, and nothing else has. -/
  sensitive_iff : declaration.isParentSensitive = true ↔ origin.item.isBreaking = true
  parent : declaration.isParentSensitive = true → declaration.parent = origin.definition.name
  path : declaration.isParentSensitive = true →
    declaration.path = memberPath declaration.parent origin.item.name
  /-- The definition that the item belongs to has declared the parent already. -/
  declared : declaration.isParentSensitive = true →
    ∃ heading own, origin.definition.heading? = some heading
      ∧ earlier = (extract origin.definitionsBefore).declarations
        ++ heading.declaration declaration.parent :: own
  /-- The signature of an input field shows whether it has a parent. -/
  marked_iff : ∀ typeName value, origin.item = .inputField typeName value →
    isName value.type.leaf.name = true →
      (declaration.isParentSensitive = true ↔ ∃ text, declaration.signature = text ++ "!")

theorem isClosed (origin : Origin definitions earlier declaration)
    (hmark : origin.definition.name ≠ Declaration.noParent) : origin.IsClosed := by
  have howner := TypeDefinition.owner_of_mem_items origin.item_mem
  have hsensitive : declaration.isParentSensitive = true ↔ origin.item.isBreaking = true :=
    Item.isParentSensitive_iff (howner ▸ hmark) origin.declared
  have hparent : declaration.isParentSensitive = true →
      declaration.parent = origin.definition.name := by
    intro h
    rw [Item.parent_of_declaration origin.declared, if_pos (hsensitive.mp h), howner]
  refine ⟨hsensitive, hparent, ?_, ?_, ?_⟩
  · intro h
    rw [Item.path_of_declaration origin.declared, hparent h]
    exact TypeDefinition.path_of_isBreaking origin.item_mem (hsensitive.mp h)
  · intro h
    rw [hparent h]
    exact origin.exists_self_of_isBreaking (hsensitive.mp h)
  · intro typeName value hitem hleaf
    have hdeclared := origin.declared
    rw [hitem] at hdeclared hsensitive
    exact hsensitive.trans (Item.isBreaking_inputField_iff hleaf hdeclared)

end Origin

end SchemaSemver
