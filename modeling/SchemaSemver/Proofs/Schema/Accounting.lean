/-
SchemaSemver.Proofs.Schema.Accounting — an extraction accounts for every construct.

The constructs of a schema, its items, come in one order: each type, then its fields, possible
types, enum values or input fields. An item is either declared or reported as unsupported, never
both and never neither, and both lists of an extraction keep the order of the items
(`extract_accounts_for_items`). So nothing that stands behind an unsupported item is lost, and
nothing of it is declared in part.

What an item is declared as, and what is reported about it, is said of its references: the first
of them that ends in a kind without a signature is the one that is reported. For a field these are
its arguments from left to right, then its type. Nothing is asked of names and kinds.
-/
import Mathlib.Data.List.Forall2
import SchemaSemver.Proofs.Schema.Member

namespace SchemaSemver

/-! ## §1 Items -/

/-- A construct of a schema; members come with the name of their type. -/
inductive Item where
  | type (definition : TypeDefinition)
  | field (typeName : String) (field : Field)
  | possibleType (typeName : String) (type : PossibleType)
  | enumValue (typeName value : String)
  | inputField (typeName : String) (value : InputValue)
deriving DecidableEq, Repr

/-- A type and its members, in order. A type of an unknown kind has no members. -/
def TypeDefinition.items (definition : TypeDefinition) : List Item :=
  .type definition :: match definition with
    | object name _ fields => fields.map (.field name)
    | interface name _ fields possibleTypes =>
      fields.map (.field name) ++ possibleTypes.map (.possibleType name)
    | union name possibleTypes => possibleTypes.map (.possibleType name)
    | enum name values => values.map (.enumValue name)
    | inputObject name inputFields => inputFields.map (.inputField name)
    | scalar _ => []
    | unrecognised _ _ => []

/-- The items of all the types, one type after the other. -/
def itemsOf (definitions : List TypeDefinition) : List Item :=
  definitions.flatMap TypeDefinition.items

namespace Item

/-- Where the item stands: the name of a type, or the path of a member. -/
def path : Item → String
  | .type definition => definition.name
  | .field typeName part => memberPath typeName part.name
  | .possibleType typeName part => memberPath typeName part.name
  | .enumValue typeName value => memberPath typeName value
  | .inputField typeName value => memberPath typeName value.name

/-- The references that the signature of the item is made of, in the order of the signature. -/
def references : Item → List TypeRef
  | .field _ part => part.arguments.map InputValue.type ++ [part.type]
  | .inputField _ value => [value.type]
  | _ => []

/-- What is reported about the item: the kind of a type that is unknown, or the kind that the first
reference without a signature ends in. -/
def unsupported? : Item → Option Unsupported
  | .type (.unrecognised name kind) => some ⟨.type, name, kind⟩
  | item => (firstUnsupported item.references).map fun type =>
      ⟨.fieldType, item.path, type.leaf.kind⟩

/-- How the item is written down if all its references have signatures. -/
def spelled? : Item → Option Declaration
  | .type definition => definition.heading?.map (Heading.declaration definition.name)
  | .field typeName part => some (Member.declaration typeName (.field part.name part.shape))
  | .possibleType typeName part => some (Member.declaration typeName (.possibleType part))
  | .enumValue typeName value => some (Member.declaration typeName (.enumValue value))
  | .inputField typeName value =>
    some (Member.declaration typeName (.inputField value.name value.type.shape))

/-- What the item is declared as: nothing, unless the kinds of all its references are supported. -/
def declaration? (item : Item) : Option Declaration :=
  if ∀ type ∈ item.references, type.leaf.kind ∈ supportedKinds then item.spelled? else none

end Item

/-! ## §2 One entry for each item -/

/-- The entry holds what the item is declared as, and what is reported about it. -/
structure Entry.StandsFor (entry : Entry) (item : Item) : Prop where
  declaration : entry.declaration? = item.declaration?
  unsupported : entry.unsupported? = item.unsupported?

/-- The entry of a member is a declaration if its references have signatures, else it reports the
first that has none. -/
theorem memberEntry_spelledWith (path parent signature : String) (types : List TypeRef) :
    (memberEntry path parent (spelledWith types signature)).declaration?
        = (if ∀ type ∈ types, type.leaf.kind ∈ supportedKinds then
            some ⟨path, signature, parent⟩ else none)
      ∧ (memberEntry path parent (spelledWith types signature)).unsupported?
        = (firstUnsupported types).map fun type => ⟨.fieldType, path, type.leaf.kind⟩ := by
  unfold spelledWith
  simp only [← firstUnsupported_eq_none_iff]
  cases firstUnsupported types with
  | none => exact ⟨rfl, rfl⟩
  | some type => exact ⟨rfl, rfl⟩

theorem standsFor_field (typeName : String) (part : Field) :
    (part.entry typeName).StandsFor (.field typeName part) := by
  obtain ⟨hdeclared, hreported⟩ := memberEntry_spelledWith (memberPath typeName part.name)
    Declaration.noParent part.shape.spelling (part.arguments.map InputValue.type ++ [part.type])
  rw [← part.signature_eq] at hdeclared hreported
  exact ⟨hdeclared, hreported⟩

theorem standsFor_inputField (typeName : String) (value : InputValue) :
    (value.entry typeName).StandsFor (.inputField typeName value) := by
  obtain ⟨hdeclared, hreported⟩ := memberEntry_spelledWith (memberPath typeName value.name)
    (if value.type.shape.isNonNull then typeName else Declaration.noParent)
    value.type.shape.spelling [value.type]
  rw [← value.type.signature_eq_spelledWith, value.type.isNonNull_shape] at hdeclared hreported
  refine ⟨hdeclared.trans ?_, hreported⟩
  rw [← value.type.isNonNull_shape]
  rfl

theorem standsFor_possibleType (typeName : String) (part : PossibleType) :
    (part.entry typeName).StandsFor (.possibleType typeName part) := ⟨rfl, rfl⟩

theorem standsFor_enumValue (typeName value : String) :
    (enumValueEntry typeName value).StandsFor (.enumValue typeName value) := ⟨rfl, rfl⟩

/-- What stands for each part of a type stands for all of them, in order. -/
theorem standsFor_map {α : Type} {entry : α → Entry} {item : α → Item}
    (h : ∀ part, (entry part).StandsFor (item part)) (parts : List α) :
    List.Forall₂ Entry.StandsFor (parts.map entry) (parts.map item) := by
  rw [List.forall₂_map_left_iff, List.forall₂_map_right_iff]
  exact List.forall₂_same.mpr fun part _ => h part

/-- A type has one entry for each of its items, in order. -/
theorem TypeDefinition.entries_standFor_items (definition : TypeDefinition) :
    List.Forall₂ Entry.StandsFor definition.entries definition.items := by
  -- the type itself comes first in both lists, then its members kind by kind
  cases definition with
  | scalar name => exact .cons ⟨rfl, rfl⟩ .nil
  | object name interfaces fields =>
    exact .cons ⟨rfl, rfl⟩ (standsFor_map (standsFor_field name) fields)
  | interface name interfaces fields possibleTypes =>
    exact .cons ⟨rfl, rfl⟩ (List.rel_append (standsFor_map (standsFor_field name) fields)
      (standsFor_map (standsFor_possibleType name) possibleTypes))
  | union name possibleTypes =>
    exact .cons ⟨rfl, rfl⟩ (standsFor_map (standsFor_possibleType name) possibleTypes)
  | enum name values => exact .cons ⟨rfl, rfl⟩ (standsFor_map (standsFor_enumValue name) values)
  | inputObject name inputFields =>
    exact .cons ⟨rfl, rfl⟩ (standsFor_map (standsFor_inputField name) inputFields)
  | unrecognised name kind => exact .cons ⟨rfl, rfl⟩ .nil

theorem entries_standFor_itemsOf (definitions : List TypeDefinition) :
    List.Forall₂ Entry.StandsFor (definitions.flatMap TypeDefinition.entries)
      (itemsOf definitions) := by
  induction definitions with
  | nil => exact .nil
  | cons definition rest ih => exact List.rel_append definition.entries_standFor_items ih

/-! ## §3 Declared or reported -/

section Entries

variable {entries : List Entry} {items : List Item}

/-- An entry declares exactly when it reports nothing, so the item that it stands for does. -/
theorem Entry.StandsFor.once {entry : Entry} {item : Item} (h : entry.StandsFor item) :
    item.declaration?.isSome = true ↔ item.unsupported? = none := by
  rw [← h.declaration, ← h.unsupported]
  cases entry <;> simp [Entry.declaration?, Entry.unsupported?]

theorem once_of_standFor (h : List.Forall₂ Entry.StandsFor entries items) :
    ∀ item ∈ items, item.declaration?.isSome = true ↔ item.unsupported? = none := by
  induction h with
  | nil => exact List.forall_mem_nil _
  | cons hfirst _ ih => exact List.forall_mem_cons.mpr ⟨hfirst.once, ih⟩

/-- The entries that stand for items hold what the items are declared as, and what is reported about
them. -/
theorem ofEntries_of_standFor (h : List.Forall₂ Entry.StandsFor entries items) :
    Extraction.ofEntries entries
      = ⟨items.filterMap Item.declaration?, items.filterMap Item.unsupported?⟩ := by
  unfold Extraction.ofEntries
  induction h with
  | nil => rfl
  | cons hfirst _ ih =>
    obtain ⟨hdeclared, hreported⟩ := Extraction.mk.inj ih
    simp only [List.filterMap_cons, hfirst.declaration, hfirst.unsupported, hdeclared, hreported]

end Entries

theorem length_ofEntries (entries : List Entry) :
    (Extraction.ofEntries entries).declarations.length
      + (Extraction.ofEntries entries).unsupported.length = entries.length := by
  unfold Extraction.ofEntries
  induction entries with
  | nil => rfl
  | cons entry rest ih =>
    cases entry with
    | declared declaration =>
      simp only [List.filterMap_cons, Entry.declaration?, Entry.unsupported?, List.length_cons]
        at ih ⊢
      omega
    | skipped construct =>
      simp only [List.filterMap_cons, Entry.declaration?, Entry.unsupported?, List.length_cons]
        at ih ⊢
      omega

/-- The extraction accounts for the items: each is declared or reported, once and in order; and what
is reported about one item changes nothing before and behind it. -/
structure Extraction.AccountsFor (extraction : Extraction) (items : List Item) : Prop where
  declarations : extraction.declarations = items.filterMap Item.declaration?
  unsupported : extraction.unsupported = items.filterMap Item.unsupported?
  once : ∀ item ∈ items, item.declaration?.isSome = true ↔ item.unsupported? = none
  length : extraction.declarations.length + extraction.unsupported.length = items.length
  apart : ∀ first item rest construct, items = first ++ item :: rest →
    item.unsupported? = some construct →
      extraction.declarations
          = first.filterMap Item.declaration? ++ rest.filterMap Item.declaration?
        ∧ extraction.unsupported
          = first.filterMap Item.unsupported? ++ construct :: rest.filterMap Item.unsupported?

theorem accountsFor_of_standFor {entries : List Entry} {items : List Item}
    (h : List.Forall₂ Entry.StandsFor entries items) :
    (Extraction.ofEntries entries).AccountsFor items where
  declarations := by rw [ofEntries_of_standFor h]
  unsupported := by rw [ofEntries_of_standFor h]
  once := once_of_standFor h
  length := by rw [length_ofEntries, h.length_eq]
  apart := by
    rintro first item rest construct rfl hreported
    -- the item is reported, so it drops out of the declarations
    have hnone : item.declaration? = none := by
      have honce := once_of_standFor h item (List.mem_append_right _ List.mem_cons_self)
      rw [hreported] at honce
      simpa using honce
    rw [ofEntries_of_standFor h]
    simp only [List.filterMap_append, List.filterMap_cons, hnone, hreported, and_self]

/-- **An extraction accounts for every construct.** Whatever the definitions, every item of theirs
is either declared or reported, and both lists are in the order of the items. A type of an unknown
kind is reported under its kind; a field or input field is declared exactly if the kinds of all its
references are supported, and else reported under the kind of the first that is not. An item that
is reported changes nothing about what is declared and reported before and behind it. -/
theorem extract_accounts_for_items (definitions : List TypeDefinition) :
    (extract definitions).AccountsFor (itemsOf definitions) :=
  accountsFor_of_standFor (entries_standFor_itemsOf definitions)

/-- A field with two arguments at fault is reported under the kind of the left one, also when its
type is at fault as well. -/
example : Item.unsupported? (.field "Query" ⟨"search", .list (.named "INTERFACE" "Node"),
      [⟨"first", .named "SCALAR" "Int"⟩, ⟨"in", .nonNull (.named "DIRECTIVE" "d")⟩,
        ⟨"by", .named "INTERFACE" "Node"⟩]⟩)
    = some ⟨.fieldType, "Query.search", "DIRECTIVE"⟩ := by decide

end SchemaSemver
