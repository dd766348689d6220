/-
SchemaSemver.Proofs.Schema.Member — what a type offers, apart from how it is written down.

A definition has a heading and members. The extraction of supported definitions is the list of
their headings and members, written as declarations (`extract_of_supported`); and an extraction is
complete only then (`isComplete_extract_iff`).
-/
import SchemaSemver.Proofs.Schema.Signature

namespace SchemaSemver

/-! ## Members -/

/-- A member of a type as users of the type see it. -/
inductive Member where
  | field (name : String) (shape : FieldShape)
  | inputField (name : String) (type : Shape)
  | enumValue (name : String)
  | possibleType (type : PossibleType)
deriving DecidableEq, Repr

namespace Member

/-- The name under which the member is declared. -/
def name : Member → String
  | field name _ => name
  | inputField name _ => name
  | enumValue name => name
  | possibleType type => type.name

/-- The signature of the member's declaration. -/
def signature : Member → String
  | field _ shape => shape.spelling
  | inputField _ type => type.spelling
  | enumValue _ => "ENUM_VALUE"
  | possibleType type => "POSSIBLE_" ++ type.kind

/-- Does the member break users of a type that it is added to? Those who send a type are broken by
what they must send in addition, those who receive it by what they may receive in addition. -/
def isBreaking : Member → Bool
  | field _ _ => false
  | inputField _ type => type.isNonNull
  | enumValue _ => true
  | possibleType _ => true

/-- The declaration of a member of a type. -/
def declaration (typeName : String) (member : Member) : Declaration :=
  ⟨memberPath typeName member.name, member.signature,
    if member.isBreaking then typeName else Declaration.noParent⟩

end Member

/-- The names that a field is declared with: its own, then those of its arguments. -/
def Field.names (field : Field) : List String :=
  field.name :: field.arguments.map InputValue.name

namespace TypeDefinition

/-- The members of a type, in the order of their declarations. -/
def members : TypeDefinition → List Member
  | scalar _ => []
  | object _ _ fields => fields.map fun field => .field field.name field.shape
  | interface _ _ fields possibleTypes =>
    (fields.map fun field => .field field.name field.shape)
      ++ possibleTypes.map Member.possibleType
  | union _ possibleTypes => possibleTypes.map Member.possibleType
  | enum _ values => values.map Member.enumValue
  | inputObject _ inputFields =>
    inputFields.map fun field => .inputField field.name field.type.shape
  | unrecognised _ _ => []

/-- The possible types of an interface or union. -/
def possibleTypes : TypeDefinition → List PossibleType
  | interface _ _ _ possibleTypes => possibleTypes
  | union _ possibleTypes => possibleTypes
  | _ => []

/-- The references of all fields, arguments and input fields of a type. -/
def references : TypeDefinition → List TypeRef
  | object _ _ fields => fields.flatMap Field.references
  | interface _ _ fields _ => fields.flatMap Field.references
  | inputObject _ inputFields => inputFields.map InputValue.type
  | _ => []

/-- The names of a type, its interfaces, its members and their arguments. -/
def names : TypeDefinition → List String
  | scalar name => [name]
  | object name interfaces fields => name :: (interfaces ++ fields.flatMap Field.names)
  | interface name interfaces fields possibleTypes =>
    name :: (interfaces ++ fields.flatMap Field.names ++ possibleTypes.map PossibleType.name)
  | union name possibleTypes => name :: possibleTypes.map PossibleType.name
  | enum name values => name :: values
  | inputObject name inputFields => name :: inputFields.map InputValue.name
  | unrecognised name _ => [name]

/-- A field among the members of a type is one of its fields. -/
theorem field_of_mem_members {definition : TypeDefinition} {name : String} {shape : FieldShape}
    (h : Member.field name shape ∈ definition.members) :
    ∃ field : Field, field.shape = shape
      ∧ ∀ type ∈ field.references, type ∈ definition.references := by
  have hfields : ∀ fields : List Field,
      Member.field name shape ∈ fields.map (fun field => Member.field field.name field.shape) →
      ∃ field : Field, field.shape = shape
        ∧ ∀ type ∈ field.references, type ∈ fields.flatMap Field.references := by
    intro fields hmem
    obtain ⟨field, hfield, heq⟩ := List.mem_map.mp hmem
    exact ⟨field, (Member.field.inj heq).2,
      fun type ht => List.mem_flatMap.mpr ⟨field, hfield, ht⟩⟩
  cases definition with
  | object typeName interfaces fields => exact hfields fields h
  | interface typeName interfaces fields possibleTypes =>
    rcases List.mem_append.mp h with h | h
    · exact hfields fields h
    · obtain ⟨type, -, heq⟩ := List.mem_map.mp h
      cases heq
  | scalar typeName => cases h
  | unrecognised typeName kind => cases h
  | _ =>
    obtain ⟨part, -, heq⟩ := List.mem_map.mp h
    cases heq

/-- Every construct of the type has a declaration: the kind of the type is known, and the kinds of
all types that its references end in are supported. -/
structure IsSupported (definition : TypeDefinition) : Prop where
  recognised : definition.heading?.isSome = true
  kinds : ∀ type ∈ definition.references, type.leaf.kind ∈ supportedKinds

instance (definition : TypeDefinition) : Decidable definition.IsSupported :=
  decidable_of_iff (definition.heading?.isSome = true
      ∧ ∀ type ∈ definition.references, type.leaf.kind ∈ supportedKinds)
    ⟨fun h => ⟨h.1, h.2⟩, fun h => ⟨h.recognised, h.kinds⟩⟩

theorem IsSupported.exists_heading {definition : TypeDefinition} (h : definition.IsSupported) :
    ∃ heading, definition.heading? = some heading :=
  Option.isSome_iff_exists.mp h.recognised

/-- The declarations of a type: its heading, then its members. -/
def declarations (definition : TypeDefinition) : List Declaration :=
  match definition.heading? with
  | some heading =>
    ⟨definition.name, heading.signature, Declaration.noParent⟩
      :: definition.members.map (Member.declaration definition.name)
  | none => []

/-! ## Extraction -/

theorem entry_field {typeName : String} {field : Field}
    (h : ∀ type ∈ field.references, type.leaf.kind ∈ supportedKinds) :
    field.entry typeName
      = .declared (Member.declaration typeName (.field field.name field.shape)) := by
  rw [Field.entry, Field.signature_of_supported h]
  rfl

theorem entry_inputField {typeName : String} {value : InputValue}
    (h : value.type.leaf.kind ∈ supportedKinds) :
    value.entry typeName
      = .declared (Member.declaration typeName (.inputField value.name value.type.shape)) := by
  rw [InputValue.entry, TypeRef.signature_of_supported h]
  show Entry.declared ⟨_, _, if value.type.isNonNull then _ else _⟩ = _
  rw [← TypeRef.isNonNull_shape]
  rfl

theorem entries_fields {typeName : String} {fields : List Field}
    (h : ∀ type ∈ fields.flatMap Field.references, type.leaf.kind ∈ supportedKinds) :
    fields.map (Field.entry typeName)
      = (fields.map fun field => Member.field field.name field.shape).map
          fun member => .declared (member.declaration typeName) := by
  rw [List.map_map]
  refine List.map_congr_left fun field hfield => entry_field fun type htype => ?_
  exact h type (List.mem_flatMap.mpr ⟨field, hfield, htype⟩)

/-- A supported type has its heading and members as entries, and nothing is skipped. -/
theorem entries_of_supported {definition : TypeDefinition} (h : definition.IsSupported) :
    definition.entries = definition.declarations.map Entry.declared := by
  obtain ⟨hrecognised, hkinds⟩ := h
  cases definition with
  | scalar name => rfl
  | object name interfaces fields =>
    simp only [entries, declarations, heading?, members, TypeDefinition.name, List.map_cons,
      List.map_map, entries_fields hkinds]
    rfl
  | interface name interfaces fields possibleTypes =>
    simp only [entries, declarations, heading?, members, TypeDefinition.name, List.map_cons,
      List.map_append, List.map_map, entries_fields hkinds]
    rfl
  | union name possibleTypes =>
    simp only [entries, declarations, heading?, members, TypeDefinition.name, List.map_cons,
      List.map_map]
    rfl
  | enum name values =>
    simp only [entries, declarations, heading?, members, TypeDefinition.name, List.map_cons,
      List.map_map]
    rfl
  | inputObject name inputFields =>
    have hentries : inputFields.map (InputValue.entry name)
        = inputFields.map fun value => Entry.declared
            (Member.declaration name (.inputField value.name value.type.shape)) :=
      List.map_congr_left fun value hvalue =>
        entry_inputField (hkinds value.type (List.mem_map_of_mem hvalue))
    simp only [entries, declarations, heading?, members, TypeDefinition.name, List.map_cons,
      List.map_map, hentries]
    rfl
  | unrecognised name kind => cases hrecognised

end TypeDefinition

theorem filterMap_declared (declarations : List Declaration) :
    (declarations.map Entry.declared).filterMap Entry.declaration? = declarations
      ∧ (declarations.map Entry.declared).filterMap Entry.unsupported? = [] := by
  induction declarations with
  | nil => exact ⟨rfl, rfl⟩
  | cons declaration rest ih =>
    simp only [List.map_cons, List.filterMap_cons, Entry.declaration?, Entry.unsupported?]
    exact ⟨by rw [ih.1], ih.2⟩

/-- The extraction of supported definitions is complete, and it is the declarations of one
definition after the other. -/
theorem extract_of_supported {definitions : List TypeDefinition}
    (h : ∀ definition ∈ definitions, definition.IsSupported) :
    extract definitions = ⟨definitions.flatMap TypeDefinition.declarations, []⟩ := by
  have hentries : definitions.flatMap TypeDefinition.entries
      = (definitions.flatMap TypeDefinition.declarations).map Entry.declared := by
    rw [List.map_flatMap]
    exact List.flatMap_congr fun definition hd =>
      TypeDefinition.entries_of_supported (h definition hd)
  obtain ⟨hdeclared, hskipped⟩ :=
    filterMap_declared (definitions.flatMap TypeDefinition.declarations)
  rw [extract, Extraction.ofEntries, hentries, hdeclared, hskipped]

/-! ## Complete extractions -/

theorem TypeRef.supported_of_signature {type : TypeRef} {text : String}
    (h : type.signature = .ok text) : type.leaf.kind ∈ supportedKinds := by
  rw [TypeRef.signature_eq] at h
  split at h
  · assumption
  · cases h

/-- A member is declared only if it has a signature. -/
theorem signature_of_memberEntry {path parent : String} {result : Except UnsupportedKind String}
    (h : (memberEntry path parent result).unsupported? = none) : ∃ text, result = .ok text := by
  cases result with
  | ok text => exact ⟨text, rfl⟩
  | error fault => cases h

theorem supported_of_fieldEntries {typeName : String} {fields : List Field}
    (h : ∀ entry ∈ fields.map (Field.entry typeName), entry.unsupported? = none) :
    ∀ type ∈ fields.flatMap Field.references, type.leaf.kind ∈ supportedKinds := by
  intro type htype
  obtain ⟨field, hfield, hmem⟩ := List.mem_flatMap.mp htype
  obtain ⟨text, htext⟩ :=
    signature_of_memberEntry (h (field.entry typeName) (List.mem_map_of_mem hfield))
  exact Field.supported_of_signature htext type hmem

theorem TypeDefinition.isSupported_of_entries {definition : TypeDefinition}
    (h : ∀ entry ∈ definition.entries, entry.unsupported? = none) : definition.IsSupported := by
  cases definition with
  | object name interfaces fields =>
    exact ⟨rfl, supported_of_fieldEntries fun entry he => h entry (List.mem_cons_of_mem _ he)⟩
  | interface name interfaces fields possibleTypes =>
    exact ⟨rfl, supported_of_fieldEntries fun entry he =>
      h entry (List.mem_cons_of_mem _ (List.mem_append_left _ he))⟩
  | inputObject name inputFields =>
    refine ⟨rfl, fun type htype => ?_⟩
    obtain ⟨value, hvalue, rfl⟩ := List.mem_map.mp htype
    obtain ⟨text, htext⟩ := signature_of_memberEntry
      (h (value.entry name) (List.mem_cons_of_mem _ (List.mem_map_of_mem hvalue)))
    exact TypeRef.supported_of_signature htext
  | unrecognised name kind => cases h _ List.mem_cons_self
  | _ => exact ⟨rfl, fun type htype => by cases htype⟩

/-- An extraction is complete exactly when every definition is supported. -/
theorem isComplete_extract_iff (definitions : List TypeDefinition) :
    (extract definitions).isComplete = true
      ↔ ∀ definition ∈ definitions, definition.IsSupported := by
  constructor
  · intro h definition hd
    have hskipped := List.filterMap_eq_nil_iff.mp (List.isEmpty_iff.mp h)
    refine TypeDefinition.isSupported_of_entries fun entry he => ?_
    exact hskipped entry (List.mem_flatMap.mpr ⟨definition, hd, he⟩)
  · intro h
    rw [extract_of_supported h]
    rfl

end SchemaSemver
