/-
SchemaSemver.Proofs.Schema.Identity — declarations read back.

A comparison sees a declaration by its path and signature alone. For well-formed definitions the
two give back what was declared:

  * `declares_heading_iff`: a path without a dot stands for a type, the signature for its heading;
  * `declares_member_iff`: a path `Type.member` comes from a type of that name;
  * `eq_or_hides_of_alike`: two members of types with the same heading that agree in name and
    signature are the same member, with one exception. A field without arguments of the bare type
    `POSSIBLE_OBJECT` is declared like a possible type of the field's name.

`declares_admitted_iff` puts the last two together for a type of known heading.
-/
import Mathlib.Data.List.Nodup
import SchemaSemver.Proofs.Schema.Member
import SchemaSemver.Proofs.Schema.Ownership

namespace SchemaSemver

/-! ## Well-formed definitions -/

/-- What holds of the definitions of every valid schema: names are GraphQL names, types have
different names, and possible types are objects. -/
structure WellFormed (definitions : List TypeDefinition) : Prop where
  names : ∀ definition ∈ definitions, ∀ name ∈ definition.names, isName name = true
  leaves : ∀ definition ∈ definitions, ∀ type ∈ definition.references,
    isName type.leaf.name = true
  unique : (definitions.map TypeDefinition.name).Nodup
  objects : ∀ definition ∈ definitions, ∀ type ∈ definition.possibleTypes, type.kind = "OBJECT"

instance (definitions : List TypeDefinition) : Decidable (WellFormed definitions) :=
  decidable_of_iff
    ((∀ definition ∈ definitions, ∀ name ∈ definition.names, isName name = true)
      ∧ (∀ definition ∈ definitions, ∀ type ∈ definition.references,
        isName type.leaf.name = true)
      ∧ (definitions.map TypeDefinition.name).Nodup
      ∧ ∀ definition ∈ definitions, ∀ type ∈ definition.possibleTypes, type.kind = "OBJECT")
    ⟨fun h => ⟨h.1, h.2.1, h.2.2.1, h.2.2.2⟩,
      fun h => ⟨h.names, h.leaves, h.unique, h.objects⟩⟩

theorem TypeDefinition.name_mem_names (definition : TypeDefinition) :
    definition.name ∈ definition.names := by
  cases definition <;> exact List.mem_cons_self

theorem TypeDefinition.interfaces_mem_names {definition : TypeDefinition} {heading : Heading}
    (h : definition.heading? = some heading) {name : String} (hn : name ∈ heading.interfaces) :
    name ∈ definition.names := by
  cases definition with
  | object typeName interfaces fields =>
    cases h
    exact List.mem_cons_of_mem _ (List.mem_append_left _ hn)
  | interface typeName interfaces fields possibleTypes =>
    cases h
    exact List.mem_cons_of_mem _ (List.mem_append_left _ (List.mem_append_left _ hn))
  | _ => cases h; try cases hn

theorem TypeDefinition.name_mem_names_of_member {definition : TypeDefinition} {member : Member}
    (h : member ∈ definition.members) : member.name ∈ definition.names := by
  have hfields {fields : List Field} {member : Member}
      (h : member ∈ fields.map fun field => .field field.name field.shape) :
      member.name ∈ fields.flatMap Field.names := by
    obtain ⟨field, hfield, rfl⟩ := List.mem_map.mp h
    exact List.mem_flatMap.mpr ⟨field, hfield, List.mem_cons_self⟩
  cases definition with
  | scalar => cases h
  | unrecognised => cases h
  | object =>
    have hname := hfields h
    simp [names, hname]
  | interface =>
    rcases List.mem_append.mp h with h | h
    · have hname := hfields h
      simp [names, hname]
    · obtain ⟨type, htype, rfl⟩ := List.mem_map.mp h
      have hname := List.mem_map_of_mem (f := PossibleType.name) htype
      simp [names, Member.name, hname]
  | union =>
    obtain ⟨type, htype, rfl⟩ := List.mem_map.mp h
    have hname := List.mem_map_of_mem (f := PossibleType.name) htype
    simp [names, Member.name, hname]
  | enum =>
    obtain ⟨value, hvalue, rfl⟩ := List.mem_map.mp h
    simp [names, Member.name, hvalue]
  | inputObject =>
    obtain ⟨value, hvalue, rfl⟩ := List.mem_map.mp h
    have hname := List.mem_map_of_mem (f := InputValue.name) hvalue
    simp [names, Member.name, hname]

namespace WellFormed

variable {definitions : List TypeDefinition} {definition : TypeDefinition}

theorem isName_name (hw : WellFormed definitions) (hd : definition ∈ definitions) :
    isName definition.name = true :=
  hw.names definition hd definition.name definition.name_mem_names

theorem dot_not_mem (hw : WellFormed definitions) (hd : definition ∈ definitions) :
    '.' ∉ definition.name.toList :=
  dot_not_mem_of_isName (hw.isName_name hd)

theorem isName_interfaces (hw : WellFormed definitions) (hd : definition ∈ definitions)
    {heading : Heading} (h : definition.heading? = some heading) :
    ∀ name ∈ heading.interfaces, isName name = true :=
  fun name hn => hw.names definition hd name (TypeDefinition.interfaces_mem_names h hn)

/-- A name belongs to one definition. -/
theorem eq_of_name_eq (hw : WellFormed definitions) {a b : TypeDefinition}
    (ha : a ∈ definitions) (hb : b ∈ definitions) (h : a.name = b.name) : a = b :=
  List.inj_on_of_nodup_map hw.unique ha hb h

end WellFormed

/-! ## Declared identities -/

/-- Does the extraction hold a declaration with this path and signature? -/
def Declares (definitions : List TypeDefinition) (identity : String × String) : Prop :=
  ∃ declaration ∈ (extract definitions).declarations, declaration.identity = identity

theorem TypeDefinition.mem_declarations_iff {definition : TypeDefinition}
    {declaration : Declaration} (h : definition.IsSupported) :
    declaration ∈ definition.declarations
      ↔ (∃ heading, definition.heading? = some heading
          ∧ declaration = heading.declaration definition.name)
        ∨ ∃ member ∈ definition.members, declaration = member.declaration definition.name := by
  obtain ⟨heading, hheading⟩ := h.exists_heading
  simp only [declarations, hheading, List.mem_cons, List.mem_map, Option.some.injEq,
    exists_eq_left', Heading.declaration]
  constructor
  · rintro (h | ⟨member, hm, rfl⟩)
    · exact Or.inl h
    · exact Or.inr ⟨member, hm, rfl⟩
  · rintro (h | ⟨member, hm, rfl⟩)
    · exact Or.inl h
    · exact Or.inr ⟨member, hm, rfl⟩

section Reading

variable {definitions : List TypeDefinition}

theorem mem_extract_iff (hs : ∀ definition ∈ definitions, definition.IsSupported)
    {declaration : Declaration} :
    declaration ∈ (extract definitions).declarations
      ↔ ∃ definition ∈ definitions, declaration ∈ definition.declarations := by
  rw [extract_of_supported hs]
  exact List.mem_flatMap

/-- A path without a dot is the path of a type. -/
theorem heading_of_path {declaration : Declaration}
    (hd : declaration ∈ (extract definitions).declarations)
    (hpath : '.' ∉ declaration.path.toList) :
    ∃ definition ∈ definitions, ∃ heading, definition.heading? = some heading
      ∧ declaration = heading.declaration definition.name := by
  obtain ⟨definition, hmem, hdeclared⟩ := exists_declared_of_mem_extract hd
  exact ⟨definition, hmem, TypeDefinition.heading_of_mem_declared hdeclared hpath⟩

theorem mem_extract_of_heading {definition : TypeDefinition} (hd : definition ∈ definitions)
    {heading : Heading} (h : definition.heading? = some heading) :
    heading.declaration definition.name ∈ (extract definitions).declarations := by
  rw [extract_eq_declared]
  exact List.mem_flatMap.mpr ⟨definition, hd, TypeDefinition.heading_mem_declared h⟩

theorem mem_extract_of_member (hs : ∀ definition ∈ definitions, definition.IsSupported)
    {definition : TypeDefinition} (hd : definition ∈ definitions) {member : Member}
    (h : member ∈ definition.members) :
    member.declaration definition.name ∈ (extract definitions).declarations := by
  refine (mem_extract_iff hs).mpr ⟨definition, hd, ?_⟩
  exact (TypeDefinition.mem_declarations_iff (hs definition hd)).mpr (Or.inr ⟨member, h, rfl⟩)

theorem declares_of_heading {definition : TypeDefinition} (hd : definition ∈ definitions)
    {heading : Heading} (h : definition.heading? = some heading) :
    Declares definitions (definition.name, heading.signature) :=
  ⟨_, mem_extract_of_heading hd h, rfl⟩

theorem declares_of_member (hs : ∀ definition ∈ definitions, definition.IsSupported)
    {definition : TypeDefinition} (hd : definition ∈ definitions) {member : Member}
    (h : member ∈ definition.members) :
    Declares definitions (member.declaration definition.name).identity :=
  ⟨_, mem_extract_of_member hs hd h, rfl⟩

/-- The declaration of a type itself stands for its name and heading. -/
theorem declares_heading_iff (hw : WellFormed definitions) {name : String}
    (hname : '.' ∉ name.toList) {heading : Heading}
    (hi : ∀ interface ∈ heading.interfaces, isName interface = true) :
    Declares definitions (name, heading.signature)
      ↔ ∃ definition ∈ definitions, definition.name = name
        ∧ definition.heading? = some heading := by
  constructor
  · rintro ⟨declaration, hd, hidentity⟩
    obtain ⟨hpath, hsignature⟩ := Prod.mk.inj hidentity
    obtain ⟨definition, hmem, other, hother, rfl⟩ := heading_of_path hd (hpath ▸ hname)
    refine ⟨definition, hmem, hpath, ?_⟩
    rw [hother, Heading.signature_injective (hw.isName_interfaces hmem hother) hi hsignature]
  · rintro ⟨definition, hmem, rfl, h⟩
    exact declares_of_heading hmem h

/-- The declaration of a member stands for a member of the type that its path begins with. -/
theorem declares_member_iff (hw : WellFormed definitions)
    (hs : ∀ definition ∈ definitions, definition.IsSupported) {typeName : String}
    (hname : '.' ∉ typeName.toList) (member : Member) :
    Declares definitions (member.declaration typeName).identity
      ↔ ∃ definition ∈ definitions, definition.name = typeName
        ∧ ∃ other ∈ definition.members, other.name = member.name
          ∧ other.signature = member.signature := by
  constructor
  · rintro ⟨declaration, hd, hidentity⟩
    obtain ⟨hpath, hsignature⟩ := Prod.mk.inj hidentity
    obtain ⟨definition, hmem, hdecl⟩ := (mem_extract_iff hs).mp hd
    rcases (TypeDefinition.mem_declarations_iff (hs definition hmem)).mp hdecl with h | h
    · obtain ⟨heading, -, rfl⟩ := h
      exact absurd hpath (ne_memberPath (hw.dot_not_mem hmem) typeName member.name)
    · obtain ⟨other, hother, rfl⟩ := h
      obtain ⟨ht, hm⟩ := (memberPath_inj (hw.dot_not_mem hmem) hname).mp hpath
      exact ⟨definition, hmem, ht, other, hother, hm, hsignature⟩
  · rintro ⟨definition, hmem, rfl, other, hother, hn, hsignature⟩
    obtain ⟨declaration, hd, hidentity⟩ := declares_of_member hs hmem hother
    refine ⟨declaration, hd, hidentity.trans ?_⟩
    show (memberPath definition.name other.name, other.signature)
      = (memberPath definition.name member.name, member.signature)
    rw [hn, hsignature]

end Reading

/-! ## Members told apart -/

/-- Can a type with the heading have the member? -/
def Heading.Admits : Heading → Member → Prop
  | object _, .field _ _ => True
  | interface _, .field _ _ => True
  | interface _, .possibleType _ => True
  | union, .possibleType _ => True
  | enum, .enumValue _ => True
  | inputObject, .inputField _ _ => True
  | _, _ => False

theorem TypeDefinition.admits_of_mem {definition : TypeDefinition} {heading : Heading}
    (h : definition.heading? = some heading) {member : Member}
    (hm : member ∈ definition.members) : heading.Admits member := by
  cases definition with
  | scalar name => cases hm
  | unrecognised name kind => cases hm
  | interface name interfaces fields possibleTypes =>
    cases h
    rcases List.mem_append.mp hm with hm | hm
    · obtain ⟨field, -, rfl⟩ := List.mem_map.mp hm
      trivial
    · obtain ⟨type, -, rfl⟩ := List.mem_map.mp hm
      trivial
  | _ =>
    cases h
    obtain ⟨part, -, rfl⟩ := List.mem_map.mp hm
    trivial

namespace Member

/-- What holds of the members of well-formed definitions. -/
def IsWellFormed : Member → Prop
  | field _ shape => shape.IsNamed
  | inputField _ type => isName type.leafName = true
  | enumValue _ => True
  | possibleType type => type.kind = "OBJECT"

/-- The shape of a field without arguments of the bare type `POSSIBLE_OBJECT`. -/
def markShape : FieldShape := ⟨[], .named "POSSIBLE_OBJECT"⟩

/-- The field and the possible type share one name and one signature. -/
def Hides (shown hidden : Member) : Prop :=
  ∃ name, shown = field name markShape ∧ hidden = possibleType ⟨"OBJECT", name⟩

/-- A hidden possible type is declared like the field that hides it. -/
theorem Hides.alike {m n : Member} (h : m.Hides n) :
    m.name = n.name ∧ m.signature = n.signature := by
  obtain ⟨name, rfl, rfl⟩ := h
  exact ⟨rfl, rfl⟩

/-- Only one shape of a field is spelled like a possible type. -/
theorem eq_markShape {shape : FieldShape} (h : shape.IsNamed)
    (hs : shape.spelling = "POSSIBLE_OBJECT") : shape = markShape := by
  have hmark : markShape.IsNamed := ⟨List.forall_mem_nil _, by decide⟩
  refine FieldShape.spelling_injective h hmark ?_
  rw [hs]
  rfl

/-- A field that is declared like a possible type hides it. -/
theorem hides_of_alike {name : String} {shape : FieldShape} {type : PossibleType}
    (hf : (field name shape).IsWellFormed) (ht : (possibleType type).IsWellFormed)
    (hn : (field name shape).name = (possibleType type).name)
    (hs : (field name shape).signature = (possibleType type).signature) :
    (field name shape).Hides (possibleType type) := by
  obtain ⟨kind, typeName⟩ := type
  cases ht
  cases hn
  exact ⟨name, congrArg (field name) (eq_markShape hf hs), rfl⟩

/-- Members of types with the same heading that are declared alike are equal, unless one is a
field that hides the other. -/
theorem eq_or_hides_of_alike {heading : Heading} {m n : Member} (hm : heading.Admits m)
    (hn : heading.Admits n) (wm : m.IsWellFormed) (wn : n.IsWellFormed) (hname : m.name = n.name)
    (hs : m.signature = n.signature) : m = n ∨ m.Hides n ∨ n.Hides m := by
  cases m with
  | field name shape =>
    cases n with
    | field other shape' =>
      cases hname
      exact Or.inl (congrArg (field name) (FieldShape.spelling_injective wm wn hs))
    | possibleType type => exact Or.inr (Or.inl (hides_of_alike wm wn hname hs))
    | _ => cases heading <;> simp [Heading.Admits] at hm hn
  | inputField name type =>
    cases n with
    | inputField other type' =>
      cases hname
      exact Or.inl (congrArg (inputField name) (Shape.spelling_injective wm wn hs))
    | _ => cases heading <;> simp [Heading.Admits] at hm hn
  | enumValue name =>
    cases n with
    | enumValue other =>
      cases hname
      exact Or.inl rfl
    | _ => cases heading <;> simp [Heading.Admits] at hm hn
  | possibleType type =>
    cases n with
    | possibleType type' =>
      obtain ⟨kind, name⟩ := type
      obtain ⟨kind', name'⟩ := type'
      cases wm
      cases wn
      cases hname
      exact Or.inl rfl
    | field name shape => exact Or.inr (Or.inr (hides_of_alike wn wm hname.symm hs.symm))
    | _ => cases heading <;> simp [Heading.Admits] at hm hn

end Member

theorem isNamed_of_fields {fields : List Field}
    (hnames : ∀ name ∈ fields.flatMap Field.names, isName name = true)
    (hleaves : ∀ type ∈ fields.flatMap Field.references, isName type.leaf.name = true)
    {field : Field} (h : field ∈ fields) : field.shape.IsNamed := by
  refine Field.isNamed_shape (fun value hv => ?_) fun type ht => ?_
  · exact hnames value.name (List.mem_flatMap.mpr
      ⟨field, h, List.mem_cons_of_mem _ (List.mem_map_of_mem hv)⟩)
  · exact hleaves type (List.mem_flatMap.mpr ⟨field, h, ht⟩)

/-- The members of well-formed definitions are well-formed. -/
theorem WellFormed.member {definitions : List TypeDefinition} (hw : WellFormed definitions)
    {definition : TypeDefinition} (hd : definition ∈ definitions) {member : Member}
    (hm : member ∈ definition.members) : member.IsWellFormed := by
  have hnames := hw.names definition hd
  have hleaves := hw.leaves definition hd
  have hobjects := hw.objects definition hd
  cases definition with
  | scalar name => cases hm
  | unrecognised name kind => cases hm
  | object name interfaces fields =>
    obtain ⟨field, hfield, rfl⟩ := List.mem_map.mp hm
    exact isNamed_of_fields
      (fun n hn => hnames n (List.mem_cons_of_mem _ (List.mem_append_right _ hn))) hleaves hfield
  | interface name interfaces fields possibleTypes =>
    rcases List.mem_append.mp hm with hm | hm
    · obtain ⟨field, hfield, rfl⟩ := List.mem_map.mp hm
      refine isNamed_of_fields (fun n hn => hnames n (List.mem_cons_of_mem _ ?_)) hleaves hfield
      exact List.mem_append_left _ (List.mem_append_right _ hn)
    · obtain ⟨type, htype, rfl⟩ := List.mem_map.mp hm
      exact hobjects type htype
  | union name possibleTypes =>
    obtain ⟨type, htype, rfl⟩ := List.mem_map.mp hm
    exact hobjects type htype
  | enum name values =>
    obtain ⟨value, -, rfl⟩ := List.mem_map.mp hm
    trivial
  | inputObject name inputFields =>
    obtain ⟨value, hvalue, rfl⟩ := List.mem_map.mp hm
    show isName value.type.shape.leafName = true
    rw [TypeRef.leafName_shape]
    exact hleaves value.type (List.mem_map_of_mem hvalue)

/-- A member that a type with this heading can have is declared exactly when the type has it, or
has a member that hides it or that it hides. -/
theorem declares_admitted_iff {definitions : List TypeDefinition} (hw : WellFormed definitions)
    (hs : ∀ definition ∈ definitions, definition.IsSupported) {definition : TypeDefinition}
    (hd : definition ∈ definitions) {heading : Heading}
    (hh : definition.heading? = some heading) {member : Member} (ha : heading.Admits member)
    (wm : member.IsWellFormed) :
    Declares definitions (member.declaration definition.name).identity
      ↔ member ∈ definition.members
        ∨ ∃ other ∈ definition.members, other.Hides member ∨ member.Hides other := by
  rw [declares_member_iff hw hs (hw.dot_not_mem hd)]
  constructor
  · rintro ⟨found, hfound, hname, other, hother, hn, hsignature⟩
    obtain rfl : found = definition := hw.eq_of_name_eq hfound hd hname
    have hadmits := TypeDefinition.admits_of_mem hh hother
    rcases Member.eq_or_hides_of_alike hadmits ha (hw.member hd hother) wm hn hsignature with
      rfl | h
    · exact Or.inl hother
    · exact Or.inr ⟨other, hother, h⟩
  · rintro (h | ⟨other, hother, h | h⟩)
    · exact ⟨definition, hd, rfl, member, h, rfl, rfl⟩
    · exact ⟨definition, hd, rfl, other, hother, h.alike.1, h.alike.2⟩
    · exact ⟨definition, hd, rfl, other, hother, h.alike.1.symm, h.alike.2.symm⟩

end SchemaSemver
