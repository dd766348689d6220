/-
SchemaSemver.Proofs.Change.PossibleTypes — when a new possible type is a major change.

A new possible type of an interface or union that was there breaks its users. The comparison finds
it, whatever else changes, with one exception: an interface may have had a field, of the name of
the new possible type, without arguments and of the bare type `POSSIBLE_OBJECT`. The field and the
possible type share path and signature, so the possible type counts as one that was there already.

`new_possible_type_major_iff` says that this is the only exception, and that the comparison then
answers as if the type had been a possible type before. `new_possible_type_not_always_major` is a
schema where this happens.
-/
import SchemaSemver.Proofs.Change.Reference

namespace SchemaSemver

/-! ## Definitions with one more possible type -/

namespace TypeDefinition

/-- The type has a field that is declared like the possible type. -/
def Conceals (definition : TypeDefinition) (type : PossibleType) : Prop :=
  .field type.name Member.markShape ∈ definition.members

instance (definition : TypeDefinition) (type : PossibleType) :
    Decidable (definition.Conceals type) :=
  inferInstanceAs (Decidable (_ ∈ definition.members))

/-- The definition with one more possible type, if it is of a kind that has possible types. -/
def granting (type : PossibleType) : TypeDefinition → TypeDefinition
  | interface name interfaces fields possibleTypes =>
    interface name interfaces fields (possibleTypes ++ [type])
  | union name possibleTypes => union name (possibleTypes ++ [type])
  | definition => definition

theorem isSupported_granting {definition : TypeDefinition} (h : definition.IsSupported)
    (type : PossibleType) : (definition.granting type).IsSupported := by
  cases definition <;> exact ⟨h.recognised, h.kinds⟩

/-- One more possible type is at most one more declaration, and it comes last. -/
theorem declarations_granting (definition : TypeDefinition) (type : PossibleType) :
    ∃ extra, (definition.granting type).declarations = definition.declarations ++ extra
      ∧ ∀ declaration ∈ extra,
        declaration = (Member.possibleType type).declaration definition.name := by
  cases definition with
  | interface name interfaces fields possibleTypes =>
    refine ⟨[(Member.possibleType type).declaration name], ?_, fun _ => List.mem_singleton.mp⟩
    simp only [granting, declarations, heading?, members, TypeDefinition.name, List.map_append,
      List.map_cons, List.map_nil, List.cons_append, List.append_assoc]
  | union name possibleTypes =>
    refine ⟨[(Member.possibleType type).declaration name], ?_, fun _ => List.mem_singleton.mp⟩
    simp only [granting, declarations, heading?, members, TypeDefinition.name, List.map_append,
      List.map_cons, List.map_nil, List.cons_append]
  | _ => exact ⟨[], (List.append_nil _).symm, List.forall_mem_nil _⟩

theorem mem_members_of_possibleType {definition : TypeDefinition} {type : PossibleType} :
    .possibleType type ∈ definition.members ↔ type ∈ definition.possibleTypes := by
  cases definition <;> simp [members, possibleTypes]

end TypeDefinition

/-- The definitions, had the named type had the possible type all along. -/
def granting (typeName : String) (type : PossibleType) (definitions : List TypeDefinition) :
    List TypeDefinition :=
  definitions.map fun definition =>
    if definition.name = typeName then definition.granting type else definition

section Granting

variable {definitions : List TypeDefinition} {typeName : String} {type : PossibleType}

theorem isSupported_of_mem_granting (h : ∀ definition ∈ definitions, definition.IsSupported) :
    ∀ definition ∈ granting typeName type definitions, definition.IsSupported := by
  intro definition hd
  obtain ⟨original, ho, rfl⟩ := List.mem_map.mp hd
  split
  · exact TypeDefinition.isSupported_granting (h original ho) type
  · exact h original ho

/-- The extraction has only declarations of the possible type in addition, in between the
others. -/
theorem extract_granting (typeName : String) (type : PossibleType)
    (h : ∀ definition ∈ definitions, definition.IsSupported) :
    ∃ extra : TypeDefinition → List Declaration,
      (extract definitions).declarations = definitions.flatMap TypeDefinition.declarations
      ∧ (extract (granting typeName type definitions)).declarations
        = definitions.flatMap (fun definition => definition.declarations ++ extra definition)
      ∧ ∀ definition, ∀ declaration ∈ extra definition,
        declaration = (Member.possibleType type).declaration typeName := by
  have hpart : ∀ definition : TypeDefinition, ∃ extra,
      (if definition.name = typeName then definition.granting type else definition).declarations
        = definition.declarations ++ extra
      ∧ ∀ declaration ∈ extra,
        declaration = (Member.possibleType type).declaration typeName := by
    intro definition
    split
    · rename_i hname
      exact hname ▸ definition.declarations_granting type
    · exact ⟨[], (List.append_nil _).symm, List.forall_mem_nil _⟩
  choose extra hextra hmem using hpart
  refine ⟨extra, by rw [extract_of_supported h], ?_, hmem⟩
  rw [extract_of_supported (isSupported_of_mem_granting h), granting, List.flatMap_map]
  exact List.flatMap_congr fun definition _ => hextra definition

/-- A possible type that is declared on the other side anyway adds nothing that is unmatched. -/
theorem unmatched_granting (h : ∀ definition ∈ definitions, definition.IsSupported)
    {counterpart : List Declaration}
    (hmatched : ∃ other ∈ counterpart,
      other.identity = ((Member.possibleType type).declaration typeName).identity) :
    unmatched (extract (granting typeName type definitions)).declarations counterpart
      = unmatched (extract definitions).declarations counterpart := by
  obtain ⟨extra, hplain, hgranting, hextra⟩ := extract_granting typeName type h
  rw [hplain, hgranting, unmatched, unmatched, List.filter_flatMap, List.filter_flatMap]
  refine List.flatMap_congr fun definition _ => ?_
  have hnil : unmatched (extra definition) counterpart = [] :=
    unmatched_eq_nil_iff.mpr fun declaration hd => hextra definition declaration hd ▸ hmatched
  rw [List.filter_append]
  exact (congrArg _ hnil).trans (List.append_nil _)

/-- A possible type that is declared like something else adds nothing to match with. -/
theorem unmatched_granting_counterpart
    (h : ∀ definition ∈ definitions, definition.IsSupported)
    (hdeclared : Declares definitions
      ((Member.possibleType type).declaration typeName).identity)
    (declarations : List Declaration) :
    unmatched declarations (extract (granting typeName type definitions)).declarations
      = unmatched declarations (extract definitions).declarations := by
  refine unmatched_congr fun identity => ?_
  obtain ⟨extra, hplain, hgranting, hextra⟩ := extract_granting typeName type h
  constructor
  · rintro ⟨other, hother, rfl⟩
    rw [hgranting] at hother
    obtain ⟨definition, hd, hmem⟩ := List.mem_flatMap.mp hother
    rcases List.mem_append.mp hmem with hmem | hmem
    · exact ⟨other, hplain ▸ List.mem_flatMap.mpr ⟨definition, hd, hmem⟩, rfl⟩
    · exact hextra definition other hmem ▸ hdeclared
  · rintro ⟨other, hother, rfl⟩
    rw [hplain] at hother
    obtain ⟨definition, hd, hmem⟩ := List.mem_flatMap.mp hother
    refine ⟨other, ?_, rfl⟩
    rw [hgranting]
    exact List.mem_flatMap.mpr ⟨definition, hd, List.mem_append_left _ hmem⟩

end Granting

/-! ## New possible types -/

section NewPossibleType

variable {before after : List TypeDefinition} {old new : TypeDefinition} {type : PossibleType}

/-- A type that conceals the possible type declares it. -/
theorem TypeDefinition.Conceals.declares (hb : Readable before) (ho : old ∈ before)
    (hkind : type.kind = "OBJECT") (h : old.Conceals type) :
    Declares before ((Member.possibleType type).declaration old.name).identity := by
  obtain ⟨kind, name⟩ := type
  cases hkind
  have hdeclared := declares_of_member hb.supported ho
    (show Member.field name Member.markShape ∈ old.members from h)
  exact hdeclared

/-- A new possible type that nothing conceals is a major change. -/
theorem major_of_not_conceals (hb : Readable before) (ha : Readable after) (ho : old ∈ before)
    (hn : new ∈ after) (hname : new.name = old.name) (hnew : type ∈ new.possibleTypes)
    (hold : type ∉ old.possibleTypes) (h : ¬ old.Conceals type) :
    (compareDeclarations (extract before).declarations (extract after).declarations).bump
      = .major := by
  rw [compareDeclarations_major_iff]
  by_cases hheading : new.heading? = old.heading?
  · have hm := TypeDefinition.mem_members_of_possibleType.mpr hnew
    obtain ⟨heading, hh⟩ := (ha.supported new hn).exists_heading
    have hnone : ¬ Declares before
        ((Member.possibleType type).declaration new.name).identity := by
      rw [hname, declares_admitted_iff hb.wellFormed hb.supported ho (hheading ▸ hh)
        (TypeDefinition.admits_of_mem hh hm) (ha.wellFormed.member hn hm)]
      rintro (hmem | ⟨other, hother, hides | hides⟩)
      · exact hold (TypeDefinition.mem_members_of_possibleType.mp hmem)
      · obtain ⟨name, rfl, heq⟩ := hides
        cases heq
        exact h hother
      · -- a possible type is no field, so it hides nothing
        obtain ⟨name, heq, -⟩ := hides
        cases heq
    exact Or.inr (List.ne_nil_of_mem
      (mem_breakingAmong_of_member ha ho hn hname hheading hm rfl hnone))
  · exact Or.inl (removed_of_heading_ne hb ha ho hn hname hheading)

/-- A new possible type that was concealed is compared as if it had been there before. -/
theorem compare_of_conceals (hb : Readable before) (ha : Readable after) (ho : old ∈ before)
    (hn : new ∈ after) (hname : new.name = old.name) (hnew : type ∈ new.possibleTypes)
    (h : old.Conceals type) :
    compareDeclarations (extract before).declarations (extract after).declarations
      = compareDeclarations (extract (granting old.name type before)).declarations
        (extract after).declarations := by
  have hmatched := declares_of_member ha.supported hn
    (TypeDefinition.mem_members_of_possibleType.mpr hnew)
  rw [hname] at hmatched
  have hdeclared := h.declares hb ho (ha.wellFormed.objects new hn type hnew)
  rw [compareDeclarations, compareDeclarations, unmatched_granting hb.supported hmatched,
    unmatched_granting_counterpart hb.supported hdeclared]

end NewPossibleType

/-- **When a new possible type is major.** A type that was there gains a possible type. The change
is major exactly when nothing concealed the possible type before, or the change would be major even
if the type had been a possible type before. When something did conceal it, the comparison answers
in every respect as if it had been one. -/
theorem new_possible_type_major_iff (before after : List TypeDefinition) (hb : Readable before)
    (ha : Readable after) (old new : TypeDefinition) (ho : old ∈ before) (hn : new ∈ after)
    (hname : new.name = old.name) (type : PossibleType) (hnew : type ∈ new.possibleTypes)
    (hold : type ∉ old.possibleTypes) :
    ((compareDeclarations (extract before).declarations (extract after).declarations).bump = .major
      ↔ ¬ old.Conceals type
        ∨ (compareDeclarations (extract (granting old.name type before)).declarations
            (extract after).declarations).bump = .major)
    ∧ (old.Conceals type →
      compareDeclarations (extract before).declarations (extract after).declarations
        = compareDeclarations (extract (granting old.name type before)).declarations
          (extract after).declarations) := by
  have hequal := compare_of_conceals hb ha ho hn hname hnew
  refine ⟨⟨fun hmajor => ?_, ?_⟩, hequal⟩
  · by_cases h : old.Conceals type
    · exact Or.inr (hequal h ▸ hmajor)
    · exact Or.inl h
  · rintro (h | hmajor)
    · exact major_of_not_conceals hb ha ho hn hname hnew hold h
    · by_cases h : old.Conceals type
      · exact hequal h ▸ hmajor
      · exact major_of_not_conceals hb ha ho hn hname hnew hold h

/-- A new member of a union is major, and a new type beside it changes nothing about that. -/
theorem new_union_member_is_major :
    (compareDeclarations (extract [.union "Result" [⟨"OBJECT", "User"⟩]]).declarations
      (extract [.union "Result" [⟨"OBJECT", "User"⟩, ⟨"OBJECT", "Post"⟩],
        .object "Post" [] []]).declarations).bump = .major :=
  (new_possible_type_major_iff [.union "Result" [⟨"OBJECT", "User"⟩]]
    [.union "Result" [⟨"OBJECT", "User"⟩, ⟨"OBJECT", "Post"⟩], .object "Post" [] []]
    (by decide) (by decide) (.union "Result" [⟨"OBJECT", "User"⟩])
    (.union "Result" [⟨"OBJECT", "User"⟩, ⟨"OBJECT", "Post"⟩]) (by decide) (by decide) rfl
    ⟨"OBJECT", "Post"⟩ (by decide) (by decide)).1.mpr (Or.inl (by decide))

/-- The interface `Node`: one field `Post` of a scalar type `POSSIBLE_OBJECT`. -/
def nodeInterface (possibleTypes : List PossibleType) : TypeDefinition :=
  .interface "Node" [] [⟨"Post", .named "SCALAR" "POSSIBLE_OBJECT", []⟩] possibleTypes

/-- A schema in which nothing implements `Node`. -/
def schemaBeforePost : List TypeDefinition :=
  [.scalar "POSSIBLE_OBJECT", nodeInterface [],
    .object "Query" [] [⟨"node", .named "SCALAR" "POSSIBLE_OBJECT", []⟩]]

/-- The schema once an object `Post` implements `Node`. -/
def schemaAfterPost : List TypeDefinition :=
  [.scalar "POSSIBLE_OBJECT", nodeInterface [⟨"OBJECT", "Post"⟩],
    .object "Query" [] [⟨"node", .named "SCALAR" "POSSIBLE_OBJECT", []⟩],
    .object "Post" ["Node"] [⟨"Post", .named "SCALAR" "POSSIBLE_OBJECT", []⟩]]

/-- A new possible type is not always major: `Post` is new among those of `Node`, and the change is
a minor one. -/
theorem new_possible_type_not_always_major :
    Readable schemaBeforePost ∧ Readable schemaAfterPost
      ∧ nodeInterface [] ∈ schemaBeforePost
      ∧ nodeInterface [⟨"OBJECT", "Post"⟩] ∈ schemaAfterPost
      ∧ (compareDeclarations (extract schemaBeforePost).declarations
          (extract schemaAfterPost).declarations).bump = .minor := by
  refine ⟨by decide, by decide, by decide, by decide, ?_⟩
  decide

end SchemaSemver
