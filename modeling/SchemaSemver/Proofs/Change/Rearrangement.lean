/-
SchemaSemver.Proofs.Change.Rearrangement — the order of definitions does not matter.

Extractions and outcomes are lists throughout, yet a schema is no list: types may be written in any
order, and so may fields, enum values, possible types and input fields. A rearranged schema has the
same declarations in another order (`declarations_perm`), the comparison of rearranged schemas
answers the same in another order (`compareDeclarations_perm`), and rearranging alone is a patch.

The bump and its reason depend on less than that (`reason_congr`): of what was before, on the
identities alone, and of what is after, on which declarations there are. So repetitions do not
matter either, nor do the parents of what was before. Parents after do matter, also where two
declarations share an identity.
-/
import SchemaSemver.Proofs.Change.Exactness
import SchemaSemver.Proofs.Change.Independence

namespace SchemaSemver

/-! ## §1 Rearranged definitions -/

/-- The same type with its members in another order. The arguments of a field keep their order,
and so do the interfaces of a type. -/
inductive TypeDefinition.Rearranges : TypeDefinition → TypeDefinition → Prop where
  | scalar (name : String) : Rearranges (.scalar name) (.scalar name)
  | object (name : String) (interfaces : List String) {fields fields' : List Field}
      (h : fields.Perm fields') :
      Rearranges (.object name interfaces fields) (.object name interfaces fields')
  | interface (name : String) (interfaces : List String) {fields fields' : List Field}
      {possibleTypes possibleTypes' : List PossibleType} (h : fields.Perm fields')
      (h' : possibleTypes.Perm possibleTypes') :
      Rearranges (.interface name interfaces fields possibleTypes)
        (.interface name interfaces fields' possibleTypes')
  | union (name : String) {possibleTypes possibleTypes' : List PossibleType}
      (h : possibleTypes.Perm possibleTypes') :
      Rearranges (.union name possibleTypes) (.union name possibleTypes')
  | enum (name : String) {values values' : List String} (h : values.Perm values') :
      Rearranges (.enum name values) (.enum name values')
  | inputObject (name : String) {inputFields inputFields' : List InputValue}
      (h : inputFields.Perm inputFields') :
      Rearranges (.inputObject name inputFields) (.inputObject name inputFields')
  | unrecognised (name kind : String) :
      Rearranges (.unrecognised name kind) (.unrecognised name kind)

/-- The same types in another order, with the members of each in another order. -/
def IsRearrangement (definitions definitions' : List TypeDefinition) : Prop :=
  ∃ reordered, definitions.Perm reordered
    ∧ List.Forall₂ TypeDefinition.Rearranges reordered definitions'

theorem TypeDefinition.Rearranges.entries {definition definition' : TypeDefinition}
    (h : definition.Rearranges definition') : definition.entries.Perm definition'.entries := by
  cases h with
  | scalar name => exact List.Perm.refl _
  | object name interfaces h => exact (h.map _).cons _
  | interface name interfaces h h' => exact ((h.map _).append (h'.map _)).cons _
  | union name h => exact (h.map _).cons _
  | enum name h => exact (h.map _).cons _
  | inputObject name h => exact (h.map _).cons _
  | unrecognised name kind => exact List.Perm.refl _

/-- A rearranged schema has the same entries in another order. -/
theorem IsRearrangement.entries {definitions definitions' : List TypeDefinition}
    (h : IsRearrangement definitions definitions') :
    (definitions.flatMap TypeDefinition.entries).Perm
      (definitions'.flatMap TypeDefinition.entries) := by
  obtain ⟨reordered, hperm, hinside⟩ := h
  -- first whole types move, then the members inside each type
  refine (hperm.flatMap_right _).trans ?_
  clear hperm
  induction hinside with
  | nil => exact List.Perm.nil
  | cons hfirst _ ih => exact hfirst.entries.append ih

theorem IsRearrangement.declarations_perm {definitions definitions' : List TypeDefinition}
    (h : IsRearrangement definitions definitions') :
    (extract definitions).declarations.Perm (extract definitions').declarations :=
  h.entries.filterMap _

/-! ## §2 Comparisons of reordered declarations -/

/-- Declarations in another order have the same identities. -/
theorem identities_perm {declarations declarations' : List Declaration}
    (h : declarations.Perm declarations') : identities declarations = identities declarations' :=
  List.toFinset_eq_of_perm _ _ (h.map _)

theorem unmatched_perm {declarations declarations' counterpart counterpart' : List Declaration}
    (h : declarations.Perm declarations') (hc : identities counterpart = identities counterpart') :
    (unmatched declarations counterpart).Perm (unmatched declarations' counterpart') := by
  rw [unmatched_eq_filter, unmatched_eq_filter, hc]
  exact h.filter _

theorem breakingAmong_perm {added added' : List Declaration} (h : added.Perm added') :
    (breakingAmong added).Perm (breakingAmong added') := by
  have hpaths : ∀ path, (added.map Declaration.path).contains path
      = (added'.map Declaration.path).contains path := by
    intro path
    rw [Bool.eq_iff_iff, List.contains_iff_mem, List.contains_iff_mem]
    exact (h.map _).mem_iff
  unfold breakingAmong
  simp only [hpaths]
  exact h.filter _

/-- Two outcomes of the same classification, with the same declarations in another order. -/
structure Outcome.SameUpToOrder (outcome outcome' : Outcome) : Prop where
  bump : outcome.bump = outcome'.bump
  reason : outcome.reason = outcome'.reason
  removed : outcome.removed.Perm outcome'.removed
  added : outcome.added.Perm outcome'.added
  breakingAdditions : outcome.breakingAdditions.Perm outcome'.breakingAdditions

/-! ## §3 What the bump depends on -/

section Congruence

variable {before before' after after' : List Declaration}

theorem identities_congr (h : after.toFinset = after'.toFinset) :
    identities after = identities after' := by
  have hmem : ∀ declaration, declaration ∈ after ↔ declaration ∈ after' := fun declaration => by
    rw [← List.mem_toFinset, h, List.mem_toFinset]
  ext identity
  simp only [mem_identities, hmem]

/-- Which declarations are added depends on which there are after, and on the identities before. -/
theorem mem_added_congr (hb : identities before = identities before')
    (ha : after.toFinset = after'.toFinset) (declaration : Declaration) :
    declaration ∈ unmatched after before ↔ declaration ∈ unmatched after' before' := by
  rw [unmatched_eq_filter, unmatched_eq_filter, List.mem_filter, List.mem_filter, hb,
    ← List.mem_toFinset, ha, List.mem_toFinset]

theorem mem_breakingAmong_congr {added added' : List Declaration}
    (h : ∀ declaration, declaration ∈ added ↔ declaration ∈ added') (declaration : Declaration) :
    declaration ∈ breakingAmong added ↔ declaration ∈ breakingAmong added' := by
  simp only [mem_breakingAmong_iff, h]

theorem eq_nil_congr {first second : List Declaration}
    (h : ∀ declaration, declaration ∈ first ↔ declaration ∈ second) :
    first = [] ↔ second = [] := by
  simp only [List.eq_nil_iff_forall_not_mem, h]

/-- The reason depends on the identities before and on the declarations after. -/
theorem reason_congr (hb : identities before = identities before')
    (ha : after.toFinset = after'.toFinset) :
    (compareDeclarations before after).reason = (compareDeclarations before' after').reason := by
  have hremoved : unmatched before after = [] ↔ unmatched before' after' = [] := by
    rw [unmatched_eq_nil_iff_subset, unmatched_eq_nil_iff_subset, hb, identities_congr ha]
  have hadded := mem_added_congr hb ha
  have hnone := eq_nil_congr hadded
  have hbreaking := eq_nil_congr (mem_breakingAmong_congr hadded)
  simp only [reason_compareDeclarations, ne_eq, hremoved, hbreaking, hnone]

theorem bump_congr (hb : identities before = identities before')
    (ha : after.toFinset = after'.toFinset) :
    (compareDeclarations before after).bump = (compareDeclarations before' after').bump := by
  rw [bump_compareDeclarations, bump_compareDeclarations, reason_congr hb ha]

theorem compareDeclarations_perm (hb : before.Perm before') (ha : after.Perm after') :
    (compareDeclarations before after).SameUpToOrder (compareDeclarations before' after') where
  bump := bump_congr (identities_perm hb) (List.toFinset_eq_of_perm _ _ ha)
  reason := reason_congr (identities_perm hb) (List.toFinset_eq_of_perm _ _ ha)
  removed := by
    rw [removed_compareDeclarations, removed_compareDeclarations]
    exact unmatched_perm hb (identities_perm ha)
  added := by
    rw [added_compareDeclarations, added_compareDeclarations]
    exact unmatched_perm ha (identities_perm hb)
  breakingAdditions := by
    have hremoved := unmatched_perm hb (identities_perm ha)
    have hnone : unmatched before after = [] ↔ unmatched before' after' = [] :=
      eq_nil_congr fun _ => hremoved.mem_iff
    rw [breakingAdditions_compareDeclarations, breakingAdditions_compareDeclarations]
    simp only [hnone]
    split
    · exact breakingAmong_perm (unmatched_perm ha (identities_perm hb))
    · exact List.Perm.nil

end Congruence

/-- **The order of definitions does not matter.** If two schemas are rearranged, the comparison
has the same bump and reason, and the same removals, additions and breaking additions in another
order; and rearranging alone is a patch. For any declarations, wherever they come from, bump and
reason are the same if the identities before are the same and the declarations after are the same,
in whatever order and however often they stand there. -/
theorem comparison_ignores_order :
    (∀ before before' after after' : List TypeDefinition,
      IsRearrangement before before' → IsRearrangement after after' →
        (compareDefinitions before after).SameUpToOrder (compareDefinitions before' after')
        ∧ (compareDefinitions before before').bump = .patch)
    ∧ ∀ before before' after after' : List Declaration,
      identities before = identities before' → after.toFinset = after'.toFinset →
        (compareDeclarations before after).bump = (compareDeclarations before' after').bump
        ∧ (compareDeclarations before after).reason
          = (compareDeclarations before' after').reason := by
  refine ⟨fun before before' after after' hb ha => ⟨?_, ?_⟩, fun _ _ _ _ hb ha => ?_⟩
  · exact compareDeclarations_perm hb.declarations_perm ha.declarations_perm
  · exact (isDifference _ _).patch.mpr (identities_perm hb.declarations_perm)
  · exact ⟨bump_congr hb ha, reason_congr hb ha⟩

/-- A new scalar and a new enum value give the same outcome in either order; and a declaration that
stands there twice, or had another parent before, does not change a bump. -/
theorem new_value_beside_new_scalar :
    (compareDefinitions [.enum "Tag" ["OLD"]]
        [.scalar "Url", .enum "Tag" ["OLD", "NEW"]]).SameUpToOrder
      (compareDefinitions [.enum "Tag" ["OLD"]] [.enum "Tag" ["NEW", "OLD"], .scalar "Url"])
    ∧ (compareDeclarations [⟨"Tag", "ENUM", "@"⟩, ⟨"Tag.NEW", "ENUM_VALUE", "Tag"⟩]
        [⟨"Tag", "ENUM", "@"⟩]).bump
      = (compareDeclarations [⟨"Tag.NEW", "ENUM_VALUE", "@"⟩, ⟨"Tag", "ENUM", "@"⟩,
          ⟨"Tag.NEW", "ENUM_VALUE", "Tag"⟩] [⟨"Tag", "ENUM", "@"⟩, ⟨"Tag", "ENUM", "@"⟩]).bump :=
  ⟨(comparison_ignores_order.1 _ _ _ _ ⟨_, .refl _, .cons (.enum _ (.refl _)) .nil⟩
      ⟨_, .swap _ _ _, .cons (.enum _ (by decide)) (.cons (.scalar _) .nil)⟩).1,
    (comparison_ignores_order.2 _ _ _ _ (by decide) (by decide)).1⟩

end SchemaSemver
