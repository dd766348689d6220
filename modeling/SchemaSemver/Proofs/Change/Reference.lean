/-
SchemaSemver.Proofs.Change.Reference — the classification, stated on types.

A comparison never sees types: it matches paths and signatures, and it exempts additions below a
path that is added itself. `compareDeclarations_eq_reference` says what that comes to for users of
the types. A change is major if something that was there is lost, or if a type that was there gains
a member that breaks its users; it is minor if there are other gains, and a patch otherwise.

What is lost, gained and breaking is said of headings and members, with no path or signature in
sight. The one name that no reference may end in, `POSSIBLE_OBJECT`, is the one that members are
confused by.
-/
import SchemaSemver.Proofs.Change.Compare
import SchemaSemver.Proofs.Schema.Identity

namespace SchemaSemver

/-! ## Losses and gains -/

/-- The type is still there: under its name, of the same kind, with the same interfaces in the
same order, and with all its members. A field or input field is the same member only with the same
shape, the arguments of a field included. -/
def TypeDefinition.IsKeptBy (before after : TypeDefinition) : Prop :=
  after.name = before.name ∧ after.heading? = before.heading?
    ∧ ∀ member ∈ before.members, member ∈ after.members

/-- Some type is gone, is declared as something else, or lacks a member that it had. -/
def Loses (before after : List TypeDefinition) : Prop :=
  ∃ old ∈ before, ¬ ∃ new ∈ after, old.IsKeptBy new

/-- Some type that was there has a new enum value, possible type or non-null input field. -/
def GainsBreaking (before after : List TypeDefinition) : Prop :=
  ∃ old ∈ before, ∃ new ∈ after, new.name = old.name
    ∧ ∃ member ∈ new.members, member.isBreaking = true ∧ member ∉ old.members

/-- Some type is new, or has a new member. -/
def Gains (before after : List TypeDefinition) : Prop :=
  ∃ new ∈ after, ∀ old ∈ before, old.name = new.name →
    ∃ member ∈ new.members, member ∉ old.members

instance (before after : TypeDefinition) : Decidable (before.IsKeptBy after) :=
  inferInstanceAs (Decidable (_ ∧ _ ∧ ∀ member ∈ before.members, member ∈ after.members))

instance (before after : List TypeDefinition) : Decidable (Loses before after) :=
  inferInstanceAs (Decidable (∃ old ∈ before, ¬ ∃ new ∈ after, old.IsKeptBy new))

instance (before after : List TypeDefinition) : Decidable (GainsBreaking before after) :=
  inferInstanceAs (Decidable (∃ old ∈ before, ∃ new ∈ after, new.name = old.name
    ∧ ∃ member ∈ new.members, member.isBreaking = true ∧ member ∉ old.members))

instance (before after : List TypeDefinition) : Decidable (Gains before after) :=
  inferInstanceAs (Decidable (∃ new ∈ after, ∀ old ∈ before, old.name = new.name →
    ∃ member ∈ new.members, member ∉ old.members))

/-- The reason for the bump that a change of types calls for. -/
def referenceReason (before after : List TypeDefinition) : Reason :=
  if Loses before after then .removals
  else if GainsBreaking before after then .breakingAdditions
  else if Gains before after then .additions
  else .unchanged

/-! ## Definitions that can be told apart -/

/-- Well-formed definitions, all of them supported: what a complete extraction comes from. -/
structure Readable (definitions : List TypeDefinition) : Prop where
  wellFormed : WellFormed definitions
  supported : ∀ definition ∈ definitions, definition.IsSupported

/-- Readable definitions without the one reference that is spelled like a possible type. -/
structure Comparable (definitions : List TypeDefinition) : Prop extends Readable definitions where
  plain : ∀ definition ∈ definitions, ∀ type ∈ definition.references,
    type.leaf.name ≠ "POSSIBLE_OBJECT"

instance (definitions : List TypeDefinition) : Decidable (Readable definitions) :=
  decidable_of_iff
    (WellFormed definitions ∧ ∀ definition ∈ definitions, definition.IsSupported)
    ⟨fun h => ⟨h.1, h.2⟩, fun h => ⟨h.wellFormed, h.supported⟩⟩

instance (definitions : List TypeDefinition) : Decidable (Comparable definitions) :=
  decidable_of_iff
    (Readable definitions ∧ ∀ definition ∈ definitions, ∀ type ∈ definition.references,
        type.leaf.name ≠ "POSSIBLE_OBJECT")
    ⟨fun h => ⟨h.1, h.2⟩, fun h => ⟨h.toReadable, h.plain⟩⟩

/-- Nothing is unmatched exactly when every identity is declared on the other side. -/
theorem unmatched_extract_eq_nil_iff {definitions others : List TypeDefinition} :
    unmatched (extract definitions).declarations (extract others).declarations = []
      ↔ ∀ identity, Declares definitions identity → Declares others identity := by
  rw [unmatched_eq_nil_iff]
  constructor
  · rintro h identity ⟨declaration, hd, rfl⟩
    exact h declaration hd
  · intro h declaration hd
    exact h declaration.identity ⟨declaration, hd, rfl⟩

/-- If the declaration of a type itself is declared elsewhere, a type of its name and heading is
there. -/
theorem Readable.exists_same_heading {before after : List TypeDefinition} (hb : Readable before)
    (ha : Readable after) {new : TypeDefinition} (hn : new ∈ after) {heading : Heading}
    (hh : new.heading? = some heading) (h : Declares before (new.name, heading.signature)) :
    ∃ old ∈ before, old.name = new.name ∧ old.heading? = new.heading? := by
  obtain ⟨old, ho, hname, hheading⟩ := (declares_heading_iff hb.wellFormed
    (ha.wellFormed.dot_not_mem hn) (ha.wellFormed.isName_interfaces hn hh)).mp h
  exact ⟨old, ho, hname, hheading.trans hh.symm⟩

/-- Only a field of the reserved type hides anything. -/
theorem TypeDefinition.not_hides {definition : TypeDefinition}
    (h : ∀ type ∈ definition.references, type.leaf.name ≠ "POSSIBLE_OBJECT") {m n : Member}
    (hm : m ∈ definition.members) : ¬ m.Hides n := by
  rintro ⟨name, rfl, -⟩
  obtain ⟨field, hshape, href⟩ := TypeDefinition.field_of_mem_members hm
  have htype : field.type.shape = .named "POSSIBLE_OBJECT" := congrArg FieldShape.type hshape
  have hleaf : field.type.leaf.name = "POSSIBLE_OBJECT" := by
    rw [← TypeRef.leafName_shape, htype]
    rfl
  exact h field.type (href field.type field.type_mem_references) hleaf

/-! ## Additions to a type that was there -/

section Additions

variable {before after : List TypeDefinition} {old new : TypeDefinition}

/-- The declaration of a breaking member names its type as parent. -/
theorem Member.isParentSensitive_declaration {typeName : String} (hname : isName typeName = true)
    {member : Member} (h : member.isBreaking = true) :
    (member.declaration typeName).isParentSensitive = true
      ∧ (member.declaration typeName).parent = typeName := by
  have hparent : (member.declaration typeName).parent = typeName := by
    simp only [Member.declaration, h, if_true]
  refine ⟨?_, hparent⟩
  simp only [Declaration.isParentSensitive, hparent, bne_iff_ne]
  exact ne_noParent_of_isName hname

/-- A declaration with a parent is that of a breaking member. -/
theorem Readable.exists_breaking_member (ha : Readable after) {declaration : Declaration}
    (hd : declaration ∈ (extract after).declarations)
    (h : declaration.isParentSensitive = true) :
    ∃ new ∈ after, ∃ member ∈ new.members, member.isBreaking = true
      ∧ declaration = member.declaration new.name := by
  obtain ⟨new, hn, hdecl⟩ := (mem_extract_iff ha.supported).mp hd
  rcases (TypeDefinition.mem_declarations_iff (ha.supported new hn)).mp hdecl with hx | hx
  · -- a heading has no parent
    obtain ⟨heading, -, rfl⟩ := hx
    simp [Heading.declaration, Declaration.isParentSensitive] at h
  · obtain ⟨member, hm, rfl⟩ := hx
    refine ⟨new, hn, member, hm, ?_, rfl⟩
    by_contra hplain
    simp [Member.declaration, Declaration.isParentSensitive, hplain] at h

/-- A type that was there with the same heading is not among the additions. -/
theorem path_not_added (ha : Readable after) (ho : old ∈ before) (hn : new ∈ after)
    (hname : new.name = old.name) (hheading : new.heading? = old.heading?) :
    ¬ ∃ other ∈ unmatched (extract after).declarations (extract before).declarations,
      other.path = new.name := by
  rintro ⟨other, hother, hpath⟩
  obtain ⟨hmem, hnone⟩ := mem_unmatched_iff.mp hother
  obtain ⟨found, hfound, heading, hh, rfl⟩ := heading_of_path hmem
    (hpath ▸ ha.wellFormed.dot_not_mem hn)
  obtain rfl : found = new := ha.wellFormed.eq_of_name_eq hfound hn hpath
  have hdeclared := declares_of_heading ho (hheading ▸ hh)
  rw [← hname] at hdeclared
  exact hnone hdeclared

/-- An undeclared breaking member of a type that was there is a breaking addition. -/
theorem mem_breakingAmong_of_member (ha : Readable after) (ho : old ∈ before) (hn : new ∈ after)
    (hname : new.name = old.name) (hheading : new.heading? = old.heading?) {member : Member}
    (hm : member ∈ new.members) (hbreaking : member.isBreaking = true)
    (hnew : ¬ Declares before (member.declaration new.name).identity) :
    member.declaration new.name
      ∈ breakingAmong (unmatched (extract after).declarations (extract before).declarations) := by
  obtain ⟨hsensitive, hparent⟩ :=
    Member.isParentSensitive_declaration (ha.wellFormed.isName_name hn) hbreaking
  have hadded := mem_unmatched_iff.mpr ⟨mem_extract_of_member ha.supported hn hm, hnew⟩
  refine mem_breakingAmong_iff.mpr ⟨hadded, hsensitive, ?_⟩
  rw [hparent]
  exact path_not_added ha ho hn hname hheading

/-- A type that is declared as something else is removed. -/
theorem removed_of_heading_ne (hb : Readable before) (ha : Readable after) (ho : old ∈ before)
    (hn : new ∈ after) (hname : new.name = old.name) (hheading : new.heading? ≠ old.heading?) :
    unmatched (extract before).declarations (extract after).declarations ≠ [] := by
  intro hnil
  obtain ⟨heading, hh⟩ := (hb.supported old ho).exists_heading
  have hself := unmatched_extract_eq_nil_iff.mp hnil _ (declares_of_heading ho hh)
  obtain ⟨found, hfound, hfname, hfheading⟩ := ha.exists_same_heading hb ho hh hself
  obtain rfl : found = new :=
    ha.wellFormed.eq_of_name_eq hfound hn (hfname.trans hname.symm)
  exact hheading hfheading

end Additions

/-! ## The classification -/

section Classification

variable {before after : List TypeDefinition}

/-- A member of one of two comparable types with the same name and heading is declared with the
other exactly when it is a member of both. -/
theorem Comparable.declares_iff (hb : Comparable before) (ha : Comparable after)
    {old new : TypeDefinition} (ho : old ∈ before) (hn : new ∈ after)
    (hname : new.name = old.name) (hheading : new.heading? = old.heading?) {member : Member}
    (hm : member ∈ new.members) :
    Declares before (member.declaration new.name).identity ↔ member ∈ old.members := by
  obtain ⟨heading, hh⟩ := (ha.supported new hn).exists_heading
  rw [hname, declares_admitted_iff hb.wellFormed hb.supported ho (hheading ▸ hh)
    (TypeDefinition.admits_of_mem hh hm) (ha.wellFormed.member hn hm)]
  constructor
  · rintro (h | ⟨other, hother, h | h⟩)
    · exact h
    · exact absurd h (TypeDefinition.not_hides (hb.plain old ho) hother)
    · exact absurd h (TypeDefinition.not_hides (ha.plain new hn) hm)
  · exact Or.inl

/-- Nothing is removed exactly when every type is kept. -/
theorem removed_eq_nil_iff (hb : Comparable before) (ha : Comparable after) :
    unmatched (extract before).declarations (extract after).declarations = []
      ↔ ∀ old ∈ before, ∃ new ∈ after, old.IsKeptBy new := by
  rw [unmatched_extract_eq_nil_iff]
  constructor
  · intro h old ho
    obtain ⟨heading, hh⟩ := (hb.supported old ho).exists_heading
    obtain ⟨new, hn, hname, hheading⟩ := ha.exists_same_heading hb.toReadable ho hh
      (h _ (declares_of_heading ho hh))
    refine ⟨new, hn, hname, hheading, fun member hm => ?_⟩
    exact (ha.declares_iff hb hn ho hname.symm hheading.symm hm).mp
      (h _ (declares_of_member hb.supported ho hm))
  · rintro h identity ⟨declaration, hd, rfl⟩
    obtain ⟨old, ho, hdecl⟩ := (mem_extract_iff hb.supported).mp hd
    obtain ⟨new, hn, hname, hheading, hmembers⟩ := h old ho
    rcases (TypeDefinition.mem_declarations_iff (hb.supported old ho)).mp hdecl with h | h
    · obtain ⟨heading, hh, rfl⟩ := h
      have hdeclared := declares_of_heading hn (hheading.trans hh)
      rwa [hname] at hdeclared
    · obtain ⟨member, hm, rfl⟩ := h
      have hdeclared := declares_of_member ha.supported hn (hmembers member hm)
      rwa [hname] at hdeclared

theorem not_loses_iff :
    ¬ Loses before after ↔ ∀ old ∈ before, ∃ new ∈ after, old.IsKeptBy new := by
  unfold Loses
  push Not
  rfl

/-- Without losses, a type that was there is kept by the type of its name. -/
theorem isKeptBy_of_name_eq (ha : Comparable after) (h : ¬ Loses before after)
    {old new : TypeDefinition} (ho : old ∈ before) (hn : new ∈ after)
    (hname : new.name = old.name) : old.IsKeptBy new := by
  obtain ⟨found, hfound, hkept⟩ := not_loses_iff.mp h old ho
  obtain rfl : found = new :=
    ha.wellFormed.eq_of_name_eq hfound hn (hkept.1.trans hname.symm)
  exact hkept

/-- Without losses, some addition is breaking exactly when a type that was there gains a breaking
member. -/
theorem breaking_ne_nil_iff (hb : Comparable before) (ha : Comparable after)
    (h : ¬ Loses before after) :
    breakingAmong (unmatched (extract after).declarations (extract before).declarations) ≠ []
      ↔ GainsBreaking before after := by
  constructor
  · intro hne
    obtain ⟨declaration, hd⟩ := List.exists_mem_of_ne_nil _ hne
    obtain ⟨hadded, hsensitive, hparent⟩ := mem_breakingAmong_iff.mp hd
    obtain ⟨hmem, hnew⟩ := mem_unmatched_iff.mp hadded
    obtain ⟨new, hn, member, hm, hbreaking, rfl⟩ := ha.exists_breaking_member hmem hsensitive
    rw [(Member.isParentSensitive_declaration (ha.wellFormed.isName_name hn) hbreaking).2]
      at hparent
    obtain ⟨heading, hh⟩ := (ha.supported new hn).exists_heading
    -- the heading of the parent is not added, so the parent was there
    have hself : Declares before (new.name, heading.signature) := by
      by_contra hnone
      exact hparent ⟨heading.declaration new.name,
        mem_unmatched_iff.mpr ⟨mem_extract_of_heading hn hh, hnone⟩, rfl⟩
    obtain ⟨old, ho, hname, hheading⟩ := hb.exists_same_heading ha.toReadable hn hh hself
    refine ⟨old, ho, new, hn, hname.symm, member, hm, hbreaking, fun hold => hnew ?_⟩
    exact (hb.declares_iff ha ho hn hname.symm hheading.symm hm).mpr hold
  · rintro ⟨old, ho, new, hn, hname, member, hm, hbreaking, hnew⟩
    have hheading := (isKeptBy_of_name_eq ha h ho hn hname).2.1
    refine List.ne_nil_of_mem (mem_breakingAmong_of_member ha.toReadable ho hn hname hheading hm
      hbreaking ?_)
    rwa [hb.declares_iff ha ho hn hname hheading hm]

/-- Without losses, something is added exactly when there is a new type or a new member. -/
theorem added_ne_nil_iff (hb : Comparable before) (ha : Comparable after)
    (h : ¬ Loses before after) :
    unmatched (extract after).declarations (extract before).declarations ≠ []
      ↔ Gains before after := by
  constructor
  · intro hne
    obtain ⟨declaration, hd⟩ := List.exists_mem_of_ne_nil _ hne
    obtain ⟨hmem, hnew⟩ := mem_unmatched_iff.mp hd
    obtain ⟨new, hn, hdecl⟩ := (mem_extract_iff ha.supported).mp hmem
    refine ⟨new, hn, fun old ho hname => ?_⟩
    have hheading := (isKeptBy_of_name_eq ha h ho hn hname.symm).2.1
    rcases (TypeDefinition.mem_declarations_iff (ha.supported new hn)).mp hdecl with hx | hx
    · obtain ⟨heading, hh, rfl⟩ := hx
      have hdeclared := declares_of_heading ho (hheading ▸ hh)
      rw [hname] at hdeclared
      exact absurd hdeclared hnew
    · obtain ⟨member, hm, rfl⟩ := hx
      exact ⟨member, hm, fun hold =>
        hnew ((hb.declares_iff ha ho hn hname.symm hheading hm).mpr hold)⟩
  · rintro ⟨new, hn, hgain⟩ hnil
    have hall := unmatched_extract_eq_nil_iff.mp hnil
    obtain ⟨heading, hh⟩ := (ha.supported new hn).exists_heading
    obtain ⟨old, ho, hname, hheading⟩ := hb.exists_same_heading ha.toReadable hn hh
      (hall _ (declares_of_heading hn hh))
    obtain ⟨member, hm, hnew⟩ := hgain old ho hname
    exact hnew ((hb.declares_iff ha ho hn hname.symm hheading.symm hm).mp
      (hall _ (declares_of_member ha.supported hn hm)))

/-- Something is removed exactly when something is lost. -/
theorem removed_ne_nil_iff (hb : Comparable before) (ha : Comparable after) :
    unmatched (extract before).declarations (extract after).declarations ≠ []
      ↔ Loses before after := by
  rw [Ne, removed_eq_nil_iff hb ha, ← not_loses_iff, not_not]

/-- The reason that a comparison of extractions gives. -/
theorem reason_extract (hb : Comparable before) (ha : Comparable after) :
    (compareDeclarations (extract before).declarations (extract after).declarations).reason
      = referenceReason before after := by
  rw [compareDeclarations, reason_ofParts, referenceReason]
  by_cases hloses : Loses before after
  · rw [if_pos ((removed_ne_nil_iff hb ha).mpr hloses), if_pos hloses]
  · rw [if_neg (mt (removed_ne_nil_iff hb ha).mp hloses), if_neg hloses]
    simp only [breaking_ne_nil_iff hb ha hloses, added_ne_nil_iff hb ha hloses]

/-- The bump that a comparison of extractions gives. -/
theorem bump_extract (hb : Comparable before) (ha : Comparable after) :
    (compareDeclarations (extract before).declarations (extract after).declarations).bump
      = (referenceReason before after).bump := by
  rw [bump_compareDeclarations, reason_extract hb ha]

end Classification

/-- **The classification is the reference classification.** Comparing what two lists of comparable
definitions extract to gives the reason, and with it the bump, that losses and gains of types and
members call for. -/
theorem compareDeclarations_eq_reference (before after : List TypeDefinition)
    (hb : Comparable before) (ha : Comparable after) :
    (compareDeclarations (extract before).declarations (extract after).declarations).reason
        = referenceReason before after
      ∧ (compareDeclarations (extract before).declarations (extract after).declarations).bump
        = (referenceReason before after).bump :=
  ⟨reason_extract hb ha, bump_extract hb ha⟩

/-- A new value of an enum that was there is major, next to a new type that is not. -/
theorem new_enum_value_is_major :
    (compareDeclarations (extract [.enum "Tag" ["NEW"]]).declarations
        (extract [.enum "Tag" ["NEW", "OLD"], .enum "Mark" ["ON"]]).declarations).reason
      = .breakingAdditions
    ∧ (compareDeclarations (extract [.enum "Tag" ["NEW"]]).declarations
        (extract [.enum "Tag" ["NEW", "OLD"], .enum "Mark" ["ON"]]).declarations).bump
      = .major := by
  have h := compareDeclarations_eq_reference [.enum "Tag" ["NEW"]]
    [.enum "Tag" ["NEW", "OLD"], .enum "Mark" ["ON"]] (by decide) (by decide)
  have hreason : referenceReason [.enum "Tag" ["NEW"]]
      [.enum "Tag" ["NEW", "OLD"], .enum "Mark" ["ON"]] = .breakingAdditions := by decide
  rw [hreason] at h
  exact h

end SchemaSemver
