/-
SchemaSemver.Proofs.Change.Independence — groups of types are compared independently.

The comparison works on one list of declarations a side, and it exempts additions by looking a
parent up among all added paths. Still two groups of types that share no name do not touch each
other: their removals and additions stand one after the other, and the bump is the more severe of
the two bumps (`compare_independent_groups`). A group of new types alone is never major, and types
that are the same on both sides leave no trace in the result.

§1 is about any declarations, §2 brings in the types. The definitions need not be well-formed; no
name of a type has a dot, which is what keeps `A.b` from being the name of a type.
-/
import SchemaSemver.Proofs.Change.Compare
import SchemaSemver.Proofs.Schema.Ownership

namespace SchemaSemver

/-! ## §1 Declarations of two groups -/

/-- Declarations with other paths match nothing. -/
theorem unmatched_append_of_path_ne {first counterpart extra : List Declaration}
    (h : ∀ declaration ∈ first, ∀ other ∈ extra, declaration.path ≠ other.path) :
    unmatched first (counterpart ++ extra) = unmatched first counterpart
      ∧ unmatched first (extra ++ counterpart) = unmatched first counterpart := by
  have hnone : ∀ declaration ∈ first, declaration.identity ∉ extra.map Declaration.identity := by
    intro declaration hd hmem
    obtain ⟨other, hother, heq⟩ := List.mem_map.mp hmem
    exact h declaration hd other hother (congrArg Prod.fst heq).symm
  constructor <;>
  · refine List.filter_congr fun declaration hd => ?_
    simp only [List.map_append, List.contains_eq_mem, List.mem_append, hnone declaration hd,
      or_false, false_or]

/-- No declaration of the second group has the parent of one of the first as its path. -/
def ParentsApart (first second : List Declaration) : Prop :=
  ∀ declaration ∈ first, declaration.isParentSensitive = true →
    ∀ other ∈ second, other.path ≠ declaration.parent

section Breaking

variable {first second : List Declaration}

theorem ParentsApart.not_mem_paths (h : ParentsApart first second) {declaration : Declaration}
    (hd : declaration ∈ first) (hs : declaration.isParentSensitive = true) :
    declaration.parent ∉ second.map Declaration.path := by
  intro hmem
  obtain ⟨other, hother, heq⟩ := List.mem_map.mp hmem
  exact h declaration hd hs other hother heq

theorem breakingAmong_append (h₁ : ParentsApart first second) (h₂ : ParentsApart second first) :
    breakingAmong (first ++ second) = breakingAmong first ++ breakingAmong second := by
  unfold breakingAmong
  rw [List.filter_append]
  congr 1
  · refine List.filter_congr fun declaration hd => ?_
    by_cases hs : declaration.isParentSensitive = true
    · simp only [List.map_append, List.contains_eq_mem, List.mem_append,
        h₁.not_mem_paths hd hs, or_false]
    · simp [hs]
  · refine List.filter_congr fun declaration hd => ?_
    by_cases hs : declaration.isParentSensitive = true
    · simp only [List.map_append, List.contains_eq_mem, List.mem_append,
        h₂.not_mem_paths hd hs, false_or]
    · simp [hs]

end Breaking

/-! ### The bump of given removals and additions -/

/-- The more severe of two bumps. -/
def Bump.moreSevere (first second : Bump) : Bump :=
  if first.severity < second.severity then second else first

theorem severity_moreSevere (first second : Bump) :
    (first.moreSevere second).severity = max first.severity second.severity := by
  cases first <;> cases second <;> rfl

theorem moreSevere_eq_major_iff {first second : Bump} :
    first.moreSevere second = .major ↔ first = .major ∨ second = .major := by
  cases first <;> cases second <;> decide

theorem Bump.severity_injective {first second : Bump} (h : first.severity = second.severity) :
    first = second := by
  cases first <;> cases second <;> simp [severity] at h ⊢

/-- The severity that a list calls for if there is anything in it. -/
def severityOf (severity : Nat) (declarations : List Declaration) : Nat :=
  if declarations = [] then 1 else severity

theorem severityOf_append {severity : Nat} (h : 1 ≤ severity) (first second : List Declaration) :
    severityOf severity (first ++ second)
      = max (severityOf severity first) (severityOf severity second) := by
  unfold severityOf
  by_cases h₁ : first = []
  · by_cases h₂ : second = [] <;> simp [h₁, h₂]
    omega
  · by_cases h₂ : second = [] <;> simp [h₁, h₂]
    omega

/-- Each of the three lists calls for a severity, and the highest one counts. -/
theorem severity_ofParts (removed added : List Declaration) :
    (Outcome.ofParts removed added).bump.severity
      = max (severityOf 3 removed)
        (max (severityOf 3 (breakingAmong added)) (severityOf 2 added)) := by
  rw [bump_ofParts, reason_ofParts]
  unfold severityOf
  by_cases hremoved : removed = []
  · by_cases hadded : added = []
    · simp [hremoved, hadded, breakingAmong_nil, Reason.bump, Bump.severity]
    · by_cases hbreaking : breakingAmong added = [] <;>
        simp [hremoved, hbreaking, hadded, Reason.bump, Bump.severity]
  · simp only [ne_eq, hremoved, not_false_eq_true, if_true, if_false, Reason.bump, Bump.severity]
    split <;> split <;> rfl

theorem bump_ofParts_append {removed₁ removed₂ added₁ added₂ : List Declaration}
    (h₁ : ParentsApart added₁ added₂) (h₂ : ParentsApart added₂ added₁) :
    (Outcome.ofParts (removed₁ ++ removed₂) (added₁ ++ added₂)).bump
      = (Outcome.ofParts removed₁ added₁).bump.moreSevere
          (Outcome.ofParts removed₂ added₂).bump := by
  apply Bump.severity_injective
  rw [severity_moreSevere, severity_ofParts, severity_ofParts, severity_ofParts,
    breakingAmong_append h₁ h₂]
  simp only [severityOf_append (show 1 ≤ 3 by decide), severityOf_append (show 1 ≤ 2 by decide)]
  ac_rfl

/-! ## §2 Types of two groups -/

/-- The change from some definitions to others. -/
def compareDefinitions (before after : List TypeDefinition) : Outcome :=
  compareDeclarations (extract before).declarations (extract after).declarations

/-- The types of two groups have different names, none of them with a dot. -/
structure NamedApart (first second : List TypeDefinition) : Prop where
  firstPlain : ∀ definition ∈ first, '.' ∉ definition.name.toList
  secondPlain : ∀ definition ∈ second, '.' ∉ definition.name.toList
  apart : ∀ definition ∈ first, ∀ other ∈ second, definition.name ≠ other.name

section Groups

variable {first second : List TypeDefinition}

theorem NamedApart.symm (h : NamedApart first second) : NamedApart second first :=
  ⟨h.secondPlain, h.firstPlain, fun other ho definition hd => (h.apart definition hd other ho).symm⟩

theorem NamedApart.mono {first' second' : List TypeDefinition} (h : NamedApart first second)
    (h₁ : first' ⊆ first) (h₂ : second' ⊆ second) : NamedApart first' second' :=
  ⟨fun definition hd => h.firstPlain definition (h₁ hd),
    fun other ho => h.secondPlain other (h₂ ho),
    fun definition hd other ho => h.apart definition (h₁ hd) other (h₂ ho)⟩

theorem NamedApart.path_ne (h : NamedApart first second) :
    ∀ declaration ∈ (extract first).declarations, ∀ other ∈ (extract second).declarations,
      declaration.path ≠ other.path := by
  intro declaration hd other ho
  obtain ⟨definition, hdefinition, hdeclared⟩ := exists_declared_of_mem_extract hd
  obtain ⟨foreign, hforeign, hodeclared⟩ := exists_declared_of_mem_extract ho
  exact TypeDefinition.path_ne_of_name_ne (h.firstPlain definition hdefinition)
    (h.secondPlain foreign hforeign) (h.apart definition hdefinition foreign hforeign) hdeclared
    hodeclared

theorem NamedApart.parentsApart (h : NamedApart first second) :
    ParentsApart (extract first).declarations (extract second).declarations := by
  intro declaration hd hsensitive other ho
  obtain ⟨definition, hdefinition, hdeclared⟩ := exists_declared_of_mem_extract hd
  obtain ⟨foreign, hforeign, hodeclared⟩ := exists_declared_of_mem_extract ho
  rw [TypeDefinition.parent_of_mem_declared hdeclared hsensitive]
  exact TypeDefinition.ne_path_of_mem_declared (h.firstPlain definition hdefinition)
    (h.apart definition hdefinition foreign hforeign).symm hodeclared

theorem ParentsApart.mono {first second first' second' : List Declaration}
    (h : ParentsApart first second) (h₁ : ∀ declaration ∈ first', declaration ∈ first)
    (h₂ : ∀ declaration ∈ second', declaration ∈ second) : ParentsApart first' second' :=
  fun declaration hd hsensitive other ho =>
    h declaration (h₁ declaration hd) hsensitive other (h₂ other ho)

end Groups

/-- New types exempt their own members, so nothing about them is breaking. -/
theorem breakingAmong_extract (definitions : List TypeDefinition) :
    breakingAmong (extract definitions).declarations = [] := by
  rw [List.eq_nil_iff_forall_not_mem]
  intro declaration hd
  obtain ⟨hmem, hsensitive, hnone⟩ := mem_breakingAmong_iff.mp hd
  obtain ⟨definition, hdefinition, hdeclared⟩ := exists_declared_of_mem_extract hmem
  obtain ⟨self, hself, hpath⟩ := TypeDefinition.exists_self_of_mem_declared hdeclared
  refine hnone ⟨self, ?_, ?_⟩
  · rw [extract_eq_declared]
    exact List.mem_flatMap.mpr ⟨definition, hdefinition, hself⟩
  · rw [hpath, TypeDefinition.parent_of_mem_declared hdeclared hsensitive]

theorem bump_compareDefinitions_nil (after : List TypeDefinition) :
    (compareDefinitions [] after).bump ≠ .major := by
  intro hmajor
  rcases (compareDeclarations_major_iff _ _).mp hmajor with h | h
  · exact h rfl
  · apply h
    show breakingAmong (unmatched (extract after).declarations []) = []
    rw [unmatched_nil, breakingAmong_extract]

/-- The outcome holds what two others hold: the more severe of their bumps, and their removals and
additions one after the other. -/
structure Outcome.IsSumOf (whole first second : Outcome) : Prop where
  bump : whole.bump = first.bump.moreSevere second.bump
  removed : whole.removed = first.removed ++ second.removed
  added : whole.added = first.added ++ second.added

theorem Outcome.IsSumOf.major_iff {whole first second : Outcome} (h : whole.IsSumOf first second) :
    whole.bump = .major ↔ first.bump = .major ∨ second.bump = .major := by
  rw [h.bump, moreSevere_eq_major_iff]

section Comparison

variable {before₁ before₂ after₁ after₂ : List TypeDefinition}

/-- What is unmatched in two groups is what is unmatched in each of them. -/
theorem unmatched_extract_append (h₁ : NamedApart before₁ after₂) (h₂ : NamedApart before₂ after₁) :
    unmatched (extract (before₁ ++ before₂)).declarations
        (extract (after₁ ++ after₂)).declarations
      = unmatched (extract before₁).declarations (extract after₁).declarations
        ++ unmatched (extract before₂).declarations (extract after₂).declarations := by
  rw [extract_append, extract_append, unmatched_append_left,
    (unmatched_append_of_path_ne h₁.path_ne).1, (unmatched_append_of_path_ne h₂.path_ne).2]

/-- The outcome of the whole is made of what the groups remove and add. -/
theorem compareDefinitions_append (h : NamedApart (before₁ ++ after₁) (before₂ ++ after₂)) :
    compareDefinitions (before₁ ++ before₂) (after₁ ++ after₂)
      = Outcome.ofParts
        (unmatched (extract before₁).declarations (extract after₁).declarations
          ++ unmatched (extract before₂).declarations (extract after₂).declarations)
        (unmatched (extract after₁).declarations (extract before₁).declarations
          ++ unmatched (extract after₂).declarations (extract before₂).declarations) := by
  have hb₁ : NamedApart before₁ after₂ :=
    h.mono (List.subset_append_left _ _) (List.subset_append_right _ _)
  have hb₂ : NamedApart before₂ after₁ :=
    h.symm.mono (List.subset_append_left _ _) (List.subset_append_right _ _)
  rw [compareDefinitions, compareDeclarations, unmatched_extract_append hb₁ hb₂,
    unmatched_extract_append hb₂.symm hb₁.symm]

theorem isSumOf_compareDefinitions (h : NamedApart (before₁ ++ after₁) (before₂ ++ after₂)) :
    (compareDefinitions (before₁ ++ before₂) (after₁ ++ after₂)).IsSumOf
      (compareDefinitions before₁ after₁) (compareDefinitions before₂ after₂) := by
  have hafter : NamedApart after₁ after₂ :=
    h.mono (List.subset_append_right _ _) (List.subset_append_right _ _)
  have hsub : ∀ {declarations counterpart : List Declaration},
      ∀ declaration ∈ unmatched declarations counterpart, declaration ∈ declarations :=
    fun _ hd => mem_of_mem_unmatched hd
  rw [compareDefinitions_append h]
  refine ⟨?_, ?_, ?_⟩
  · exact bump_ofParts_append (hafter.parentsApart.mono hsub hsub)
      (hafter.symm.parentsApart.mono hsub hsub)
  · simp only [compareDefinitions, compareDeclarations, (parts_ofParts _ _).1]
  · simp only [compareDefinitions, compareDeclarations, (parts_ofParts _ _).2]

end Comparison

/-- **Groups of types are compared independently.** Two groups of types share no name, neither
before nor after, and no name has a dot. Then the change of the whole has the more severe of the
two bumps, and it removes and adds what the groups remove and add, one after the other. A group
that is all new is never major, and the whole is then major exactly if the other group is. A group
that did not change leaves the outcome of the other one as it is. -/
theorem compare_independent_groups (before₁ before₂ after₁ after₂ : List TypeDefinition)
    (h : NamedApart (before₁ ++ after₁) (before₂ ++ after₂)) :
    (compareDefinitions (before₁ ++ before₂) (after₁ ++ after₂)).IsSumOf
        (compareDefinitions before₁ after₁) (compareDefinitions before₂ after₂)
    ∧ (before₁ = [] → (compareDefinitions before₁ after₁).bump ≠ .major
        ∧ ((compareDefinitions (before₁ ++ before₂) (after₁ ++ after₂)).bump = .major
          ↔ (compareDefinitions before₂ after₂).bump = .major))
    ∧ (before₂ = [] → (compareDefinitions before₂ after₂).bump ≠ .major
        ∧ ((compareDefinitions (before₁ ++ before₂) (after₁ ++ after₂)).bump = .major
          ↔ (compareDefinitions before₁ after₁).bump = .major))
    ∧ (before₁ = after₁ → compareDefinitions (before₁ ++ before₂) (after₁ ++ after₂)
        = compareDefinitions before₂ after₂)
    ∧ (before₂ = after₂ → compareDefinitions (before₁ ++ before₂) (after₁ ++ after₂)
        = compareDefinitions before₁ after₁) := by
  have hsum := isSumOf_compareDefinitions h
  refine ⟨hsum, ?_, ?_, ?_, ?_⟩
  · intro hnew
    have hminor : (compareDefinitions before₁ after₁).bump ≠ .major :=
      hnew ▸ bump_compareDefinitions_nil after₁
    exact ⟨hminor, hsum.major_iff.trans (or_iff_right hminor)⟩
  · intro hnew
    have hminor : (compareDefinitions before₂ after₂).bump ≠ .major :=
      hnew ▸ bump_compareDefinitions_nil after₂
    exact ⟨hminor, hsum.major_iff.trans (or_iff_left hminor)⟩
  · rintro rfl
    rw [compareDefinitions_append h, unmatched_self, List.nil_append, List.nil_append]
    rfl
  · rintro rfl
    rw [compareDefinitions_append h, unmatched_self, List.append_nil, List.append_nil]
    rfl

/-- A new value of an enum is major, next to a new input type with a required field. -/
theorem new_input_beside_new_enum_value :
    (compareDefinitions ([.enum "Role" ["ADMIN"]] ++ [])
      ([.enum "Role" ["ADMIN", "USER"]]
        ++ [.inputObject "Filter" [⟨"id", .nonNull (.named "SCALAR" "ID")⟩]])).bump = .major
    ∧ (compareDefinitions []
      [.inputObject "Filter" [⟨"id", .nonNull (.named "SCALAR" "ID")⟩]]).bump ≠ .major := by
  have h := compare_independent_groups [.enum "Role" ["ADMIN"]] []
    [.enum "Role" ["ADMIN", "USER"]]
    [.inputObject "Filter" [⟨"id", .nonNull (.named "SCALAR" "ID")⟩]]
    ⟨by decide, by decide, by decide⟩
  obtain ⟨hnew, hmajor⟩ := h.2.2.1 rfl
  exact ⟨hmajor.mpr (by decide), hnew⟩

end SchemaSemver
