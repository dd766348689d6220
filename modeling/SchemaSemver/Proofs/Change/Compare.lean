/-
SchemaSemver.Proofs.Change.Compare — what a comparison of declarations answers.

The three lists that a comparison computes are characterised by membership, and the classification
by which of them are empty. Nothing here depends on where the declarations come from.
-/
import Mathlib.Data.Finset.Dedup
import SchemaSemver.Change.Compare

namespace SchemaSemver

/-! ## The lists -/

/-- A declaration is unmatched if nothing on the other side has its identity. -/
theorem mem_unmatched_iff {declaration : Declaration}
    {declarations counterpart : List Declaration} :
    declaration ∈ unmatched declarations counterpart
      ↔ declaration ∈ declarations
        ∧ ¬ ∃ other ∈ counterpart, other.identity = declaration.identity := by
  unfold unmatched
  simp only [List.mem_filter, Bool.not_eq_true', ← Bool.not_eq_true, List.contains_iff_mem,
    List.mem_map]

theorem unmatched_eq_nil_iff {declarations counterpart : List Declaration} :
    unmatched declarations counterpart = []
      ↔ ∀ declaration ∈ declarations,
        ∃ other ∈ counterpart, other.identity = declaration.identity := by
  rw [List.eq_nil_iff_forall_not_mem]
  constructor
  · intro h declaration hd
    by_contra hnone
    exact h declaration (mem_unmatched_iff.mpr ⟨hd, hnone⟩)
  · intro h declaration hd
    obtain ⟨hmem, hnone⟩ := mem_unmatched_iff.mp hd
    exact hnone (h declaration hmem)

theorem mem_of_mem_unmatched {declaration : Declaration}
    {declarations counterpart : List Declaration}
    (h : declaration ∈ unmatched declarations counterpart) : declaration ∈ declarations :=
  (mem_unmatched_iff.mp h).1

theorem unmatched_nil (declarations : List Declaration) :
    unmatched declarations [] = declarations := by
  simp [unmatched]

theorem unmatched_self (declarations : List Declaration) :
    unmatched declarations declarations = [] :=
  unmatched_eq_nil_iff.mpr fun declaration hd => ⟨declaration, hd, rfl⟩

theorem unmatched_append_left (first second counterpart : List Declaration) :
    unmatched (first ++ second) counterpart
      = unmatched first counterpart ++ unmatched second counterpart := by
  simp only [unmatched, List.filter_append]

/-- Only the identities on the other side matter. -/
theorem unmatched_congr {declarations counterpart counterpart' : List Declaration}
    (h : ∀ identity, (∃ other ∈ counterpart, other.identity = identity)
      ↔ ∃ other ∈ counterpart', other.identity = identity) :
    unmatched declarations counterpart = unmatched declarations counterpart' := by
  unfold unmatched
  refine List.filter_congr fun declaration _ => ?_
  rw [Bool.eq_iff_iff]
  simp only [Bool.not_eq_true', ← Bool.not_eq_true, List.contains_iff_mem, List.mem_map,
    h declaration.identity]

theorem breakingAmong_nil : breakingAmong [] = [] := rfl

/-- An addition is breaking if it is sensitive and its parent is not added along with it. -/
theorem mem_breakingAmong_iff {declaration : Declaration} {added : List Declaration} :
    declaration ∈ breakingAmong added
      ↔ declaration ∈ added ∧ declaration.isParentSensitive = true
        ∧ ¬ ∃ other ∈ added, other.path = declaration.parent := by
  unfold breakingAmong
  simp only [List.mem_filter, Bool.and_eq_true, Bool.not_eq_true', ← Bool.not_eq_true,
    List.contains_iff_mem, List.mem_map]

/-! ## The classification -/

/-- The bump that goes with a reason. -/
def Reason.bump : Reason → Bump
  | removals => .major
  | breakingAdditions => .major
  | additions => .minor
  | unchanged => .patch

/-- How severe a bump is; no bump at all is less severe than any. -/
def Bump.severity : Bump → Nat
  | patch => 1
  | minor => 2
  | major => 3

theorem bump_ofParts (removed added : List Declaration) :
    (Outcome.ofParts removed added).bump = (Outcome.ofParts removed added).reason.bump := by
  unfold Outcome.ofParts
  split
  · rfl
  · split
    · dsimp only
      split <;> rfl
    · rfl

/-- The first of three lists that is not empty decides: removals, breaking additions, additions. -/
theorem reason_ofParts (removed added : List Declaration) :
    (Outcome.ofParts removed added).reason
      = if removed ≠ [] then .removals
        else if breakingAmong added ≠ [] then .breakingAdditions
        else if added ≠ [] then .additions
        else .unchanged := by
  cases removed with
  | cons declaration rest => simp [Outcome.ofParts]
  | nil =>
    cases added with
    | nil => simp [Outcome.ofParts, breakingAmong_nil]
    | cons declaration rest =>
      cases hbreaking : breakingAmong (declaration :: rest) <;>
        simp [Outcome.ofParts, hbreaking]

/-- Whatever the reason, the outcome holds the removals and additions it was made of. -/
theorem parts_ofParts (removed added : List Declaration) :
    (Outcome.ofParts removed added).removed = removed
      ∧ (Outcome.ofParts removed added).added = added := by
  cases removed with
  | cons declaration rest => exact ⟨rfl, rfl⟩
  | nil =>
    cases added with
    | nil => exact ⟨rfl, rfl⟩
    | cons declaration rest =>
      cases hbreaking : breakingAmong (declaration :: rest) <;> simp [Outcome.ofParts, hbreaking]

/-- Breaking additions are only named where nothing is removed. -/
theorem breakingAdditions_ofParts (removed added : List Declaration) :
    (Outcome.ofParts removed added).breakingAdditions
      = if removed = [] then breakingAmong added else [] := by
  cases removed with
  | cons declaration rest => simp [Outcome.ofParts]
  | nil =>
    cases added with
    | nil => rfl
    | cons declaration rest =>
      cases hbreaking : breakingAmong (declaration :: rest) <;> simp [Outcome.ofParts, hbreaking]

theorem removed_compareDeclarations (before after : List Declaration) :
    (compareDeclarations before after).removed = unmatched before after :=
  (parts_ofParts _ _).1

theorem added_compareDeclarations (before after : List Declaration) :
    (compareDeclarations before after).added = unmatched after before :=
  (parts_ofParts _ _).2

/-- The bump of a comparison is the one that goes with its reason. -/
theorem bump_compareDeclarations (before after : List Declaration) :
    (compareDeclarations before after).bump
      = (compareDeclarations before after).reason.bump :=
  bump_ofParts _ _

/-- A comparison is major exactly when something is removed or an addition is breaking. -/
theorem compareDeclarations_major_iff (before after : List Declaration) :
    (compareDeclarations before after).bump = .major
      ↔ unmatched before after ≠ [] ∨ breakingAmong (unmatched after before) ≠ [] := by
  rw [bump_compareDeclarations, compareDeclarations, reason_ofParts]
  by_cases hremoved : unmatched before after = []
  · by_cases hbreaking : breakingAmong (unmatched after before) = []
    · by_cases hadded : unmatched after before = []
      · simp [hremoved, hadded, breakingAmong_nil, Reason.bump]
      · simp [hremoved, hbreaking, hadded, Reason.bump]
    · simp [hremoved, hbreaking, Reason.bump]
  · simp [hremoved, Reason.bump]

end SchemaSemver
