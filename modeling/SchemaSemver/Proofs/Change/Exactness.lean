/-
SchemaSemver.Proofs.Change.Exactness — a comparison is an exact and reversible difference.

The outcome is rebuilt in each branch of the classification, partly with empty lists written out.
Still its lists are the whole difference whatever the branch (`isDifference`): what was removed and
added is what has no identity on the other side, in order and with repetitions, and it leads from
the identities before to those after. The bump is that of a patch exactly when the two sides have
the same identities.

The comparison in the other direction swaps the two lists (`isReverse`), so a change that only adds
is undone by one that removes. Nothing is asked of the declarations: identities may repeat, with
different parents.
-/
import Mathlib.Data.Finset.SDiff
import SchemaSemver.Proofs.Change.Compare

namespace SchemaSemver

/-! ## §1 Identities -/

/-- The identities of some declarations; order, repetition and parents do not matter. -/
def identities (declarations : List Declaration) : Finset (String × String) :=
  (declarations.map Declaration.identity).toFinset

section Identities

variable {declarations counterpart : List Declaration}

theorem mem_identities {identity : String × String} :
    identity ∈ identities declarations
      ↔ ∃ declaration ∈ declarations, declaration.identity = identity := by
  rw [identities, List.mem_toFinset, List.mem_map]

theorem identity_mem_identities {declaration : Declaration} (h : declaration ∈ declarations) :
    declaration.identity ∈ identities declarations :=
  mem_identities.mpr ⟨declaration, h, rfl⟩

/-- What is unmatched is what has no identity on the other side. -/
theorem unmatched_eq_filter (declarations counterpart : List Declaration) :
    unmatched declarations counterpart
      = declarations.filter fun declaration => declaration.identity ∉ identities counterpart := by
  unfold unmatched identities
  refine List.filter_congr fun declaration _ => ?_
  rw [Bool.eq_iff_iff]
  simp only [List.contains_eq_mem, Bool.not_eq_true', decide_eq_false_iff_not, decide_eq_true_eq,
    List.mem_toFinset]

theorem identities_unmatched (declarations counterpart : List Declaration) :
    identities (unmatched declarations counterpart)
      = identities declarations \ identities counterpart := by
  ext identity
  rw [Finset.mem_sdiff, mem_identities, mem_identities]
  constructor
  · rintro ⟨declaration, hd, rfl⟩
    obtain ⟨hmem, hnone⟩ := mem_unmatched_iff.mp hd
    exact ⟨⟨declaration, hmem, rfl⟩, fun h => hnone (mem_identities.mp h)⟩
  · rintro ⟨⟨declaration, hd, rfl⟩, hnone⟩
    exact ⟨declaration, mem_unmatched_iff.mpr ⟨hd, fun h => hnone (mem_identities.mpr h)⟩, rfl⟩

/-- Nothing is unmatched exactly when every identity is on the other side. -/
theorem unmatched_eq_nil_iff_subset :
    unmatched declarations counterpart = [] ↔ identities declarations ⊆ identities counterpart := by
  rw [unmatched_eq_nil_iff]
  constructor
  · intro h identity hidentity
    obtain ⟨declaration, hd, rfl⟩ := mem_identities.mp hidentity
    exact mem_identities.mpr (h declaration hd)
  · intro h declaration hd
    exact mem_identities.mp (h (identity_mem_identities hd))

end Identities

/-! ## §2 Which list decides -/

section Classification

variable (before after : List Declaration)

theorem reason_compareDeclarations :
    (compareDeclarations before after).reason
      = if unmatched before after ≠ [] then .removals
        else if breakingAmong (unmatched after before) ≠ [] then .breakingAdditions
        else if unmatched after before ≠ [] then .additions
        else .unchanged :=
  reason_ofParts _ _

theorem breakingAdditions_compareDeclarations :
    (compareDeclarations before after).breakingAdditions
      = if unmatched before after = [] then breakingAmong (unmatched after before) else [] :=
  breakingAdditions_ofParts _ _

/-- Breaking additions are named exactly when they are the reason. -/
theorem breakingAdditions_ne_nil_iff :
    (compareDeclarations before after).breakingAdditions ≠ []
      ↔ (compareDeclarations before after).reason = .breakingAdditions := by
  rw [breakingAdditions_compareDeclarations, reason_compareDeclarations]
  by_cases hremoved : unmatched before after = []
  · by_cases hbreaking : breakingAmong (unmatched after before) = []
    · by_cases hadded : unmatched after before = [] <;> simp [hremoved, hbreaking, hadded]
    · simp [hremoved, hbreaking]
  · simp [hremoved]

/-- Only a patch removes and adds nothing. -/
theorem bump_eq_patch_iff :
    (compareDeclarations before after).bump = .patch
      ↔ unmatched before after = [] ∧ unmatched after before = [] := by
  rw [bump_compareDeclarations, reason_compareDeclarations]
  by_cases hremoved : unmatched before after = []
  · by_cases hadded : unmatched after before = []
    · simp [hremoved, hadded, breakingAmong_nil, Reason.bump]
    · by_cases hbreaking : breakingAmong (unmatched after before) = [] <;>
        simp [hremoved, hadded, hbreaking, Reason.bump]
  · simp [hremoved, Reason.bump]

theorem reason_eq_removals_iff :
    (compareDeclarations before after).reason = .removals ↔ unmatched before after ≠ [] := by
  rw [reason_compareDeclarations]
  by_cases hremoved : unmatched before after = []
  · simp only [hremoved, ne_eq, not_true_eq_false, if_false, iff_false]
    split
    · simp
    · split <;> simp
  · simp [hremoved]

/-- What is no patch and removes nothing adds something. -/
theorem added_ne_nil_of_reason
    (h : (compareDeclarations before after).bump = .minor
      ∨ (compareDeclarations before after).reason = .breakingAdditions) :
    unmatched after before ≠ [] := by
  intro hadded
  rw [bump_compareDeclarations, reason_compareDeclarations, hadded, breakingAmong_nil] at h
  by_cases hremoved : unmatched before after = [] <;> simp [hremoved, Reason.bump] at h

end Classification

/-! ## §3 The difference, forward and backward -/

namespace Outcome

/-- The outcome says all that is different between two lists of declarations, and nothing else. -/
structure IsDifference (outcome : Outcome) (before after : List Declaration) : Prop where
  removed : outcome.removed
    = before.filter fun declaration => declaration.identity ∉ identities after
  added : outcome.added
    = after.filter fun declaration => declaration.identity ∉ identities before
  restores : identities before \ identities outcome.removed ∪ identities outcome.added
    = identities after
  changes : outcome.hasChanges = true ↔ outcome.bump ≠ .patch
  patch : outcome.bump = .patch ↔ identities before = identities after
  breaking : outcome.breakingAdditions.Sublist outcome.added
  reason : outcome.breakingAdditions ≠ [] ↔ outcome.reason = .breakingAdditions

/-- One outcome undoes the other: it removes what the other added, and the other way round. Where
the other only added, it is major because of what it removes. -/
structure IsReverse (backward forward : Outcome) : Prop where
  removed : backward.removed = forward.added
  added : backward.added = forward.removed
  patch : backward.bump = .patch ↔ forward.bump = .patch
  major : forward.bump = .minor
      ∨ (forward.bump = .major ∧ forward.reason = .breakingAdditions) →
    backward.bump = .major ∧ backward.reason = .removals

end Outcome

section Difference

variable (before after : List Declaration)

theorem isDifference : (compareDeclarations before after).IsDifference before after where
  removed := by rw [removed_compareDeclarations, unmatched_eq_filter]
  added := by rw [added_compareDeclarations, unmatched_eq_filter]
  restores := by
    -- what stays is what both sides have; with the additions that is all there is after
    rw [removed_compareDeclarations, added_compareDeclarations, identities_unmatched,
      identities_unmatched, sdiff_sdiff_right_self, Finset.inf_eq_inter, Finset.inter_comm,
      Finset.union_comm, Finset.sdiff_union_inter]
  changes := by
    rw [Outcome.hasChanges, Ne, bump_eq_patch_iff, removed_compareDeclarations,
      added_compareDeclarations]
    by_cases hremoved : unmatched before after = [] <;> simp [hremoved]
  patch := by
    rw [bump_eq_patch_iff, unmatched_eq_nil_iff_subset, unmatched_eq_nil_iff_subset]
    exact Finset.Subset.antisymm_iff.symm
  breaking := by
    rw [breakingAdditions_compareDeclarations, added_compareDeclarations]
    split
    · exact List.filter_sublist
    · exact List.nil_sublist _
  reason := breakingAdditions_ne_nil_iff before after

theorem isReverse :
    (compareDeclarations after before).IsReverse (compareDeclarations before after) where
  removed := by rw [removed_compareDeclarations, added_compareDeclarations]
  added := by rw [removed_compareDeclarations, added_compareDeclarations]
  patch := by rw [bump_eq_patch_iff, bump_eq_patch_iff, and_comm]
  major h := by
    have hreason : (compareDeclarations after before).reason = .removals := by
      rw [reason_eq_removals_iff]
      exact added_ne_nil_of_reason before after (h.imp id And.right)
    exact ⟨by rw [bump_compareDeclarations, hreason]; rfl, hreason⟩

end Difference

/-- **A comparison is exact and reversible.** For any two lists of declarations, what the outcome
removes and adds is what has no identity on the other side, and leads from the identities before
to those after; it has changes exactly when it is no patch, and it is a patch exactly when the
identities are the same; breaking additions are some of the additions, named exactly when they are
the reason. The comparison in the other direction removes what was added and adds what was removed,
and it is major because of its removals wherever the first was minor, or major because of its
additions. -/
theorem comparison_exact_and_reversible (before after : List Declaration) :
    (compareDeclarations before after).IsDifference before after
    ∧ (compareDeclarations after before).IsReverse (compareDeclarations before after) :=
  ⟨isDifference before after, isReverse before after⟩

end SchemaSemver
