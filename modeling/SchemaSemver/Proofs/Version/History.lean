/-
SchemaSemver.Proofs.Version.History — the version at the end of a history of changes.

A history is any list of changes, with or without bumps, made one after the other. From a stable
version it leads to a version that can be read off by counting (`foldl_expectedAfter_eq`):

  * the major component grows by the number of major bumps;
  * the minor component counts the minor bumps after the last major one, and starts at zero there;
  * the patch component counts the patches after the last major or minor one, likewise.

From a version before the first stable one, the first change leads to 1.0.0, whatever it is, and
the count starts there. So the floor moves a version at most once (`floorings_le_one`).

The proof is by induction from the end of the history: `afterHistory_concat` says that one more
change raises what the counts give.
-/
import Mathlib.Data.List.DropRight
import SchemaSemver.Proofs.Version.Order

namespace SchemaSemver

/-! ## §1 Counting after the last reset -/

/-- A component at the end of a history: how often it was raised after the last change that resets
it. Without such a change the count goes on from the start. -/
def tally (start : Int) (own : Bump) (resets : Option Bump → Bool) (changes : List (Option Bump)) :
    Int :=
  (if changes.any resets then 0 else start)
    + ((changes.rtakeWhile fun change => !resets change).count (some own) : Nat)

section Tally

variable {start : Int} {own : Bump} {resets : Option Bump → Bool} {change : Option Bump}

theorem tally_nil : tally start own resets [] = start := by
  simp [tally]

theorem tally_concat_reset (changes : List (Option Bump)) (h : resets change = true) :
    tally start own resets (changes ++ [change]) = 0 := by
  have hany : (changes ++ [change]).any resets = true := by simp [h]
  have hlast : (changes ++ [change]).rtakeWhile (fun change => !resets change) = [] :=
    List.rtakeWhile_concat_neg _ _ _ (by simp [h])
  simp [tally, hany, hlast]

theorem tally_concat_keep (changes : List (Option Bump)) (h : resets change = false) :
    tally start own resets (changes ++ [change])
      = tally start own resets changes + if change = some own then 1 else 0 := by
  have hany : (changes ++ [change]).any resets = changes.any resets := by simp [h]
  have hlast : (changes ++ [change]).rtakeWhile (fun change => !resets change)
      = changes.rtakeWhile (fun change => !resets change) ++ [change] :=
    List.rtakeWhile_concat_pos _ _ _ (by simp [h])
  unfold tally
  rw [hany, hlast, List.count_append]
  by_cases hown : change = some own
  · simp [hown, Int.add_assoc]
  · simp [hown]

end Tally

/-! ## §2 The closed form -/

/-- Does the change set the minor component to zero? -/
def resetsMinor (change : Option Bump) : Bool := change == some .major

/-- Does the change set the patch component to zero? -/
def resetsPatch (change : Option Bump) : Bool := change == some .major || change == some .minor

namespace SemVer

/-- The version that the counts of a history give. -/
def afterHistory (version : SemVer) (changes : List (Option Bump)) : SemVer where
  major := version.major + (changes.count (some .major) : Nat)
  minor := tally version.minor .minor resetsMinor changes
  patch := tally version.patch .patch resetsPatch changes

theorem afterHistory_nil (version : SemVer) : version.afterHistory [] = version := by
  simp [afterHistory, tally_nil]

theorem major_le_afterHistory (version : SemVer) (changes : List (Option Bump)) :
    version.major ≤ (version.afterHistory changes).major := by
  simp only [afterHistory]
  omega

/-- One more change raises the version that the counts gave so far. -/
theorem afterHistory_concat (version : SemVer) (changes : List (Option Bump))
    (change : Option Bump) :
    version.afterHistory (changes ++ [change]) = (version.afterHistory changes).raised change := by
  have hmajor : ((changes ++ [change]).count (some .major) : Nat)
      = changes.count (some .major) + if change = some .major then 1 else 0 := by
    rw [List.count_append]
    by_cases h : change = some .major <;> simp [h]
  unfold afterHistory
  rw [hmajor]
  cases change with
  | none =>
    rw [tally_concat_keep changes rfl, tally_concat_keep changes rfl]
    simp [raised]
  | some bump =>
    cases bump with
    | major =>
      rw [tally_concat_reset changes rfl, tally_concat_reset changes rfl]
      simp [raised, bumped, Int.add_assoc]
    | minor =>
      rw [tally_concat_keep changes rfl, tally_concat_reset changes rfl]
      simp [raised, bumped]
    | patch =>
      rw [tally_concat_keep changes rfl, tally_concat_keep changes rfl]
      simp [raised, bumped]

/-! ## §3 The floor -/

theorem expectedAfter_eq_floored (version : SemVer) (change : Option Bump) :
    version.expectedAfter change = (version.raised change).floored := by
  cases change <;> rfl

theorem expectedAfter_of_unstable {version : SemVer} (h : version.major ≤ 0)
    (change : Option Bump) : version.expectedAfter change = stableFloor := by
  rw [expectedAfter_eq, if_pos h]

theorem expectedAfter_of_stable {version : SemVer} (h : 1 ≤ version.major)
    (change : Option Bump) : version.expectedAfter change = version.raised change := by
  rw [expectedAfter_eq, if_neg (by omega)]

/-- What is expected is never before the first stable version. -/
theorem one_le_major_expectedAfter (version : SemVer) (change : Option Bump) :
    1 ≤ (version.expectedAfter change).major := by
  by_cases h : version.major ≤ 0
  · rw [expectedAfter_of_unstable h]
    exact Int.le_refl 1
  · have hle := le_expectedAfter version change
    rw [le_iff] at hle
    omega

/-- The number of steps of a history in which the floor replaces the raised version. -/
def floorings : SemVer → List (Option Bump) → Nat
  | _, [] => 0
  | version, change :: rest =>
    (if (version.raised change).floored = version.raised change then 0 else 1)
      + floorings (version.expectedAfter change) rest

/-- The floor leaves a history from a stable version alone. -/
theorem floorings_of_stable {version : SemVer} (h : 1 ≤ version.major)
    (changes : List (Option Bump)) : floorings version changes = 0 := by
  induction changes generalizing version with
  | nil => rfl
  | cons change rest ih =>
    have hsame : (version.raised change).floored = version.raised change := by
      rw [← expectedAfter_eq_floored, expectedAfter_of_stable h]
    rw [floorings, if_pos hsame, ih (one_le_major_expectedAfter version change)]

theorem floorings_le_one (version : SemVer) (changes : List (Option Bump)) :
    floorings version changes ≤ 1 := by
  cases changes with
  | nil => exact Nat.zero_le 1
  | cons change rest =>
    rw [floorings, floorings_of_stable (one_le_major_expectedAfter version change)]
    split <;> omega

/-! ## §4 Histories -/

/-- From a stable version every step raises, and the counts follow each step. -/
theorem foldl_of_stable {version : SemVer} (h : 1 ≤ version.major)
    (changes : List (Option Bump)) :
    changes.foldl expectedAfter version = version.afterHistory changes := by
  induction changes using List.reverseRecOn with
  | nil => exact (afterHistory_nil version).symm
  | append_singleton changes change ih =>
    have hstable : 1 ≤ (version.afterHistory changes).major :=
      Int.le_trans h (major_le_afterHistory version changes)
    rw [List.foldl_append, List.foldl_cons, List.foldl_nil, ih, expectedAfter_of_stable hstable,
      afterHistory_concat]

/-- **The closed form of a history.** From a stable version the counts give the version at the end.
From any other version the first change leads to 1.0.0 and the counts go on from there. In both
cases the floor replaces a version at most once. -/
theorem foldl_expectedAfter_eq (version : SemVer) (changes : List (Option Bump)) :
    (1 ≤ version.major → changes.foldl expectedAfter version = version.afterHistory changes)
    ∧ (version.major ≤ 0 → ∀ first rest, changes = first :: rest →
        version.expectedAfter first = ⟨1, 0, 0⟩
        ∧ changes.foldl expectedAfter version = afterHistory ⟨1, 0, 0⟩ rest)
    ∧ floorings version changes ≤ 1 := by
  refine ⟨fun h => foldl_of_stable h changes, ?_, floorings_le_one version changes⟩
  rintro h first rest rfl
  have hfirst : version.expectedAfter first = ⟨1, 0, 0⟩ := expectedAfter_of_unstable h first
  refine ⟨hfirst, ?_⟩
  rw [List.foldl_cons, hfirst]
  exact foldl_of_stable (Int.le_refl 1) rest

/-- Two histories with resets in the middle: one from 3.2.1, one from a negative version. -/
theorem history_of_mixed_bumps :
    [some .minor, some .major, none, some .patch, some .minor, some .patch, some .patch].foldl
        expectedAfter ⟨3, 2, 1⟩ = ⟨4, 1, 2⟩
    ∧ [some .major, some .minor, some .patch].foldl expectedAfter ⟨-2, 5, 9⟩ = ⟨1, 1, 1⟩ := by
  constructor
  · rw [(foldl_expectedAfter_eq ⟨3, 2, 1⟩ _).1 (by decide)]
    decide
  · rw [((foldl_expectedAfter_eq ⟨-2, 5, 9⟩ _).2.1 (by decide) _ _ rfl).2]
    decide

end SemVer

end SchemaSemver
