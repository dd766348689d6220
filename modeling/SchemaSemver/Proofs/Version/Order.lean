/-
SchemaSemver.Proofs.Version.Order — versions in order, and how bumps move along it.

Versions are ordered by their components, the major one first. A change never leads to an earlier
version, and a more severe change never leads to an earlier version than a less severe one. So
changes that are made one after the other lead at least as far as any one of them would on its own
(`le_foldl_expectedAfter`). Negative components make no difference to that.
-/
import Mathlib.Order.Basic
import SchemaSemver.Proofs.Change.Compare
import SchemaSemver.Version.Policy

namespace SchemaSemver

/-! ## The order -/

namespace SemVer

/-- The first component in which two versions differ decides. -/
def IsAtMost (v w : SemVer) : Prop :=
  v.major < w.major ∨ v.major = w.major
    ∧ (v.minor < w.minor ∨ v.minor = w.minor ∧ v.patch ≤ w.patch)

instance : PartialOrder SemVer where
  le := IsAtMost
  le_refl v := Or.inr ⟨rfl, Or.inr ⟨rfl, Int.le_refl v.patch⟩⟩
  le_trans u v w huv hvw := by
    simp only [IsAtMost] at *
    omega
  le_antisymm v w hvw hwv := by
    obtain ⟨major, minor, patch⟩ := v
    obtain ⟨major', minor', patch'⟩ := w
    simp only [IsAtMost] at hvw hwv
    simp only [SemVer.mk.injEq]
    omega

theorem le_iff {v w : SemVer} :
    v ≤ w ↔ v.major < w.major ∨ v.major = w.major
      ∧ (v.minor < w.minor ∨ v.minor = w.minor ∧ v.patch ≤ w.patch) :=
  Iff.rfl

end SemVer

/-- How severe a change is, if there is one. -/
def changeSeverity : Option Bump → Nat
  | none => 0
  | some bump => bump.severity

/-! ## Changes and the order -/

namespace SemVer

/-- The version that follows, before the floor applies. -/
def raised (version : SemVer) : Option Bump → SemVer
  | none => version
  | some bump => version.bumped bump

/-- Only versions before the first stable one are floored, whatever the change. -/
theorem expectedAfter_eq (version : SemVer) (change : Option Bump) :
    version.expectedAfter change
      = if version.major ≤ 0 then stableFloor else version.raised change := by
  obtain ⟨major, minor, patch⟩ := version
  rcases change with - | bump
  · rfl
  cases bump with
  | major =>
    by_cases h : major ≤ 0
    · rcases Int.lt_or_eq_of_le h with hneg | rfl
      · simp [expectedAfter, bumped, floored, h, show major + 1 ≤ 0 by omega]
      · rfl
    · simp [expectedAfter, bumped, floored, raised, h, show ¬ major + 1 ≤ 0 by omega]
  | _ => rfl

theorem raised_le_raised {change change' : Option Bump} (version : SemVer)
    (h : changeSeverity change ≤ changeSeverity change') :
    version.raised change ≤ version.raised change' := by
  rw [le_iff]
  -- all pairs of changes; those in the wrong order contradict the severities
  rcases change with - | - | - | - <;> rcases change' with - | - | - | - <;>
    simp only [changeSeverity, Bump.severity] at h <;>
    simp only [raised, bumped, true_and] <;> omega

/-- A change never leads to an earlier version. -/
theorem le_expectedAfter (version : SemVer) (change : Option Bump) :
    version ≤ version.expectedAfter change := by
  rw [expectedAfter_eq]
  split
  · rw [le_iff]
    simp only [stableFloor]
    omega
  · have hnone : changeSeverity none ≤ changeSeverity change := Nat.zero_le _
    exact raised_le_raised version hnone

/-- A more severe change never leads to an earlier version. -/
theorem expectedAfter_le_expectedAfter {change change' : Option Bump} (version : SemVer)
    (h : changeSeverity change ≤ changeSeverity change') :
    version.expectedAfter change ≤ version.expectedAfter change' := by
  rw [expectedAfter_eq, expectedAfter_eq]
  split
  · exact le_refl _
  · exact raised_le_raised version h

theorem raised_mono {v w : SemVer} (h : v ≤ w) (change : Option Bump) :
    v.raised change ≤ w.raised change := by
  rcases change with - | bump
  · exact h
  · rw [le_iff] at h ⊢
    cases bump <;> simp only [raised, bumped, true_and] <;> omega

/-- Another change first leads no less far. Before the first stable version that is because the
floor decides, afterwards because raising is monotone. -/
theorem expectedAfter_le_expectedAfter_twice (version : SemVer) (first change : Option Bump) :
    version.expectedAfter change ≤ (version.expectedAfter first).expectedAfter change := by
  by_cases h : version.major ≤ 0
  · have hfloor : ∀ change, version.expectedAfter change = stableFloor := fun change => by
      rw [expectedAfter_eq, if_pos h]
    rw [hfloor, hfloor]
    exact le_expectedAfter stableFloor change
  · have hle := le_expectedAfter version first
    have hstable : ¬ (version.expectedAfter first).major ≤ 0 := by
      rw [le_iff] at hle
      omega
    rw [expectedAfter_eq version change, if_neg h, expectedAfter_eq _ change, if_neg hstable]
    exact raised_mono hle change

/-! ## Changes one after the other -/

theorem le_foldl (version : SemVer) (changes : List (Option Bump)) :
    version ≤ changes.foldl expectedAfter version := by
  induction changes generalizing version with
  | nil => exact le_refl version
  | cons change rest ih => exact (le_expectedAfter version change).trans (ih _)

/-- Changes that are made one after the other lead at least as far as any change that is no more
severe than one of them. -/
theorem le_foldl_expectedAfter {change step : Option Bump} {steps : List (Option Bump)}
    (hstep : step ∈ steps) (h : changeSeverity change ≤ changeSeverity step) (version : SemVer) :
    version.expectedAfter change ≤ steps.foldl expectedAfter version := by
  induction steps generalizing version with
  | nil => cases hstep
  | cons first rest ih =>
    rw [List.foldl_cons]
    rcases List.mem_cons.mp hstep with rfl | hrest
    · exact (expectedAfter_le_expectedAfter version h).trans (le_foldl _ rest)
    · exact (expectedAfter_le_expectedAfter_twice version first change).trans (ih hrest _)

end SemVer

end SchemaSemver
