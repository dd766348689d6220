/-
SchemaSemver.Proofs.Version.Marker — what a marker can hold.

The reader of markers is the only place where versions come from outside. It lets no negative
component through (`nonnegative_of_parseMarker`).
-/
import SchemaSemver.Proofs.Result
import SchemaSemver.Version.Marker

namespace SchemaSemver.SemVer

/-- No component of the version is negative. -/
structure IsNonnegative (version : SemVer) : Prop where
  major : 0 ≤ version.major
  minor : 0 ≤ version.minor
  patch : 0 ≤ version.patch

theorem component_nonnegative {members : List Json.Member} {name : String} {n : Int}
    (h : component members name = .ok n) : 0 ≤ n := by
  unfold component at h
  split at h
  · split at h
    · cases h
    · rename_i hneg
      cases h
      omega
  · cases h

theorem nonnegative_of_ofValue {value : Json.Value} {version : SemVer}
    (h : ofValue value = .ok version) : version.IsNonnegative := by
  cases value with
  | object members =>
    rw [ofValue] at h
    cases hmajor : component members "major" with
    | error fault => rw [hmajor] at h; cases h
    | ok major =>
      cases hminor : component members "minor" with
      | error fault => rw [hmajor, hminor] at h; cases h
      | ok minor =>
        cases hpatch : component members "patch" with
        | error fault => rw [hmajor, hminor, hpatch] at h; cases h
        | ok patch =>
          rw [hmajor, hminor, hpatch] at h
          cases h
          exact ⟨component_nonnegative hmajor, component_nonnegative hminor,
            component_nonnegative hpatch⟩
  | _ => cases h

/-- A marker never holds a negative component. -/
theorem nonnegative_of_parseMarker {text : String} {version : SemVer}
    (h : parseMarker text = .ok version) : version.IsNonnegative := by
  unfold parseMarker at h
  split at h
  · exact nonnegative_of_ofValue (mapError_eq_ok_iff.mp h)
  · cases h
  · cases h

end SchemaSemver.SemVer
