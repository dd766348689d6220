/-
SchemaSemver.Proofs.Change.Composition — one change as two.

A change from one list of definitions to another by way of a third is no more severe than the more
severe of the two parts. What is lost on the whole way is lost on one part; and a type that is kept
on both parts has a counterpart in the middle, which either has a gained member already or gains it
on the second part.
-/
import Mathlib.Order.MinMax
import SchemaSemver.Proofs.Change.Reference

namespace SchemaSemver

/-! ## Losses and gains on the way -/

/-- A type that is kept on both parts is kept on the whole way. -/
theorem TypeDefinition.IsKeptBy.trans {first second third : TypeDefinition}
    (h : first.IsKeptBy second) (h' : second.IsKeptBy third) : first.IsKeptBy third := by
  obtain ⟨hname, hheading, hmembers⟩ := h
  obtain ⟨hname', hheading', hmembers'⟩ := h'
  refine ⟨hname'.trans hname, hheading'.trans hheading, fun member hm => ?_⟩
  exact hmembers' member (hmembers member hm)

section Parts

variable {before between after : List TypeDefinition}

/-- What is lost is lost on one of the parts. -/
theorem Loses.parts (between : List TypeDefinition) (h : Loses before after) :
    Loses before between ∨ Loses between after := by
  by_contra hnone
  obtain ⟨hfirst, hsecond⟩ := not_or.mp hnone
  refine not_loses_iff.mpr (fun old ho => ?_) h
  obtain ⟨middle, hm, hkept⟩ := not_loses_iff.mp hfirst old ho
  obtain ⟨new, hn, hkept'⟩ := not_loses_iff.mp hsecond middle hm
  exact ⟨new, hn, hkept.trans hkept'⟩

/-- A breaking member that is gained is gained on one of the parts, if the first loses nothing. -/
theorem GainsBreaking.parts (hfirst : ¬ Loses before between) (h : GainsBreaking before after) :
    GainsBreaking before between ∨ GainsBreaking between after := by
  obtain ⟨old, ho, new, hn, hname, member, hm, hbreaking, hnew⟩ := h
  obtain ⟨middle, hmiddle, hname', -⟩ := not_loses_iff.mp hfirst old ho
  by_cases hthere : member ∈ middle.members
  · exact Or.inl ⟨old, ho, middle, hmiddle, hname', member, hthere, hbreaking, hnew⟩
  · exact Or.inr ⟨middle, hmiddle, new, hn, hname.trans hname'.symm, member, hm, hbreaking, hthere⟩

/-- What is gained is gained on one of the parts. -/
theorem Gains.parts (between : List TypeDefinition) (h : Gains before after) :
    Gains before between ∨ Gains between after := by
  obtain ⟨new, hn, hgain⟩ := h
  by_cases hsecond : ∀ middle ∈ between, middle.name = new.name →
      ∃ member ∈ new.members, member ∉ middle.members
  · exact Or.inr ⟨new, hn, hsecond⟩
  · push Not at hsecond
    obtain ⟨middle, hmiddle, hname, hall⟩ := hsecond
    refine Or.inl ⟨middle, hmiddle, fun old ho hold => ?_⟩
    obtain ⟨member, hm, hnew⟩ := hgain old ho (hold.trans hname)
    exact ⟨member, hall member hm, hnew⟩

end Parts

/-! ## The severity of the whole -/

section Severity

variable (before after : List TypeDefinition)

theorem severity_referenceReason :
    (referenceReason before after).bump.severity
      = if Loses before after ∨ GainsBreaking before after then 3
        else if Gains before after then 2 else 1 := by
  unfold referenceReason
  by_cases hloses : Loses before after
  · simp [hloses, Reason.bump, Bump.severity]
  · by_cases hbreaking : GainsBreaking before after
    · simp [hloses, hbreaking, Reason.bump, Bump.severity]
    · by_cases hgains : Gains before after <;>
        simp [hloses, hbreaking, hgains, Reason.bump, Bump.severity]

theorem two_le_severity_of_gains {before after : List TypeDefinition} (h : Gains before after) :
    2 ≤ (referenceReason before after).bump.severity := by
  rw [severity_referenceReason, if_pos h]
  split <;> omega

theorem one_le_severity (bump : Bump) : 1 ≤ bump.severity := by
  cases bump <;> decide

/-- **The whole is no more severe than its parts.** -/
theorem severity_referenceReason_le (between : List TypeDefinition) :
    (referenceReason before after).bump.severity
      ≤ max (referenceReason before between).bump.severity
        (referenceReason between after).bump.severity := by
  have hmajor : Loses before after ∨ GainsBreaking before after →
      (Loses before between ∨ GainsBreaking before between)
        ∨ (Loses between after ∨ GainsBreaking between after) := by
    rintro (h | h)
    · exact (h.parts between).imp Or.inl Or.inl
    · by_cases hfirst : Loses before between
      · exact Or.inl (Or.inl hfirst)
      · exact (h.parts hfirst).imp Or.inr Or.inr
  rw [severity_referenceReason before after]
  split_ifs with hthree htwo
  · rcases hmajor hthree with h | h
    · exact le_max_of_le_left (by rw [severity_referenceReason, if_pos h])
    · exact le_max_of_le_right (by rw [severity_referenceReason, if_pos h])
  · rcases htwo.parts between with h | h
    · exact le_max_of_le_left (two_le_severity_of_gains h)
    · exact le_max_of_le_right (two_le_severity_of_gains h)
  · exact le_max_of_le_left (one_le_severity _)

end Severity

end SchemaSemver
