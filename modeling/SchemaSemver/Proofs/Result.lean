/-
SchemaSemver.Proofs.Result — results of steps that may fail.

Readers and checks are written as steps one after the other, each of which gives a value or a fault.
What such a sequence comes to is said here once: it gives a value when all its steps do, and
otherwise it has the fault of the first step that fails.
-/

namespace SchemaSemver

variable {ε α β : Type} {fault : ε}

theorem bind_eq_ok_iff {result : Except ε α} {next : α → Except ε β} {value : β} :
    result >>= next = .ok value ↔ ∃ first, result = .ok first ∧ next first = .ok value := by
  cases result with
  | error found => simp [bind, Except.bind]
  | ok first => simp [bind, Except.bind]

theorem bind_eq_error_iff {result : Except ε α} {next : α → Except ε β} :
    result >>= next = .error fault
      ↔ result = .error fault ∨ ∃ value, result = .ok value ∧ next value = .error fault := by
  cases result with
  | error found => simp [bind, Except.bind]
  | ok value => simp [bind, Except.bind]

theorem map_eq_error_iff {result : Except ε α} (f : α → β) :
    result.map f = .error fault ↔ result = .error fault := by
  cases result <;> simp [Except.map]

theorem mapError_eq_ok_iff {ε' : Type} {result : Except ε α} {f : ε → ε'} {value : α} :
    result.mapError f = .ok value ↔ result = .ok value := by
  cases result with
  | error found =>
    show Except.error (f found) = .ok value ↔ _
    simp
  | ok found =>
    show Except.ok found = .ok value ↔ _
    simp

theorem mapError_eq_error_iff {ε' : Type} {fault : ε'} {result : Except ε α} {f : ε → ε'} :
    result.mapError f = .error fault ↔ ∃ found, result = .error found ∧ f found = fault := by
  cases result with
  | error found =>
    show Except.error (f found) = .error fault ↔ _
    simp
  | ok value =>
    show Except.ok value = .error fault ↔ _
    simp

/-- A list fails at its first item that fails. -/
theorem mapM_eq_error_iff {f : α → Except ε β} {items : List α} :
    items.mapM f = .error fault ↔ ∃ before item after, items = before ++ item :: after
      ∧ (∀ earlier ∈ before, ∃ value, f earlier = .ok value) ∧ f item = .error fault := by
  induction items with
  | nil => simp [pure, Except.pure]
  | cons first rest ih =>
    rw [List.mapM_cons, bind_eq_error_iff]
    constructor
    · rintro (hfirst | ⟨value, hvalue, hrest⟩)
      · exact ⟨[], first, rest, rfl, by simp, hfirst⟩
      · have hfails : rest.mapM f = .error fault := by
          rcases bind_eq_error_iff.mp hrest with h | ⟨values, -, h⟩
          · exact h
          · cases h
        obtain ⟨before, item, after, rfl, hbefore, hitem⟩ := ih.mp hfails
        refine ⟨first :: before, item, after, rfl, ?_, hitem⟩
        simpa using ⟨⟨value, hvalue⟩, hbefore⟩
    · rintro ⟨before, item, after, hsplit, hbefore, hitem⟩
      cases before with
      | nil =>
        obtain ⟨rfl, rfl⟩ := List.cons.inj hsplit
        exact .inl hitem
      | cons earlier before =>
        obtain ⟨rfl, rfl⟩ := List.cons.inj hsplit
        obtain ⟨value, hvalue⟩ := hbefore first List.mem_cons_self
        refine .inr ⟨value, hvalue, bind_eq_error_iff.mpr (.inl (ih.mpr ?_))⟩
        have hrest : ∀ other ∈ before, ∃ value, f other = .ok value := fun other h =>
          hbefore other (List.mem_cons_of_mem first h)
        exact ⟨before, item, after, rfl, hrest, hitem⟩

end SchemaSemver
