/-
SchemaSemver.Proofs.Check.Releases — one check for many releases.

Releases can be checked one after the other, or the last against the first. The one check over all
of them never demands more than the checks of the steps together: its bump is no more severe than
that of some step, and its expected version is not later than the one that the steps lead to
(`direct_check_demands_no_more`).

Each text must be checkable: it gives well-formed definitions, they extract completely, and none of
them refers to a type `POSSIBLE_OBJECT`. With such a reference a step could miss a new possible type
that the one check over all steps finds.
-/
import SchemaSemver.Check.Run
import SchemaSemver.Proofs.Change.Composition
import SchemaSemver.Proofs.Version.Order

namespace SchemaSemver

/-! ## Texts that can be checked -/

/-- The text gives well-formed definitions that extract completely, and no reference ends in the
name that possible types are declared with. -/
structure ChecksAs (text : String) (definitions : List TypeDefinition) : Prop where
  parsed : definitionsOfText text = .ok definitions
  complete : (extract definitions).isComplete = true
  wellFormed : WellFormed definitions
  plain : ∀ definition ∈ definitions, ∀ type ∈ definition.references,
    type.leaf.name ≠ "POSSIBLE_OBJECT"

theorem ChecksAs.comparable {text : String} {definitions : List TypeDefinition}
    (h : ChecksAs text definitions) : Comparable definitions where
  wellFormed := h.wellFormed
  supported := (isComplete_extract_iff definitions).mp h.complete
  plain := h.plain

/-- Equal texts give equal definitions. -/
theorem ChecksAs.unique {text : String} {definitions definitions' : List TypeDefinition}
    (h : ChecksAs text definitions) (h' : ChecksAs text definitions') :
    definitions = definitions' :=
  Except.ok.inj (h.parsed.symm.trans h'.parsed)

/-- The text gives definitions that it checks as. -/
def IsCheckable (text : String) : Prop := ∃ definitions, ChecksAs text definitions

instance (text : String) : Decidable (IsCheckable text) :=
  match h : definitionsOfText text with
  | .error _ => isFalse fun ⟨_, hd⟩ => by cases h.symm.trans hd.parsed
  | .ok definitions =>
    decidable_of_iff
      ((extract definitions).isComplete = true ∧ WellFormed definitions
        ∧ ∀ definition ∈ definitions, ∀ type ∈ definition.references,
          type.leaf.name ≠ "POSSIBLE_OBJECT")
      ⟨fun hd => ⟨definitions, h, hd.1, hd.2.1, hd.2.2⟩, fun ⟨_, hd⟩ => by
        obtain rfl := Except.ok.inj (h.symm.trans hd.parsed)
        exact ⟨hd.complete, hd.wellFormed, hd.plain⟩⟩

/-! ## Bumps between texts -/

/-- The bump from one text to another, none if they are equal. -/
def bumpBetween (base head : String) : Except CheckFault (Option Bump) :=
  (changeBetween base head).result.map (Option.map Outcome.bump)

/-- The bumps from each text to the next. -/
def stepBumps : String → List String → Except CheckFault (List (Option Bump))
  | _, [] => .ok []
  | base, head :: rest => do
    let bump ← bumpBetween base head
    let bumps ← stepBumps head rest
    return bump :: bumps

section Between

variable {base head : String} {before after : List TypeDefinition}

theorem ChecksAs.extractText {text : String} {definitions : List TypeDefinition}
    (h : ChecksAs text definitions) : extractText text = .ok (extract definitions) := by
  rw [SchemaSemver.extractText, h.parsed]
  rfl

theorem result_compareTexts (hb : ChecksAs base before) (ha : ChecksAs head after) :
    (compareTexts base head).result
      = .ok (compareDeclarations (extract before).declarations (extract after).declarations) := by
  rw [compareTexts, hb.extractText, ha.extractText]
  exact result_compareExtractions hb.complete ha.complete

/-- Texts that can be checked have a bump, the one that their definitions call for. -/
theorem bumpBetween_of_checksAs (hb : ChecksAs base before) (ha : ChecksAs head after) :
    bumpBetween base head
      = .ok (if base = head then none else some (referenceReason before after).bump) := by
  rw [bumpBetween, changeBetween]
  split
  · rfl
  · rw [Logged.result_bind, result_compareTexts hb ha]
    exact congrArg (fun bump => Except.ok (some bump)) (bump_extract hb.comparable ha.comparable)

end Between

/-! ## Steps -/

section Steps

variable {first second third : String} {d₁ d₂ d₃ : List TypeDefinition}

/-- A step between two texts splits at any third: one of the parts is at least as severe. -/
theorem bumpBetween_split (h₁ : ChecksAs first d₁) (h₂ : ChecksAs second d₂)
    (h₃ : ChecksAs third d₃) :
    ∃ direct start rest, bumpBetween first third = .ok direct
      ∧ bumpBetween first second = .ok start ∧ bumpBetween second third = .ok rest
      ∧ (changeSeverity direct ≤ changeSeverity start
        ∨ changeSeverity direct ≤ changeSeverity rest) := by
  refine ⟨_, _, _, bumpBetween_of_checksAs h₁ h₃, bumpBetween_of_checksAs h₁ h₂,
    bumpBetween_of_checksAs h₂ h₃, ?_⟩
  by_cases hends : first = third
  · rw [if_pos hends]
    exact Or.inl (Nat.zero_le _)
  by_cases hstart : first = second
  · -- the first part is empty, so the second is the whole
    subst hstart
    rw [h₁.unique h₂]
    exact Or.inr (le_refl _)
  by_cases hrest : second = third
  · subst hrest
    rw [h₂.unique h₃]
    exact Or.inl (le_refl _)
  rw [if_neg hends, if_neg hstart, if_neg hrest]
  exact le_max_iff.mp (severity_referenceReason_le d₁ d₃ d₂)

/-- The bump over a chain of texts is no more severe than that of some step. -/
theorem stepBumps_of_checksAs (first : String) (rest : List String) (hrest : rest ≠ [])
    (h : ∀ text ∈ first :: rest, IsCheckable text) :
    ∃ steps direct, stepBumps first rest = .ok steps
      ∧ bumpBetween first (rest.getLast hrest) = .ok direct
      ∧ ∃ step ∈ steps, changeSeverity direct ≤ changeSeverity step := by
  induction rest generalizing first with
  | nil => exact absurd rfl hrest
  | cons second others ih =>
    obtain ⟨d₁, h₁⟩ := h first List.mem_cons_self
    obtain ⟨d₂, h₂⟩ := h second (List.mem_cons_of_mem _ List.mem_cons_self)
    cases others with
    | nil =>
      have hbump := bumpBetween_of_checksAs h₁ h₂
      refine ⟨[_], _, ?_, hbump, _, List.mem_cons_self, le_refl _⟩
      rw [stepBumps, hbump]
      rfl
    | cons third more =>
      -- the whole splits at its second text, and the induction covers the second part
      have hne : third :: more ≠ [] := List.cons_ne_nil _ _
      obtain ⟨steps, later, hsteps, hlater, step, hmem, hle⟩ :=
        ih second hne fun text ht => h text (List.mem_cons_of_mem _ ht)
      obtain ⟨d₃, h₃⟩ := h ((third :: more).getLast hne)
        (List.mem_cons_of_mem _ (List.mem_cons_of_mem _ (List.getLast_mem hne)))
      obtain ⟨direct, start, later', hdirect, hstart, hlater', hsplit⟩ :=
        bumpBetween_split h₁ h₂ h₃
      obtain rfl : later = later' := Except.ok.inj (hlater.symm.trans hlater')
      refine ⟨start :: steps, direct, ?_, ?_, ?_⟩
      · rw [stepBumps, hstart, hsteps]
        rfl
      · rw [List.getLast_cons hne]
        exact hdirect
      · rcases hsplit with h | h
        · exact ⟨start, List.mem_cons_self, h⟩
        · exact ⟨step, List.mem_cons_of_mem _ hmem, h.trans hle⟩

end Steps

/-- **One check demands no more than many.** Take a chain of at least two texts, each of which can
be checked. All steps and the change from the first text to the last have a bump. That of the whole
is no more severe than that of some step; and from any version, the whole leads no further than the
steps do one after the other. -/
theorem direct_check_demands_no_more (first : String) (rest : List String) (hrest : rest ≠ [])
    (h : ∀ text ∈ first :: rest, IsCheckable text) :
    ∃ steps direct, stepBumps first rest = .ok steps
      ∧ bumpBetween first (rest.getLast hrest) = .ok direct
      ∧ (∃ step ∈ steps, changeSeverity direct ≤ changeSeverity step)
      ∧ ∀ version : SemVer,
        version.expectedAfter direct ≤ steps.foldl SemVer.expectedAfter version := by
  obtain ⟨steps, direct, hsteps, hdirect, step, hmem, hle⟩ :=
    stepBumps_of_checksAs first rest hrest h
  exact ⟨steps, direct, hsteps, hdirect, ⟨step, hmem, hle⟩,
    SemVer.le_foldl_expectedAfter hmem hle⟩

/-- A field is replaced in two steps, the new one being there before the old one goes. -/
theorem field_replaced_in_two_steps :
    ∃ steps direct,
      stepBumps "type Query{a:Int}" ["type Query{a:Int b:Int}", "type Query{b:Int}"] = .ok steps
      ∧ bumpBetween "type Query{a:Int}" "type Query{b:Int}" = .ok direct
      ∧ (∃ step ∈ steps, changeSeverity direct ≤ changeSeverity step)
      ∧ ∀ version : SemVer,
        version.expectedAfter direct ≤ steps.foldl SemVer.expectedAfter version :=
  direct_check_demands_no_more "type Query{a:Int}"
    ["type Query{a:Int b:Int}", "type Query{b:Int}"] (List.cons_ne_nil _ _) (by decide +kernel)

end SchemaSemver
