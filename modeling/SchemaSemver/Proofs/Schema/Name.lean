/-
SchemaSemver.Proofs.Schema.Name — names, and the paths that are made of them.

A GraphQL name holds letters, digits and underscores only. So it has none of the characters that
signatures and paths are punctuated with, and a path `Type.member` gives back its two names and
is never a name itself.
-/
import SchemaSemver.Proofs.Text.Joined
import SchemaSemver.Schema.Extraction
import SchemaSemver.Sdl.Lexer

namespace SchemaSemver

/-! ## Names -/

/-- Is the text a name of the GraphQL grammar? -/
def isName (text : String) : Bool :=
  match text.toList with
  | [] => false
  | first :: rest => Sdl.isNameStart first && rest.all Sdl.isNameContinue

theorem isNameContinue_of_isNameStart {c : Char} (h : Sdl.isNameStart c = true) :
    Sdl.isNameContinue c = true := by
  simp only [Sdl.isNameStart, Sdl.isNameContinue, Char.isAlphanum, Bool.or_eq_true] at h ⊢
  rcases h with h | h
  · exact Or.inl (Or.inl h)
  · exact Or.inr h

theorem toList_ne_nil_of_isName {name : String} (h : isName name = true) : name.toList ≠ [] := by
  intro hnil
  simp [isName, hnil] at h

/-- Every character of a name may continue a name. -/
theorem isNameContinue_of_mem {name : String} (h : isName name = true) {c : Char}
    (hc : c ∈ name.toList) : Sdl.isNameContinue c = true := by
  unfold isName at h
  cases hl : name.toList with
  | nil => simp [hl] at hc
  | cons first rest =>
    simp only [hl, Bool.and_eq_true, List.all_eq_true] at h
    rw [hl] at hc
    rcases List.mem_cons.mp hc with rfl | hc
    · exact isNameContinue_of_isNameStart h.1
    · exact h.2 c hc

/-- Punctuation has no place in a name. -/
theorem not_mem_of_isName {name : String} (h : isName name = true) {c : Char}
    (hc : Sdl.isNameContinue c = false) : c ∉ name.toList := by
  intro hm
  simp [isNameContinue_of_mem h hm] at hc

/-- A name is a part of a text joined by commas. -/
theorem isPart_of_isName {name : String} (h : isName name = true) : Text.IsPart name :=
  ⟨toList_ne_nil_of_isName h, not_mem_of_isName h (by decide)⟩

/-- The mark for no parent is not a name. -/
theorem ne_noParent_of_isName {name : String} (h : isName name = true) :
    name ≠ Declaration.noParent := by
  rintro rfl
  exact absurd h (by decide)

/-! ## Paths of members -/

theorem toList_memberPath (typeName memberName : String) :
    (memberPath typeName memberName).toList
      = typeName.toList ++ '.' :: memberName.toList := by
  simp [memberPath, String.toList_append]

/-- The path of a member gives back the type, if its name has no dot, and the member. -/
theorem memberPath_inj {t₁ t₂ m₁ m₂ : String} (h₁ : '.' ∉ t₁.toList) (h₂ : '.' ∉ t₂.toList) :
    memberPath t₁ m₁ = memberPath t₂ m₂ ↔ t₁ = t₂ ∧ m₁ = m₂ := by
  constructor
  · intro h
    have hl := congrArg String.toList h
    rw [toList_memberPath, toList_memberPath] at hl
    obtain ⟨ht, hm⟩ := Text.cut_unique h₁ h₂ hl
    exact ⟨String.toList_injective ht, String.toList_injective hm⟩
  · rintro ⟨rfl, rfl⟩
    rfl

/-- What has no dot is not the path of a member. -/
theorem ne_memberPath {name : String} (h : '.' ∉ name.toList) (typeName memberName : String) :
    name ≠ memberPath typeName memberName := by
  rintro rfl
  exact h (by rw [toList_memberPath]; simp)

theorem dot_not_mem_of_isName {name : String} (h : isName name = true) : '.' ∉ name.toList :=
  not_mem_of_isName h (by decide)

end SchemaSemver
