/-
SchemaSemver.Proofs.Text.Joined — a text cut at a separator, and joined texts read back.

`cut_unique` is the one fact about separators: two texts that are cut at the first place of the
same character are cut into the same parts. `joinWith_comma_injective` follows: texts joined by
commas, none of them empty or with a comma inside, can be told apart from the joined text alone.
-/
import Mathlib.Data.List.Basic
import SchemaSemver.Text.Joined

namespace SchemaSemver.Text

/-! ## Cutting at a character -/

/-- A list is cut in one way only at the first place of an element. -/
theorem cut_unique {α : Type} {a : α} {l₁ r₁ l₂ r₂ : List α} (h₁ : a ∉ l₁) (h₂ : a ∉ l₂)
    (h : l₁ ++ a :: r₁ = l₂ ++ a :: r₂) : l₁ = l₂ ∧ r₁ = r₂ := by
  induction l₁ generalizing l₂ with
  | nil =>
    cases l₂ with
    | nil => exact ⟨rfl, (List.cons.inj h).2⟩
    | cons y l₂ =>
      have hy : a = y := (List.cons.inj h).1
      exact absurd (hy ▸ List.mem_cons_self) h₂
  | cons x l₁ ih =>
    cases l₂ with
    | nil =>
      have hx : x = a := (List.cons.inj h).1
      exact absurd (hx ▸ List.mem_cons_self) h₁
    | cons y l₂ =>
      obtain ⟨hxy, hrest⟩ := List.cons.inj h
      obtain ⟨hl, hr⟩ := ih (fun hm => h₁ (List.mem_cons_of_mem x hm))
        (fun hm => h₂ (List.mem_cons_of_mem y hm)) hrest
      exact ⟨by rw [hxy, hl], hr⟩

/-! ## Texts joined by commas -/

/-- A text that keeps its place between commas: it is not empty and has no comma inside. -/
def IsPart (text : String) : Prop := text.toList ≠ [] ∧ ',' ∉ text.toList

theorem toList_joinWith_comma (text next : String) (rest : List String) :
    (joinWith "," (text :: next :: rest)).toList
      = text.toList ++ ',' :: (joinWith "," (next :: rest)).toList := by
  rw [joinWith_cons_cons]
  simp [String.toList_append]

/-- A character of a joined text is a comma or comes from one of the texts. -/
theorem mem_joinWith_comma {texts : List String} {c : Char} (hc : c ≠ ',')
    (h : c ∈ (joinWith "," texts).toList) : ∃ text ∈ texts, c ∈ text.toList := by
  induction texts with
  | nil => rw [joinWith_nil] at h; simp at h
  | cons text rest ih =>
    cases rest with
    | nil => exact ⟨text, List.mem_cons_self, h⟩
    | cons next rest =>
      rw [toList_joinWith_comma] at h
      rcases List.mem_append.mp h with h | h
      · exact ⟨text, List.mem_cons_self, h⟩
      · rcases List.mem_cons.mp h with h | h
        · exact absurd h hc
        · obtain ⟨other, hmem, hother⟩ := ih h
          exact ⟨other, List.mem_cons_of_mem text hmem, hother⟩

/-- The joined text of a part and what follows it is not empty. -/
theorem joinWith_comma_ne_empty {text : String} {rest : List String} (h : IsPart text) :
    joinWith "," (text :: rest) ≠ "" := by
  intro he
  cases rest with
  | nil => exact h.1 (by rw [joinWith_singleton] at he; rw [he]; rfl)
  | cons next rest =>
    have hl := congrArg String.toList he
    rw [toList_joinWith_comma] at hl
    simp at hl

/-- Parts joined by commas can be read back. -/
theorem joinWith_comma_injective : ∀ {xs ys : List String}, (∀ x ∈ xs, IsPart x) →
    (∀ y ∈ ys, IsPart y) → joinWith "," xs = joinWith "," ys → xs = ys
  | [], [], _, _, _ => rfl
  | [], y :: _, _, hy, h => absurd h.symm (joinWith_comma_ne_empty (hy y List.mem_cons_self))
  | x :: _, [], hx, _, h => absurd h (joinWith_comma_ne_empty (hx x List.mem_cons_self))
  | [x], [y], _, _, h => by rw [joinWith_singleton, joinWith_singleton] at h; rw [h]
  | [x], y :: y' :: ys, hx, _, h => by
      -- the comma after `y` would have to stand inside `x`
      have hl := congrArg String.toList h
      rw [joinWith_singleton, toList_joinWith_comma] at hl
      exact absurd (hl ▸ by simp) (hx x List.mem_cons_self).2
  | x :: x' :: xs, [y], _, hy, h => by
      have hl := congrArg String.toList h
      rw [joinWith_singleton, toList_joinWith_comma] at hl
      exact absurd (hl ▸ by simp) (hy y List.mem_cons_self).2
  | x :: x' :: xs, y :: y' :: ys, hx, hy, h => by
      have hl := congrArg String.toList h
      rw [toList_joinWith_comma, toList_joinWith_comma] at hl
      obtain ⟨hfirst, hrest⟩ := cut_unique (hx x List.mem_cons_self).2
        (hy y List.mem_cons_self).2 hl
      have htail : x' :: xs = y' :: ys :=
        joinWith_comma_injective (fun z hz => hx z (List.mem_cons_of_mem x hz))
          (fun z hz => hy z (List.mem_cons_of_mem y hz)) (String.toList_injective hrest)
      rw [String.toList_injective hfirst, htail]

end SchemaSemver.Text
