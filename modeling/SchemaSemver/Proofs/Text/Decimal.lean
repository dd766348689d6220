/-
SchemaSemver.Proofs.Text.Decimal — numbers written in decimal digits.

The digits of a natural number are digits and nothing else, do not begin with a zero unless it is
all there is, and belong to one number only. The text of an integer is that of its absolute value,
behind a minus if it is negative, so that it belongs to one integer only as well.
-/

namespace SchemaSemver.Text

/-! ## Natural numbers -/

theorem isDigit_of_mem_toDigits {n : Nat} {c : Char} (h : c ∈ Nat.toDigits 10 n) :
    c.isDigit = true :=
  Nat.isDigit_of_mem_toDigits (by decide) (by decide) h

theorem toDigits_injective {n m : Nat} (h : Nat.toDigits 10 n = Nat.toDigits 10 m) : n = m := by
  have hvalue := congrArg (fun digits => Nat.ofDigitChars 10 digits 0) h
  simpa only [Nat.ofDigitChars_ten_toDigits] using hvalue

/-- The digits of a number other than zero do not begin with a zero. -/
theorem toDigits_head {n : Nat} (hn : 0 < n) :
    ∃ c digits, Nat.toDigits 10 n = c :: digits ∧ c ≠ '0' := by
  induction n using Nat.strongRecOn with
  | _ n ih =>
    by_cases hlt : n < 10
    · refine ⟨n.digitChar, [], Nat.toDigits_of_lt_base hlt, ?_⟩
      intro hzero
      have htoNat := Nat.toNat_digitChar_of_lt_ten hlt
      rw [hzero] at htoNat
      have hcode : '0'.toNat = 48 := rfl
      omega
    · obtain ⟨c, digits, hdigits, hc⟩ := ih (n / 10) (by omega) (by omega)
      refine ⟨c, digits ++ [(n % 10).digitChar], ?_, hc⟩
      rw [Nat.toDigits_of_base_le (by decide) (by omega), hdigits]
      simp

/-! ## Integers -/

theorem toList_toString_int (n : Int) :
    (toString n).toList
      = if n < 0 then '-' :: Nat.toDigits 10 n.natAbs else Nat.toDigits 10 n.natAbs := by
  rw [Int.toString_eq_repr]
  cases n with
  | ofNat m =>
    have hm : ¬ Int.ofNat m < 0 := Int.not_lt.mpr (Int.natCast_nonneg m)
    rw [if_neg hm, Int.repr, Nat.repr_eq_ofList_toDigits, String.toList_ofList]
    rfl
  | negSucc m =>
    rw [if_pos (Int.negSucc_lt_zero m), Int.repr, Nat.repr_eq_ofList_toDigits]
    simp

/-- The text of an integer has digits and a minus. -/
theorem mem_toString_int {n : Int} {c : Char} (h : c ∈ (toString n).toList) :
    c = '-' ∨ c.isDigit = true := by
  rw [toList_toString_int] at h
  split at h
  · rcases List.mem_cons.mp h with hc | hc
    · exact .inl hc
    · exact .inr (isDigit_of_mem_toDigits hc)
  · exact .inr (isDigit_of_mem_toDigits h)

theorem toString_int_injective {n m : Int} (h : toString n = toString m) : n = m := by
  have hminus {k l : Nat} : '-' :: Nat.toDigits 10 k ≠ Nat.toDigits 10 l := by
    intro heq
    have hmem : '-' ∈ Nat.toDigits 10 l := by
      rw [← heq]
      exact List.mem_cons_self
    cases isDigit_of_mem_toDigits hmem
  have htexts := congrArg String.toList h
  rw [toList_toString_int, toList_toString_int] at htexts
  split at htexts
  · split at htexts
    · have habs := toDigits_injective (List.cons.inj htexts).2
      omega
    · exact absurd htexts hminus
  · split at htexts
    · exact absurd htexts.symm hminus
    · have habs := toDigits_injective htexts
      omega

end SchemaSemver.Text
