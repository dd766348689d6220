/-
SchemaSemver.Proofs.Json.Scalar — numbers, strings and words are read exactly.

For each part of the reader there are two lemmas. `…_sound`: what it takes from the front of a text
is written there, and the text is that part and the rest. `…_complete`: what is written at the front
of a text is read, whatever follows. Only a number must be followed by something that does not go on
with it (`EndsNumber`), since the reader takes the longest one.

The digits of a number are taken apart as written and put together again by their value: digits
without a leading zero are the digits of the number that they spell (`toDigits_natOfDigits`).
-/
import Mathlib.Data.List.TakeWhile
import SchemaSemver.Proofs.Json.Grammar
import SchemaSemver.Proofs.Result
import SchemaSemver.Proofs.Text.Decimal

namespace SchemaSemver.Json

/-! ## §1 The front of a text -/

/-- The text does not begin with such a character. -/
def Stops (p : Char → Bool) (text : List Char) : Prop := ∀ c ∈ text.head?, p c = false

theorem stops_nil (p : Char → Bool) : Stops p [] := by
  intro c hc
  cases hc

theorem stops_cons {p : Char → Bool} {c : Char} {text : List Char} :
    Stops p (c :: text) ↔ p c = false := by
  simp [Stops]

theorem span_append {p : Char → Bool} {front rest : List Char} (hfront : ∀ c ∈ front, p c = true)
    (hrest : Stops p rest) :
    (front ++ rest).takeWhile p = front ∧ (front ++ rest).dropWhile p = rest := by
  rw [List.takeWhile_append_of_pos hfront, List.dropWhile_append_of_pos hfront]
  cases rest with
  | nil => simp
  | cons c rest =>
    rw [stops_cons] at hrest
    simp [hrest]

theorem stops_dropWhile (p : Char → Bool) (text : List Char) : Stops p (text.dropWhile p) := by
  intro c hc
  have h := List.head?_dropWhile_not p text
  rw [hc] at h
  exact h

/-! ## §2 Digits -/

theorem spanDigits_sound {text digits rest : List Char} (h : spanDigits text = (digits, rest)) :
    (∀ c ∈ digits, c.isDigit = true) ∧ Stops Char.isDigit rest ∧ text = digits ++ rest := by
  obtain ⟨rfl, rfl⟩ := Prod.mk.inj h
  exact ⟨fun c hc => List.mem_takeWhile_imp hc, stops_dropWhile _ text,
    List.takeWhile_append_dropWhile.symm⟩

theorem spanDigits_complete {digits rest : List Char} (hdigits : ∀ c ∈ digits, c.isDigit = true)
    (hrest : Stops Char.isDigit rest) : spanDigits (digits ++ rest) = (digits, rest) := by
  obtain ⟨htake, hdrop⟩ := span_append hdigits hrest
  rw [spanDigits, htake, hdrop]

theorem toNat_of_isDigit {c : Char} (h : c.isDigit = true) : 48 ≤ c.toNat ∧ c.toNat ≤ 57 := by
  simp only [Char.isDigit, Bool.and_eq_true, decide_eq_true_eq] at h
  exact h

/-- A digit is the digit of its value. -/
theorem toDigits_digitValue {c : Char} (h : c.isDigit = true) :
    digitValue c < 10 ∧ Nat.toDigits 10 (digitValue c) = [c] := by
  obtain ⟨hlow, hhigh⟩ := toNat_of_isDigit h
  have hvalue : digitValue c = c.toNat - 48 := rfl
  have hlt : digitValue c < 10 := by omega
  have hchar : (digitValue c).digitChar = c := by
    apply Char.toNat_inj.mp
    rw [Nat.toNat_digitChar_of_lt_ten hlt]
    omega
  rw [Nat.toDigits_of_lt_base hlt, hchar]
  exact ⟨hlt, rfl⟩

/-- Digits behind those of a number other than zero are those of a number again. -/
theorem toDigits_append {n : Nat} (hn : 0 < n) {digits : List Char}
    (hdigits : ∀ c ∈ digits, c.isDigit = true) :
    Nat.toDigits 10 n ++ digits
      = Nat.toDigits 10 (digits.foldl (fun n c => 10 * n + digitValue c) n) := by
  induction digits generalizing n with
  | nil => simp
  | cons c digits ih =>
    obtain ⟨hlt, hc⟩ := toDigits_digitValue (hdigits c List.mem_cons_self)
    have hstep : Nat.toDigits 10 n ++ [c] = Nat.toDigits 10 (10 * n + digitValue c) := by
      rw [← hc]
      exact Nat.toDigits_append_toDigits (by decide) hn hlt
    calc
      Nat.toDigits 10 n ++ c :: digits = Nat.toDigits 10 n ++ [c] ++ digits := by simp
      _ = Nat.toDigits 10 (10 * n + digitValue c) ++ digits := by rw [hstep]
      _ = _ := ih (by omega) fun d hd => hdigits d (List.mem_cons_of_mem c hd)

/-- Digits without a leading zero are those of the number that they spell. -/
theorem toDigits_natOfDigits {c : Char} {digits : List Char} (hc : c.isDigit = true)
    (hzero : c ≠ '0') (hdigits : ∀ d ∈ digits, d.isDigit = true) :
    Nat.toDigits 10 (natOfDigits (c :: digits)) = c :: digits := by
  obtain ⟨hlow, -⟩ := toNat_of_isDigit hc
  have hne : c.toNat ≠ 48 := fun h => hzero (Char.toNat_inj.mp h)
  have hvalue : digitValue c = c.toNat - 48 := rfl
  have happend := toDigits_append (n := digitValue c) (by omega) hdigits
  rw [(toDigits_digitValue hc).2] at happend
  simpa [natOfDigits] using happend.symm

theorem natOfDigits_toDigits (n : Nat) : natOfDigits (Nat.toDigits 10 n) = n :=
  Nat.ofDigitChars_ten_toDigits

/-! ## §3 Numbers -/

/-- Behind a number other than zero there are no more digits. -/
theorem readWhole_sound {text whole rest : List Char} (h : readWhole text = some (whole, rest)) :
    (∃ n, whole = Nat.toDigits 10 n ∧ (n = 0 ∨ Stops Char.isDigit rest))
      ∧ text = whole ++ rest := by
  unfold readWhole at h
  split at h
  · cases h
    exact ⟨⟨0, (Nat.toDigits_zero 10).symm, .inl rfl⟩, rfl⟩
  · rename_i c after hzero
    split at h
    · rename_i hc
      cases hspan : spanDigits after with
      | mk digits behind =>
        rw [hspan] at h
        cases h
        obtain ⟨hdigits, hstops, rfl⟩ := spanDigits_sound hspan
        exact ⟨⟨_, (toDigits_natOfDigits hc (fun h => hzero h) hdigits).symm, .inr hstops⟩, rfl⟩
    · cases h
  · cases h

theorem readWhole_complete (n : Nat) {rest : List Char} (hrest : Stops Char.isDigit rest) :
    readWhole (Nat.toDigits 10 n ++ rest) = some (Nat.toDigits 10 n, rest) := by
  rcases Nat.eq_zero_or_pos n with rfl | hn
  · rw [Nat.toDigits_zero]
    rfl
  · obtain ⟨c, digits, hdigits, hzero⟩ := Text.toDigits_head hn
    have hall {d : Char} (hd : d ∈ c :: digits) : d.isDigit = true :=
      Text.isDigit_of_mem_toDigits (hdigits ▸ hd)
    have hspan : spanDigits (digits ++ rest) = (digits, rest) :=
      spanDigits_complete (fun d hd => hall (List.mem_cons_of_mem c hd)) hrest
    rw [hdigits, List.cons_append, readWhole.eq_2 _ _ hzero, if_pos (hall List.mem_cons_self),
      hspan]

theorem readFraction_sound {text fraction rest : List Char}
    (h : readFraction text = (fraction, rest)) :
    ∃ written, IsFraction fraction written ∧ text = written ++ rest := by
  unfold readFraction at h
  split at h
  · split at h
    · cases h
      exact ⟨[], .none, rfl⟩
    · rename_i hsome hspan
      cases h
      obtain ⟨hdigits, -, rfl⟩ := spanDigits_sound hspan
      exact ⟨_, .digits ⟨hsome, hdigits⟩, rfl⟩
  · cases h
    exact ⟨[], .none, rfl⟩

/-- Nothing at the front of the text goes on with the digits before or after a point. -/
def EndsDecimal (text : List Char) : Prop := Stops (fun c => c.isDigit || c == '.') text

/-- Nothing at the front of the text goes on with a number. -/
def EndsNumber (text : List Char) : Prop :=
  Stops (fun c => c.isDigit || c == '.' || c == 'e' || c == 'E') text

theorem EndsNumber.endsDecimal {text : List Char} (h : EndsNumber text) : EndsDecimal text := by
  intro c hc
  have hend := h c hc
  simp only [Bool.or_eq_false_iff] at hend ⊢
  exact hend.1.1

theorem EndsDecimal.stops {text : List Char} (h : EndsDecimal text) :
    Stops Char.isDigit text := by
  intro c hc
  have hend := h c hc
  simp only [Bool.or_eq_false_iff] at hend
  exact hend.1

theorem IsFraction.eq_nil {written : List Char} (h : IsFraction [] written) : written = [] := by
  cases h with
  | none => rfl
  | digits hdigits => exact absurd rfl hdigits.some

theorem readFraction_complete {fraction written rest : List Char} (h : IsFraction fraction written)
    (hrest : EndsDecimal rest) : readFraction (written ++ rest) = (fraction, rest) := by
  cases h with
  | none =>
    unfold readFraction
    split
    · rename_i heq
      rw [List.nil_append] at heq
      rw [heq, EndsDecimal, stops_cons] at hrest
      simp at hrest
    · rfl
  | digits hdigits =>
    rw [List.cons_append, readFraction.eq_1, spanDigits_complete hdigits.digits hrest.stops]
    cases fraction with
    | nil => exact absurd rfl hdigits.some
    | cons c fraction => rfl

theorem readSign_sound {text rest : List Char} {negative : Bool}
    (h : readSign text = (negative, rest)) :
    ∃ sign, IsExponentSign negative sign ∧ text = sign ++ rest := by
  unfold readSign at h
  split at h <;> cases h
  · exact ⟨_, .plus, rfl⟩
  · exact ⟨_, .minus, rfl⟩
  · exact ⟨_, .none, rfl⟩

theorem readExponent_sound {text rest : List Char} {exponent : Option (Bool × List Char)}
    (h : readExponent text = (exponent, rest)) :
    ∃ written, IsExponent exponent written ∧ text = written ++ rest := by
  unfold readExponent at h
  split at h
  · split at h
    · rename_i hletter
      cases hsign : readSign _ with
      | mk negative afterSign =>
        rw [hsign] at h
        obtain ⟨sign, hsigned, rfl⟩ := readSign_sound hsign
        dsimp only at h
        split at h
        · cases h
          exact ⟨[], .none, rfl⟩
        · rename_i hsome hspan
          cases h
          obtain ⟨hdigits, -, rfl⟩ := spanDigits_sound hspan
          exact ⟨_, .digits hletter hsigned ⟨hsome, hdigits⟩, by simp⟩
    · cases h
      exact ⟨[], .none, rfl⟩
  · cases h
    exact ⟨[], .none, rfl⟩

theorem readSign_complete {negative : Bool} {sign digits rest : List Char}
    (h : IsExponentSign negative sign) (hdigits : IsDigits digits) :
    readSign (sign ++ (digits ++ rest)) = (negative, digits ++ rest) := by
  cases h with
  | none =>
    -- a digit is no sign
    unfold readSign
    split
    all_goals first
      | rfl
      | rename_i heq
        cases digits with
        | nil => exact absurd rfl hdigits.some
        | cons c digits =>
          have hc := hdigits.digits c List.mem_cons_self
          rw [(List.cons.inj heq).1] at hc
          simp at hc
  | plus => rfl
  | minus => rfl

theorem readExponent_complete {exponent : Option (Bool × List Char)} {written rest : List Char}
    (h : IsExponent exponent written) (hrest : EndsNumber rest) :
    readExponent (written ++ rest) = (exponent, rest) := by
  cases h with
  | none =>
    rw [List.nil_append]
    unfold readExponent
    split
    · rw [EndsNumber, stops_cons] at hrest
      simp only [Bool.or_eq_false_iff, beq_eq_false_iff_ne] at hrest
      rw [if_neg (by simp [hrest])]
    · rfl
  | digits hletter hsign hdigits =>
    rename_i letter negative sign digits
    rw [List.cons_append, List.append_assoc, readExponent, if_pos hletter,
      readSign_complete hsign hdigits]
    dsimp only
    rw [spanDigits_complete hdigits.digits hrest.endsDecimal.stops]
    cases digits with
    | nil => exact absurd rfl hdigits.some
    | cons c digits => rfl

theorem stops_iff {p : Char → Bool} {text : List Char} :
    Stops p text ↔ ∀ c after, text = c :: after → p c = false := by
  cases text <;> simp [Stops]

theorem spanDigits_of_isDigits {digits : List Char} (h : IsDigits digits) (after : List Char) :
    (spanDigits (digits ++ after)).1 ≠ [] := by
  obtain ⟨c, others, rfl⟩ := List.exists_cons_of_ne_nil h.some
  simp [spanDigits, h.digits c List.mem_cons_self]

/-- Behind an integer the reader finds neither digits nor a fraction nor an exponent. -/
theorem endsInteger_iff {text : List Char} :
    EndsInteger text ↔ Stops Char.isDigit text ∧ readFraction text = ([], text)
      ∧ readExponent text = (none, text) := by
  constructor
  · rintro ⟨hdigit, hfraction, hexponent⟩
    refine ⟨stops_iff.mpr hdigit, ?_, ?_⟩
    · cases hread : readFraction text with
      | mk digits rest =>
        obtain ⟨written, hwritten, htext⟩ := readFraction_sound hread
        obtain rfl := hfraction digits written rest hwritten htext
        rw [htext, hwritten.eq_nil, List.nil_append]
    · cases hread : readExponent text with
      | mk exponent rest =>
        obtain ⟨written, hwritten, htext⟩ := readExponent_sound hread
        obtain rfl := hexponent exponent written rest hwritten htext
        cases hwritten
        rw [htext, List.nil_append]
  · rintro ⟨hdigit, hfraction, hexponent⟩
    refine ⟨stops_iff.mp hdigit, ?_, ?_⟩
    · rintro digits written after hwritten rfl
      cases hwritten with
      | none => rfl
      | digits hdigits =>
        have hspan := spanDigits_of_isDigits hdigits after
        rw [List.cons_append, readFraction.eq_1] at hfraction
        split at hfraction
        · rename_i hnone
          rw [hnone] at hspan
          exact absurd rfl hspan
        · rename_i hsome hread
          exact absurd (Prod.mk.inj hfraction).1 hsome
    · rintro exponent written after hwritten rfl
      cases hwritten with
      | none => rfl
      | @digits letter negative sign digits hletter hsign hdigits =>
        have hspan := spanDigits_of_isDigits hdigits after
        rw [List.cons_append, List.append_assoc, readExponent, if_pos hletter,
          readSign_complete hsign hdigits] at hexponent
        dsimp only at hexponent
        split at hexponent
        · rename_i hnone
          rw [hnone] at hspan
          exact absurd rfl hspan
        · cases hexponent

theorem readNumber_sound {negative : Bool} {text rest : List Char} {value : Value}
    (h : readNumber negative text = some (value, rest)) :
    ∃ written, IsMagnitude negative value written ∧ text = written ++ rest := by
  unfold readNumber at h
  split at h
  · cases h
  · rename_i whole afterWhole hwhole
    obtain ⟨⟨n, rfl, -⟩, rfl⟩ := readWhole_sound hwhole
    cases hfraction : readFraction afterWhole with
    | mk fraction afterFraction =>
      cases hexponent : readExponent afterFraction with
      | mk exponent behind =>
        obtain ⟨fractionText, hfraction', rfl⟩ := readFraction_sound hfraction
        obtain ⟨exponentText, hexponent', rfl⟩ := readExponent_sound hexponent
        rw [hfraction] at h
        dsimp only at h
        rw [hexponent] at h
        dsimp only at h
        split at h
        · cases h
          obtain rfl := hfraction'.eq_nil
          cases hexponent'
          rw [signedInteger, natOfDigits_toDigits]
          exact ⟨_, .integer n, by simp⟩
        · rename_i hreal
          cases h
          refine ⟨_, .real n hfraction' hexponent' ?_, by simp⟩
          by_contra hnone
          rw [not_or, not_not, not_not] at hnone
          exact hreal hnone.1 hnone.2

theorem IsExponent.endsDecimal_append {exponent : Option (Bool × List Char)}
    {written rest : List Char} (h : IsExponent exponent written) (hrest : EndsNumber rest) :
    EndsDecimal (written ++ rest) := by
  cases h with
  | none => exact hrest.endsDecimal
  | digits hletter =>
    rw [List.cons_append, EndsDecimal, stops_cons]
    rcases hletter with rfl | rfl <;> rfl

theorem IsFraction.stops_append {fraction written rest : List Char}
    (h : IsFraction fraction written) (hrest : EndsDecimal rest) :
    Stops Char.isDigit (written ++ rest) := by
  cases h with
  | none => exact hrest.stops
  | digits => exact stops_cons.mpr rfl

theorem EndsNumber.endsInteger {text : List Char} (h : EndsNumber text) : EndsInteger text :=
  endsInteger_iff.mpr ⟨h.endsDecimal.stops, readFraction_complete .none h.endsDecimal,
    readExponent_complete .none h⟩

theorem readNumber_integer (negative : Bool) (n : Nat) {rest : List Char}
    (hrest : EndsInteger rest) :
    readNumber negative (Nat.toDigits 10 n ++ rest)
      = some (.integer (if negative then -n else n), rest) := by
  obtain ⟨hdigit, hfraction, hexponent⟩ := endsInteger_iff.mp hrest
  rw [readNumber, readWhole_complete n hdigit]
  simp only [hfraction, hexponent, signedInteger, natOfDigits_toDigits]

/-- An integer other than zero is read to its end. -/
theorem endsInteger_of_readNumber {negative : Bool} {n : Int} {text rest : List Char}
    (h : readNumber negative text = some (.integer n, rest)) (hn : n ≠ 0) : EndsInteger rest := by
  unfold readNumber at h
  split at h
  · cases h
  · rename_i whole afterWhole hwhole
    obtain ⟨⟨value, rfl, hstops⟩, rfl⟩ := readWhole_sound hwhole
    cases hfraction : readFraction afterWhole with
    | mk fraction afterFraction =>
      cases hexponent : readExponent afterFraction with
      | mk exponent behind =>
        rw [hfraction] at h
        dsimp only at h
        rw [hexponent] at h
        dsimp only at h
        split at h
        · cases h
          obtain ⟨fractionText, hwritten, rfl⟩ := readFraction_sound hfraction
          obtain rfl := hwritten.eq_nil
          obtain ⟨exponentText, hwritten', rfl⟩ := readExponent_sound hexponent
          cases hwritten'
          rw [signedInteger, natOfDigits_toDigits] at hn
          have hvalue : value ≠ 0 := by
            rintro rfl
            simp at hn
          exact endsInteger_iff.mpr ⟨hstops.resolve_left hvalue, hfraction, hexponent⟩
        · cases h

theorem readNumber_complete {negative : Bool} {value : Value} {written rest : List Char}
    (h : IsMagnitude negative value written) (hrest : EndsNumber rest) :
    readNumber negative (written ++ rest) = some (value, rest) := by
  cases h with
  | integer n => exact readNumber_integer negative n hrest.endsInteger
  | real n hfraction hexponent hreal =>
    rename_i fraction fractionText exponentText exponent
    have hdecimal : EndsDecimal (exponentText ++ rest) := hexponent.endsDecimal_append hrest
    rw [List.append_assoc, List.append_assoc, readNumber,
      readWhole_complete n (hfraction.stops_append hdecimal)]
    simp only [readFraction_complete hfraction hdecimal, readExponent_complete hexponent hrest]
    split
    · simp at hreal
    · rfl

/-! ## §4 Strings -/

theorem mem_hexNumberFrom? {value unit : Nat} {digits : List Char} {c : Char}
    (h : Text.hexNumberFrom? value digits = some unit) (hc : c ∈ digits) :
    Text.hexValue? c ≠ none := by
  induction digits generalizing value with
  | nil => cases hc
  | cons d digits ih =>
    rw [Text.hexNumberFrom?] at h
    split at h
    · rename_i hd
      rcases List.mem_cons.mp hc with rfl | hc
      · simp [hd]
      · exact ih h hc
    · cases h

/-- No hexadecimal digit is a quote. -/
theorem IsCodeUnit.quote_not_mem {unit : Nat} {digits : List Char} (h : IsCodeUnit unit digits) :
    '"' ∉ digits := by
  intro hquote
  exact mem_hexNumberFrom? h.number hquote rfl

theorem readFourHex_eq_some_iff {text rest : List Char} {unit : Nat} :
    readFourHex text = some (unit, rest)
      ↔ rest ≠ [] ∧ ∃ digits, IsCodeUnit unit digits ∧ text = digits ++ rest := by
  constructor
  · intro h
    unfold readFourHex at h
    split at h
    · rename_i a b c d next behind
      obtain ⟨number, hnumber, hpair⟩ := Option.map_eq_some_iff.mp h
      cases hpair
      exact ⟨by simp, [a, b, c, d], ⟨rfl, hnumber⟩, rfl⟩
    · cases h
  · rintro ⟨hrest, digits, hunit, rfl⟩
    obtain ⟨hlength, hnumber⟩ := hunit
    obtain ⟨next, behind, rfl⟩ := List.exists_cons_of_ne_nil hrest
    match digits, hlength, hnumber with
    | [a, b, c, d], _, hnumber => simp [readFourHex, hnumber]

theorem readLowHalf_eq_some_iff {text rest : List Char} {low : Nat} :
    readLowHalf text = some (low, rest)
      ↔ isLowSurrogate low = true ∧ rest ≠ []
        ∧ ∃ digits, IsCodeUnit low digits ∧ text = '\\' :: 'u' :: (digits ++ rest) := by
  constructor
  · intro h
    unfold readLowHalf at h
    split at h
    · split at h
      · rename_i hfour
        split at h
        · rename_i hlow
          cases h
          obtain ⟨hrest, digits, hunit, rfl⟩ := readFourHex_eq_some_iff.mp hfour
          exact ⟨hlow, hrest, digits, hunit, rfl⟩
        · cases h
      · cases h
    · cases h
  · rintro ⟨hlow, hrest, digits, hunit, rfl⟩
    have hfour : readFourHex (digits ++ rest) = some (low, rest) :=
      readFourHex_eq_some_iff.mpr ⟨hrest, digits, hunit, rfl⟩
    simp [readLowHalf, hfour, hlow]

/-- The escape of a low surrogate ends before the quote that closes its string. -/
theorem beginsWithLow_of_append {text rest behind : List Char} {low : Nat}
    (h : readLowHalf (text ++ '"' :: rest) = some (low, behind)) : BeginsWithLow text := by
  obtain ⟨hlow, -, digits, hunit, htext⟩ := readLowHalf_eq_some_iff.mp h
  have hwhole : text ++ '"' :: rest = ('\\' :: 'u' :: digits) ++ behind := by rw [htext]; rfl
  rcases List.append_eq_append_iff.mp hwhole with ⟨between, hbetween, hquote⟩ | ⟨after, rfl, -⟩
  · cases between with
    | nil =>
      rw [List.append_nil] at hbetween
      exact ⟨low, digits, [], by rw [List.append_nil, hbetween], hunit, hlow⟩
    | cons c between =>
      -- the quote would be one of the characters of the escape
      have hc : '"' = c := (List.cons.inj hquote).1
      have hmem : '"' ∈ '\\' :: 'u' :: digits := by
        rw [hbetween, ← hc]
        simp
      simp [hunit.quote_not_mem] at hmem
  · exact ⟨low, digits, after, rfl, hunit, hlow⟩

theorem readLowHalf_eq_none {text rest : List Char} (h : ¬ BeginsWithLow text) :
    readLowHalf (text ++ '"' :: rest) = none := by
  cases hlow : readLowHalf (text ++ '"' :: rest) with
  | none => rfl
  | some found => exact absurd (beginsWithLow_of_append hlow) h

theorem not_beginsWithLow {text rest : List Char} (h : readLowHalf (text ++ '"' :: rest) = none) :
    ¬ BeginsWithLow text := by
  rintro ⟨low, digits, after, rfl, hunit, hlow⟩
  have hsome : readLowHalf ('\\' :: 'u' :: (digits ++ after) ++ '"' :: rest)
      = some (low, after ++ '"' :: rest) :=
    readLowHalf_eq_some_iff.mpr ⟨hlow, by simp, digits, hunit, by simp⟩
  rw [h] at hsome
  cases hsome

theorem readUnicodeEscape_sound {text rest : List Char} {c : Char}
    (h : readUnicodeEscape text = some (c, rest)) :
    (∃ unit digits, IsCodeUnit unit digits ∧ c = charOfUnit unit ∧ text = digits ++ rest
        ∧ (isHighSurrogate unit = true → readLowHalf rest = none))
      ∨ ∃ high low highDigits lowDigits, IsCodeUnit high highDigits ∧ isHighSurrogate high = true
        ∧ IsCodeUnit low lowDigits ∧ isLowSurrogate low = true ∧ c = charOfPair high low
        ∧ text = highDigits ++ '\\' :: 'u' :: (lowDigits ++ rest) := by
  unfold readUnicodeEscape at h
  split at h
  · cases h
  · rename_i unit behind hfour
    obtain ⟨-, digits, hunit, rfl⟩ := readFourHex_eq_some_iff.mp hfour
    split at h
    · rename_i hhigh
      split at h
      · rename_i low after hlowHalf
        obtain ⟨rfl, rfl⟩ := Prod.mk.inj (Option.some.inj h)
        obtain ⟨hlow, -, lowDigits, hlowUnit, rfl⟩ := readLowHalf_eq_some_iff.mp hlowHalf
        exact .inr ⟨unit, low, digits, lowDigits, hunit, hhigh, hlowUnit, hlow, rfl, rfl⟩
      · rename_i hnone
        cases h
        exact .inl ⟨_, digits, hunit, rfl, rfl, fun _ => hnone⟩
    · rename_i hhigh
      cases h
      exact .inl ⟨_, digits, hunit, rfl, rfl, fun h => absurd h hhigh⟩

theorem readStringBody_sound {opening : List Char} {fuel : Nat} {text chars rest : List Char}
    (h : readStringBody opening fuel text = .ok (chars, rest)) :
    ∃ written, IsContent chars written ∧ text = written ++ '"' :: rest := by
  induction fuel generalizing text chars with
  | zero => cases h
  | succ fuel ih =>
    -- a character was read, and the others come from the text behind it
    have hbehind {c : Char} {behind : List Char}
        (h : (readStringBody opening fuel behind >>= fun found => pure (c :: found.1, found.2))
          = .ok (chars, rest)) :
        ∃ inner written, chars = c :: inner ∧ IsContent inner written
          ∧ behind = written ++ '"' :: rest := by
      obtain ⟨⟨inner, after⟩, hbody, hok⟩ := bind_eq_ok_iff.mp h
      cases hok
      obtain ⟨written, hcontent, hsplit⟩ := ih hbody
      exact ⟨inner, written, rfl, hcontent, hsplit⟩
    unfold readStringBody at h
    split at h
    · cases h
    · cases h
      exact ⟨[], .nil, rfl⟩
    · cases h
    · split at h
      · cases h
      · rename_i c behind hescape
        obtain ⟨inner, written, rfl, hcontent, rfl⟩ := hbehind h
        rcases readUnicodeEscape_sound hescape with
          ⟨unit, digits, hunit, rfl, rfl, halone⟩
          | ⟨high, low, highDigits, lowDigits, hhigh, hhighKind, hlow, hlowKind, hc, rfl⟩
        · refine ⟨'\\' :: 'u' :: (digits ++ written), ?_, by simp⟩
          exact .unit hunit (fun h => not_beginsWithLow (halone h)) hcontent
        · refine ⟨'\\' :: 'u' :: (highDigits ++ '\\' :: 'u' :: (lowDigits ++ written)), ?_, by simp⟩
          rw [hc]
          exact .pair hhigh hhighKind hlow hlowKind hcontent
    · split at h
      · cases h
      · rename_i c hletter
        obtain ⟨inner, written, rfl, hcontent, rfl⟩ := hbehind h
        exact ⟨_, .letter hletter hcontent, rfl⟩
    · rename_i c behind hquote hend hunicode hbackslash
      split at h
      · cases h
      · rename_i hcontrol
        obtain ⟨inner, written, rfl, hcontent, rfl⟩ := hbehind h
        have hbackslash' : c ≠ '\\' := by
          intro hc
          obtain ⟨next, others, hnext⟩ :=
            List.exists_cons_of_ne_nil (l := written ++ '"' :: rest) (by simp)
          exact hbackslash next others hc hnext
        exact ⟨_, .plain (fun hc => hquote hc) hbackslash' hcontrol hcontent, rfl⟩

theorem readUnicodeEscape_complete {unit : Nat} {digits text rest : List Char}
    (hunit : IsCodeUnit unit digits) (halone : isHighSurrogate unit = true → ¬ BeginsWithLow text) :
    readUnicodeEscape (digits ++ (text ++ '"' :: rest))
      = some (charOfUnit unit, text ++ '"' :: rest) := by
  have hfour : readFourHex (digits ++ (text ++ '"' :: rest)) = some (unit, text ++ '"' :: rest) :=
    readFourHex_eq_some_iff.mpr ⟨by simp, digits, hunit, rfl⟩
  unfold readUnicodeEscape
  rw [hfour]
  dsimp only
  split
  · rename_i hhigh
    rw [readLowHalf_eq_none (halone hhigh)]
  · rfl

theorem readUnicodeEscape_pair {high low : Nat} {highDigits lowDigits rest : List Char}
    (hhigh : IsCodeUnit high highDigits) (hhighKind : isHighSurrogate high = true)
    (hlow : IsCodeUnit low lowDigits) (hlowKind : isLowSurrogate low = true) (hrest : rest ≠ []) :
    readUnicodeEscape (highDigits ++ '\\' :: 'u' :: (lowDigits ++ rest))
      = some (charOfPair high low, rest) := by
  have hfour : readFourHex (highDigits ++ '\\' :: 'u' :: (lowDigits ++ rest))
      = some (high, '\\' :: 'u' :: (lowDigits ++ rest)) :=
    readFourHex_eq_some_iff.mpr ⟨by simp, highDigits, hhigh, rfl⟩
  have hlowHalf : readLowHalf ('\\' :: 'u' :: (lowDigits ++ rest)) = some (low, rest) :=
    readLowHalf_eq_some_iff.mpr ⟨hlowKind, hrest, lowDigits, hlow, rfl⟩
  unfold readUnicodeEscape
  rw [hfour]
  dsimp only
  rw [if_pos hhighKind, hlowHalf]

theorem readStringBody_complete {opening chars written : List Char} (h : IsContent chars written)
    (rest : List Char) {fuel : Nat} (hfuel : written.length < fuel) :
    readStringBody opening fuel (written ++ '"' :: rest) = .ok (chars, rest) := by
  induction fuel generalizing chars written with
  | zero => simp at hfuel
  | succ fuel ih =>
    cases h with
    | nil => rfl
    | plain hquote hbackslash hcontrol hcontent =>
      have hbody := ih hcontent (by simpa using hfuel)
      simp [readStringBody, hbackslash, hcontrol, hbody, bind, Except.bind, pure, Except.pure]
    | @letter letter c chars text hletter hcontent =>
      have hbody := ih hcontent (by simp at hfuel; omega)
      -- the letter `u` has an escape of its own kind
      have hunicode : letter ≠ 'u' := by
        rintro rfl
        cases hletter
      simp [readStringBody, hletter, hbody, bind, Except.bind, pure, Except.pure]
    | unit hunit halone hcontent =>
      have hbody := ih hcontent (by simp at hfuel; omega)
      simp [readStringBody, readUnicodeEscape_complete hunit halone, hbody, bind, Except.bind, pure,
        Except.pure]
    | @pair high low highDigits lowDigits chars text hhigh hhighKind hlow hlowKind hcontent =>
      have hbody := ih hcontent (by simp at hfuel; omega)
      have hrest : text ++ '"' :: rest ≠ [] := by simp
      have hescape := readUnicodeEscape_pair hhigh hhighKind hlow hlowKind hrest
      simp [readStringBody, hescape, hbody, bind, Except.bind, pure, Except.pure]

/-- A string is read to its closing quote. -/
theorem readString_eq_ok_iff {text rest : List Char} {s : String} :
    readString text = .ok (s, rest)
      ↔ ∃ written, IsContent s.toList written ∧ text = written ++ '"' :: rest := by
  constructor
  · intro h
    obtain ⟨⟨chars, behind⟩, hbody, hok⟩ := bind_eq_ok_iff.mp h
    cases hok
    rw [String.toList_ofList]
    exact readStringBody_sound hbody
  · rintro ⟨written, hcontent, rfl⟩
    refine bind_eq_ok_iff.mpr ⟨(s.toList, rest), ?_, ?_⟩
    · exact readStringBody_complete hcontent rest (by rw [List.length_append]; omega)
    · simp only [String.ofList_toList]
      rfl

/-! ## §5 Words and numbers -/

theorem afterWord?_eq_some_iff {word text rest : List Char} :
    afterWord? word text = some rest ↔ text = word ++ rest := by
  induction word generalizing text with
  | nil => simp [afterWord?]
  | cons w word ih =>
    cases text with
    | nil => simp [afterWord?]
    | cons c text =>
      by_cases hc : w = c
      · simp [afterWord?, hc, ih]
      · simp [afterWord?, hc, eq_comm]

theorem readWord_sound {text rest : List Char} {value : Value}
    (h : readWord text = some (value, rest)) :
    ∃ word, (word, value) ∈ words ∧ text = word.toList ++ rest := by
  obtain ⟨⟨word, found⟩, hmem, hword⟩ := List.exists_of_findSome?_eq_some h
  obtain ⟨behind, hafter, hpair⟩ := Option.map_eq_some_iff.mp hword
  cases hpair
  exact ⟨word, hmem, afterWord?_eq_some_iff.mp hafter⟩

/-- No word is the beginning of another one. -/
theorem readWord_complete {word : String} {value : Value} (h : (word, value) ∈ words)
    (rest : List Char) : readWord (word.toList ++ rest) = some (value, rest) := by
  simp only [words, List.mem_cons, Prod.mk.injEq, List.not_mem_nil, or_false] at h
  rcases h with ⟨rfl, rfl⟩ | ⟨rfl, rfl⟩ | ⟨rfl, rfl⟩ | ⟨rfl, rfl⟩ | ⟨rfl, rfl⟩ | ⟨rfl, rfl⟩ <;> rfl

theorem readSigned_sound {text rest : List Char} {value : Value}
    (h : readSigned text = some (value, rest)) :
    ∃ written, IsNumber value written ∧ text = written ++ rest := by
  unfold readSigned at h
  split at h
  · obtain ⟨written, hwritten, rfl⟩ := readNumber_sound h
    exact ⟨_, .negative hwritten, rfl⟩
  · obtain ⟨written, hwritten, rfl⟩ := readNumber_sound h
    exact ⟨_, .positive hwritten, rfl⟩

theorem endsInteger_of_readSigned {n : Int} {text rest : List Char}
    (h : readSigned text = some (.integer n, rest)) (hn : n ≠ 0) : EndsInteger rest := by
  unfold readSigned at h
  split at h <;> exact endsInteger_of_readNumber h hn

/-- A number begins with a digit, behind its sign. -/
theorem IsMagnitude.head {negative : Bool} {value : Value} {text : List Char}
    (h : IsMagnitude negative value text) :
    ∃ c after, text = c :: after ∧ c.isDigit = true := by
  have hdigits (n : Nat) (after : List Char) :
      ∃ c after', Nat.toDigits 10 n ++ after = c :: after' ∧ c.isDigit = true := by
    obtain ⟨c, digits, hc⟩ := List.exists_cons_of_ne_nil (Nat.toDigits_ne_nil (b := 10) (n := n))
    refine ⟨c, digits ++ after, by rw [hc]; rfl, Text.isDigit_of_mem_toDigits (n := n) ?_⟩
    simp [hc]
  cases h with
  | integer n => simpa using hdigits n []
  | real n => exact hdigits n _

/-- Behind its sign a number is read as the readers of numbers do. -/
theorem readSigned_of_number {value : Value} {written rest : List Char} (h : IsNumber value written)
    (hread : ∀ negative text, IsMagnitude negative value text →
      readNumber negative (text ++ rest) = some (value, rest)) :
    readSigned (written ++ rest) = some (value, rest) := by
  cases h with
  | positive hmagnitude =>
    obtain ⟨c, after, rfl, hc⟩ := hmagnitude.head
    have hminus : ∀ others, c :: (after ++ rest) = '-' :: others → False := by
      intro others heq
      rw [(List.cons.inj heq).1] at hc
      cases hc
    rw [List.cons_append, readSigned.eq_2 _ hminus]
    exact hread false _ hmagnitude
  | negative hmagnitude => exact hread true _ hmagnitude

theorem readWord_digit {c : Char} (hc : c.isDigit = true) (rest : List Char) :
    readWord (c :: rest) = none ∧ readWord ('-' :: c :: rest) = none := by
  have hne {d : Char} (hd : d.isDigit = false) : ¬ d = c := by
    rintro rfl
    rw [hc] at hd
    cases hd
  have hn : ¬ 'n' = c := hne rfl
  have ht : ¬ 't' = c := hne rfl
  have hf : ¬ 'f' = c := hne rfl
  have hN : ¬ 'N' = c := hne rfl
  have hI : ¬ 'I' = c := hne rfl
  have hminus : ¬ '-' = c := hne rfl
  constructor
  · simp [readWord, words, afterWord?, hn, ht, hf, hN, hI, hminus]
  · simp [readWord, words, afterWord?, hI]

/-- A number is no word. -/
theorem readWord_of_number {value : Value} {written : List Char} (h : IsNumber value written)
    (rest : List Char) : readWord (written ++ rest) = none := by
  cases h with
  | positive hmagnitude =>
    obtain ⟨c, after, rfl, hc⟩ := hmagnitude.head
    exact (readWord_digit hc _).1
  | negative hmagnitude =>
    obtain ⟨c, after, rfl, hc⟩ := hmagnitude.head
    exact (readWord_digit hc _).2

theorem readScalar_sound {text rest : List Char} {value : Value}
    (h : readScalar text = .ok (value, rest)) :
    ∃ written, IsScalar value written ∧ text = written ++ rest := by
  unfold readScalar at h
  split at h
  · rename_i found hword
    cases h
    obtain ⟨word, hmem, rfl⟩ := readWord_sound hword
    exact ⟨_, .word hmem, rfl⟩
  · rename_i found behind hword hnumber
    split at h
    · cases h
    · rename_i hshort
      cases h
      obtain ⟨written, hwritten, rfl⟩ := readSigned_sound hnumber
      exact ⟨_, .number hwritten (Bool.eq_false_iff.mpr hshort), rfl⟩
  · cases h

theorem readScalar_complete {value : Value} {written rest : List Char} (h : IsScalar value written)
    (hrest : EndsNumber rest) : readScalar (written ++ rest) = .ok (value, rest) := by
  unfold readScalar
  cases h with
  | word hmem => rw [readWord_complete hmem]
  | number hnumber hshort =>
    rw [readWord_of_number hnumber, readSigned_of_number hnumber fun _ _ hmagnitude =>
      readNumber_complete hmagnitude hrest]
    simp [hshort]

theorem exists_integer_of_isLong {value : Value} (h : isLong value = true) :
    ∃ n, value = .integer n ∧ Text.integerBound ≤ n.natAbs := by
  cases value with
  | integer n => exact ⟨n, rfl, by simpa [isLong, Text.isLong] using h⟩
  | _ => cases h

/-- Reading a scalar breaks off at an integer with too many digits. -/
theorem readScalar_eq_long_iff {text : List Char} :
    readScalar text = .error .longInteger
      ↔ ∃ literal rest, IsLongInteger literal ∧ EndsInteger rest ∧ text = literal ++ rest := by
  constructor
  · intro h
    unfold readScalar at h
    split at h
    · cases h
    · rename_i found rest hword hnumber
      split at h
      · rename_i hlong
        obtain ⟨n, rfl, hbound⟩ := exists_integer_of_isLong hlong
        obtain ⟨literal, hliteral, rfl⟩ := readSigned_sound hnumber
        have hn : n ≠ 0 := by
          rintro rfl
          exact absurd hbound (by decide +kernel)
        exact ⟨literal, rest, ⟨n, hliteral, hbound⟩, endsInteger_of_readSigned hnumber hn, rfl⟩
      · cases h
    · cases h
  · rintro ⟨literal, rest, ⟨n, hliteral, hbound⟩, hrest, rfl⟩
    have hread := readSigned_of_number hliteral fun negative text hmagnitude => by
      cases hmagnitude
      exact readNumber_integer negative _ hrest
    have hlong : isLong (.integer n) = true := by simpa [isLong, Text.isLong] using hbound
    rw [readScalar, readWord_of_number hliteral, hread]
    simp [hlong]

end SchemaSemver.Json
