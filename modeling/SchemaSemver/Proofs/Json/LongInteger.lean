/-
SchemaSemver.Proofs.Json.LongInteger — when reading breaks off.

Reading a text breaks off at an integer with too many digits, and it gets there only if nothing in
front of the integer is wrong. `parseChars_eq_long_iff` says this exactly: reading breaks off if and
only if the grammar lets the text come to such an integer (`ComesToLong`). What stands behind the
integer does not matter.

The proof goes along with that of `parseChars_eq_ok_iff`: both directions are inductions on the
bound on the steps, and what stands in front of the integer was read as the grammar says.
-/
import SchemaSemver.Proofs.Json.Reading

namespace SchemaSemver.Json

/-! ## §1 Long integers -/

theorem length_toDigits_le {n limit : Nat} (hlimit : 0 < limit) (h : n < Nat.pow 10 limit) :
    (Nat.toDigits 10 n).length ≤ limit :=
  (Nat.length_toDigits_le_iff (by decide) hlimit).mpr h

/-- More than 4300 digits without a leading zero are too many. -/
theorem isLongInteger_of_length {c : Char} {digits : List Char} (hc : c.isDigit = true)
    (hzero : c ≠ '0') (hdigits : ∀ d ∈ digits, d.isDigit = true) (hlength : 4300 ≤ digits.length) :
    IsLongInteger (c :: digits) := by
  have htext : Nat.toDigits 10 (natOfDigits (c :: digits)) = c :: digits :=
    toDigits_natOfDigits hc hzero hdigits
  refine ⟨natOfDigits (c :: digits), ?_, ?_⟩
  · rw [← htext, natOfDigits_toDigits]
    exact .positive (.integer _)
  · by_contra hsmall
    unfold Text.integerBound Text.digitLimit at hsmall
    have hshort := length_toDigits_le (by decide) (Nat.lt_of_not_le hsmall)
    rw [Int.natAbs_natCast, htext, List.length_cons] at hshort
    omega

/-- No string is too long. -/
theorem readStringBody_ne_long {opening : List Char} {fuel : Nat} {text : List Char} :
    readStringBody opening fuel text ≠ .error .longInteger := by
  induction fuel generalizing text with
  | zero => simp [readStringBody]
  | succ fuel ih =>
    intro h
    have hbehind {c : Char} {behind : List Char} :
        (readStringBody opening fuel behind >>= fun found => pure (c :: found.1, found.2))
          ≠ .error .longInteger := by
      intro h
      rcases bind_eq_error_iff.mp h with hbody | ⟨_, -, hok⟩
      · exact ih hbody
      · cases hok
    unfold readStringBody at h
    split at h
    · cases h
    · cases h
    · cases h
    · split at h
      · cases h
      · exact hbehind h
    · split at h
      · cases h
      · exact hbehind h
    · split at h
      · cases h
      · exact hbehind h

theorem readString_ne_long {text : List Char} : readString text ≠ .error .longInteger := by
  intro h
  rcases bind_eq_error_iff.mp h with hbody | ⟨_, -, hok⟩
  · exact readStringBody_ne_long hbody
  · cases hok

/-! ## §2 Where reading breaks off there is a long integer -/

/-- Where reading breaks off within so many steps, the text comes to a long integer. -/
structure BreaksSoundly (fuel : Nat) : Prop where
  value : ∀ {text : List Char}, readValue fuel text = .error .longInteger → LongInValue text
  items : ∀ {text : List Char}, readItems fuel text = .error .longInteger → LongInItems text
  members : ∀ {text : List Char}, readMembers fuel text = .error .longInteger → LongInMembers text

theorem longInValue_of_readValue {fuel : Nat} (hbelow : BreaksSoundly fuel) {text : List Char}
    (h : readValue (fuel + 1) text = .error .longInteger) : LongInValue text := by
  unfold readValue at h
  split at h
  · rcases bind_eq_error_iff.mp h with hstring | ⟨_, -, hok⟩
    · exact absurd hstring readString_ne_long
    · cases hok
  · rename_i afterBracket
    obtain ⟨gap, hgap, hsplit⟩ := skipSpace_sound afterBracket
    split at h
    · cases h
    · rcases bind_eq_error_iff.mp h with hitems | ⟨_, -, hok⟩
      · rw [hsplit]
        exact .array hgap (hbelow.items hitems)
      · cases hok
  · rename_i afterBrace
    obtain ⟨gap, hgap, hsplit⟩ := skipSpace_sound afterBrace
    split at h
    · cases h
    · rcases bind_eq_error_iff.mp h with hmembers | ⟨_, -, hok⟩
      · rw [hsplit]
        exact .object hgap (hbelow.members hmembers)
      · cases hok
  · obtain ⟨literal, rest, hlong, hrest, rfl⟩ := readScalar_eq_long_iff.mp h
    exact .here hlong hrest

theorem longInItems_of_readItems {fuel : Nat} (hbelow : BreaksSoundly fuel) {text : List Char}
    (h : readItems (fuel + 1) text = .error .longInteger) : LongInItems text := by
  rw [readItems] at h
  rcases bind_eq_error_iff.mp h with hvalue | ⟨⟨item, afterItem⟩, hitem, hrest⟩
  · exact .here (hbelow.value hvalue)
  · obtain ⟨itemText, hitemText, rfl⟩ := (readsSoundly fuel).value hitem
    obtain ⟨gap, hgap, hsplit⟩ := skipSpace_sound afterItem
    dsimp only at hrest
    split at hrest
    · cases hrest
    · rename_i afterComma hcomma
      obtain ⟨gap', hgap', hsplit'⟩ := skipSpace_sound afterComma
      rcases bind_eq_error_iff.mp hrest with hothers | ⟨_, -, hok⟩
      · rw [hsplit, hcomma, hsplit']
        exact .later hitemText hgap hgap' (hbelow.items hothers)
      · cases hok
    · cases hrest

theorem longInMembers_of_readMembers {fuel : Nat} (hbelow : BreaksSoundly fuel) {text : List Char}
    (h : readMembers (fuel + 1) text = .error .longInteger) : LongInMembers text := by
  unfold readMembers at h
  split at h
  · rename_i afterQuote
    rcases bind_eq_error_iff.mp h with hstring | ⟨⟨name, afterName⟩, hname, hrest⟩
    · exact absurd hstring readString_ne_long
    · obtain ⟨nameText, hcontent, rfl⟩ := readString_eq_ok_iff.mp hname
      obtain ⟨gap, hgap, hsplit⟩ := skipSpace_sound afterName
      dsimp only at hrest
      split at hrest
      · rename_i afterColon hcolon
        obtain ⟨gap', hgap', hsplit'⟩ := skipSpace_sound afterColon
        rw [hsplit, hcolon, hsplit']
        rcases bind_eq_error_iff.mp hrest with hvalue | ⟨⟨value, afterValue⟩, hread, hothers⟩
        · exact .here hcontent hgap hgap' (hbelow.value hvalue)
        · obtain ⟨valueText, hvalueText, htext⟩ := (readsSoundly fuel).value hread
          obtain ⟨gapBehind, hgapBehind, hsplitBehind⟩ := skipSpace_sound afterValue
          have hmember := IsMember.mk hcontent hgap hgap' hvalueText
          dsimp only at hothers
          split at hothers
          · cases hothers
          · rename_i afterComma hcomma
            obtain ⟨gapComma, hgapComma, hsplitComma⟩ := skipSpace_sound afterComma
            rcases bind_eq_error_iff.mp hothers with hmembers | ⟨_, -, hok⟩
            · have hlater := LongInMembers.later hmember hgapBehind hgapComma
                (hbelow.members hmembers)
              rw [htext, hsplitBehind, hcomma, hsplitComma]
              simpa using hlater
            · cases hok
          · cases hothers
      · cases hrest
  · cases h

theorem breaksSoundly (fuel : Nat) : BreaksSoundly fuel := by
  induction fuel with
  | zero =>
    constructor
    all_goals
      intro text h
      cases h
  | succ fuel ih =>
    exact ⟨longInValue_of_readValue ih, longInItems_of_readItems ih,
      longInMembers_of_readMembers ih⟩

/-! ## §3 A long integer breaks reading off -/

theorem LongInValue.head {text : List Char} (h : LongInValue text) :
    BeginsOutside notFirst text := by
  cases h with
  | here hlong =>
    obtain ⟨n, hnumber, -⟩ := hlong
    obtain ⟨c, after, rfl, hc⟩ := hnumber.head
    exact ⟨c, _, rfl, fun hmem => hc (by simp [hmem])⟩
  | array => exact ⟨'[', _, rfl, by decide⟩
  | object => exact ⟨'\x7b', _, rfl, by decide⟩

theorem LongInItems.head {text : List Char} (h : LongInItems text) :
    BeginsOutside notFirst text := by
  cases h with
  | here hvalue => exact hvalue.head
  | later hvalue => exact hvalue.head.append _

theorem LongInMembers.head {text : List Char} (h : LongInMembers text) :
    ∃ after, text = '"' :: after := by
  cases h with
  | here => exact ⟨_, rfl⟩
  | later hmember =>
    cases hmember
    exact ⟨_, rfl⟩

/-- Where the text comes to a long integer, reading breaks off if there are steps enough. -/
structure BreaksCompletely (fuel : Nat) : Prop where
  value : ∀ {text : List Char}, LongInValue text → 2 * text.length ≤ fuel →
    readValue fuel text = .error .longInteger
  items : ∀ {text : List Char}, LongInItems text → 2 * text.length + 1 ≤ fuel →
    readItems fuel text = .error .longInteger
  members : ∀ {text : List Char}, LongInMembers text → 2 * text.length + 1 ≤ fuel →
    readMembers fuel text = .error .longInteger

theorem readValue_of_long {fuel : Nat} (hbelow : BreaksCompletely fuel) {text : List Char}
    (h : LongInValue text) (hfuel : 2 * text.length ≤ fuel + 1) :
    readValue (fuel + 1) text = .error .longInteger := by
  cases h with
  | @here literal rest hlong hrest =>
    obtain ⟨n, hnumber, hbound⟩ := hlong
    have hhead := hnumber.head.append rest
    have hscalar : readScalar (literal ++ rest) = .error .longInteger :=
      readScalar_eq_long_iff.mpr ⟨literal, rest, ⟨n, hnumber, hbound⟩, hrest, rfl⟩
    rw [readValue.eq_5, hscalar]
    · exact hhead.ne_cons (by decide)
    · exact hhead.ne_cons (by decide)
    · exact hhead.ne_cons (by decide)
  | @array gap rest hgap hitems =>
    have hread := hbelow.items hitems (by simp at hfuel; omega)
    rw [readValue, skipSpace_complete hgap hitems.head.stops_space]
    split
    · rename_i hclosed
      exact absurd rfl (hitems.head.ne_cons (by decide) _)
    · rw [hread]
      rfl
  | @object gap rest hgap hmembers =>
    have hread := hbelow.members hmembers (by simp at hfuel; omega)
    obtain ⟨after, rfl⟩ := hmembers.head
    rw [readValue, skipSpace_cons hgap rfl]
    simp [bind, Except.bind, hread]

theorem readItems_of_long {fuel : Nat} (hbelow : BreaksCompletely fuel) {text : List Char}
    (h : LongInItems text) (hfuel : 2 * text.length + 1 ≤ fuel + 1) :
    readItems (fuel + 1) text = .error .longInteger := by
  cases h with
  | here hvalue =>
    rw [readItems, hbelow.value hvalue (by omega)]
    rfl
  | @later value text gap gap' rest hvalue hgap hgap' hrest =>
    have hcomma : EndsNumber (gap ++ ',' :: (gap' ++ rest)) :=
      endsNumber_gap hgap (stops_cons.mpr rfl)
    have hread := (readsCompletely fuel).value hvalue hcomma (by simp at hfuel; omega)
    have hothers := hbelow.items hrest (by simp at hfuel; omega)
    have hskip : skipSpace (gap ++ ',' :: (gap' ++ rest)) = ',' :: (gap' ++ rest) :=
      skipSpace_cons hgap rfl
    have hskip' : skipSpace (gap' ++ rest) = rest :=
      skipSpace_complete hgap' hrest.head.stops_space
    rw [readItems, hread]
    simp [bind, Except.bind, hskip, hskip', hothers]

theorem readMembers_of_long {fuel : Nat} (hbelow : BreaksCompletely fuel) {text : List Char}
    (h : LongInMembers text) (hfuel : 2 * text.length + 1 ≤ fuel + 1) :
    readMembers (fuel + 1) text = .error .longInteger := by
  cases h with
  | @here name nameText gap gap' rest hname hgap hgap' hvalue =>
    have hstring : readString (nameText ++ '"' :: (gap ++ ':' :: (gap' ++ rest)))
        = .ok (name, gap ++ ':' :: (gap' ++ rest)) :=
      readString_eq_ok_iff.mpr ⟨nameText, hname, rfl⟩
    have hskip : skipSpace (gap ++ ':' :: (gap' ++ rest)) = ':' :: (gap' ++ rest) :=
      skipSpace_cons hgap rfl
    have hskip' : skipSpace (gap' ++ rest) = rest :=
      skipSpace_complete hgap' hvalue.head.stops_space
    have hread := hbelow.value hvalue (by simp at hfuel; omega)
    rw [readMembers, hstring]
    simp [bind, Except.bind, hskip, hskip', hread]
  | @later member text gap gap' rest hmember hgap hgap' hrest =>
    have hcomma : EndsNumber (gap ++ ',' :: (gap' ++ rest)) :=
      endsNumber_gap hgap (stops_cons.mpr rfl)
    have hothers := hbelow.members hrest (by simp at hfuel; omega)
    have hskip : skipSpace (gap' ++ rest) = rest := by
      obtain ⟨after, rfl⟩ := hrest.head
      exact skipSpace_cons hgap' rfl
    rw [(readMembers_member (readsCompletely fuel) hmember hcomma (by simp at hfuel; omega)).2 _
      (skipSpace_cons hgap rfl), hskip, hothers]
    rfl

theorem breaksCompletely (fuel : Nat) : BreaksCompletely fuel := by
  induction fuel with
  | zero =>
    constructor
    · intro text h hfuel
      obtain ⟨c, after, rfl, -⟩ := h.head
      simp at hfuel
    · intro text h hfuel
      omega
    · intro text h hfuel
      omega
  | succ fuel ih =>
    exact ⟨readValue_of_long ih, readItems_of_long ih, readMembers_of_long ih⟩

/-! ## §4 Whole texts -/

/-- Reading a text breaks off exactly if it comes to an integer with too many digits. -/
theorem parseChars_eq_long_iff {text : List Char} :
    parseChars text = .error .longInteger ↔ ComesToLong text := by
  constructor
  · intro h
    unfold parseChars at h
    split at h
    · cases h
    · rcases bind_eq_error_iff.mp h with hread | ⟨⟨found, rest⟩, -, hend⟩
      · obtain ⟨before, hbefore, hsplit⟩ := skipSpace_sound text
        exact ⟨before, _, hbefore, (breaksSoundly _).value hread, hsplit⟩
      · dsimp only at hend
        split at hend <;> cases hend
  · rintro ⟨before, rest, hbefore, hlong, rfl⟩
    have hmark : ∀ after, before ++ rest ≠ '\uFEFF' :: after := by
      intro after heq
      cases before with
      | nil => exact hlong.head.ne_cons (by decide) after heq
      | cons c before =>
        have hc := hbefore c List.mem_cons_self
        rw [(List.cons.inj heq).1] at hc
        cases hc
    have hread := (breaksCompletely (2 * (before ++ rest).length + 2)).value hlong
      (by simp; omega)
    rw [parseChars.eq_2 _ hmark, skipSpace_complete hbefore hlong.head.stops_space, hread]
    rfl

end SchemaSemver.Json
