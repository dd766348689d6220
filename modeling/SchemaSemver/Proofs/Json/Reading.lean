/-
SchemaSemver.Proofs.Json.Reading — the reader reads exactly the texts that write a value.

`parseChars_eq_ok_iff` is the result: a text is read as a value if and only if the grammar lets the
text write it (`IsDocument`). So the grammar gives each text one value at most.

A value, items and members call each other, and a bound on the steps goes down with every call. Both
directions are inductions on this bound, for all three at once: `ReadsSoundly` and `ReadsCompletely`
say what is known of the calls one step below, and there is a lemma for each of the three. Reading
takes at most two steps a character, which is what the bound starts from.
-/
import SchemaSemver.Proofs.Json.Scalar

namespace SchemaSemver.Json

/-! ## §1 Gaps -/

theorem skipSpace_sound (text : List Char) :
    ∃ gap, IsGap gap ∧ text = gap ++ skipSpace text :=
  ⟨text.takeWhile isSpace, fun _ hc => List.mem_takeWhile_imp hc,
    List.takeWhile_append_dropWhile.symm⟩

theorem skipSpace_complete {gap rest : List Char} (hgap : IsGap gap) (hrest : Stops isSpace rest) :
    skipSpace (gap ++ rest) = rest :=
  (span_append hgap hrest).2

theorem skipSpace_cons {gap rest : List Char} {c : Char} (hgap : IsGap gap)
    (hc : isSpace c = false) : skipSpace (gap ++ c :: rest) = c :: rest :=
  skipSpace_complete hgap (stops_cons.mpr hc)

theorem isSpace_iff {c : Char} : isSpace c = true ↔ c = ' ' ∨ c = '\t' ∨ c = '\n' ∨ c = '\r' := by
  simp [isSpace, or_assoc]

/-- White space does not go on with a number. -/
theorem endsNumber_gap {gap rest : List Char} (hgap : IsGap gap) (hrest : EndsNumber rest) :
    EndsNumber (gap ++ rest) := by
  cases gap with
  | nil => exact hrest
  | cons c gap =>
    rw [List.cons_append, EndsNumber, stops_cons]
    rcases isSpace_iff.mp (hgap c List.mem_cons_self) with rfl | rfl | rfl | rfl <;> rfl

/-! ## §2 How values begin -/

/-- The text begins with a character other than these. -/
def BeginsOutside (excluded text : List Char) : Prop :=
  ∃ c after, text = c :: after ∧ c ∉ excluded

theorem BeginsOutside.ne_cons {excluded text : List Char} (h : BeginsOutside excluded text)
    {c : Char} (hc : c ∈ excluded) (after : List Char) : text ≠ c :: after := by
  obtain ⟨d, others, rfl, hd⟩ := h
  intro heq
  rw [(List.cons.inj heq).1] at hd
  exact hd hc

theorem BeginsOutside.append {excluded text : List Char} (h : BeginsOutside excluded text)
    (rest : List Char) : BeginsOutside excluded (text ++ rest) := by
  obtain ⟨c, after, rfl, hc⟩ := h
  exact ⟨c, after ++ rest, rfl, hc⟩

/-- White space, the bracket that closes an array, and the mark that no text may begin with. -/
def notFirst : List Char := [' ', '\t', '\n', '\r', ']', '\uFEFF']

theorem BeginsOutside.stops_space {text : List Char} (h : BeginsOutside notFirst text) :
    Stops isSpace text := by
  obtain ⟨c, after, rfl, hc⟩ := h
  rw [stops_cons]
  rw [Bool.eq_false_iff]
  intro hspace
  rcases isSpace_iff.mp hspace with rfl | rfl | rfl | rfl <;> exact hc (by decide)

/-- Neither a collection nor a string begins like a number. -/
theorem IsNumber.head {value : Value} {text : List Char} (h : IsNumber value text) :
    BeginsOutside ('"' :: '[' :: '\x7b' :: notFirst) text := by
  cases h with
  | positive hmagnitude =>
    obtain ⟨c, after, rfl, hc⟩ := hmagnitude.head
    refine ⟨c, after, rfl, fun hmem => ?_⟩
    simp only [notFirst, List.mem_cons, List.not_mem_nil, or_false] at hmem
    rcases hmem with rfl | rfl | rfl | rfl | rfl | rfl | rfl | rfl | rfl <;> cases hc
  | negative => exact ⟨'-', _, rfl, by decide⟩

theorem IsScalar.head {value : Value} {text : List Char} (h : IsScalar value text) :
    BeginsOutside ('"' :: '[' :: '\x7b' :: notFirst) text := by
  cases h with
  | word hmem =>
    simp only [words, List.mem_cons, Prod.mk.injEq, List.not_mem_nil, or_false] at hmem
    rcases hmem with ⟨rfl, -⟩ | ⟨rfl, -⟩ | ⟨rfl, -⟩ | ⟨rfl, -⟩ | ⟨rfl, -⟩ | ⟨rfl, -⟩
    all_goals exact ⟨_, _, rfl, by decide⟩
  | number hnumber => exact hnumber.head

theorem IsObject.head {members : List Member} {text : List Char} (h : IsObject members text) :
    BeginsOutside notFirst text := by
  cases h <;> exact ⟨'\x7b', _, rfl, by decide⟩

theorem IsValue.head {value : Value} {text : List Char} (h : IsValue value text) :
    BeginsOutside notFirst text := by
  cases h with
  | scalar hscalar =>
    obtain ⟨c, after, rfl, hc⟩ := hscalar.head
    exact ⟨c, after, rfl, fun hmem => hc (by simp [hmem])⟩
  | string => exact ⟨'"', _, rfl, by decide⟩
  | emptyArray => exact ⟨'[', _, rfl, by decide⟩
  | array => exact ⟨'[', _, rfl, by decide⟩
  | object hobject => exact hobject.head

theorem IsItems.head {items : List Value} {text : List Char} (h : IsItems items text) :
    BeginsOutside notFirst text := by
  cases h with
  | last hvalue => exact hvalue.head.append _
  | more hvalue => exact hvalue.head.append _

theorem IsMembers.head {members : List Member} {text : List Char} (h : IsMembers members text) :
    ∃ after, text = '"' :: after := by
  have hmember {member : Member} {written : List Char} (h : IsMember member written)
      (rest : List Char) : ∃ after, written ++ rest = '"' :: after := by
    cases h
    exact ⟨_, rfl⟩
  cases h with
  | last h => exact hmember h _
  | more h => exact hmember h _

/-! ## §3 What is read is written -/

/-- What is read within so many steps is written at the front of the text. -/
structure ReadsSoundly (fuel : Nat) : Prop where
  value : ∀ {text rest : List Char} {value : Value}, readValue fuel text = .ok (value, rest) →
    ∃ written, IsValue value written ∧ text = written ++ rest
  items : ∀ {text rest : List Char} {items : List Value}, readItems fuel text = .ok (items, rest) →
    ∃ written, IsItems items written ∧ text = written ++ ']' :: rest
  members : ∀ {text rest : List Char} {members : List Member},
    readMembers fuel text = .ok (members, rest) →
      ∃ written, IsMembers members written ∧ text = written ++ '\x7d' :: rest

theorem readValue_sound {fuel : Nat} (hbelow : ReadsSoundly fuel) {text rest : List Char}
    {value : Value} (h : readValue (fuel + 1) text = .ok (value, rest)) :
    ∃ written, IsValue value written ∧ text = written ++ rest := by
  unfold readValue at h
  split at h
  · rename_i afterQuote
    obtain ⟨⟨s, behind⟩, hstring, hok⟩ := bind_eq_ok_iff.mp h
    cases hok
    obtain ⟨written, hcontent, rfl⟩ := readString_eq_ok_iff.mp hstring
    exact ⟨_, .string hcontent, by simp⟩
  · rename_i afterBracket
    obtain ⟨gap, hgap, hsplit⟩ := skipSpace_sound afterBracket
    split at h
    · rename_i behind hclosed
      cases h
      refine ⟨_, .emptyArray hgap, ?_⟩
      rw [hsplit, hclosed]
      simp
    · obtain ⟨⟨items, behind⟩, hitems, hok⟩ := bind_eq_ok_iff.mp h
      cases hok
      obtain ⟨written, hwritten, htext⟩ := hbelow.items hitems
      refine ⟨_, .array hgap hwritten, ?_⟩
      rw [hsplit, htext]
      simp
  · rename_i afterBrace
    obtain ⟨gap, hgap, hsplit⟩ := skipSpace_sound afterBrace
    split at h
    · rename_i behind hclosed
      cases h
      refine ⟨_, .object (.empty hgap), ?_⟩
      rw [hsplit, hclosed]
      simp
    · obtain ⟨⟨members, behind⟩, hmembers, hok⟩ := bind_eq_ok_iff.mp h
      cases hok
      obtain ⟨written, hwritten, htext⟩ := hbelow.members hmembers
      refine ⟨_, .object (.members hgap hwritten), ?_⟩
      rw [hsplit, htext]
      simp
  · obtain ⟨written, hscalar, rfl⟩ := readScalar_sound h
    exact ⟨written, .scalar hscalar, rfl⟩

theorem readItems_sound {fuel : Nat} (hbelow : ReadsSoundly fuel) {text rest : List Char}
    {items : List Value} (h : readItems (fuel + 1) text = .ok (items, rest)) :
    ∃ written, IsItems items written ∧ text = written ++ ']' :: rest := by
  rw [readItems] at h
  obtain ⟨⟨item, afterItem⟩, hitem, hrest⟩ := bind_eq_ok_iff.mp h
  obtain ⟨itemText, hitemText, rfl⟩ := hbelow.value hitem
  obtain ⟨gap, hgap, hsplit⟩ := skipSpace_sound afterItem
  dsimp only at hrest
  split at hrest
  · rename_i behind hclosed
    cases hrest
    refine ⟨_, .last hitemText hgap, ?_⟩
    rw [hsplit, hclosed]
    simp
  · rename_i afterComma hcomma
    obtain ⟨⟨others, behind⟩, hothers, hok⟩ := bind_eq_ok_iff.mp hrest
    cases hok
    obtain ⟨gap', hgap', hsplit'⟩ := skipSpace_sound afterComma
    obtain ⟨othersText, hothersText, htext⟩ := hbelow.items hothers
    refine ⟨_, .more hitemText hgap hgap' hothersText, ?_⟩
    rw [hsplit, hcomma, hsplit', htext]
    simp
  · cases hrest

theorem readMembers_sound {fuel : Nat} (hbelow : ReadsSoundly fuel) {text rest : List Char}
    {members : List Member} (h : readMembers (fuel + 1) text = .ok (members, rest)) :
    ∃ written, IsMembers members written ∧ text = written ++ '\x7d' :: rest := by
  unfold readMembers at h
  split at h
  · rename_i afterQuote
    obtain ⟨⟨name, afterName⟩, hname, hvalue⟩ := bind_eq_ok_iff.mp h
    obtain ⟨nameText, hcontent, rfl⟩ := readString_eq_ok_iff.mp hname
    obtain ⟨gap, hgap, hsplit⟩ := skipSpace_sound afterName
    dsimp only at hvalue
    split at hvalue
    · rename_i afterColon hcolon
      obtain ⟨⟨value, afterValue⟩, hread, hrest⟩ := bind_eq_ok_iff.mp hvalue
      obtain ⟨gap', hgap', hsplit'⟩ := skipSpace_sound afterColon
      obtain ⟨valueText, hvalueText, htext⟩ := hbelow.value hread
      obtain ⟨gapBehind, hgapBehind, hsplitBehind⟩ := skipSpace_sound afterValue
      have hmember := IsMember.mk hcontent hgap hgap' hvalueText
      dsimp only at hrest
      split at hrest
      · rename_i behind hclosed
        cases hrest
        refine ⟨_, .last hmember hgapBehind, ?_⟩
        rw [hsplit, hcolon, hsplit', htext, hsplitBehind, hclosed]
        simp
      · rename_i afterComma hcomma
        obtain ⟨⟨others, behind⟩, hothers, hok⟩ := bind_eq_ok_iff.mp hrest
        cases hok
        obtain ⟨gapComma, hgapComma, hsplitComma⟩ := skipSpace_sound afterComma
        obtain ⟨othersText, hothersText, htext'⟩ := hbelow.members hothers
        refine ⟨_, .more hmember hgapBehind hgapComma hothersText, ?_⟩
        rw [hsplit, hcolon, hsplit', htext, hsplitBehind, hcomma, hsplitComma, htext']
        simp
      · cases hrest
    · cases hvalue
  · cases h

theorem readsSoundly (fuel : Nat) : ReadsSoundly fuel := by
  induction fuel with
  | zero =>
    constructor
    all_goals
      intro text rest found h
      cases h
  | succ fuel ih =>
    exact ⟨readValue_sound ih, readItems_sound ih, readMembers_sound ih⟩

/-! ## §4 What is written is read -/

/-- What is written at the front of a text is read, if there are steps enough. -/
structure ReadsCompletely (fuel : Nat) : Prop where
  value : ∀ {value : Value} {written rest : List Char}, IsValue value written → EndsNumber rest →
    2 * written.length ≤ fuel → readValue fuel (written ++ rest) = .ok (value, rest)
  items : ∀ {items : List Value} {written : List Char} (rest : List Char), IsItems items written →
    2 * written.length + 1 ≤ fuel → readItems fuel (written ++ ']' :: rest) = .ok (items, rest)
  members : ∀ {members : List Member} {written : List Char} (rest : List Char),
    IsMembers members written → 2 * written.length + 1 ≤ fuel →
      readMembers fuel (written ++ '\x7d' :: rest) = .ok (members, rest)

theorem readValue_scalar {fuel : Nat} {value : Value} {written rest : List Char}
    (h : IsScalar value written) (hrest : EndsNumber rest) :
    readValue (fuel + 1) (written ++ rest) = .ok (value, rest) := by
  have hhead := h.head.append rest
  rw [readValue.eq_5, readScalar_complete h hrest]
  · exact hhead.ne_cons (by decide)
  · exact hhead.ne_cons (by decide)
  · exact hhead.ne_cons (by decide)

theorem readValue_complete {fuel : Nat} (hbelow : ReadsCompletely fuel) {value : Value}
    {written rest : List Char} (h : IsValue value written) (hrest : EndsNumber rest)
    (hfuel : 2 * written.length ≤ fuel + 1) :
    readValue (fuel + 1) (written ++ rest) = .ok (value, rest) := by
  cases h with
  | scalar hscalar => exact readValue_scalar hscalar hrest
  | string hcontent =>
    rename_i s text
    have hstring : readString (text ++ '"' :: rest) = .ok (s, rest) :=
      readString_eq_ok_iff.mpr ⟨text, hcontent, rfl⟩
    have htext : '"' :: (text ++ ['"']) ++ rest = '"' :: (text ++ '"' :: rest) := by simp
    rw [htext, readValue, hstring]
    rfl
  | emptyArray hgap =>
    rename_i gap
    have htext : '[' :: (gap ++ [']']) ++ rest = '[' :: (gap ++ ']' :: rest) := by simp
    rw [htext, readValue, skipSpace_cons hgap rfl]
    rfl
  | array hgap hitems =>
    rename_i gap text items
    have hread := hbelow.items rest hitems (by simp at hfuel; omega)
    have hhead := hitems.head.append (']' :: rest)
    have htext : '[' :: (gap ++ (text ++ [']'])) ++ rest
        = '[' :: (gap ++ (text ++ ']' :: rest)) := by simp
    rw [htext, readValue, skipSpace_complete hgap hhead.stops_space]
    split
    · rename_i hclosed
      exact absurd hclosed (hhead.ne_cons (by decide) _)
    · rw [hread]
      rfl
  | object hobject =>
    cases hobject with
    | empty hgap =>
      rename_i gap
      have htext : '\x7b' :: (gap ++ ['\x7d']) ++ rest
          = '\x7b' :: (gap ++ '\x7d' :: rest) := by simp
      rw [htext, readValue, skipSpace_cons hgap rfl]
      rfl
    | @members gap text members hgap hmembers =>
      have hread := hbelow.members rest hmembers (by simp at hfuel; omega)
      obtain ⟨after, rfl⟩ := hmembers.head
      have htext : '\x7b' :: (gap ++ ('"' :: after ++ ['\x7d'])) ++ rest
          = '\x7b' :: (gap ++ '"' :: (after ++ '\x7d' :: rest)) := by simp
      rw [List.cons_append] at hread
      rw [htext, readValue, skipSpace_cons hgap rfl]
      simp [bind, Except.bind, pure, Except.pure, hread]

theorem readItems_complete {fuel : Nat} (hbelow : ReadsCompletely fuel) {items : List Value}
    {written : List Char} (rest : List Char) (h : IsItems items written)
    (hfuel : 2 * written.length + 1 ≤ fuel + 1) :
    readItems (fuel + 1) (written ++ ']' :: rest) = .ok (items, rest) := by
  cases h with
  | @last value text gap hvalue hgap =>
    have hclosed : EndsNumber (gap ++ ']' :: rest) := endsNumber_gap hgap (stops_cons.mpr rfl)
    have hread := hbelow.value hvalue hclosed (by simp at hfuel; omega)
    have hskip : skipSpace (gap ++ ']' :: rest) = ']' :: rest := skipSpace_cons hgap rfl
    rw [List.append_assoc, readItems, hread]
    simp [bind, Except.bind, pure, Except.pure, hskip]
  | @more value others text gap gap' behind hvalue hgap hgap' hothers =>
    have htext : text ++ (gap ++ ',' :: (gap' ++ behind)) ++ ']' :: rest
        = text ++ (gap ++ ',' :: (gap' ++ (behind ++ ']' :: rest))) := by simp
    have hcomma : EndsNumber (gap ++ ',' :: (gap' ++ (behind ++ ']' :: rest))) :=
      endsNumber_gap hgap (stops_cons.mpr rfl)
    have hread := hbelow.value hvalue hcomma (by simp at hfuel; omega)
    have hreadOthers := hbelow.items rest hothers (by simp at hfuel; omega)
    have hskip : skipSpace (gap ++ ',' :: (gap' ++ (behind ++ ']' :: rest)))
        = ',' :: (gap' ++ (behind ++ ']' :: rest)) := skipSpace_cons hgap rfl
    have hskip' : skipSpace (gap' ++ (behind ++ ']' :: rest)) = behind ++ ']' :: rest :=
      skipSpace_complete hgap' (hothers.head.append _).stops_space
    rw [htext, readItems, hread]
    simp [bind, Except.bind, pure, Except.pure, hskip, hskip', hreadOthers]

/-- A member is read, and behind it a closing brace or a comma and further members. -/
theorem readMembers_member {fuel : Nat} (hbelow : ReadsCompletely fuel) {member : Member}
    {written rest : List Char} (h : IsMember member written) (hrest : EndsNumber rest)
    (hfuel : 2 * written.length ≤ fuel) :
    (∀ behind, skipSpace rest = '\x7d' :: behind →
        readMembers (fuel + 1) (written ++ rest) = .ok ([member], behind))
      ∧ ∀ behind, skipSpace rest = ',' :: behind →
        readMembers (fuel + 1) (written ++ rest)
          = (readMembers fuel (skipSpace behind)).map fun found =>
            (member :: found.1, found.2) := by
  cases h with
  | @mk name value nameText gap gap' text hname hgap hgap' hvalue =>
    have htext : '"' :: (nameText ++ '"' :: (gap ++ ':' :: (gap' ++ text))) ++ rest
        = '"' :: (nameText ++ '"' :: (gap ++ ':' :: (gap' ++ (text ++ rest)))) := by simp
    have hstring : readString (nameText ++ '"' :: (gap ++ ':' :: (gap' ++ (text ++ rest))))
        = .ok (name, gap ++ ':' :: (gap' ++ (text ++ rest))) :=
      readString_eq_ok_iff.mpr ⟨nameText, hname, rfl⟩
    have hread := hbelow.value hvalue hrest (by simp at hfuel; omega)
    have hskip : skipSpace (gap ++ ':' :: (gap' ++ (text ++ rest)))
        = ':' :: (gap' ++ (text ++ rest)) := skipSpace_cons hgap rfl
    have hskip' : skipSpace (gap' ++ (text ++ rest)) = text ++ rest :=
      skipSpace_complete hgap' (hvalue.head.append _).stops_space
    rw [htext, readMembers, hstring]
    constructor
    · intro behind hclosed
      simp [bind, Except.bind, pure, Except.pure, hskip, hskip', hread, hclosed]
    · intro behind hcomma
      simp only [bind, Except.bind, pure, Except.pure, hskip, hskip', hread, hcomma]
      cases readMembers fuel (skipSpace behind) <;> rfl

theorem readMembers_complete {fuel : Nat} (hbelow : ReadsCompletely fuel) {members : List Member}
    {written : List Char} (rest : List Char) (h : IsMembers members written)
    (hfuel : 2 * written.length + 1 ≤ fuel + 1) :
    readMembers (fuel + 1) (written ++ '\x7d' :: rest) = .ok (members, rest) := by
  cases h with
  | @last member text gap hmember hgap =>
    have hclosed : EndsNumber (gap ++ '\x7d' :: rest) := endsNumber_gap hgap (stops_cons.mpr rfl)
    rw [List.append_assoc]
    exact (readMembers_member hbelow hmember hclosed (by simp at hfuel; omega)).1 rest
      (skipSpace_cons hgap rfl)
  | @more member others text gap gap' behind hmember hgap hgap' hothers =>
    have htext : text ++ (gap ++ ',' :: (gap' ++ behind)) ++ '\x7d' :: rest
        = text ++ (gap ++ ',' :: (gap' ++ (behind ++ '\x7d' :: rest))) := by simp
    have hcomma : EndsNumber (gap ++ ',' :: (gap' ++ (behind ++ '\x7d' :: rest))) :=
      endsNumber_gap hgap (stops_cons.mpr rfl)
    have hskip : skipSpace (gap' ++ (behind ++ '\x7d' :: rest)) = behind ++ '\x7d' :: rest := by
      obtain ⟨after, rfl⟩ := hothers.head
      exact skipSpace_cons hgap' rfl
    have hreadOthers := hbelow.members rest hothers (by simp at hfuel; omega)
    rw [← hskip] at hreadOthers
    rw [htext, (readMembers_member hbelow hmember hcomma (by simp at hfuel; omega)).2 _
      (skipSpace_cons hgap rfl), hreadOthers]
    rfl

theorem IsValue.length_pos {value : Value} {written : List Char} (h : IsValue value written) :
    0 < written.length := by
  obtain ⟨c, after, rfl, -⟩ := h.head
  simp

theorem readsCompletely (fuel : Nat) : ReadsCompletely fuel := by
  induction fuel with
  | zero =>
    constructor
    · intro value written rest h hrest hfuel
      have := h.length_pos
      omega
    · intro items written rest h hfuel
      omega
    · intro members written rest h hfuel
      omega
  | succ fuel ih =>
    exact ⟨readValue_complete ih, readItems_complete ih, readMembers_complete ih⟩

/-! ## §5 Whole texts -/

/-- Nothing that writes a value begins with a byte order mark. -/
theorem IsDocument.ne_mark {value : Value} {text : List Char} (h : IsDocument value text)
    (rest : List Char) : text ≠ '\uFEFF' :: rest := by
  obtain ⟨before, written, after, hbefore, hwritten, -, rfl⟩ := h
  cases before with
  | nil => exact (hwritten.head.append after).ne_cons (by decide) rest
  | cons c before =>
    intro heq
    have hc := hbefore c List.mem_cons_self
    rw [(List.cons.inj heq).1] at hc
    cases hc

/-- A text is read as a value exactly if it writes the value. -/
theorem parseChars_eq_ok_iff {text : List Char} {value : Value} :
    parseChars text = .ok value ↔ IsDocument value text := by
  constructor
  · intro h
    unfold parseChars at h
    split at h
    · cases h
    · obtain ⟨⟨found, rest⟩, hread, hend⟩ := bind_eq_ok_iff.mp h
      obtain ⟨written, hwritten, htext⟩ := (readsSoundly _).value hread
      obtain ⟨before, hbefore, hsplit⟩ := skipSpace_sound text
      obtain ⟨after, hafter, hrest⟩ := skipSpace_sound rest
      dsimp only at hend
      split at hend
      · rename_i hnil
        cases hend
        refine ⟨before, written, after, hbefore, hwritten, hafter, ?_⟩
        rw [hnil, List.append_nil] at hrest
        rw [hsplit, htext, hrest]
      · cases hend
  · intro h
    have hmark := h.ne_mark
    obtain ⟨before, written, after, hbefore, hwritten, hafter, rfl⟩ := h
    have hskip : skipSpace (before ++ (written ++ after)) = written ++ after :=
      skipSpace_complete hbefore (hwritten.head.append after).stops_space
    have hskip' : skipSpace after = [] := by
      have h := skipSpace_complete hafter (stops_nil isSpace)
      rwa [List.append_nil] at h
    have hend : EndsNumber after := by
      have h := endsNumber_gap hafter (stops_nil _)
      rwa [List.append_nil] at h
    have hread := (readsCompletely (2 * (before ++ (written ++ after)).length + 2)).value hwritten
      hend (by simp; omega)
    rw [parseChars.eq_2 _ hmark, hskip, hread]
    simp [bind, Except.bind, pure, Except.pure, hskip']

/-- A text writes one value at most. -/
theorem IsDocument.unique {value value' : Value} {text : List Char} (h : IsDocument value text)
    (h' : IsDocument value' text) : value = value' := by
  have hread := parseChars_eq_ok_iff.mpr h
  rw [parseChars_eq_ok_iff.mpr h', Except.ok.injEq] at hread
  exact hread.symm

end SchemaSemver.Json
