/-
SchemaSemver.Proofs.Text.Encoding — what is wrong when bytes cannot be read.

Reading under a name fails for one of two reasons: the name stands for no text encoding, or some of
the bytes are no text of the encoding. The second kind of fault names the bytes: where the first of
them stands, which byte it is, and how many there are. What is relied on of the codecs of a machine
is `Codecs.IsLawful`: the bytes that an encoding names are really there, so such a fault comes from
the bytes alone. `standard_isLawful` proves it of the codecs that every machine has.

UTF-8, UTF-16 and UTF-32 are read character by character, each from the bytes behind the last one,
and the position is carried along. What a fault covers behind some bytes it covers in the whole
(`Covers.of_drop`); with this step the readers go through by induction.
-/
import Mathlib.Tactic.SplitIfs
import SchemaSemver.Proofs.Result
import SchemaSemver.Text.Encoding

namespace SchemaSemver.Text

/-! ## §1 Bytes that a fault covers -/

/-- From the position on as many bytes are there, and the first of them is the given one. -/
structure Covers (bytes : List UInt8) (position width : Nat) (first : UInt8) : Prop where
  first : bytes[position]? = some first
  inside : position + width ≤ bytes.length

namespace Covers

variable {bytes : List UInt8} {position width : Nat} {first : UInt8}

theorem of_drop (skipped : Nat) (h : Covers (bytes.drop skipped) position width first)
    (hskipped : skipped ≤ bytes.length) : Covers bytes (skipped + position) width first where
  first := by
    rw [← h.first, List.getElem?_drop]
  inside := by
    have hinside := h.inside
    rw [List.length_drop] at hinside
    omega

theorem head {rest : List UInt8} (h : width ≤ rest.length + 1) :
    Covers (first :: rest) 0 width first where
  first := rfl
  inside := by
    rw [List.length_cons]
    omega

end Covers

/-! ## §2 Readers -/

namespace Utf8

/-- The number of bytes that a step covers. -/
def Step.width : Step → Nat
  | .char _ width => width
  | .fault _ width => width

/-- The bytes that follow a first one are counted on, and only bytes that are there are counted. -/
theorem width_readFollowing (following low high bits width : Nat) (rest : List UInt8) :
    width ≤ (readFollowing following low high bits width rest).width
      ∧ (readFollowing following low high bits width rest).width ≤ width + rest.length := by
  induction following generalizing low high bits width rest with
  | zero => simp [readFollowing, Step.width]
  | succ following ih =>
    cases rest with
    | nil => simp [readFollowing, Step.width]
    | cons byte rest =>
      rw [readFollowing]
      split_ifs
      · have hrest := ih 0x80 0xBF (bits * 64 + (byte.toNat - 0x80)) (width + 1) rest
        rw [List.length_cons]
        omega
      · simp [Step.width]

theorem width_step (first : UInt8) (rest : List UInt8) :
    1 ≤ (step first rest).width ∧ (step first rest).width ≤ rest.length + 1 := by
  unfold step
  split
  · simp [Step.width]
  · rename_i lead _
    have hwidth := width_readFollowing lead.following lead.low lead.high lead.bits 1 rest
    omega

theorem covers_of_decodeFrom {fuel position : Nat} {bytes : List UInt8} {fault : Fault}
    (h : decodeFrom fuel position bytes = .error fault) :
    ∃ offset, fault.position = position + offset
      ∧ Covers bytes offset fault.width fault.firstByte := by
  induction fuel generalizing position bytes with
  | zero => cases h
  | succ fuel ih =>
    cases bytes with
    | nil => cases h
    | cons first rest =>
      have hwidth := width_step first rest
      rw [decodeFrom] at h
      cases hstep : step first rest with
      | fault kind width =>
        rw [hstep] at h hwidth
        cases h
        exact ⟨0, rfl, Covers.head hwidth.2⟩
      | char c width =>
        rw [hstep] at h hwidth
        simp only [Step.width] at hwidth
        obtain ⟨offset, hposition, hcovers⟩ := ih ((map_eq_error_iff _).mp h)
        have hdrop : rest.drop (width - 1) = (first :: rest).drop width := by
          obtain ⟨less, rfl⟩ : ∃ less, width = less + 1 := ⟨width - 1, by omega⟩
          rfl
        rw [hdrop] at hcovers
        refine ⟨width + offset, by omega, .of_drop width hcovers ?_⟩
        rw [List.length_cons]
        omega

end Utf8

namespace Utf16

theorem covers_of_decodeFrom {order : ByteOrder} {position : Nat} {bytes : List UInt8}
    {fault : Fault} (h : decodeFrom order position bytes = .error fault) :
    ∃ offset, fault.position = position + offset
      ∧ Covers bytes offset fault.width fault.firstByte := by
  fun_induction decodeFrom order position bytes with
  | case1 => cases h
  | case2 position byte =>
    cases h
    exact ⟨0, rfl, Covers.head (by simp)⟩
  | case3 position first second rest high hlow =>
    cases h
    exact ⟨0, rfl, Covers.head (by simp)⟩
  | case4 position first second high hnotLow hhigh third fourth rest low hlow ih =>
    obtain ⟨offset, hposition, hcovers⟩ := ih ((map_eq_error_iff _).mp h)
    exact ⟨4 + offset, by omega, .of_drop 4 hcovers (by simp)⟩
  | case5 position first second high hnotLow hhigh third fourth rest low hlow =>
    cases h
    exact ⟨0, rfl, Covers.head (by simp)⟩
  | case6 position first second high hnotLow hhigh rest hrest =>
    cases h
    exact ⟨0, rfl, Covers.head (by simp; omega)⟩
  | case7 position first second rest high hnotLow hnotHigh ih =>
    obtain ⟨offset, hposition, hcovers⟩ := ih ((map_eq_error_iff _).mp h)
    exact ⟨2 + offset, by omega, .of_drop 2 hcovers (by simp)⟩

end Utf16

namespace Utf32

theorem covers_of_decodeFrom {order : Utf16.ByteOrder} {position : Nat} {bytes : List UInt8}
    {fault : Fault} (h : decodeFrom order position bytes = .error fault) :
    ∃ offset, fault.position = position + offset
      ∧ Covers bytes offset fault.width fault.firstByte := by
  fun_induction decodeFrom order position bytes with
  | case1 => cases h
  | case2 position first second third fourth rest code hsurrogate =>
    cases h
    exact ⟨0, rfl, Covers.head (by simp)⟩
  | case3 position first second third fourth rest code hplain hlarge =>
    cases h
    exact ⟨0, rfl, Covers.head (by simp)⟩
  | case4 position first second third fourth rest code hplain hsmall ih =>
    obtain ⟨offset, hposition, hcovers⟩ := ih ((map_eq_error_iff _).mp h)
    exact ⟨4 + offset, by omega, .of_drop 4 hcovers (by simp)⟩
  | case5 position first rest hrest =>
    cases h
    exact ⟨0, rfl, Covers.head (by simp; omega)⟩

end Utf32

/-! ## §3 Encodings -/

/-- The fault lies in bytes that are there; a signature in front of them may be left out. -/
def ByteFault.LiesIn (bytes : List UInt8) (fault : ByteFault) : Prop :=
  ∃ signature rest, bytes = signature ++ rest
    ∧ Covers rest fault.position fault.width fault.firstByte

theorem ByteFault.LiesIn.append {fault : ByteFault} {bytes : List UInt8} (h : fault.LiesIn bytes)
    (before : List UInt8) : fault.LiesIn (before ++ bytes) := by
  obtain ⟨signature, rest, rfl, hcovers⟩ := h
  exact ⟨before ++ signature, rest, by rw [List.append_assoc], hcovers⟩

theorem covers_of_decodeSingles {codec reason : String} {char? : UInt8 → Option Char}
    {position : Nat} {bytes : List UInt8} {fault : ByteFault}
    (h : decodeSingles codec reason char? position bytes = .error fault) :
    ∃ offset, fault.position = position + offset
      ∧ Covers bytes offset fault.width fault.firstByte := by
  induction bytes generalizing position with
  | nil => cases h
  | cons byte rest ih =>
    rw [decodeSingles] at h
    cases hchar : char? byte with
    | none =>
      rw [hchar] at h
      cases h
      exact ⟨0, rfl, Covers.head (by simp)⟩
    | some c =>
      rw [hchar] at h
      obtain ⟨offset, hposition, hcovers⟩ := ih ((map_eq_error_iff _).mp h)
      exact ⟨1 + offset, by omega, .of_drop 1 hcovers (by simp)⟩

/-- A fault that is counted from behind a mark lies in the bytes with the mark. -/
theorem liesIn_of_covers (mark : List UInt8) {rest : List UInt8} {fault : ByteFault}
    (h : ∃ offset, fault.position = mark.length + offset
      ∧ Covers rest offset fault.width fault.firstByte) : fault.LiesIn (mark ++ rest) := by
  obtain ⟨offset, hposition, hcovers⟩ := h
  refine ⟨[], mark ++ rest, rfl, ?_⟩
  rw [hposition]
  exact .of_drop mark.length (by simpa using hcovers) (by simp)

theorem liesIn_of_decodeUtf8 {bytes : List UInt8} {fault : ByteFault}
    (h : decodeUtf8 bytes = .error fault) : fault.LiesIn bytes := by
  obtain ⟨found, hdecode, rfl⟩ := mapError_eq_error_iff.mp h
  exact liesIn_of_covers [] (Utf8.covers_of_decodeFrom hdecode)

theorem liesIn_of_decodeUtf16 (mark : List UInt8) {order : Utf16.ByteOrder} {rest : List UInt8}
    {fault : ByteFault} (h : decodeUtf16 order mark.length rest = .error fault) :
    fault.LiesIn (mark ++ rest) := by
  obtain ⟨found, hdecode, rfl⟩ := mapError_eq_error_iff.mp h
  exact liesIn_of_covers mark (Utf16.covers_of_decodeFrom hdecode)

theorem liesIn_of_decodeUtf32 (mark : List UInt8) {order : Utf16.ByteOrder} {rest : List UInt8}
    {fault : ByteFault} (h : decodeUtf32 order mark.length rest = .error fault) :
    fault.LiesIn (mark ++ rest) := by
  obtain ⟨found, hdecode, rfl⟩ := mapError_eq_error_iff.mp h
  exact liesIn_of_covers mark (Utf32.covers_of_decodeFrom hdecode)

theorem liesIn_of_decodeSingles {codec reason : String} {char? : UInt8 → Option Char}
    {bytes : List UInt8} {fault : ByteFault}
    (h : decodeSingles codec reason char? 0 bytes = .error fault) : fault.LiesIn bytes :=
  liesIn_of_covers [] (covers_of_decodeSingles h)

theorem exists_signature (bytes : List UInt8) :
    ∃ signature, bytes = signature ++ withoutSignature bytes := by
  unfold withoutSignature
  split
  · exact ⟨[0xEF, 0xBB, 0xBF], rfl⟩
  · exact ⟨[], rfl⟩

theorem Utf16.exists_mark (bytes : List UInt8) :
    ∃ order mark rest, byteOrder bytes = (order, mark.length, rest) ∧ bytes = mark ++ rest := by
  unfold byteOrder
  split
  · rename_i rest
    exact ⟨.little, [0xFF, 0xFE], rest, rfl, rfl⟩
  · rename_i rest
    exact ⟨.big, [0xFE, 0xFF], rest, rfl, rfl⟩
  · exact ⟨.little, [], bytes, rfl, rfl⟩

theorem Utf32.exists_mark (bytes : List UInt8) :
    ∃ order mark rest, byteOrder bytes = (order, mark.length, rest) ∧ bytes = mark ++ rest := by
  unfold byteOrder
  split
  · rename_i rest
    exact ⟨.little, [0xFF, 0xFE, 0, 0], rest, rfl, rfl⟩
  · rename_i rest
    exact ⟨.big, [0, 0, 0xFE, 0xFF], rest, rfl, rfl⟩
  · exact ⟨.little, [], bytes, rfl, rfl⟩

/-- Whatever the encoding, bytes that cannot be read hold the fault. -/
theorem liesIn_of_decode {encoding : Encoding} {bytes : List UInt8} {fault : ByteFault}
    (h : encoding.decode bytes = .error fault) : fault.LiesIn bytes := by
  cases encoding with
  | utf8 => exact liesIn_of_decodeUtf8 h
  | utf8Signed =>
    obtain ⟨signature, hbytes⟩ := exists_signature bytes
    rw [hbytes]
    exact (liesIn_of_decodeUtf8 h).append signature
  | utf16 =>
    obtain ⟨order, mark, rest, horder, hbytes⟩ := Utf16.exists_mark bytes
    simp only [Encoding.decode, horder] at h
    rw [hbytes]
    exact liesIn_of_decodeUtf16 mark h
  | utf16Little | utf16Big => exact liesIn_of_decodeUtf16 [] h
  | utf32 =>
    obtain ⟨order, mark, rest, horder, hbytes⟩ := Utf32.exists_mark bytes
    simp only [Encoding.decode, horder] at h
    rw [hbytes]
    exact liesIn_of_decodeUtf32 mark h
  | utf32Little | utf32Big => exact liesIn_of_decodeUtf32 [] h
  | ascii | windows1252 => exact liesIn_of_decodeSingles h
  | latin1 | latin9 => cases h

/-! ## §4 Codecs -/

namespace Codecs

/-- What is relied on of the codecs of a machine: UTF-8 is there under its name, and an encoding
that says where bytes are no text of it names bytes that are there. -/
structure IsLawful (codecs : Codecs) : Prop where
  utf8 : codecs "utf-8" = some Encoding.utf8.codec
  faults : ∀ name decode bytes fault, codecs name = some (.text decode) →
    decode bytes = .error (.fault fault) → fault.LiesIn bytes

/-- The encoding of a name, if there is one, never gives up without naming bytes. -/
def NeverGivesUp (codecs : Codecs) (name : String) : Prop :=
  ∀ decode bytes, codecs name = some (.text decode) → decode bytes ≠ .error .givenUp

/-- Reading UTF-8 is never given up. -/
theorem IsLawful.neverGivesUp {codecs : Codecs} (h : codecs.IsLawful) :
    codecs.NeverGivesUp "utf-8" := by
  intro decode bytes hname hdecode
  rw [h.utf8] at hname
  cases hname
  obtain ⟨fault, -, hstop⟩ := mapError_eq_error_iff.mp hdecode
  cases hstop

theorem standard_eq_text_iff {name : String} {decode : List UInt8 → Except DecoderStop String} :
    standard name = some (.text decode) ↔ kindOfName? name = some .undefined
        ∧ decode = (fun _ => .error .givenUp)
      ∨ ∃ encoding, kindOfName? name = some (.text encoding)
        ∧ decode = fun bytes => ((encoding.decode bytes).map String.ofList).mapError .fault := by
  unfold standard
  cases kindOfName? name with
  | none => simp
  | some kind => cases kind <;> simp [CodecKind.codec, Encoding.codec, eq_comm]

theorem standard_isLawful : standard.IsLawful where
  utf8 := by
    have hkind : kindOfName? "utf-8" = some (.text .utf8) := by decide +kernel
    rw [standard, hkind]
    rfl
  faults name decode bytes fault hname hdecode := by
    rcases standard_eq_text_iff.mp hname with ⟨-, rfl⟩ | ⟨encoding, -, rfl⟩
    · cases hdecode
    · obtain ⟨found, hfound, heq⟩ := mapError_eq_error_iff.mp hdecode
      cases heq
      exact liesIn_of_decode ((map_eq_error_iff _).mp hfound)

end Codecs

/-! ## §5 Names -/

/-- The fault lies in bytes, and these are there. -/
def DecodeFault.LiesIn (bytes : List UInt8) : DecodeFault → Prop
  | .bytes fault => fault.LiesIn bytes
  | _ => False

/-- The fault lies in the name, which stands for no text encoding. -/
def DecodeFault.IsOfName : DecodeFault → Prop
  | .bytes _ => False
  | _ => True

theorem underName_eq_fault_iff {result : Except DecoderStop String} {fault : DecodeFault} :
    result.mapError DecoderStop.underName = .error (.fault fault)
      ↔ ∃ found, result = .error (.fault found) ∧ fault = .bytes found := by
  rw [mapError_eq_error_iff]
  rcases result with (found | _) | text <;> simp [DecoderStop.underName, eq_comm]

theorem underName_eq_broken_iff {result : Except DecoderStop String} {cause : DecodeBreak} :
    result.mapError DecoderStop.underName = .error (.broken cause)
      ↔ result = .error .givenUp ∧ cause = .givenUp := by
  rw [mapError_eq_error_iff]
  rcases result with (found | _) | text <;> simp [DecoderStop.underName, eq_comm]

/-- When reading under a name fails, and with which fault. -/
theorem decodeNamed_eq_fault_iff {codecs : Codecs} {name : String} {bytes : List UInt8}
    {fault : DecodeFault} (hname : isCodecName name = true) :
    decodeNamed codecs name bytes = .error (.fault fault)
      ↔ bytes ≠ [] ∧ (codecs name = none ∧ fault = .unknownName name
        ∨ codecs name = some .transformation ∧ fault = .noTextEncoding name
        ∨ ∃ decode found, codecs name = some (.text decode)
          ∧ decode bytes = .error (.fault found) ∧ fault = .bytes found) := by
  unfold decodeNamed
  cases bytes with
  | nil => simp [hname]
  | cons first rest =>
    match codecs name with
    | none => simp [hname, eq_comm]
    | some .transformation => simp [hname, eq_comm]
    | some (.text decode) =>
      simp [hname, underName_eq_fault_iff]

/-- When reading under a name breaks off. -/
theorem decodeNamed_eq_broken_iff {codecs : Codecs} {name : String} {bytes : List UInt8}
    {cause : DecodeBreak} (hname : isCodecName name = true) :
    decodeNamed codecs name bytes = .error (.broken cause)
      ↔ bytes ≠ [] ∧ cause = .givenUp
        ∧ ∃ decode, codecs name = some (.text decode) ∧ decode bytes = .error .givenUp := by
  unfold decodeNamed
  cases bytes with
  | nil => simp [hname]
  | cons first rest =>
    match codecs name with
    | none => simp [hname]
    | some .transformation => simp [hname]
    | some (.text decode) =>
      simp [hname, underName_eq_broken_iff, and_comm]

end SchemaSemver.Text
