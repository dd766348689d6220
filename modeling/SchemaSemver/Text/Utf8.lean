/-
SchemaSemver.Text.Utf8 — reading UTF-8.

The first byte of a character says how many follow and in which range the first of those lies; the
others lie in 80 to BF. Where this fails, the bytes that could still have begun a character are the
fault, so a fault covers the longest valid beginning of an ill-formed sequence. Strict reading stops
at the first fault; lenient reading puts U+FFFD in the place of each.
-/

namespace SchemaSemver.Text.Utf8

/-! ## One character -/

/-- Why bytes are no character. -/
inductive FaultKind where
  | start
  | continuation
  | endOfData
deriving DecidableEq, Repr

/-- The fault as it is named in messages. -/
def FaultKind.text : FaultKind → String
  | start => "invalid start byte"
  | continuation => "invalid continuation byte"
  | endOfData => "unexpected end of data"

/-- What a first byte announces: how many bytes follow, the range of the first of them, and the
bits of the character that the byte itself holds. -/
structure Lead where
  following : Nat
  low : Nat
  high : Nat
  bits : Nat
deriving DecidableEq, Repr

/-- What a byte announces as a first byte, if it can be one. -/
def lead? (byte : Nat) : Option Lead :=
  if byte ≤ 0x7F then some ⟨0, 0x80, 0xBF, byte⟩
  else if 0xC2 ≤ byte ∧ byte ≤ 0xDF then some ⟨1, 0x80, 0xBF, byte - 0xC0⟩
  else if byte = 0xE0 then some ⟨2, 0xA0, 0xBF, 0⟩
  else if byte = 0xED then some ⟨2, 0x80, 0x9F, 0xD⟩
  else if 0xE1 ≤ byte ∧ byte ≤ 0xEF then some ⟨2, 0x80, 0xBF, byte - 0xE0⟩
  else if byte = 0xF0 then some ⟨3, 0x90, 0xBF, 0⟩
  else if 0xF1 ≤ byte ∧ byte ≤ 0xF3 then some ⟨3, 0x80, 0xBF, byte - 0xF0⟩
  else if byte = 0xF4 then some ⟨3, 0x80, 0x8F, 4⟩
  else none

/-- What stands at the front of bytes: a character or a fault, with the number of bytes that it
covers. -/
inductive Step where
  | char (c : Char) (width : Nat)
  | fault (kind : FaultKind) (width : Nat)
deriving DecidableEq, Repr

/-- The bytes that must still follow; `width` bytes were read already. -/
def readFollowing : Nat → Nat → Nat → Nat → Nat → List UInt8 → Step
  | 0, _, _, bits, width, _ => .char (Char.ofNat bits) width
  | _ + 1, _, _, _, width, [] => .fault .endOfData width
  | following + 1, low, high, bits, width, byte :: rest =>
    if low ≤ byte.toNat ∧ byte.toNat ≤ high then
      readFollowing following 0x80 0xBF (bits * 64 + (byte.toNat - 0x80)) (width + 1) rest
    else .fault .continuation width

/-- What stands in front of `rest` behind a first byte. -/
def step (first : UInt8) (rest : List UInt8) : Step :=
  match lead? first.toNat with
  | none => .fault .start 1
  | some lead => readFollowing lead.following lead.low lead.high lead.bits 1 rest

/-! ## Whole texts -/

/-- The first fault of a text: where it begins, and how many bytes it covers. -/
structure Fault where
  kind : FaultKind
  position : Nat
  width : Nat
  firstByte : UInt8
deriving DecidableEq, Repr

/-- Strict reading from a position on; the first argument bounds the number of steps. -/
def decodeFrom : Nat → Nat → List UInt8 → Except Fault (List Char)
  | 0, _, _ => .ok []
  | _ + 1, _, [] => .ok []
  | fuel + 1, position, first :: rest =>
    match step first rest with
    | .char c width =>
      (decodeFrom fuel (position + width) (rest.drop (width - 1))).map (c :: ·)
    | .fault kind width => .error ⟨kind, position, width, first⟩

/-- The text of bytes, or their first fault. -/
def decode (bytes : List UInt8) : Except Fault (List Char) := decodeFrom bytes.length 0 bytes

/-- Lenient reading; the first argument bounds the number of steps. -/
def replaceFrom : Nat → List UInt8 → List Char
  | 0, _ => []
  | _ + 1, [] => []
  | fuel + 1, first :: rest =>
    match step first rest with
    | .char c width => c :: replaceFrom fuel (rest.drop (width - 1))
    | .fault _ width => '\uFFFD' :: replaceFrom fuel (rest.drop (width - 1))

/-- The text of bytes with U+FFFD in the place of each fault. -/
def decodeLossy (bytes : List UInt8) : List Char := replaceFrom bytes.length bytes

end SchemaSemver.Text.Utf8
