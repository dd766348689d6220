/-
SchemaSemver.Text.Utf16 — reading UTF-16.

Two bytes make a code unit, in one of two orders. A unit outside the surrogate ranges is a
character by itself; a high surrogate and a low one after it make a character together. Without a
byte order mark the order is little endian.
-/

namespace SchemaSemver.Text.Utf16

/-- The order of the two bytes of a unit. -/
inductive ByteOrder where
  | little
  | big
deriving DecidableEq, Repr

/-- Why bytes are no character. -/
inductive FaultKind where
  | truncated
  | endOfData
  | lowAlone
  | highAlone
deriving DecidableEq, Repr

/-- The fault as it is named in messages. -/
def FaultKind.text : FaultKind → String
  | truncated => "truncated data"
  | endOfData => "unexpected end of data"
  | lowAlone => "illegal encoding"
  | highAlone => "illegal UTF-16 surrogate"

/-- The first fault of a text: where it begins, and how many bytes it covers. -/
structure Fault where
  kind : FaultKind
  position : Nat
  width : Nat
  firstByte : UInt8
deriving DecidableEq, Repr

/-- The code unit of two bytes. -/
def unit (order : ByteOrder) (first second : UInt8) : Nat :=
  match order with
  | .little => second.toNat * 256 + first.toNat
  | .big => first.toNat * 256 + second.toNat

/-- Is the unit a high surrogate? -/
def isHigh (unit : Nat) : Bool := 0xD800 ≤ unit && unit ≤ 0xDBFF

/-- Is the unit a low surrogate? -/
def isLow (unit : Nat) : Bool := 0xDC00 ≤ unit && unit ≤ 0xDFFF

/-- The character of a surrogate pair. -/
def pair (high low : Nat) : Char :=
  Char.ofNat (0x10000 + (high - 0xD800) * 0x400 + (low - 0xDC00))

/-- Strict reading from a position on. -/
def decodeFrom (order : ByteOrder) (position : Nat) : List UInt8 → Except Fault (List Char)
  | [] => .ok []
  | [byte] => .error ⟨.truncated, position, 1, byte⟩
  | first :: second :: rest =>
    let high := unit order first second
    if isLow high then .error ⟨.lowAlone, position, 2, first⟩
    else if isHigh high then
      match rest with
      | third :: fourth :: rest =>
        let low := unit order third fourth
        if isLow low then (decodeFrom order (position + 4) rest).map (pair high low :: ·)
        else .error ⟨.highAlone, position, 2, first⟩
      | rest => .error ⟨.endOfData, position, 2 + rest.length, first⟩
    else (decodeFrom order (position + 2) rest).map (Char.ofNat high :: ·)

/-- The byte order that a mark at the front gives, and the bytes after the mark with their
position. -/
def byteOrder : List UInt8 → ByteOrder × Nat × List UInt8
  | 0xFF :: 0xFE :: rest => (.little, 2, rest)
  | 0xFE :: 0xFF :: rest => (.big, 2, rest)
  | bytes => (.little, 0, bytes)

end SchemaSemver.Text.Utf16
