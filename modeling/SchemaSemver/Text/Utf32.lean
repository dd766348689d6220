/-
SchemaSemver.Text.Utf32 — reading UTF-32.

Four bytes make the number of a character, in one of two orders. Without a byte order mark the order
is little endian.
-/
import SchemaSemver.Text.Utf16

namespace SchemaSemver.Text.Utf32

open Utf16 (ByteOrder)

/-- Why bytes are no character. -/
inductive FaultKind where
  | truncated
  | surrogate
  | tooLarge
deriving DecidableEq, Repr

/-- The fault as it is named in messages. -/
def FaultKind.text : FaultKind → String
  | truncated => "truncated data"
  | surrogate => "code point in surrogate code point range(0xd800, 0xe000)"
  | tooLarge => "code point not in range(0x110000)"

/-- The first fault of a text: where it begins, and how many bytes it covers. -/
structure Fault where
  kind : FaultKind
  position : Nat
  width : Nat
  firstByte : UInt8
deriving DecidableEq, Repr

/-- The number of four bytes. -/
def number (order : ByteOrder) (first second third fourth : UInt8) : Nat :=
  match order with
  | .little =>
    ((fourth.toNat * 256 + third.toNat) * 256 + second.toNat) * 256 + first.toNat
  | .big => ((first.toNat * 256 + second.toNat) * 256 + third.toNat) * 256 + fourth.toNat

/-- Strict reading from a position on. -/
def decodeFrom (order : ByteOrder) (position : Nat) : List UInt8 → Except Fault (List Char)
  | [] => .ok []
  | first :: second :: third :: fourth :: rest =>
    let code := number order first second third fourth
    if 0xD800 ≤ code ∧ code < 0xE000 then .error ⟨.surrogate, position, 4, first⟩
    else if 0x110000 ≤ code then .error ⟨.tooLarge, position, 4, first⟩
    else (decodeFrom order (position + 4) rest).map (Char.ofNat code :: ·)
  | first :: rest => .error ⟨.truncated, position, 1 + rest.length, first⟩

/-- The byte order that a mark at the front gives, and the bytes after the mark with their
position. -/
def byteOrder : List UInt8 → ByteOrder × Nat × List UInt8
  | 0xFF :: 0xFE :: 0 :: 0 :: rest => (.little, 4, rest)
  | 0 :: 0 :: 0xFE :: 0xFF :: rest => (.big, 4, rest)
  | bytes => (.little, 0, bytes)

end SchemaSemver.Text.Utf32
