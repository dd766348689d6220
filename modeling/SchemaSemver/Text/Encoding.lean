/-
SchemaSemver.Text.Encoding — text encodings and their names.

Which encodings there are, and under which names, is a matter of the machine: `Codecs` says what a
name stands for there. Some names stand for transformations of bytes or texts that are no text
encodings; they can be looked up but nothing can be read with them. An encoding gives a text for
bytes, or says where they are no text of it; a few encodings give up without saying so.

`Codecs.standard` are codecs that are part of every machine. There a name is compared by its words:
runs of characters other than ASCII letters, digits and dots separate them, and case does not
matter.
-/
import SchemaSemver.Text.Hexadecimal
import SchemaSemver.Text.Utf8
import SchemaSemver.Text.Utf16
import SchemaSemver.Text.Utf32

namespace SchemaSemver.Text

/-! ## Codecs -/

/-- Where bytes are no text of an encoding, and why. -/
structure ByteFault where
  codec : String
  position : Nat
  width : Nat
  firstByte : UInt8
  reason : String
deriving DecidableEq, Repr

/-- How reading bytes ends that are no text. -/
inductive DecoderStop where
  | fault (fault : ByteFault)
  /-- Reading is given up, and no bytes are named. -/
  | givenUp
deriving DecidableEq, Repr

/-- What a name stands for. -/
inductive Codec where
  /-- A text encoding. In the texts that it gives, U+FFFD stands for half of a surrogate pair. -/
  | text (decode : List UInt8 → Except DecoderStop String)
  | transformation

/-- What names stand for on a machine. -/
abbrev Codecs := String → Option Codec

/-- Can the text be the name of a codec, known or not? A null character ends every name. -/
def isCodecName (name : String) : Bool := !name.toList.contains '\x00'

/-! ## Reading -/

/-- A byte as two hexadecimal digits. -/
def byteText (byte : UInt8) : String := String.ofList (hexadecimal 2 byte.toNat)

/-- What is said about bytes that are no text. -/
def ByteFault.message (fault : ByteFault) : String :=
  let place :=
    if fault.width = 1 then
      "byte 0x" ++ byteText fault.firstByte ++ " in position " ++ toString fault.position
    else
      "bytes in position " ++ toString fault.position ++ "-"
        ++ toString (fault.position + fault.width - 1)
  "'" ++ fault.codec ++ "' codec can't decode " ++ place ++ ": " ++ fault.reason

/-- Why bytes cannot be read under a name. -/
inductive DecodeFault where
  | unknownName (name : String)
  | noTextEncoding (name : String)
  | bytes (fault : ByteFault)
deriving DecidableEq, Repr

/-- What is said about bytes that cannot be read. -/
def DecodeFault.message : DecodeFault → String
  | unknownName name => "unknown encoding: " ++ name
  | noTextEncoding name =>
    "'" ++ name ++ "' is not a text encoding; use codecs.decode() to handle arbitrary codecs"
  | bytes fault => fault.message

/-- Why reading bytes breaks off, so that nothing can be said about them. -/
inductive DecodeBreak where
  /-- The name holds a null character. -/
  | nullInName
  /-- The encoding gives up without naming bytes. -/
  | givenUp
deriving DecidableEq, Repr

/-- How reading bytes under a name ends without a text. -/
inductive DecodeStop where
  | fault (fault : DecodeFault)
  | broken (cause : DecodeBreak)
deriving DecidableEq, Repr

/-- The stop of a decoder as a stop of reading under a name. -/
def DecoderStop.underName : DecoderStop → DecodeStop
  | fault found => .fault (.bytes found)
  | givenUp => .broken .givenUp

/-- The text of bytes in the encoding of the given name. No bytes are the empty text under any name
that can be one. -/
def decodeNamed (codecs : Codecs) (name : String) (bytes : List UInt8) : Except DecodeStop String :=
  if !isCodecName name then .error (.broken .nullInName)
  else if bytes.isEmpty then .ok ""
  else
    match codecs name with
    | none => .error (.fault (.unknownName name))
    | some .transformation => .error (.fault (.noTextEncoding name))
    | some (.text decode) => (decode bytes).mapError DecoderStop.underName

/-! ## Names of every machine -/

/-- An encoding of texts as bytes. -/
inductive Encoding where
  | utf8
  | utf8Signed
  | utf16
  | utf16Little
  | utf16Big
  | utf32
  | utf32Little
  | utf32Big
  | ascii
  | latin1
  | windows1252
  | latin9
deriving DecidableEq, Repr

/-- The kinds of codecs. -/
inductive CodecKind where
  | text (encoding : Encoding)
  /-- A text encoding without texts: reading bytes is given up at once. -/
  | undefined
  | transformation
deriving DecidableEq, Repr

/-- A codec with its proper name and its other names, all in the form in which they are looked
up. -/
structure CodecEntry where
  kind : CodecKind
  name : String
  aliases : List String
deriving DecidableEq, Repr

/-- Codecs of every machine. -/
def codecTable : List CodecEntry :=
  [⟨.text .utf8, "utf_8", ["u8", "utf", "utf8", "utf8_ucs2", "utf8_ucs4", "cp65001"]⟩,
   ⟨.text .utf8Signed, "utf_8_sig", []⟩,
   ⟨.text .utf16, "utf_16", ["u16", "utf16"]⟩,
   ⟨.text .utf16Little, "utf_16_le", ["unicodelittleunmarked", "utf_16le"]⟩,
   ⟨.text .utf16Big, "utf_16_be", ["unicodebigunmarked", "utf_16be"]⟩,
   ⟨.text .utf32, "utf_32", ["u32", "utf32"]⟩,
   ⟨.text .utf32Little, "utf_32_le", ["utf_32le"]⟩,
   ⟨.text .utf32Big, "utf_32_be", ["utf_32be"]⟩,
   ⟨.text .ascii, "ascii", ["646", "ansi_x3.4_1968", "ansi_x3_4_1968", "ansi_x3.4_1986", "cp367",
     "csascii", "ibm367", "iso646_us", "iso_646.irv_1991", "iso_ir_6", "us", "us_ascii"]⟩,
   ⟨.text .latin1, "latin_1", ["8859", "cp819", "csisolatin1", "ibm819", "iso8859", "iso8859_1",
     "iso_8859_1", "iso_8859_1_1987", "iso_ir_100", "l1", "latin", "latin1"]⟩,
   ⟨.text .windows1252, "cp1252", ["1252", "windows_1252"]⟩,
   ⟨.text .latin9, "iso8859_15", ["iso_8859_15", "l9", "latin9"]⟩,
   ⟨.undefined, "undefined", []⟩,
   ⟨.transformation, "hex_codec", ["hex"]⟩,
   ⟨.transformation, "rot_13", ["rot13"]⟩,
   ⟨.transformation, "base64_codec", ["base64", "base_64"]⟩,
   ⟨.transformation, "bz2_codec", ["bz2"]⟩,
   ⟨.transformation, "zlib_codec", ["zip", "zlib"]⟩,
   ⟨.transformation, "quopri_codec", ["quopri", "quoted_printable", "quotedprintable"]⟩,
   ⟨.transformation, "uu_codec", ["uu"]⟩]

/-- Does the character belong to a word of a name? -/
def isNameChar (c : Char) : Bool := c.isAlphanum || c == '.'

/-- The words of a name in lower case, an underscore between each two; `gap` says whether
separating characters stand before the rest, `started` whether a word came before them. -/
def normaliseChars : Bool → Bool → List Char → List Char
  | _, _, [] => []
  | gap, started, c :: rest =>
    if isNameChar c then
      let tail := c.toLower :: normaliseChars false true rest
      if gap && started then '_' :: tail else tail
    else normaliseChars true started rest

/-- The form under which a name is looked up. -/
def normaliseName (name : String) : String :=
  String.ofList (normaliseChars false false name.toList)

/-- The name with underscores in the place of dots. -/
def undotted (name : String) : String :=
  String.ofList (name.toList.map fun c => if c = '.' then '_' else c)

/-! ## Texts of the encodings -/

/-- The characters that windows-1252 puts at the bytes 80 to 9F; five bytes stand for none. -/
def windows1252Upper : List (Option Nat) :=
  [some 0x20AC, none, some 0x201A, some 0x0192, some 0x201E, some 0x2026, some 0x2020, some 0x2021,
   some 0x02C6, some 0x2030, some 0x0160, some 0x2039, some 0x0152, none, some 0x017D, none,
   none, some 0x2018, some 0x2019, some 0x201C, some 0x201D, some 0x2022, some 0x2013, some 0x2014,
   some 0x02DC, some 0x2122, some 0x0161, some 0x203A, some 0x0153, none, some 0x017E, some 0x0178]

/-- The character of a windows-1252 byte. -/
def windows1252Char? (byte : UInt8) : Option Char :=
  let n := byte.toNat
  if 0x80 ≤ n ∧ n ≤ 0x9F then
    ((windows1252Upper[n - 0x80]?).getD none).map Char.ofNat
  else some (Char.ofNat n)

/-- The character of a byte of ISO 8859-15, which is that of ISO 8859-1 but for eight bytes. -/
def latin9Char (byte : UInt8) : Char :=
  let changed : List (Nat × Char) :=
    [(0xA4, '\u20AC'), (0xA6, '\u0160'), (0xA8, '\u0161'), (0xB4, '\u017D'), (0xB8, '\u017E'),
     (0xBC, '\u0152'), (0xBD, '\u0153'), (0xBE, '\u0178')]
  (changed.lookup byte.toNat).getD (Char.ofNat byte.toNat)

/-- The character of an ASCII byte. -/
def asciiChar? (byte : UInt8) : Option Char :=
  if byte.toNat < 0x80 then some (Char.ofNat byte.toNat) else none

/-- Reading bytes that stand for one character each. -/
def decodeSingles (codec reason : String) (char? : UInt8 → Option Char) (position : Nat) :
    List UInt8 → Except ByteFault (List Char)
  | [] => .ok []
  | byte :: rest =>
    match char? byte with
    | some c => (decodeSingles codec reason char? (position + 1) rest).map (c :: ·)
    | none => .error ⟨codec, position, 1, byte, reason⟩

/-- Reading UTF-8. -/
def decodeUtf8 (bytes : List UInt8) : Except ByteFault (List Char) :=
  (Utf8.decode bytes).mapError fun fault =>
    ⟨"utf-8", fault.position, fault.width, fault.firstByte, fault.kind.text⟩

/-- Reading UTF-16 of a known order. -/
def decodeUtf16 (order : Utf16.ByteOrder) (position : Nat) (bytes : List UInt8) :
    Except ByteFault (List Char) :=
  let codec := match order with
    | .little => "utf-16-le"
    | .big => "utf-16-be"
  (Utf16.decodeFrom order position bytes).mapError fun fault =>
    ⟨codec, fault.position, fault.width, fault.firstByte, fault.kind.text⟩

/-- Reading UTF-32 of a known order. -/
def decodeUtf32 (order : Utf16.ByteOrder) (position : Nat) (bytes : List UInt8) :
    Except ByteFault (List Char) :=
  let codec := match order with
    | .little => "utf-32-le"
    | .big => "utf-32-be"
  (Utf32.decodeFrom order position bytes).mapError fun fault =>
    ⟨codec, fault.position, fault.width, fault.firstByte, fault.kind.text⟩

/-- The bytes without a UTF-8 signature at their front. -/
def withoutSignature : List UInt8 → List UInt8
  | 0xEF :: 0xBB :: 0xBF :: rest => rest
  | bytes => bytes

/-- The text of bytes in an encoding. -/
def Encoding.decode (encoding : Encoding) (bytes : List UInt8) : Except ByteFault (List Char) :=
  match encoding with
  | utf8 => decodeUtf8 bytes
  | utf8Signed => decodeUtf8 (withoutSignature bytes)
  | utf16 =>
    let (order, position, rest) := Utf16.byteOrder bytes
    decodeUtf16 order position rest
  | utf16Little => decodeUtf16 .little 0 bytes
  | utf16Big => decodeUtf16 .big 0 bytes
  | utf32 =>
    let (order, position, rest) := Utf32.byteOrder bytes
    decodeUtf32 order position rest
  | utf32Little => decodeUtf32 .little 0 bytes
  | utf32Big => decodeUtf32 .big 0 bytes
  | ascii => decodeSingles "ascii" "ordinal not in range(128)" asciiChar? 0 bytes
  | latin1 => .ok (bytes.map fun byte => Char.ofNat byte.toNat)
  | windows1252 =>
    decodeSingles "charmap" "character maps to <undefined>" windows1252Char? 0 bytes
  | latin9 => .ok (bytes.map latin9Char)

/-- A text encoding as a codec. -/
def Encoding.codec (encoding : Encoding) : Codec :=
  .text fun bytes => ((encoding.decode bytes).map String.ofList).mapError .fault

/-- The codec of a kind. -/
def CodecKind.codec : CodecKind → Codec
  | text encoding => encoding.codec
  | undefined => .text fun _ => .error .givenUp
  | transformation => .transformation

/-- The kind of codec that a name stands for. In its other names, not in its proper one, a dot may
stand for the gap between two words. -/
def kindOfName? (name : String) : Option CodecKind :=
  let name := normaliseName name
  (codecTable.find? fun entry =>
    entry.name == name || entry.aliases.contains name
      || entry.aliases.contains (undotted name)).map CodecEntry.kind

/-- What names stand for on every machine. -/
def Codecs.standard : Codecs := fun name => (kindOfName? name).map CodecKind.codec

end SchemaSemver.Text
