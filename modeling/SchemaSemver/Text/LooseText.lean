/-
SchemaSemver.Text.LooseText — texts that may hold halves of surrogate pairs.

Settings files, paths and names of commands are made of code points. Nearly all of these are
characters; but an escape can name half of a surrogate pair alone, and a byte that is no part of a
UTF-8 text stands in a path as such a half, from U+DC80 to U+DCFF. A half can be printed, as an
escape, but not written: only the halves that stand for bytes can be part of what a system is asked
for.
-/
import SchemaSemver.Text.Blank
import SchemaSemver.Text.Quoted

namespace SchemaSemver

/-! ## Code points -/

/-- A character, or half of a surrogate pair. -/
inductive CodePoint where
  | char (c : Char)
  /-- The half with the code `0xD800 + index`. -/
  | half (index : Fin 2048)
deriving DecidableEq, Repr

namespace CodePoint

/-- The number of a code point. -/
def code : CodePoint → Nat
  | char c => c.toNat
  | half index => 0xD800 + index

/-- The code point of a number; none has a number beyond U+10FFFF. -/
def ofCode? (code : Nat) : Option CodePoint :=
  if 0x10FFFF < code then none
  else if h : 0xD800 ≤ code ∧ code < 0xE000 then some (half ⟨code - 0xD800, by omega⟩)
  else some (char (Char.ofNat code))

/-- The character, if the code point is one. -/
def char? : CodePoint → Option Char
  | char c => some c
  | half _ => none

/-- The character, or U+FFFD in the place of a half. -/
def charOrMark (point : CodePoint) : Char := point.char?.getD '\uFFFD'

/-- Is the code point a blank character? -/
def isBlank : CodePoint → Bool
  | char c => Text.isBlank c
  | half _ => false

/-- Does the half stand for a byte? -/
def isByteHalf (index : Fin 2048) : Bool := 0x480 ≤ index.val && index.val < 0x500

/-- Can the code point be part of what a system is asked for? -/
def isSystem : CodePoint → Bool
  | char _ => true
  | half index => isByteHalf index

/-- The octets of the code point in a path; a half stands for one byte. -/
def octets : CodePoint → Nat
  | char c => c.utf8Size
  | half _ => 1

/-- Do the code points come first, or are they the same, when the first difference decides? -/
def areBefore : List CodePoint → List CodePoint → Bool
  | [], _ => true
  | _ :: _, [] => false
  | point :: rest, point' :: rest' =>
    point.code < point'.code || (point.code == point'.code && areBefore rest rest')

/-- The escape of a half by its code. -/
def halfEscape (index : Fin 2048) : List Char :=
  '\\' :: 'u' :: Text.hexadecimal 4 (half index).code

/-- The code point as it is printed. -/
def shown : CodePoint → List Char
  | char c => [c]
  | half index => halfEscape index

end CodePoint

/-! ## Texts -/

/-- A text of code points. -/
structure LooseText where
  points : List CodePoint
deriving DecidableEq, Repr

namespace LooseText

/-- Characters as code points. -/
def ofChars (chars : List Char) : LooseText := ⟨chars.map .char⟩

/-- A text of characters as a text of code points. -/
def ofString (text : String) : LooseText := ofChars text.toList

instance : Coe String LooseText := ⟨ofString⟩

instance : Append LooseText := ⟨fun before after => ⟨before.points ++ after.points⟩⟩

/-- The characters of the text, with U+FFFD in the place of each half. -/
def chars (text : LooseText) : List Char := text.points.map CodePoint.charOrMark

/-- The text, if all its code points are characters. -/
def text? (text : LooseText) : Option String :=
  (text.points.mapM CodePoint.char?).map String.ofList

/-- Is there no code point in the text? -/
def isEmpty (text : LooseText) : Bool := text.points.isEmpty

/-- The text without the blanks at both ends. -/
def strip (text : LooseText) : LooseText :=
  ⟨((text.points.dropWhile CodePoint.isBlank).reverse.dropWhile CodePoint.isBlank).reverse⟩

/-- Does the text hold a null character? -/
def hasNull (text : LooseText) : Bool := text.points.contains (.char '\x00')

/-- Can all code points of the text be part of what a system is asked for? -/
def isSystem (text : LooseText) : Bool := text.points.all CodePoint.isSystem

/-- The octets of the text in a path. -/
def octets (text : LooseText) : Nat :=
  text.points.foldl (fun octets point => octets + point.octets) 0

/-- The text as it is printed, with an escape in the place of each half. -/
def shown (text : LooseText) : String := String.ofList (text.points.flatMap CodePoint.shown)

/-- The text in quotes. -/
def quoted (text : LooseText) : String :=
  let quote := Text.quoteFor (text.points.filterMap CodePoint.char?)
  let inner := text.points.flatMap fun
    | .char c => Text.quotedChar quote c
    | .half index => CodePoint.halfEscape index
  String.ofList (quote :: (inner ++ [quote]))

/-- Does the text come first when texts are ordered by the numbers of their code points? -/
def isBefore (text text' : LooseText) : Bool := CodePoint.areBefore text.points text'.points

/-! ## Texts of characters -/

theorem points_ofString (text : String) : (ofString text).points = text.toList.map .char := rfl

theorem mapM_char?_map (chars : List Char) :
    (chars.map CodePoint.char).mapM CodePoint.char? = some chars := by
  induction chars with
  | nil => rfl
  | cons c rest ih =>
    rw [List.map_cons, List.mapM_cons, ih]
    rfl

/-- A text of characters is read back from its code points. -/
@[simp] theorem text?_ofString (text : String) : (ofString text).text? = some text := by
  rw [text?, points_ofString, mapM_char?_map, Option.map_some, String.ofList_toList]

theorem ofString_injective {text text' : String} (h : ofString text = ofString text') :
    text = text' := by
  have htext := congrArg LooseText.text? h
  rwa [text?_ofString, text?_ofString, Option.some.injEq] at htext

/-- A text has halves unless it is a text of characters. -/
theorem text?_eq_some_iff {text : LooseText} {found : String} :
    text.text? = some found ↔ text = ofString found := by
  refine ⟨fun h => ?_, fun h => by rw [h, text?_ofString]⟩
  obtain ⟨chars, hchars, rfl⟩ := Option.map_eq_some_iff.mp h
  obtain ⟨points⟩ := text
  have hpoints : points = chars.map CodePoint.char := by
    clear h
    induction points generalizing chars with
    | nil =>
      cases hchars
      rfl
    | cons point rest ih =>
      cases point with
      | half index => simp [CodePoint.char?] at hchars
      | char c =>
        cases hrest : rest.mapM CodePoint.char? with
        | none => simp [CodePoint.char?, hrest] at hchars
        | some found =>
          simp only [List.mapM_cons, CodePoint.char?, hrest] at hchars
          cases hchars
          rw [ih found hrest, List.map_cons]
  rw [hpoints, ofString, String.toList_ofList, ofChars]

end LooseText

end SchemaSemver
