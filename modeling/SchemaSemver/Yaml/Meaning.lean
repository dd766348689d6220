/-
SchemaSemver.Yaml.Meaning — what tags make of nodes, and which value a scalar with a tag has.
-/
import SchemaSemver.Yaml.Graph
import SchemaSemver.Yaml.Value

namespace SchemaSemver.Yaml

/-! ## Tags -/

/-- What the tag of a node makes of it. -/
inductive TagClass where
  | scalar
  | collection
  /-- No node can be read by the tag. -/
  | none
deriving DecidableEq, Repr

/-- The class of a tag. -/
def Tag.class : Tag → TagClass
  | null | bool | integer | real | binary | moment | string => .scalar
  | sequence | orderedMapping | pairs | mapping | set => .collection
  | merge | scalarValue | unknown => .none

/-! ## Spelling -/

/-- The truth value that a word stands for, in any case. -/
def truthValue? (text : List Char) : Option Bool :=
  (truthWords.find? fun entry => entry.1.toList == text.map Char.toLower).map Prod.snd

/-- Can the character stand for six bits in a binary scalar? -/
def isSextet (c : Char) : Bool := c.isAlphanum || c == '+' || c == '/'

/-- Are the sextets of a binary scalar a whole number of bytes? `sextets` and `pads` count those of
the last group; what stands behind a complete padding does not matter. -/
def isPadded : Nat → Nat → List Char → Bool
  | sextets, _, [] => sextets == 0
  | sextets, pads, c :: rest =>
    if c = '=' then
      if 2 ≤ sextets then
        if 4 ≤ sextets + (pads + 1) then true else isPadded sextets (pads + 1) rest
      else isPadded sextets pads rest
    else if isSextet c then isPadded ((sextets + 1) % 4) 0 rest
    else isPadded sextets pads rest

/-- A scalar must be spelled as its tag asks for. -/
def checkSpelling (tag : Tag) (text : List Char) : Result Unit :=
  let readable (result : Except ScalarFault Unit) : Result Unit := result.mapError .unreadable
  match tag with
  | .bool => readable (if (truthValue? text).isSome then .ok () else .error .noTruthValue)
  | .integer => readable (checkInteger text)
  | .real => readable (checkReal text)
  | .moment => readable (checkMoment (withoutFinalBreak text))
  | .binary => require (text.all (·.toNat < 128) && isPadded 0 0 text)
  | _ => .ok ()

/-! ## Values -/

/-- The value that a tag gives to a text that is spelled as the tag asks for. -/
def Tag.valueOf (tag : Tag) (text : LooseText) : Value :=
  match tag with
  | .null => .null
  | .bool => .bool ((truthValue? text.chars).getD false)
  | .string => .text text
  | _ => .datum text

/-- The value of a text under a tag. -/
def Tag.read (tag : Tag) (text : LooseText) : Result Value := do
  checkSpelling tag text.chars
  return tag.valueOf text

end SchemaSemver.Yaml
