/-
SchemaSemver.Revision.Recording — results of commands that were run before.

A record is a JSON object: `command` is the list of the executable and its arguments, `code` the
exit code, `output` and `errors` the texts of the two outputs. Texts that are missing are empty.
-/
import SchemaSemver.Json.Reader
import SchemaSemver.Revision.GitStore

namespace SchemaSemver

/-- A command and what became of it. -/
structure CommandRecord where
  command : Command
  result : CommandResult
deriving DecidableEq, Repr

namespace CommandRecord

/-- The bytes of a member that is a text. -/
def bytesOf (name : String) (record : Json.Value) : List UInt8 :=
  match record.get? name with
  | some (.string text) => text.toUTF8.toList
  | _ => []

/-- The text of a value. -/
def text? : Json.Value → Option String
  | .string text => some text
  | _ => none

/-- The record that a value holds. -/
def ofValue? (value : Json.Value) : Option CommandRecord :=
  match value.get? "command", value.get? "code" with
  | some (.array words), some (.integer code) => do
    let command ← words.mapM text?
    return ⟨command.map LooseText.ofString,
      .exited code (bytesOf "output" value) (bytesOf "errors" value)⟩
  | _, _ => none

/-- The record on a line. -/
def ofLine? (line : String) : Option CommandRecord := (Json.parse line).toOption.bind ofValue?

end CommandRecord

/-- The runner that answers from records; without one an executable counts as missing. -/
def recordedRunner (records : List CommandRecord) : CommandRunner := fun command =>
  match records.find? fun record => record.command == command with
  | some record => record.result
  | none => .executableMissing "no record of the command"

end SchemaSemver
