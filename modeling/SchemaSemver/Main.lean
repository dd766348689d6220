/-
SchemaSemver.Main — the program.

The program reads the settings file itself, but it starts no other program: the results of the
commands of git are read from standard input, one record a line. All that is decided is decided by
`CommandLine.run`.
-/
import SchemaSemver.CommandLine.Session
import SchemaSemver.Revision.Recording

namespace SchemaSemver

/-- What was seen at a place. -/
structure Finding where
  place : Location
  node : Option FileNode
  /-- Where a link leads that stands there. -/
  target : Option Path
  isEnterable : Bool
  isReadable : Bool

namespace Finding

/-- Nothing is at a place. -/
def nothing (place : Location) : Finding := ⟨place, none, none, true, true⟩

/-- The link that was seen, if there is one. -/
def link? (finding : Finding) : Option Link :=
  match finding.target with
  | some target => if h : target.fault? = none then some ⟨finding.place, target, h⟩ else none
  | none => none

end Finding

/-- The machine as far as it was looked at. -/
def hostOfFindings (workingDirectory : Location) (findings : List Finding) : Host :=
  let at? (place : Location) : Option Finding := findings.find? fun found => found.place == place
  { workingDirectory
    nodeAt := fun place => (at? place).bind Finding.node
    links := findings.filterMap Finding.link?
    mayEnter := fun place => (at? place).all Finding.isEnterable
    mayRead := fun place => (at? place).all Finding.isReadable
    codecs := Text.Codecs.standard }

/-- Looks at a file. -/
def lookAtFile (place : Location) (written : String) : IO Finding := do
  try
    let content ← IO.FS.readBinFile written
    return { Finding.nothing place with node := some (.file content.toList) }
  catch _ => return { Finding.nothing place with node := some (.file []), isReadable := false }

/-- Looks at a place that has a path. -/
def lookAtPath (place : Location) (written : String) : IO Finding := do
  let real ← IO.FS.realPath written
  if real.toString != written then
    return { Finding.nothing place with target := some (.ofText real.toString) }
  if ← real.isDir then
    let isEnterable ← (real / ".").pathExists
    return { Finding.nothing place with node := some .directory, isEnterable }
  lookAtFile place written

/-- Looks at a place below directories that are no links. -/
def lookAt (place : Location) : IO Finding := do
  match (Path.absolute place).text.text? with
  | none => return .nothing place
  | some written =>
    try lookAtPath place written
    catch _ => return .nothing place

/-- Looks at a place and, on the way that goes on from there, at the places behind it; a link is
followed to its end at once. -/
def lookAlong : Nat → Location → List LooseText → IO (List Finding)
  | 0, _, _ => return []
  | fuel + 1, place, parts => do
    let finding ← lookAt place
    let next ←
      match finding.target, parts with
      | some target, _ => lookAlong fuel target.parts parts
      | none, part :: rest => lookAlong fuel (Host.follow place part) rest
      | none, [] => pure []
    return finding :: next

/-- Looks at all places on the way of a path. -/
def lookFor (workingDirectory : Location) (path : Path) : IO (List Finding) := do
  let start := Host.startIn workingDirectory path
  let above ← (List.range start.length).mapM fun count => lookAt (start.take count)
  return above ++ (← lookAlong (2 * path.parts.length + 1) start path.parts)

/-- Looks at all that loading settings asks for: the way to the file, and the way to the working
directory that the file names. -/
def lookForSettings (workingDirectory : Location) (config : Option String) :
    IO (List Finding) := do
  match config with
  | none => return []
  | some text =>
    let path := Path.ofText text
    let findings ← lookFor workingDirectory path
    match Settings.load (hostOfFindings workingDirectory findings) (some ↑text) with
    | .error (.rejected (.notDirectory directory)) =>
      return findings ++ (← lookFor workingDirectory directory)
    | _ => return findings

/-- The lines of a stream that are not empty. -/
partial def readLines (stream : IO.FS.Stream) : IO (List String) := do
  let line ← stream.getLine
  if line.isEmpty then return [] else return line :: (← readLines stream)

/-- Reads what a run needs to know: nothing, unless it has the arguments of a check. -/
def prepare (workingDirectory : Location) (arguments : List String) :
    IO (Host × List CommandRecord) := do
  match CommandLine.parse arguments with
  | .ok (.run options) =>
    if (CommandLine.requestOf? options.arguments).isNone then
      return (hostOfFindings workingDirectory [], [])
    let findings ← lookForSettings workingDirectory options.config
    let lines ← readLines (← IO.getStdin)
    return (hostOfFindings workingDirectory findings, lines.filterMap CommandRecord.ofLine?)
  | _ => return (hostOfFindings workingDirectory [], [])

end SchemaSemver

open SchemaSemver in
/-- Runs the program with its arguments. -/
def main (arguments : List String) : IO UInt32 := do
  let workingDirectory := (Path.ofText (← IO.currentDir).toString).parts
  let (host, records) ← prepare workingDirectory arguments
  let session := CommandLine.run host (fun _ => recordedRunner records) arguments
  IO.print (CommandLine.textOfLines session.output)
  IO.eprint (CommandLine.textOfLines session.errors)
  match session.exit with
  | .ok code => return UInt32.ofNat code
  | .error _ =>
    IO.eprintln "The run cannot be completed."
    return 1
