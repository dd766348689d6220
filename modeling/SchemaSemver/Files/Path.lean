/-
SchemaSemver.Files.Path — paths of files and directories.

A path is kept in its normal form: without empty parts and without `.`, while `..` stays, because
what it means depends on the directories that exist. Two slashes in front are not the same as one;
more than two are.
-/
import SchemaSemver.Text.LooseText

namespace SchemaSemver

/-- Where a path begins. -/
inductive PathRoot where
  /-- At the working directory. -/
  | relative
  | slash
  | doubleSlash
deriving DecidableEq, Repr

/-- A path. -/
structure Path where
  root : PathRoot
  parts : List LooseText
deriving DecidableEq, Repr

/-- Why no system can be asked for a path. -/
inductive PathFault where
  /-- A part of it holds half of a surrogate pair that stands for no byte. -/
  | half
  /-- A part of it holds a null character, which no name of a file can hold. -/
  | null
deriving DecidableEq, Repr

/-- What is wrong with some parts of a path; halves are looked for first. -/
def PathFault.ofParts? (parts : List LooseText) : Option PathFault :=
  if !parts.all LooseText.isSystem then some .half
  else if parts.any LooseText.hasNull then some .null
  else none

/-- The root as it is written. -/
def PathRoot.text : PathRoot → LooseText
  | relative => ""
  | slash => "/"
  | doubleSlash => "//"

/-- The root of a written path. -/
def PathRoot.ofPoints : List CodePoint → PathRoot
  | .char '/' :: .char '/' :: .char '/' :: _ => .slash
  | .char '/' :: .char '/' :: _ => .doubleSlash
  | .char '/' :: _ => .slash
  | _ => .relative

namespace Path

/-- Does a written part of a path lead somewhere else? -/
def isMeaningful (part : LooseText) : Bool := !part.isEmpty && part != "."

/-- The path that a text writes. -/
def ofText (text : LooseText) : Path :=
  ⟨PathRoot.ofPoints text.points,
    ((text.points.splitOn (.char '/')).map LooseText.mk).filter isMeaningful⟩

/-- The path as a text; the working directory itself is written as a dot. -/
def text (path : Path) : LooseText :=
  if path.root = .relative ∧ path.parts = [] then "."
  else path.root.text ++ ⟨[CodePoint.char '/'].intercalate (path.parts.map LooseText.points)⟩

/-- The path from the root of all directories with the given parts. -/
def absolute (parts : List LooseText) : Path := ⟨.slash, parts⟩

/-- Does the path begin at a root and not at the working directory? -/
def isAbsolute (path : Path) : Bool := path.root != .relative

/-- The directory that holds what the path leads to, as far as it is written. -/
def parent (path : Path) : Path := { path with parts := path.parts.dropLast }

/-- The path that leads on from a directory. -/
def append (base path : Path) : Path :=
  if path.isAbsolute then path else { base with parts := base.parts ++ path.parts }

/-- Why no system can be asked for the path, if there is a reason. -/
def fault? (path : Path) : Option PathFault := PathFault.ofParts? path.parts

end Path

end SchemaSemver
