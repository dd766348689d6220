/-
SchemaSemver.Files.Host — the directories and files that a run can see.

A path is followed name by name from a directory. Every directory on the way must be open to the
run, and a link on the way is followed in its turn; after forty links no more are. Names and paths
have greatest lengths, counted in octets; a longer one is refused, which is not the same as leading
nowhere.

A path can also be resolved: the links on its way are looked for one after the other, and what can
not be seen is taken as it is written. A link that leads back to itself ends this. From there on the
path is taken as it is written to its end.
-/
import SchemaSemver.Files.Path
import SchemaSemver.Text.Encoding

namespace SchemaSemver

/-- What can be found at a place. -/
inductive FileNode where
  | file (content : List UInt8)
  | directory
deriving DecidableEq, Repr

/-- The names on the way from the root of all directories to a place. -/
abbrev Location := List LooseText

/-- What comes of looking for a path. -/
inductive Lookup where
  | missing
  /-- The path, or a name on its way, is longer than any can be. -/
  | tooLong
  /-- A directory on the way is not open. -/
  | denied
  /-- There are more links on the way than are followed. -/
  | tooManyLinks
  | found (place : Location) (node : FileNode)
deriving DecidableEq, Repr

/-- A link to another path, which begins in the directory of the link if it is relative. -/
structure Link where
  place : Location
  target : Path
  isPossible : target.fault? = none
deriving DecidableEq, Repr

/-- The machine on which a run was started, and the directory in which it was. -/
structure Host where
  workingDirectory : Location
  nodeAt : Location → Option FileNode
  links : List Link
  /-- May the run look for names in a directory? -/
  mayEnter : Location → Bool
  /-- May the run read what is at a place? -/
  mayRead : Location → Bool
  codecs : Text.Codecs

namespace Host

/-- A machine that has no links and closes nothing. -/
def plain (workingDirectory : Location) (nodeAt : Location → Option FileNode) : Host :=
  ⟨workingDirectory, nodeAt, [], fun _ => true, fun _ => true, Text.Codecs.standard⟩

variable (host : Host)

/-! ## Steps -/

/-- The target of the link at a place. -/
def linkAt (place : Location) : Option Path :=
  (host.links.find? fun link => link.place == place).map Link.target

/-- The place where a path begins that is read in a directory. -/
def startIn (directory : Location) (path : Path) : Location :=
  if path.isAbsolute then [] else directory

/-- The place after one more part of a path. -/
def follow (place : Location) (part : LooseText) : Location :=
  if part = ".." then place.dropLast else place ++ [part]

/-- The most octets that a name can have. -/
def nameLimit : Nat := 255

/-- The most octets that a path can have. -/
def pathLimit : Nat := 4095

/-- The most links on a way. -/
def linkLimit : Nat := 40

/-- What prevents leaving a place by a part of a path: the place must be a directory, it must be
open, and only then is the length of the name looked at. -/
def barrier? (place : Location) (part : LooseText) : Option Lookup :=
  if host.nodeAt place ≠ some .directory then some .missing
  else if !host.mayEnter place then some .denied
  else if nameLimit < part.octets then some .tooLong
  else none

/-- The target of the link that a part of a path leads to. -/
def linkBehind (place : Location) (part : LooseText) : Option Path :=
  if part = ".." then none else host.linkAt (place ++ [part])

/-! ## Finding -/

/-- How far parts of a path lead without a link. -/
inductive Advance where
  | ended (lookup : Lookup)
  /-- A link comes next; it is in a directory, and some parts are left. -/
  | link (directory : Location) (target : Path) (rest : List LooseText)
deriving DecidableEq, Repr

/-- What is at the end of a way. -/
def lookupAt (place : Location) : Lookup :=
  match host.nodeAt place with
  | some node => .found place node
  | none => .missing

/-- Goes on from a place to the next link. -/
def advance : Location → List LooseText → Advance
  | place, [] => .ended (host.lookupAt place)
  | place, part :: rest =>
    match host.barrier? place part, host.linkBehind place part with
    | some barrier, _ => .ended barrier
    | none, some target => .link place target rest
    | none, none => advance (follow place part) rest

/-- Goes on from a place, over at most the given number of links. -/
def walk : Nat → Location → List LooseText → Lookup
  | 0, place, parts =>
    match host.advance place parts with
    | .ended lookup => lookup
    | .link .. => .tooManyLinks
  | budget + 1, place, parts =>
    match host.advance place parts with
    | .ended lookup => lookup
    | .link directory target rest =>
      walk budget (startIn directory target) (target.parts ++ rest)

/-- What a path leads to. -/
def find (path : Path) : Lookup :=
  if path.fault?.isSome then .missing
  else if pathLimit < path.text.octets then .tooLong
  else host.walk linkLimit (startIn host.workingDirectory path) path.parts

end Host

/-! ## Resolving -/

/-- A way through directories as it is kept while a path is resolved: first some steps up from the
working directory, or none from the root, and then names. -/
structure Way where
  /-- The steps up from the working directory; a way from the root has none. -/
  ups : Option Nat
  names : List LooseText
deriving DecidableEq, Repr

namespace Way

/-- The way from the root. -/
def root : Way := ⟨none, []⟩

/-- The way to the working directory. -/
def here : Way := ⟨some 0, []⟩

/-- The way on which a path begins that is read at the end of a way. -/
def startOf (way : Way) (path : Path) : Way := if path.isAbsolute then root else way

/-- The parts of the way, as a path has them. -/
def parts (way : Way) : List LooseText :=
  List.replicate (way.ups.getD 0) (".." : LooseText) ++ way.names

/-- The way as a path. -/
def path (way : Way) : Path := ⟨if way.ups.isSome then .relative else .slash, way.parts⟩

/-- The way with one more name. -/
def down (way : Way) (name : LooseText) : Way := ⟨way.ups, way.names ++ [name]⟩

end Way

/-- Where resolving a path has come. -/
structure Footing where
  way : Way
  /-- Was a link met that leads back to itself? Then links are not looked for any more. -/
  isBlind : Bool
deriving DecidableEq, Repr

namespace Host

variable (host : Host)

/-- The way to the directory above; above the root there is none. -/
def upFrom : Way → Way
  | ⟨ups, []⟩ => ⟨ups.map fun ups => min (ups + 1) host.workingDirectory.length, []⟩
  | ⟨ups, names⟩ => ⟨ups, names.dropLast⟩

/-- The way with one more part of a path. -/
def followOn (way : Way) (part : LooseText) : Way :=
  if part = ".." then host.upFrom way else way.down part

/-- The place where the steps up of a way end. -/
def baseOf (way : Way) : Location :=
  match way.ups with
  | none => []
  | some ups => host.workingDirectory.take (host.workingDirectory.length - ups)

/-- The place that a way leads to. -/
def placeOf (way : Way) : Location := host.baseOf way ++ way.names

/-- The place where a way begins. -/
def startOfWay (way : Way) : Location := if way.ups.isSome then host.workingDirectory else []

/-- The target of the link that a name leads to, if it can be seen from the end of a way. -/
def visibleLink (way : Way) (name : LooseText) : Option Path :=
  if pathLimit < (way.down name).path.text.octets then none
  else
    match host.advance (host.startOfWay way) (way.parts ++ [name]) with
    | .link directory target [] => if directory = host.placeOf way then some target else none
    | _ => none

/-- The next footing. `pending` are the ways of the links that are being followed; `inside` follows
one more link. -/
def tread (pending : List Way)
    (inside : List Way → Way → List LooseText → Except PathFault Footing)
    (footing : Footing) (part : LooseText) : Except PathFault Footing :=
  let next := host.followOn footing.way part
  if footing.isBlind ∨ part = ".." then .ok ⟨next, footing.isBlind⟩
  else
    match PathFault.ofParts? [part], host.visibleLink footing.way part with
    | some fault, _ => .error fault
    | none, none => .ok ⟨next, false⟩
    | none, some target =>
      if next ∈ pending then .ok ⟨next, true⟩
      else inside (next :: pending) (footing.way.startOf target) target.parts

/-- Follows parts of a path from the end of a way as far as links can be seen. The first argument
bounds the number of links inside each other. -/
def trace : Nat → List Way → Way → List LooseText → Except PathFault Footing
  | 0, _, way, _ => .ok ⟨way, true⟩
  | nesting + 1, pending, way, parts =>
    parts.foldlM (host.tread pending (trace nesting)) ⟨way, false⟩

/-- No more links than this can be inside each other unless one of them comes twice on the same
way. -/
def nestingLimit : Nat := host.links.length * (host.workingDirectory.length + 2)

end Host

/-- Why a path is not resolved. -/
inductive ResolveFault where
  | path (fault : PathFault)
  /-- What it stands for has more links on its way than are followed. -/
  | tooManyLinks
deriving DecidableEq, Repr

namespace Host

/-- The path from the root that a path stands for, whether it leads anywhere or not. -/
def resolve (host : Host) (path : Path) : Except ResolveFault Path :=
  match host.trace (host.nestingLimit + 1) [] (Way.here.startOf path) path.parts with
  | .error fault => .error (.path fault)
  | .ok footing =>
    let resolved := Path.absolute (host.placeOf footing.way)
    match resolved.fault?, host.find resolved with
    | some fault, _ => .error (.path fault)
    | none, .tooManyLinks => .error .tooManyLinks
    | none, _ => .ok resolved

end Host

end SchemaSemver
