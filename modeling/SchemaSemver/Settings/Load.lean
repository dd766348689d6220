/-
SchemaSemver.Settings.Load — loading the settings of a run.

Settings stand in three sections of a YAML file, each of which may be missing or empty; so may every
setting. What is known is checked in a fixed order: names of sections, then the sections of git,
schema and report. Keys inside a section that are not known do not matter.
-/
import SchemaSemver.Files.Host
import SchemaSemver.Settings.Fault
import SchemaSemver.Yaml.Evaluation

namespace SchemaSemver

/-- The settings of a run. -/
structure Settings where
  /-- The file that they come from, if there is one. -/
  path : Option Path
  executable : LooseText
  workingDirectory : Path
  encoding : String
  listDeclarations : Bool
deriving DecidableEq, Repr

namespace Settings

/-- What loading gives. -/
abbrev Loaded (α : Type) := Except SettingsFault α

/-- A rejection as the result of loading. -/
def reject {α : Type} (reason : SettingsRejection) : Loaded α := .error (.rejected reason)

/-- Breaking off as the result of loading. -/
def breakOff {α : Type} (cause : SettingsBreak) : Loaded α := .error (.broken cause)

/-- What holds when nothing is set. -/
def standard (host : Host) : Settings :=
  ⟨none, "git", .absolute host.workingDirectory, "utf-8", true⟩

/-! ## Parts of a file -/

/-- The entries of a mapping. -/
abbrev Entries := List (Yaml.Value × Yaml.Value)

/-- The entries at the top of a file; an empty file has none. -/
def rootEntries : Yaml.Value → Loaded Entries
  | .null => .ok []
  | .mapping entries => .ok entries
  | _ => reject .notMapping

/-- Is the value the key of a section? -/
def isSectionKey (key : Yaml.Value) : Bool :=
  [SettingsSection.git, .schema, .report].any fun part => key.isText part.name

/-- Texts in the order of the numbers of their code points, each once. -/
def sortedNames (names : List LooseText) : List LooseText :=
  (names.mergeSort LooseText.isBefore).eraseDups

/-- Only known sections may stand in a file. -/
def checkSectionKeys (entries : Entries) : Loaded Unit :=
  match (entries.map Prod.fst).filter (!isSectionKey ·) with
  | [] => .ok ()
  | unknown =>
    match unknown.mapM Yaml.Value.text? with
    | some names => reject (.unknownSections (sortedNames names))
    | none => breakOff .sectionName

/-- The entries of a section; without a value it has none. -/
def sectionEntries (entries : Entries) (part : SettingsSection) : Loaded Entries :=
  match Yaml.lookup part.name entries with
  | none => .ok []
  | some .null => .ok []
  | some (.mapping inner) => .ok inner
  | some _ => reject (.sectionNotMapping part)

/-- The value of a setting among the entries of its section. -/
def valueOf (setting : Setting) (entries : Entries) : Option Yaml.Value :=
  Yaml.lookup setting.key entries

/-- The text of a setting without the blanks around it; some text must be left. -/
def textOf (setting : Setting) : Yaml.Value → Loaded LooseText
  | .text written =>
    let text := written.strip
    if text.isEmpty then reject (.blank setting) else .ok text
  | _ => reject (.notText setting)

/-- The text of a setting that has a standard. -/
def textOr (standard : LooseText) (setting : Setting) (entries : Entries) : Loaded LooseText :=
  match valueOf setting entries with
  | none => .ok standard
  | some value => textOf setting value

/-! ## Settings -/

/-- The path that a working directory stands for: a relative one begins at the directory of the
file. -/
def directoryPath (host : Host) (base path : Path) : Loaded Path :=
  if path.isAbsolute then .ok path
  else
    match host.resolve (base.append path) with
    | .ok resolved => .ok resolved
    | .error (.path fault) => breakOff (.directoryPath fault)
    | .error .tooManyLinks => breakOff .directoryLinks

/-- A path must lead to a directory. -/
def requireDirectory (host : Host) (path : Path) : Loaded Path :=
  match host.find path with
  | .found _ .directory => .ok path
  | .tooLong => breakOff .pathTooLong
  | .denied => breakOff .accessDenied
  | _ => reject (.notDirectory path)

/-- The working directory that a section sets, which must be a directory. -/
def directoryOf (host : Host) (base : Path) (entries : Entries) : Loaded Path :=
  match valueOf .workingDirectory entries with
  | none => .ok (standard host).workingDirectory
  | some .null => .ok (standard host).workingDirectory
  | some value => do
    let text ← textOf .workingDirectory value
    requireDirectory host (← directoryPath host base (.ofText text))

/-- A text must be the name of a known codec. -/
def requireCodec (host : Host) (text : LooseText) : Loaded String :=
  match text.text? with
  | none => breakOff .halfInEncoding
  | some name =>
    if !Text.isCodecName name then breakOff .nullInEncoding
    else if (host.codecs name).isSome then .ok name
    else reject (.unknownCodec name)

/-- The encoding that a section sets, the name of a known codec. -/
def encodingOf (host : Host) (entries : Entries) : Loaded String := do
  requireCodec host (← textOr (standard host).encoding .encoding entries)

/-- Whether declarations are listed, as a section sets it. -/
def listingOf (host : Host) (entries : Entries) : Loaded Bool :=
  match valueOf .listDeclarations entries with
  | none => .ok (standard host).listDeclarations
  | some (.bool b) => .ok b
  | some _ => reject (.notTruthValue .listDeclarations)

/-- The settings that the value of a file gives. -/
def ofValue (host : Host) (path : Path) (value : Yaml.Value) : Loaded Settings := do
  let entries ← rootEntries value
  checkSectionKeys entries
  let git ← sectionEntries entries .git
  let executable ← textOr (standard host).executable .executable git
  let workingDirectory ← directoryOf host path.parent git
  let encoding ← encodingOf host (← sectionEntries entries .schema)
  let listDeclarations ← listingOf host (← sectionEntries entries .report)
  return ⟨some path, executable, workingDirectory, encoding, listDeclarations⟩

/-! ## Files -/

/-- The depth to which a file is looked at: it holds sections, and they hold settings. -/
def depth : Nat := 2

/-- The value of the text of a file. -/
def valueOfText (text : List Char) : Loaded Yaml.Value :=
  match Yaml.read depth text with
  | .ok value => .ok value
  | .error .illFormed => reject .illFormed
  | .error (.noCharacter code) => breakOff (.character code)
  | .error .longVersion => breakOff .longVersion
  | .error (.unreadable fault) => breakOff (.scalar fault)

/-- The value of the bytes of a file. -/
def valueOfContent (path : Path) (content : List UInt8) : Loaded Yaml.Value :=
  match Text.Encoding.utf8.decode content with
  | .error fault => reject (.undecodable path fault)
  | .ok text => valueOfText text

/-- The value of a file. -/
def valueOfFile (host : Host) (path : Path) : Loaded Yaml.Value :=
  match host.find path with
  | .missing | .tooManyLinks => reject (.missing path)
  | .tooLong => breakOff .pathTooLong
  | .denied => breakOff .accessDenied
  | .found place node =>
    if !host.mayRead place then reject (.unreadable path)
    else
      match node with
      | .directory => reject (.directory path)
      | .file content => valueOfContent path content

/-- The settings of a run that names a file, or none. -/
def load (host : Host) (path : Option LooseText) : Loaded Settings :=
  match path with
  | none => .ok (standard host)
  | some text => do
    let path := Path.ofText text
    ofValue host path (← valueOfFile host path)

end Settings

end SchemaSemver
