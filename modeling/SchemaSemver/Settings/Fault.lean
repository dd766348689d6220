/-
SchemaSemver.Settings.Fault — why settings are not loaded.

A settings file is rejected for a reason that can be said. A few files are worse than that: loading
them breaks off, and nothing is said about the file.
-/
import SchemaSemver.Files.Path
import SchemaSemver.Text.Encoding
import SchemaSemver.Text.Joined
import SchemaSemver.Yaml.Token

namespace SchemaSemver

/-- The sections of a settings file. -/
inductive SettingsSection where
  | git
  | schema
  | report
deriving DecidableEq, Repr

/-- The key of a section. -/
def SettingsSection.name : SettingsSection → String
  | git => "git"
  | schema => "schema"
  | report => "report"

/-- The settings that a file can hold. -/
inductive Setting where
  | executable
  | workingDirectory
  | encoding
  | listDeclarations
deriving DecidableEq, Repr

namespace Setting

/-- The section that holds a setting. -/
def home : Setting → SettingsSection
  | executable => .git
  | workingDirectory => .git
  | encoding => .schema
  | listDeclarations => .report

/-- The key of a setting in its section. -/
def key : Setting → String
  | executable => "executable"
  | workingDirectory => "working_directory"
  | encoding => "encoding"
  | listDeclarations => "list_declarations"

/-- The setting as it is named in messages. -/
def name (setting : Setting) : String := setting.home.name ++ "." ++ setting.key

end Setting

/-- Why a settings file is rejected. -/
inductive SettingsRejection where
  | missing (path : Path)
  | unreadable (path : Path)
  | directory (path : Path)
  | undecodable (path : Path) (fault : Text.ByteFault)
  | illFormed
  | notMapping
  | unknownSections (names : List LooseText)
  | sectionNotMapping (name : SettingsSection)
  | notText (setting : Setting)
  | blank (setting : Setting)
  | notDirectory (path : Path)
  | unknownCodec (name : String)
  | notTruthValue (setting : Setting)
deriving DecidableEq, Repr

/-- What is said about a rejected file. -/
def SettingsRejection.message : SettingsRejection → String
  | missing path => "Configuration file not found: " ++ path.text.shown
  | unreadable path =>
    "Failed to read configuration file " ++ path.text.shown ++ ": [Errno 13] Permission denied: "
      ++ path.text.quoted
  | directory path =>
    "Failed to read configuration file " ++ path.text.shown ++ ": [Errno 21] Is a directory: "
      ++ path.text.quoted
  | undecodable path fault =>
    "Failed to read configuration file " ++ path.text.shown ++ ": " ++ fault.message
  | illFormed => "Failed to parse configuration file"
  | notMapping => "Configuration root must be a mapping."
  | unknownSections names =>
    "Unknown configuration section(s): " ++ Text.joinWith ", " (names.map LooseText.shown)
  | sectionNotMapping name => "Configuration section '" ++ name.name ++ "' must be a mapping."
  | notText setting => setting.name ++ " must be a string."
  | blank setting => setting.name ++ " must not be empty."
  | notDirectory path => "git.working_directory is not a directory: " ++ path.text.shown
  | unknownCodec name => "schema.encoding '" ++ name ++ "' is not a known codec."
  | notTruthValue setting => setting.name ++ " must be a boolean."

/-- Why loading breaks off. -/
inductive SettingsBreak where
  /-- A scalar is not what its tag says. -/
  | scalar (fault : Yaml.ScalarFault)
  /-- An escape names a number that no character has. -/
  | character (code : Nat)
  /-- A line in front of the document names a version with too many digits. -/
  | longVersion
  /-- A section that is not known has a name that is no text. -/
  | sectionName
  /-- No system can be asked for the way to the working directory. -/
  | directoryPath (fault : PathFault)
  /-- The way to the working directory has more links than are followed. -/
  | directoryLinks
  /-- The name of the encoding holds half of a surrogate pair. -/
  | halfInEncoding
  /-- The name of the encoding holds a null character. -/
  | nullInEncoding
  /-- The way to the file or to the working directory is longer than any can be. -/
  | pathTooLong
  /-- The way to the file or to the working directory leads through a directory that is not open. -/
  | accessDenied
deriving DecidableEq, Repr

/-- Why settings are not loaded. -/
inductive SettingsFault where
  | rejected (reason : SettingsRejection)
  | broken (cause : SettingsBreak)
deriving DecidableEq, Repr

end SchemaSemver
