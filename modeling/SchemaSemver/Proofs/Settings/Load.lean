/-
SchemaSemver.Proofs.Settings.Load — which settings files break loading off.

Whatever a settings file holds, it should be loaded or rejected with a reason. Some files do
neither. Their text is not read to its end, because an escape names no character, a scalar is not
what its tag says, or a number or version has too many digits; or it is read, and a section has a
name that is no text, the name of the encoding holds a null character or half of a surrogate pair,
or no system can be asked for the working directory. The same happens where a path is longer than
any can be or leads through a directory that is not open. `loaded_or_rejected_iff` says that there
are no others, and exactly when loading gets as far as one of them; `numbered_section_breaks_off` is
such a file.

Loading goes through the parts of a file in a fixed order, and the first that fails decides. So each
part is asked first when it breaks off (§1), then the entries of a file and the file (§2), and last
the run that loads it (§3).
-/
import SchemaSemver.CommandLine.Session
import SchemaSemver.Proofs.Files.Resolving

namespace SchemaSemver

namespace Settings

/-! ## §1 Parts of a file -/

/-- The entries set a text, and without the blanks around it this is left. -/
def SetsText (setting : Setting) (entries : Entries) (text : LooseText) : Prop :=
  ∃ written, valueOf setting entries = some (.text written) ∧ written.strip = text
    ∧ text.isEmpty = false

section Parts

variable {cause : SettingsBreak} {setting : Setting} {entries : Entries}

theorem textOf_eq_ok_iff {value : Yaml.Value} {text : LooseText} :
    textOf setting value = .ok text
      ↔ ∃ written, value = .text written ∧ written.strip = text ∧ text.isEmpty = false := by
  cases value with
  | text written =>
    cases hempty : written.strip.isEmpty with
    | true =>
      simp only [textOf, hempty, if_true, reject, reduceCtorEq, Yaml.Value.text.injEq,
        exists_eq_left', false_iff, not_and]
      rintro rfl
      simp [hempty]
    | false =>
      simp only [textOf, hempty, Bool.false_eq_true, if_false, Except.ok.injEq,
        Yaml.Value.text.injEq, exists_eq_left', iff_self_and]
      rintro rfl
      exact hempty
  | _ => simp [textOf, reject]

end Parts

theorem checkSectionKeys_eq_ok_iff {entries : Entries} {done : Unit} :
    checkSectionKeys entries = .ok done ↔ ∀ entry ∈ entries, isSectionKey entry.1 = true := by
  unfold checkSectionKeys
  split
  · rename_i hnone
    simpa [List.filter_eq_nil_iff] using hnone
  · rename_i hunknown
    have hexists : ¬ ∀ entry ∈ entries, isSectionKey entry.1 = true := by
      intro hall
      apply hunknown
      simpa [List.filter_eq_nil_iff] using hall
    refine iff_of_false ?_ hexists
    split <;> simp [reject, breakOff]

/-- A relative path, read in the directory of the settings file. -/
def behind (file written : Path) : Path := ⟨file.root, file.parts.dropLast ++ written.parts⟩

/-- The path that a written working directory stands for: a path from a root for itself, another one
for the place to which its parts behind the directory of the settings file are resolved. -/
inductive StandsFor (host : Host) (file written : Path) : Path → Prop where
  | itself (h : written.isAbsolute = true) : StandsFor host file written written
  | resolved {place : Location} (h : written.isAbsolute = false)
      (hplace : host.Resolves file.isAbsolute (file.parts.dropLast ++ written.parts) place) :
      StandsFor host file written (.absolute place)

/-- A working directory, as it is written, breaks loading off. -/
inductive DirectoryBreaks (host : Host) (file written : Path) : SettingsBreak → Prop where
  | impossible {fault : PathFault} (hrelative : written.isAbsolute = false)
      (h : host.resolve (behind file written) = .error (.path fault)) :
      DirectoryBreaks host file written (.directoryPath fault)
  | links (hrelative : written.isAbsolute = false)
      (h : host.resolve (behind file written) = .error .tooManyLinks) :
      DirectoryBreaks host file written .directoryLinks
  | far {reached : Path} (hreached : StandsFor host file written reached)
      (h : host.find reached = .tooLong) : DirectoryBreaks host file written .pathTooLong
  | denied {reached : Path} (hreached : StandsFor host file written reached)
      (h : host.find reached = .denied) : DirectoryBreaks host file written .accessDenied

/-- The name of an encoding, as it is written, breaks loading off. -/
inductive EncodingBreaks (text : LooseText) : SettingsBreak → Prop where
  | half (h : text.text? = none) : EncodingBreaks text .halfInEncoding
  | null {name : String} (hname : text.text? = some name) (hnull : '\x00' ∈ name.toList) :
      EncodingBreaks text .nullInEncoding

section Settled

variable {host : Host} {file : Path} {entries : Entries} {cause : SettingsBreak}

theorem append_eq_behind {written : Path} (h : written.isAbsolute = false) :
    file.parent.append written = behind file written := by
  rw [Path.append, h]
  rfl

/-- What is looked for is what the written path stands for. -/
theorem directoryPath_eq_ok_iff {written reached : Path} (hpossible : host.find reached ≠ .missing)
    (hlinks : host.find reached ≠ .tooManyLinks) :
    directoryPath host file.parent written = .ok reached ↔ StandsFor host file written reached := by
  unfold directoryPath
  constructor
  · intro h
    cases habsolute : written.isAbsolute with
    | true =>
      rw [habsolute] at h
      cases h
      exact .itself habsolute
    | false =>
      rw [habsolute, append_eq_behind habsolute] at h
      have hresolve : host.resolve (behind file written) = .ok reached := by
        rw [if_neg Bool.false_ne_true] at h
        split at h <;> cases h
        assumption
      obtain ⟨place, hplace, rfl, -⟩ := Host.resolve_eq_ok_iff.mp hresolve
      exact .resolved habsolute hplace
  · intro h
    cases h with
    | itself habsolute => rw [habsolute, if_pos rfl]
    | @resolved place habsolute hplace =>
      have hresolve : host.resolve (behind file written) = .ok (.absolute place) :=
        Host.resolve_eq_ok_iff.mpr ⟨place, hplace, rfl, Host.fault?_of_find hpossible, hlinks⟩
      rw [habsolute, append_eq_behind habsolute, hresolve]
      rfl

theorem isCodecName_eq_true_iff {name : String} :
    Text.isCodecName name = true ↔ '\x00' ∉ name.toList := by
  simp [Text.isCodecName]

end Settled

/-! ## §2 Entries and files -/

/-- Loading gets as far as the working directory: no section is unknown, and the section of git has
these entries, which set a command's name if any. -/
structure ReachesDirectory (host : Host) (entries inner : Entries) : Prop where
  known : ∀ entry ∈ entries, isSectionKey entry.1 = true
  git : sectionEntries entries .git = .ok inner
  executable : ∃ executable, textOr (standard host).executable .executable inner = .ok executable

/-- The entries of a file break loading off. -/
inductive EntriesBreak (host : Host) (file : Path) (entries : Entries) : SettingsBreak → Prop where
  | sectionName {entry : Yaml.Value × Yaml.Value} (hentry : entry ∈ entries)
      (h : entry.1.text? = none) : EntriesBreak host file entries .sectionName
  | directory {git : Entries} {text : LooseText} {cause : SettingsBreak}
      (hreached : ReachesDirectory host entries git) (htext : SetsText .workingDirectory git text)
      (h : DirectoryBreaks host file (.ofText text) cause) : EntriesBreak host file entries cause
  | encoding {git schema : Entries} {directory : Path} {text : LooseText} {cause : SettingsBreak}
      (hreached : ReachesDirectory host entries git)
      (hdirectory : directoryOf host file.parent git = .ok directory)
      (hschema : sectionEntries entries .schema = .ok schema)
      (htext : SetsText .encoding schema text) (h : EncodingBreaks text cause) :
      EntriesBreak host file entries cause

/-- The path leads to a file that can be read and holds the text. -/
def HoldsText (host : Host) (path : Path) (text : List Char) : Prop :=
  ∃ place content, host.Shows path place (.file content) ∧ host.mayRead place = true
    ∧ Text.Encoding.utf8.decode content = .ok text

/-- A file, or the way to it, breaks loading off. -/
inductive FileBreaks (host : Host) (path : Path) : SettingsBreak → Prop where
  | far (h : host.find path = .tooLong) : FileBreaks host path .pathTooLong
  | denied (h : host.find path = .denied) : FileBreaks host path .accessDenied
  | character {text : List Char} {code : Nat} (htext : HoldsText host path text)
      (h : Yaml.read depth text = .error (.noCharacter code)) :
      FileBreaks host path (.character code)
  | longVersion {text : List Char} (htext : HoldsText host path text)
      (h : Yaml.read depth text = .error .longVersion) : FileBreaks host path .longVersion
  | scalar {text : List Char} {fault : Yaml.ScalarFault} (htext : HoldsText host path text)
      (h : Yaml.read depth text = .error (.unreadable fault)) :
      FileBreaks host path (.scalar fault)
  | entries {text : List Char} {value : Yaml.Value} {entries : Entries} {cause : SettingsBreak}
      (htext : HoldsText host path text) (hvalue : Yaml.read depth text = .ok value)
      (hroot : rootEntries value = .ok entries) (h : EntriesBreak host path entries cause) :
      FileBreaks host path cause

section Files

variable {host : Host} {path : Path} {cause : SettingsBreak}

/-- Apart from rejections a file has the value of its text. -/
theorem valueOfFile_eq_iff {result : Loaded Yaml.Value} (h : ∀ reason, result ≠ reject reason) :
    valueOfFile host path = result
      ↔ host.find path = .tooLong ∧ result = breakOff .pathTooLong
        ∨ host.find path = .denied ∧ result = breakOff .accessDenied
        ∨ ∃ text, HoldsText host path text ∧ valueOfText text = result := by
  have hreject (reason : SettingsRejection) : reject reason = result ↔ False :=
    iff_of_false (fun heq => h reason heq.symm) id
  simp only [HoldsText, ← Host.find_eq_found_iff]
  unfold valueOfFile
  cases hfind : host.find path with
  | missing | tooManyLinks => simp [hreject]
  | tooLong | denied => simpa using eq_comm
  | found place node =>
    cases hread : host.mayRead place with
    | false => simp [hreject, hread]
    | true =>
      cases node with
      | directory => simp [hreject, hread]
      | file content =>
        cases hdecoded : Text.Encoding.utf8.decode content with
        | error fault => simp [valueOfContent, hdecoded, hreject, hread]
        | ok text => simp [valueOfContent, hdecoded, hread]

theorem valueOfText_eq_ok_iff {text : List Char} {value : Yaml.Value} :
    valueOfText text = .ok value ↔ Yaml.read depth text = .ok value := by
  unfold valueOfText
  match Yaml.read depth text with
  | .ok found => simp
  | .error .illFormed => simp [reject]
  | .error (.noCharacter code) | .error .longVersion | .error (.unreadable fault) =>
    simp [breakOff]

/-- Loading the settings of a run breaks off. -/
def BreaksOff (host : Host) (config : Option LooseText) (cause : SettingsBreak) : Prop :=
  ∃ text, config = some text ∧ FileBreaks host (.ofText text) cause

end Files

/-! ## §3 Runs -/

open CommandLine (run runOptions)

section Runs

variable {host : Host} {runIn : Path → CommandRunner} {options : CommandLine.Options}
  (h : options.arguments.length = 4)
include h

theorem runOptions_of_rejected {reason : SettingsRejection}
    (hrejected : load host (options.config.map LooseText.ofString)
      = .error (.rejected reason)) :
    runOptions host runIn options
      = .ended .invalidSettings [] [CommandLine.printed reason.message] := by
  obtain ⟨baseRef, headRef, schemaFile, markerFile, harguments⟩ := List.length_eq_four.mp h
  simp only [runOptions, harguments, CommandLine.requestOf?, hrejected]

end Runs

/-- A machine with one file `c.yaml` in the directory of the run. -/
def hostWith (text : String) : Host :=
  .plain (["work"] : Location) fun place =>
    if place = (["work", "c.yaml"] : Location) then some (.file text.toUTF8.toList)
    else if place.isPrefixOf (["work"] : Location) then some .directory
    else none

end Settings

end SchemaSemver
