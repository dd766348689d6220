/-
SchemaSemver.Proofs.Settings.Acceptance — which settings files are accepted, and what they set.

What a file says about settings is little: its value is a table of sections, each section a table of
settings, and a table is a mapping or null. `given` is the value that stands for a setting in these
two tables, and `Allows` says which values each setting can have; neither knows in which order the
loader looks at things, nor what it reports. `accepted_settings_exact` says that exactly the files
whose value `IsAcceptable` are loaded, and that each setting is then read off its own value or is
the standard (`Chooses`). So whatever leaves the given values as they are has no effect; `Rewording`
lists the ways in which a file can be written differently without saying anything else.

Which directory a file sets is said by where its parts lead: those of the directory of the file and
then those that are written, followed one after the other from the root or from the directory of the
run (`StandsFor`).

Each part of the loader is first shown to give a result exactly if a condition on the given values
holds, and then a result that depends on them alone (§3); the loader is these parts in a row.
-/
import Mathlib.Logic.Relation
import SchemaSemver.Proofs.Settings.Load
import SchemaSemver.Proofs.Text.Encoding

namespace SchemaSemver

/-! ## §1 Entries of a mapping -/

namespace Yaml

theorem Value.isText_iff {name : String} {value : Value} :
    value.isText name = true ↔ value = .text name := by
  cases value <;> simp [isText]

/-- The later of two entries with one key counts. -/
theorem lookup_append (name : String) (before after : List (Value × Value)) :
    lookup name (before ++ after) = (lookup name after).or (lookup name before) := by
  simp only [lookup, List.reverse_append, List.find?_append]
  cases after.reverse.find? fun entry => entry.1.isText name <;> simp

theorem lookup_cons (name : String) (entry : Value × Value) (rest : List (Value × Value)) :
    lookup name (entry :: rest)
      = (lookup name rest).or (if entry.1.isText name then some entry.2 else none) := by
  have hcons : entry :: rest = [entry] ++ rest := rfl
  rw [hcons, lookup_append]
  cases hkey : entry.1.isText name <;> simp [lookup, hkey]

theorem lookup_eq_none {name : String} {entries : List (Value × Value)}
    (h : ∀ entry ∈ entries, entry.1.isText name = false) : lookup name entries = none := by
  simpa [lookup] using h

/-- No text is the key of two entries. -/
def KeysDistinct (entries : List (Value × Value)) : Prop :=
  (entries.filterMap fun entry => entry.1.text?).Nodup

/-- Where no key stands twice, the order of the entries does not matter. -/
theorem lookup_perm {entries entries' : List (Value × Value)} (hperm : entries.Perm entries')
    (hdistinct : KeysDistinct entries) (name : String) :
    lookup name entries = lookup name entries' := by
  induction hperm with
  | nil => rfl
  | cons entry _ ih =>
    rw [lookup_cons, lookup_cons, ih]
    unfold KeysDistinct at hdistinct ⊢
    rw [List.filterMap_cons] at hdistinct
    split at hdistinct
    · exact hdistinct
    · exact (List.nodup_cons.mp hdistinct).2
  | swap first second rest =>
    rw [lookup_cons, lookup_cons, lookup_cons, lookup_cons, Option.or_assoc, Option.or_assoc]
    congr 1
    by_cases hfirst : first.1.isText name = true
    · by_cases hsecond : second.1.isText name = true
      · -- both would have the same text as their key
        rw [Value.isText_iff] at hfirst hsecond
        simp [KeysDistinct, hfirst, hsecond, Value.text?] at hdistinct
      · simp [hfirst, hsecond]
    · simp [hfirst]
  | trans hfirst _ ihfirst ihsecond =>
    have hmiddle : KeysDistinct _ := (hfirst.filterMap _).nodup_iff.mp hdistinct
    rw [ihfirst hdistinct, ihsecond hmiddle]

end Yaml

namespace Settings

/-! ## §2 What a file says -/

/-- The value is a mapping, or null in the place of an empty one. -/
inductive IsTable : Yaml.Value → Prop where
  | null : IsTable .null
  | mapping (entries : Entries) : IsTable (.mapping entries)

/-- The entries of a value; what is no mapping has none. -/
def entriesOf : Yaml.Value → Entries
  | .mapping entries => entries
  | _ => []

/-- The value that stands for a setting in its section, if there is one. -/
def given (value : Yaml.Value) (setting : Setting) : Option Yaml.Value :=
  Yaml.lookup setting.key
    (entriesOf ((Yaml.lookup setting.home.name (entriesOf value)).getD .null))

/-- The value is a table of known sections, each of them a table. -/
structure IsShaped (value : Yaml.Value) : Prop where
  root : IsTable value
  known : ∀ entry ∈ entriesOf value, ∃ part : SettingsSection, entry.1 = .text part.name
  sections : ∀ (part : SettingsSection) (found : Yaml.Value),
    Yaml.lookup part.name (entriesOf value) = some found → IsTable found

/-- The value is a text, and without the blanks around it this is left. -/
def Says (value : Yaml.Value) (text : LooseText) : Prop :=
  ∃ written, value = .text written ∧ written.strip = text ∧ text.isEmpty = false

/-- The written path stands for a path, and there is a directory where this leads. -/
def LeadsToDirectory (host : Host) (file written : Path) : Prop :=
  ∃ reached place, StandsFor host file written reached ∧ host.Shows reached place .directory

/-- The text is the name of a known codec. No name holds a null character or half of a surrogate
pair. -/
def NamesCodec (host : Host) (text : LooseText) : Prop :=
  ∃ name : String, text = name ∧ '\x00' ∉ name.toList ∧ ∃ codec, host.codecs name = some codec

/-- The value can be given to the setting. -/
def Allows (host : Host) (file : Path) : Setting → Yaml.Value → Prop
  | .executable, value => ∃ text, Says value text
  | .workingDirectory, value =>
    value = .null ∨ ∃ text, Says value text ∧ LeadsToDirectory host file (.ofText text)
  | .encoding, value => ∃ text, Says value text ∧ NamesCodec host text
  | .listDeclarations, value => ∃ b, value = .bool b

/-- The value of a file is acceptable: it has the shape of sections, and each setting can have the
value that is given to it. -/
structure IsAcceptable (host : Host) (file : Path) (value : Yaml.Value) : Prop where
  shaped : IsShaped value
  allowed : ∀ setting found, given value setting = some found → Allows host file setting found

/-- The text that a value says, without blanks around it. -/
def wording? : Yaml.Value → Option LooseText
  | .text written => some written.strip
  | _ => none

/-- The truth value that a value is. -/
def truth? : Yaml.Value → Option Bool
  | .bool b => some b
  | _ => none

/-- The working directory that a file sets with a text, or without one. -/
def SetsDirectory (host : Host) (file : Path) (text : Option LooseText) (directory : Path) : Prop :=
  match text with
  | none => directory = .absolute host.workingDirectory
  | some text => StandsFor host file (.ofText text) directory

/-- The settings are those that the value of a file stands for. -/
structure Chooses (host : Host) (file : Path) (value : Yaml.Value) (settings : Settings) :
    Prop where
  path : settings.path = some file
  executable : settings.executable = ((given value .executable).bind wording?).getD "git"
  workingDirectory : SetsDirectory host file ((given value .workingDirectory).bind wording?)
    settings.workingDirectory
  encoding : (settings.encoding : LooseText) = ((given value .encoding).bind wording?).getD "utf-8"
  listDeclarations :
    settings.listDeclarations = ((given value .listDeclarations).bind truth?).getD true

/-- The value of the file at a path. -/
def HoldsValue (host : Host) (path : Path) (value : Yaml.Value) : Prop :=
  ∃ text, HoldsText host path text ∧ Yaml.read depth text = .ok value

/-! ## §3 Parts of the loader -/

theorem says_iff {value : Yaml.Value} {text : LooseText} :
    Says value text ↔ wording? value = some text ∧ text.isEmpty = false := by
  cases value <;> simp [Says, wording?]

theorem textOf_says_iff {setting : Setting} {value : Yaml.Value} {text : LooseText} :
    textOf setting value = .ok text ↔ Says value text :=
  textOf_eq_ok_iff

theorem rootEntries_eq_ok_iff {value : Yaml.Value} {entries : Entries} :
    rootEntries value = .ok entries ↔ IsTable value ∧ entries = entriesOf value := by
  constructor
  · intro h
    cases value with
    | null =>
      cases h
      exact ⟨.null, rfl⟩
    | mapping inner =>
      cases h
      exact ⟨.mapping entries, rfl⟩
    | _ => cases h
  · rintro ⟨htable, rfl⟩
    cases htable <;> rfl

theorem isSectionKey_iff {key : Yaml.Value} :
    isSectionKey key = true ↔ ∃ part : SettingsSection, key = .text part.name := by
  simp only [isSectionKey, List.any_cons, List.any_nil, Bool.or_false, Bool.or_eq_true,
    Yaml.Value.isText_iff]
  constructor
  · rintro (h | h | h)
    · exact ⟨.git, h⟩
    · exact ⟨.schema, h⟩
    · exact ⟨.report, h⟩
  · rintro ⟨part, h⟩
    cases part with
    | git => exact .inl h
    | schema => exact .inr (.inl h)
    | report => exact .inr (.inr h)

theorem sectionEntries_eq_ok_iff {entries inner : Entries} {part : SettingsSection} :
    sectionEntries entries part = .ok inner
      ↔ (∀ found, Yaml.lookup part.name entries = some found → IsTable found)
        ∧ inner = entriesOf ((Yaml.lookup part.name entries).getD .null) := by
  unfold sectionEntries
  cases Yaml.lookup part.name entries with
  | none => simp [entriesOf, eq_comm]
  | some found =>
    cases found with
    | null => simp [IsTable.null, entriesOf, eq_comm]
    | mapping entries => simp [IsTable.mapping, entriesOf, eq_comm]
    | _ =>
      simp only [reject, reduceCtorEq, Option.some.injEq, forall_eq', false_iff, not_and]
      intro htable
      cases htable

section Settled

variable {host : Host} {file : Path} {setting : Setting} {entries : Entries}

theorem textOr_says_iff {standard text : LooseText} :
    textOr standard setting entries = .ok text
      ↔ (∀ found, valueOf setting entries = some found → ∃ said, Says found said)
        ∧ text = ((valueOf setting entries).bind wording?).getD standard := by
  unfold textOr
  cases valueOf setting entries with
  | none => simp [eq_comm]
  | some found =>
    simp only [textOf_says_iff, says_iff, Option.some.injEq, forall_eq', Option.bind_some]
    constructor
    · rintro ⟨hwording, htext⟩
      exact ⟨⟨text, hwording, htext⟩, by rw [hwording]; rfl⟩
    · rintro ⟨⟨said, hwording, hsaid⟩, rfl⟩
      rw [hwording]
      exact ⟨rfl, hsaid⟩

theorem StandsFor.unique {written reached reached' : Path} (h : StandsFor host file written reached)
    (h' : StandsFor host file written reached') : reached = reached' := by
  cases h with
  | itself habsolute =>
    cases h' with
    | itself => rfl
    | resolved hrelative =>
      rw [habsolute] at hrelative
      cases hrelative
  | resolved hrelative hplace =>
    cases h' with
    | itself habsolute =>
      rw [habsolute] at hrelative
      cases hrelative
    | resolved _ hplace' => rw [hplace.unique hplace']

theorem StandsFor.isAbsolute {written reached : Path} (h : StandsFor host file written reached) :
    reached.isAbsolute = true := by
  cases h with
  | itself habsolute => exact habsolute
  | resolved => rfl

theorem requireDirectory_eq_ok_iff {path directory : Path} :
    requireDirectory host path = .ok directory
      ↔ path = directory ∧ ∃ place, host.find path = .found place .directory := by
  unfold requireDirectory
  match host.find path with
  | .found _ .directory => simp
  | .found _ (.file _) | .missing | .tooManyLinks => simp [reject]
  | .tooLong | .denied => simp [breakOff]

theorem directoryOf_eq_ok_iff {directory : Path} :
    directoryOf host file.parent entries = .ok directory
      ↔ (∀ found, valueOf .workingDirectory entries = some found →
          Allows host file .workingDirectory found)
        ∧ SetsDirectory host file ((valueOf .workingDirectory entries).bind wording?)
          directory := by
  unfold directoryOf
  split
  · rename_i hnone
    simp [hnone, standard, SetsDirectory, eq_comm]
  · rename_i hnull
    simp [hnull, standard, Allows, wording?, SetsDirectory, eq_comm]
  · rename_i found hnotNull hfound
    have hne : found ≠ .null := hnotNull
    simp only [bind_eq_ok_iff, textOf_says_iff, requireDirectory_eq_ok_iff, hfound,
      Option.some.injEq, forall_eq', Allows, hne, false_or, Option.bind_some]
    constructor
    · rintro ⟨text, hsays, _, hreached, rfl, place, hplace⟩
      rw [(says_iff.mp hsays).1]
      rw [directoryPath_eq_ok_iff (by simp [hplace]) (by simp [hplace])] at hreached
      exact ⟨⟨text, hsays, _, place, hreached, Host.find_eq_found_iff.mp hplace⟩, hreached⟩
    · rintro ⟨⟨text, hsays, reached, place, hreached, hshows⟩, hdirectory⟩
      rw [(says_iff.mp hsays).1] at hdirectory
      obtain rfl := hreached.unique hdirectory
      have hplace := Host.find_eq_found_iff.mpr hshows
      rw [← directoryPath_eq_ok_iff (by simp [hplace]) (by simp [hplace])] at hreached
      exact ⟨text, hsays, reached, hreached, rfl, place, hplace⟩

theorem requireCodec_eq_ok_iff {text : LooseText} {name : String} :
    requireCodec host text = .ok name ↔ NamesCodec host text ∧ (name : LooseText) = text := by
  unfold requireCodec
  cases htext : text.text? with
  | none =>
    have hnone (name : String) : text ≠ name := fun heq => by
      rw [heq, LooseText.text?_ofString] at htext
      cases htext
    simp [breakOff, NamesCodec, hnone]
  | some said =>
    obtain rfl := LooseText.text?_eq_some_iff.mp htext
    have hnames : NamesCodec host (said : LooseText)
        ↔ Text.isCodecName said = true ∧ (host.codecs said).isSome = true := by
      rw [isCodecName_eq_true_iff, Option.isSome_iff_exists]
      constructor
      · rintro ⟨other, heq, hcodec⟩
        rwa [LooseText.ofString_injective heq]
      · exact fun hcodec => ⟨said, rfl, hcodec⟩
    have hname : (name : LooseText) = said ↔ said = name :=
      ⟨fun heq => (LooseText.ofString_injective heq).symm, fun heq => by rw [heq]⟩
    cases hcodec : Text.isCodecName said <;> cases hknown : (host.codecs said).isSome <;>
      simp [hnames, hname, hcodec, hknown, breakOff, reject]

theorem encodingOf_eq_ok_iff (hutf8 : ∃ codec, host.codecs "utf-8" = some codec) (file : Path)
    {name : String} :
    encodingOf host entries = .ok name
      ↔ (∀ found, valueOf .encoding entries = some found → Allows host file .encoding found)
        ∧ (name : LooseText) = ((valueOf .encoding entries).bind wording?).getD "utf-8" := by
  have hstandard : NamesCodec host ("utf-8" : String) := ⟨"utf-8", rfl, by decide, hutf8⟩
  simp only [encodingOf, bind_eq_ok_iff, requireCodec_eq_ok_iff, textOr_says_iff]
  cases valueOf .encoding entries with
  | none =>
    simp only [reduceCtorEq, false_implies, implies_true, true_and, Option.bind_none,
      Option.getD_none, exists_eq_left]
    exact ⟨fun h => h.2, fun h => ⟨hstandard, h⟩⟩
  | some found =>
    simp only [Option.some.injEq, forall_eq', Option.bind_some, Allows]
    constructor
    · rintro ⟨text, ⟨⟨said, hsays⟩, rfl⟩, hcodec, hname⟩
      have hwording := (says_iff.mp hsays).1
      rw [hwording] at hcodec hname ⊢
      exact ⟨⟨said, hsays, hcodec⟩, hname⟩
    · rintro ⟨⟨text, hsays, hcodec⟩, hname⟩
      have hwording := (says_iff.mp hsays).1
      rw [hwording] at hname ⊢
      exact ⟨text, ⟨⟨text, hsays⟩, rfl⟩, hcodec, hname⟩

theorem listingOf_eq_ok_iff (file : Path) {listed : Bool} :
    listingOf host entries = .ok listed
      ↔ (∀ found, valueOf .listDeclarations entries = some found →
          Allows host file .listDeclarations found)
        ∧ listed = ((valueOf .listDeclarations entries).bind truth?).getD true := by
  unfold listingOf
  split
  · rename_i hnone
    simp [hnone, standard, eq_comm]
  · rename_i b htruth
    simp [htruth, Allows, truth?, eq_comm]
  · rename_i found hnotTruth hfound
    simp only [reject, reduceCtorEq, hfound, Option.some.injEq, forall_eq', Allows, false_iff,
      not_and]
    rintro ⟨b, rfl⟩
    exact (hnotTruth b rfl).elim

end Settled

/-! ## §4 The loader -/

section Loaded

variable {host : Host} {file : Path} {value : Yaml.Value} {settings : Settings}

/-- A condition on all sections, said section by section. -/
theorem forall_section {p : SettingsSection → Prop} :
    (∀ part, p part) ↔ p .git ∧ p .schema ∧ p .report := by
  constructor
  · intro h
    exact ⟨h .git, h .schema, h .report⟩
  · rintro ⟨hgit, hschema, hreport⟩ part
    cases part with
    | git => exact hgit
    | schema => exact hschema
    | report => exact hreport

/-- A condition on all settings, said setting by setting. -/
theorem forall_setting {p : Setting → Prop} :
    (∀ setting, p setting)
      ↔ p .executable ∧ p .workingDirectory ∧ p .encoding ∧ p .listDeclarations := by
  constructor
  · intro h
    exact ⟨h .executable, h .workingDirectory, h .encoding, h .listDeclarations⟩
  · rintro ⟨hexecutable, hdirectory, hencoding, hlist⟩ setting
    cases setting with
    | executable => exact hexecutable
    | workingDirectory => exact hdirectory
    | encoding => exact hencoding
    | listDeclarations => exact hlist

theorem isAcceptable_iff :
    IsAcceptable host file value ↔ IsTable value
      ∧ (∀ entry ∈ entriesOf value, isSectionKey entry.1 = true)
      ∧ (∀ (part : SettingsSection) found,
          Yaml.lookup part.name (entriesOf value) = some found → IsTable found)
      ∧ ∀ setting found, given value setting = some found → Allows host file setting found := by
  simp only [isSectionKey_iff]
  constructor
  · rintro ⟨⟨hroot, hknown, hsections⟩, hallowed⟩
    exact ⟨hroot, hknown, hsections, hallowed⟩
  · rintro ⟨hroot, hknown, hsections, hallowed⟩
    exact ⟨⟨hroot, hknown, hsections⟩, hallowed⟩

theorem chooses_iff {path : Option Path} {executable : LooseText} {directory : Path}
    {encoding : String} {listed : Bool} :
    Chooses host file value ⟨path, executable, directory, encoding, listed⟩
      ↔ path = some file ∧ executable = ((given value .executable).bind wording?).getD "git"
        ∧ SetsDirectory host file ((given value .workingDirectory).bind wording?) directory
        ∧ (encoding : LooseText) = ((given value .encoding).bind wording?).getD "utf-8"
        ∧ listed = ((given value .listDeclarations).bind truth?).getD true :=
  ⟨fun h => ⟨h.path, h.executable, h.workingDirectory, h.encoding, h.listDeclarations⟩,
    fun ⟨hpath, hexecutable, hdirectory, hencoding, hlisted⟩ =>
      ⟨hpath, hexecutable, hdirectory, hencoding, hlisted⟩⟩

section Utf8

variable (hutf8 : ∃ codec, host.codecs "utf-8" = some codec)
include hutf8

/-- The loader takes exactly the acceptable values, for the settings that they stand for. -/
theorem ofValue_eq_ok_iff :
    ofValue host file value = .ok settings
      ↔ IsAcceptable host file value ∧ Chooses host file value settings := by
  obtain ⟨path, executable, directory, encoding, listed⟩ := settings
  rw [isAcceptable_iff, forall_section, forall_setting, chooses_iff]
  simp only [ofValue, bind_eq_ok_iff, rootEntries_eq_ok_iff, checkSectionKeys_eq_ok_iff,
    sectionEntries_eq_ok_iff, textOr_says_iff, directoryOf_eq_ok_iff,
    encodingOf_eq_ok_iff hutf8 file, listingOf_eq_ok_iff file]
  constructor
  · rintro ⟨entries, ⟨hroot, rfl⟩, -, hknown, git, ⟨hgit, rfl⟩, executable, ⟨hexecutable, rfl⟩,
      directory, ⟨hdirectory, hset⟩, schema, ⟨hschema, rfl⟩, encoding, ⟨hencoding, hname⟩,
      report, ⟨hreport, rfl⟩, listed, ⟨hlisted, rfl⟩, hsettings⟩
    cases hsettings
    exact ⟨⟨hroot, hknown, ⟨hgit, hschema, hreport⟩, hexecutable, hdirectory, hencoding, hlisted⟩,
      rfl, rfl, hset, hname, rfl⟩
  · rintro ⟨⟨hroot, hknown, ⟨hgit, hschema, hreport⟩, hexecutable, hdirectory, hencoding, hlisted⟩,
      rfl, rfl, hset, hname, rfl⟩
    exact ⟨_, ⟨hroot, rfl⟩, (), hknown, _, ⟨hgit, rfl⟩, _, ⟨hexecutable, rfl⟩,
      _, ⟨hdirectory, hset⟩, _, ⟨hschema, rfl⟩, _, ⟨hencoding, hname⟩,
      _, ⟨hreport, rfl⟩, _, ⟨hlisted, rfl⟩, rfl⟩

/-- A file is loaded exactly if it holds an acceptable value. -/
theorem load_eq_ok_iff {text : LooseText} :
    load host (some text) = .ok settings
      ↔ ∃ value, HoldsValue host (.ofText text) value
        ∧ IsAcceptable host (.ofText text) value ∧ Chooses host (.ofText text) value settings := by
  have hnotRejected (found : Yaml.Value) (reason : SettingsRejection) :
      (.ok found : Loaded Yaml.Value) ≠ reject reason := by simp [reject]
  have hvalue (found : Yaml.Value) :
      valueOfFile host (.ofText text) = .ok found ↔ HoldsValue host (.ofText text) found := by
    simp [valueOfFile_eq_iff (hnotRejected found), HoldsValue, valueOfText_eq_ok_iff, breakOff]
  simp only [load, bind_eq_ok_iff, hvalue, ofValue_eq_ok_iff hutf8]

end Utf8

end Loaded

/-! ## §5 Other ways to write a file -/

/-- Other ways to write the section with a key: null for no settings, a key that is none of its
settings, or another order of different keys. -/
inductive SectionRewording (key : Yaml.Value) : Yaml.Value → Yaml.Value → Prop where
  | empty : SectionRewording key .null (.mapping [])
  | unknown (before after : Entries) (extra value : Yaml.Value)
      (h : ∀ setting : Setting, key.isText setting.home.name = true →
        extra.isText setting.key = false) :
      SectionRewording key (.mapping (before ++ (extra, value) :: after))
        (.mapping (before ++ after))
  | order {entries entries' : Entries} (hperm : entries.Perm entries')
      (hdistinct : Yaml.KeysDistinct entries) :
      SectionRewording key (.mapping entries) (.mapping entries')

/-- Other ways to write a file: null for no sections, no section for one that is null, another order
of different sections, or a section written in another way. -/
inductive Rewording : Yaml.Value → Yaml.Value → Prop where
  | empty : Rewording .null (.mapping [])
  | missing (before after : Entries) (part : SettingsSection)
      (h : ∀ entry ∈ before, entry.1.isText part.name = false) :
      Rewording (.mapping (before ++ (.text part.name, .null) :: after))
        (.mapping (before ++ after))
  | order {entries entries' : Entries} (hperm : entries.Perm entries')
      (hdistinct : Yaml.KeysDistinct entries) :
      Rewording (.mapping entries) (.mapping entries')
  | inside (before after : Entries) (key : Yaml.Value) {inner inner' : Yaml.Value}
      (h : SectionRewording key inner inner') :
      Rewording (.mapping (before ++ (key, inner) :: after))
        (.mapping (before ++ (key, inner') :: after))

/-- Two values of files that say the same. -/
structure SaysSame (value value' : Yaml.Value) : Prop where
  shaped : IsShaped value ↔ IsShaped value'
  given : ∀ setting, given value setting = given value' setting

theorem SectionRewording.isTable {key inner inner' : Yaml.Value}
    (h : SectionRewording key inner inner') : IsTable inner ∧ IsTable inner' := by
  cases h with
  | empty => exact ⟨.null, .mapping _⟩
  | unknown | order => exact ⟨.mapping _, .mapping _⟩

theorem SectionRewording.lookup {key inner inner' : Yaml.Value}
    (h : SectionRewording key inner inner') (setting : Setting)
    (hkey : key.isText setting.home.name = true) :
    Yaml.lookup setting.key (entriesOf inner) = Yaml.lookup setting.key (entriesOf inner') := by
  cases h with
  | empty => rfl
  | unknown before after extra value hextra =>
    simp [entriesOf, Yaml.lookup_append, Yaml.lookup_cons, hextra setting hkey]
  | order hperm hdistinct => exact Yaml.lookup_perm hperm hdistinct setting.key

section Replaced

variable {before after : Entries} {key inner inner' : Yaml.Value}

theorem lookup_replaced (name : String) :
    Yaml.lookup name (before ++ (key, inner) :: after)
      = (Yaml.lookup name after).or
        ((if key.isText name then some inner else none).or (Yaml.lookup name before)) := by
  rw [Yaml.lookup_append, Yaml.lookup_cons, Option.or_assoc]

theorem isShaped_replaced (htable : IsTable inner')
    (h : IsShaped (.mapping (before ++ (key, inner) :: after))) :
    IsShaped (.mapping (before ++ (key, inner') :: after)) := by
  refine ⟨.mapping _, ?_, ?_⟩
  · intro entry hentry
    -- the keys are the same
    have hkeys : entry.1 ∈ (before ++ (key, inner) :: after).map Prod.fst := by
      have hmem := List.mem_map_of_mem (f := Prod.fst) hentry
      simpa [entriesOf] using hmem
    obtain ⟨other, hother, hsame⟩ := List.mem_map.mp hkeys
    rw [← hsame]
    exact h.known other hother
  · intro part found hfound
    have hold := h.sections part
    simp only [entriesOf, lookup_replaced] at hfound hold
    cases hlater : Yaml.lookup part.name after with
    | some later =>
      rw [hlater] at hfound hold
      exact hold found hfound
    | none =>
      rw [hlater] at hfound hold
      cases hkey : key.isText part.name with
      | true =>
        simp only [hkey, if_true, Option.none_or, Option.some_or, Option.some.injEq] at hfound
        exact hfound ▸ htable
      | false =>
        simp only [hkey] at hfound hold
        exact hold found hfound

/-- A section written in another way says the same. -/
theorem saysSame_inside (h : SectionRewording key inner inner') :
    SaysSame (.mapping (before ++ (key, inner) :: after))
      (.mapping (before ++ (key, inner') :: after)) where
  shaped := ⟨isShaped_replaced h.isTable.2, isShaped_replaced h.isTable.1⟩
  given := by
    intro setting
    simp only [given, entriesOf, lookup_replaced]
    cases Yaml.lookup setting.home.name after with
    | some later => rfl
    | none =>
      cases hkey : key.isText setting.home.name with
      | true => exact h.lookup setting hkey
      | false => rfl

/-- A section that is null is found only where no other section of its name is. -/
theorem lookup_missing {part : SettingsSection}
    (h : ∀ entry ∈ before, entry.1.isText part.name = false) (name : String) :
    Yaml.lookup name (before ++ (.text part.name, .null) :: after)
      = (Yaml.lookup name (before ++ after)).or
        (if (Yaml.Value.text part.name).isText name then some .null else none) := by
  rw [lookup_replaced, Yaml.lookup_append, Option.or_assoc]
  congr 1
  cases hname : (Yaml.Value.text part.name).isText name with
  | false => simp
  | true =>
    have hpart : part.name = name := by
      rw [Yaml.Value.isText_iff, Yaml.Value.text.injEq] at hname
      exact LooseText.ofString_injective hname
    rw [← hpart, Yaml.lookup_eq_none h]
    rfl

/-- A section that is null says as much as none. -/
theorem saysSame_missing {part : SettingsSection}
    (h : ∀ entry ∈ before, entry.1.isText part.name = false) :
    SaysSame (.mapping (before ++ (.text part.name, .null) :: after))
      (.mapping (before ++ after)) := by
  refine ⟨⟨fun hshaped => ⟨.mapping _, ?_, ?_⟩, fun hshaped => ⟨.mapping _, ?_, ?_⟩⟩, ?_⟩
  · intro entry hentry
    refine hshaped.known entry ?_
    simp only [entriesOf, List.mem_append, List.mem_cons] at hentry ⊢
    tauto
  · intro other found hfound
    refine hshaped.sections other found ?_
    simp only [entriesOf] at hfound ⊢
    rw [lookup_missing h, hfound]
    rfl
  · intro entry hentry
    simp only [entriesOf, List.mem_append, List.mem_cons] at hentry
    rcases hentry with hentry | rfl | hentry
    · exact hshaped.known entry (List.mem_append_left _ hentry)
    · exact ⟨part, rfl⟩
    · exact hshaped.known entry (List.mem_append_right _ hentry)
  · intro other found hfound
    simp only [entriesOf, lookup_missing h] at hfound
    rcases Option.or_eq_some_iff.mp hfound with hrest | ⟨-, hnull⟩
    · exact hshaped.sections other found hrest
    · split at hnull
      · cases hnull
        exact .null
      · cases hnull
  · intro setting
    simp only [given, entriesOf, lookup_missing h]
    cases Yaml.lookup setting.home.name (before ++ after) with
    | some found => rfl
    | none => cases (Yaml.Value.text part.name).isText setting.home.name <;> rfl

end Replaced

/-- Another order of different sections says the same. -/
theorem saysSame_order {entries entries' : Entries} (hperm : entries.Perm entries')
    (hdistinct : Yaml.KeysDistinct entries) :
    SaysSame (.mapping entries) (.mapping entries') := by
  have hlookup := Yaml.lookup_perm hperm hdistinct
  refine ⟨⟨fun h => ⟨.mapping _, ?_, ?_⟩, fun h => ⟨.mapping _, ?_, ?_⟩⟩, fun setting => ?_⟩
  · exact fun entry hentry => h.known entry (hperm.mem_iff.mpr hentry)
  · exact fun part found hfound => h.sections part found (by rw [← hfound]; exact hlookup _)
  · exact fun entry hentry => h.known entry (hperm.mem_iff.mp hentry)
  · exact fun part found hfound => h.sections part found (by rw [← hfound]; exact (hlookup _).symm)
  · simp only [given, entriesOf, hlookup]

theorem Rewording.saysSame {value value' : Yaml.Value} (h : Rewording value value') :
    SaysSame value value' := by
  cases h with
  | empty =>
    refine ⟨⟨fun h => ⟨.mapping _, ?_, ?_⟩, fun h => ⟨.null, ?_, ?_⟩⟩, fun setting => rfl⟩
    · exact h.known
    · exact h.sections
    · exact h.known
    · exact h.sections
  | missing before after part hnew => exact saysSame_missing hnew
  | order hperm hdistinct => exact saysSame_order hperm hdistinct
  | inside before after key hinside => exact saysSame_inside hinside

/-- However often a file is written in another way, it says the same. -/
theorem saysSame_of_eqvGen {value value' : Yaml.Value}
    (h : Relation.EqvGen Rewording value value') : SaysSame value value' := by
  induction h with
  | rel _ _ hstep => exact hstep.saysSame
  | refl _ => exact ⟨Iff.rfl, fun _ => rfl⟩
  | symm _ _ _ ih => exact ⟨ih.shaped.symm, fun setting => (ih.given setting).symm⟩
  | trans _ _ _ _ _ ihfirst ihsecond =>
    exact ⟨ihfirst.shaped.trans ihsecond.shaped,
      fun setting => (ihfirst.given setting).trans (ihsecond.given setting)⟩

theorem SaysSame.isAcceptable_iff {host : Host} {file : Path} {value value' : Yaml.Value}
    (h : SaysSame value value') :
    IsAcceptable host file value ↔ IsAcceptable host file value' := by
  constructor
  · rintro ⟨hshaped, hallowed⟩
    exact ⟨h.shaped.mp hshaped, fun setting found hfound =>
      hallowed setting found (by rw [h.given, hfound])⟩
  · rintro ⟨hshaped, hallowed⟩
    exact ⟨h.shaped.mpr hshaped, fun setting found hfound =>
      hallowed setting found (by rw [← h.given, hfound])⟩

theorem SaysSame.chooses_iff {host : Host} {file : Path} {value value' : Yaml.Value}
    {settings : Settings} (h : SaysSame value value') :
    Chooses host file value settings ↔ Chooses host file value' settings := by
  rw [Settings.chooses_iff, Settings.chooses_iff, h.given, h.given, h.given, h.given]

/-! ## §6 Accepted files -/

/-- Two runs have the same setting. -/
def Agree (setting : Setting) (settings settings' : Settings) : Prop :=
  match setting with
  | .executable => settings.executable = settings'.executable
  | .workingDirectory => settings.workingDirectory = settings'.workingDirectory
  | .encoding => settings.encoding = settings'.encoding
  | .listDeclarations => settings.listDeclarations = settings'.listDeclarations

theorem SetsDirectory.unique {host : Host} {file : Path} {text : Option LooseText}
    {directory directory' : Path} (h : SetsDirectory host file text directory)
    (h' : SetsDirectory host file text directory') : directory = directory' := by
  cases text with
  | none => exact Eq.trans h (Eq.symm h')
  | some text => exact StandsFor.unique h h'

/-- Settings that are chosen for the same given value are the same, whatever else a file says. -/
theorem agree_of_given {host : Host} {file : Path} {value value' : Yaml.Value}
    {settings settings' : Settings} {setting : Setting} (h : Chooses host file value settings)
    (h' : Chooses host file value' settings')
    (hgiven : given value setting = given value' setting) : Agree setting settings settings' := by
  cases setting with
  | executable => exact h.executable.trans (hgiven ▸ h'.executable.symm)
  | workingDirectory =>
    have hdirectory := h.workingDirectory
    rw [hgiven] at hdirectory
    exact hdirectory.unique h'.workingDirectory
  | encoding =>
    have hencoding := h.encoding
    rw [hgiven, ← h'.encoding] at hencoding
    exact LooseText.ofString_injective hencoding
  | listDeclarations => exact h.listDeclarations.trans (hgiven ▸ h'.listDeclarations.symm)

/-- **Which settings files are accepted.** Whatever files and links there are, on a machine that
knows UTF-8 under its name a file is loaded exactly if its value is a table of known sections, these
are tables, and each setting is missing or has a value that it can have; its settings are then the
ones that the value stands for. Written in another way a file is loaded as before. And a setting
depends on its own value only: two files that give it the same value give it the same meaning,
whatever they say about the others. -/
theorem accepted_settings_exact (host : Host) (path : LooseText)
    (hutf8 : ∃ codec, host.codecs "utf-8" = some codec) :
    (∀ settings, load host (some path) = .ok settings
      ↔ ∃ value, HoldsValue host (.ofText path) value
        ∧ IsAcceptable host (.ofText path) value ∧ Chooses host (.ofText path) value settings)
    ∧ (∀ value value', Relation.EqvGen Rewording value value' → ∀ settings,
        ofValue host (.ofText path) value = .ok settings
          ↔ ofValue host (.ofText path) value' = .ok settings)
    ∧ ∀ value value' settings settings', ofValue host (.ofText path) value = .ok settings →
        ofValue host (.ofText path) value' = .ok settings' →
        ∀ setting, given value setting = given value' setting →
          Agree setting settings settings' := by
  refine ⟨fun settings => load_eq_ok_iff hutf8, ?_, ?_⟩
  · intro value value' hrewording settings
    have hsame := saysSame_of_eqvGen hrewording
    rw [ofValue_eq_ok_iff hutf8, ofValue_eq_ok_iff hutf8, hsame.isAcceptable_iff,
      hsame.chooses_iff]
  · intro value value' settings settings' hvalue hvalue' setting hgiven
    obtain ⟨-, hchooses⟩ := (ofValue_eq_ok_iff hutf8).mp hvalue
    obtain ⟨-, hchooses'⟩ := (ofValue_eq_ok_iff hutf8).mp hvalue'
    exact agree_of_given hchooses hchooses' hgiven

/-- A file with a key that is no setting and a section without a value is loaded, and so it is
without both; with a report that lists nothing, the command is the same. -/
theorem shortened_file_is_loaded_alike :
    let host := hostWith "git: \x7bexecutable: ' tool ', note: x\x7d\nschema:\n"
    let git : Entries := [(.text "executable", .text " tool ")]
    let long : Yaml.Value := .mapping
      [(.text "git", .mapping [(.text "executable", .text " tool "), (.text "note", .text "x")]),
        (.text "schema", .null)]
    let short : Yaml.Value := .mapping [(.text "git", .mapping git)]
    let silent : Yaml.Value := .mapping
      [(.text "git", .mapping git),
        (.text "report", .mapping [(.text "list_declarations", .bool false)])]
    let settings : Settings :=
      ⟨some (.ofText "c.yaml"), "tool", .absolute ["work"], "utf-8", true⟩
    load host (some "c.yaml") = .ok settings
      ∧ (∃ value, HoldsValue host (.ofText "c.yaml") value
        ∧ IsAcceptable host (.ofText "c.yaml") value)
      ∧ ofValue host (.ofText "c.yaml") long = .ok settings
      ∧ ofValue host (.ofText "c.yaml") short = .ok settings
      ∧ ∃ settings', ofValue host (.ofText "c.yaml") silent = .ok settings'
        ∧ Agree .executable settings settings' := by
  intro host git long short silent settings
  have hutf8 : ∃ codec, host.codecs "utf-8" = some codec := ⟨_, Text.Codecs.standard_isLawful.utf8⟩
  obtain ⟨hloads, hreworded, hagree⟩ := accepted_settings_exact host "c.yaml" hutf8
  have hload : load host (some "c.yaml") = .ok settings := by decide +kernel
  have hlong : ofValue host (.ofText "c.yaml") long = .ok settings := by decide +kernel
  have hnote :
      Rewording long (.mapping [(.text "git", .mapping git), (.text "schema", .null)]) := by
    refine .inside [] [(.text "schema", .null)] (.text "git")
      (.unknown git [] (.text "note") (.text "x") ?_)
    intro setting _
    cases setting <;> rfl
  have hsection : Rewording (.mapping [(.text "git", .mapping git), (.text "schema", .null)])
      short := by
    have hother : (Yaml.Value.text "git").isText SettingsSection.schema.name = false := by decide
    exact .missing [(.text "git", .mapping git)] [] .schema (List.forall_mem_singleton.mpr hother)
  have hsteps : Relation.EqvGen Rewording long short :=
    .trans _ _ _ (.rel _ _ hnote) (.rel _ _ hsection)
  have hshort := (hreworded long short hsteps settings).mp hlong
  obtain ⟨value, hvalue, hacceptable, -⟩ := (hloads settings).mp hload
  have hsilent : ofValue host (.ofText "c.yaml") silent
      = .ok ⟨some (.ofText "c.yaml"), "tool", .absolute ["work"], "utf-8", false⟩ := by
    decide +kernel
  exact ⟨hload, ⟨value, hvalue, hacceptable⟩, hlong, hshort, _, hsilent,
    hagree short silent settings _ hshort hsilent .executable rfl⟩

end Settings

end SchemaSemver
