/-
SchemaSemver.Proofs.Check.Stages — a check is decided by its first failing stage.

Several things can be wrong with one check at the same time: the store, either schema, either
marker. `CheckRequest.halts` lists for each stage, on its own and without regard to the others, what
would halt a check there, and `firstHalt` takes the first. `check_decided_by_stages` says that this
is what happens: for any probe and any reader, the check fails with the code, message and details
of that stage, or, if there is none, completes with the verdict that the four files call for. The
reader is asked for the four files, once each, if the store is available, and for nothing otherwise.

One kind of marker halts a check without a code: where an integer of more than 4300 digits stands in
it, the check breaks off. `long_marker_is_not_reported` is a check with such a marker.

The rule behind the proof is `decided_bind`: what comes first decides if it halts, and hands on
what it found if it does not.
-/
import SchemaSemver.Check.Run
import SchemaSemver.Proofs.Introspection.Rejection
import SchemaSemver.Proofs.Version.Format

namespace SchemaSemver

/-! ## §1 Halts -/

/-- How a check ends that is not completed: the code, the message, and the lines below it. -/
structure Stop where
  code : Nat
  message : String
  details : List String
deriving DecidableEq, Repr

/-- The stop that a failure leads to. -/
def CheckFailure.stop (failure : CheckFailure) : Stop :=
  ⟨failure.status.code, failure.message, failure.details⟩

/-- No stop has a code that stands for a verdict. -/
theorem CheckFailure.two_le_code_stop (failure : CheckFailure) : 2 ≤ failure.stop.code := by
  cases failure with
  | schemaUnreadable side _ _ => cases side <;> simp [stop, status, ExitStatus.code]
  | unsupported _ first _ =>
    obtain ⟨category, owner, kind⟩ := first
    cases category <;> simp [stop, status, ExitStatus.code]
  | _ => simp [stop, status, ExitStatus.code]

/-- How a check ends early: with a stop, or by breaking off. -/
inductive Halt where
  | fails (stop : Stop)
  | breaks (cause : CheckBreak)
deriving DecidableEq, Repr

/-- The halt that a fault leads to. -/
def CheckFault.halt : CheckFault → Halt
  | failed failure => .fails failure.stop
  | broken cause => .breaks cause

theorem CheckFault.halt_eq_breaks_iff {fault : CheckFault} {cause : CheckBreak} :
    fault.halt = .breaks cause ↔ fault = .broken cause := by
  cases fault <;> simp [halt]

/-- What a probe halts. -/
def probeHalt? : Probe → Option Halt
  | .ok .available => none
  | .ok .toolMissing => some (.fails ⟨5, "You need git for this to work.", []⟩)
  | .ok .notAStore => some (.fails ⟨6, "You need to be inside a git repository.", []⟩)
  | .ok .unknownError => some (.fails ⟨7, "Unexpected git error.", []⟩)
  | .error message => some (.fails ⟨8, message, []⟩)

/-- The code for a schema that cannot be read. -/
def unreadableCode : Side → Nat
  | .base => 2
  | .head => 3

/-- A schema halts a check unless it was found with a text. -/
def schemaHalt? (side : Side) (read : RevisionRead) : Option Halt :=
  match read.text? with
  | some _ => none
  | none =>
    some (.fails ⟨unreadableCode side, "Unable to retrieve \"" ++ read.location ++ "\" file.",
      read.detail?.toList⟩)

/-- A marker halts a check if it was found with a text that is no marker. The check fails unless
the text is not judged. -/
def markerHalt? (read : RevisionRead) : Option Halt :=
  match read.text? with
  | none => none
  | some text =>
    match SemVer.parseMarker text with
    | .ok _ => none
    | .error (.rejected fault) =>
      some (.fails
        ⟨9, "Invalid version marker \"" ++ read.location ++ "\": " ++ fault.message, []⟩)
    | .error .longInteger => some (.breaks (.marker read.location))

/-- The code for a schema whose first unsupported construct is of a category. -/
def unsupportedCode : UnsupportedCategory → Nat
  | .type => 5
  | .fieldType => 6

/-- A schema text halts a check if it is rejected, or if a construct in it is unsupported. -/
def extractionHalt? (side : Side) (text : String) : Option Halt :=
  match extractText text with
  | .error fault => some (.fails ⟨10, side.label ++ " schema: " ++ fault.message, []⟩)
  | .ok extraction =>
    extraction.unsupported.head?.map fun first =>
      .fails ⟨unsupportedCode first.category, side.label ++ " schema: " ++ first.describe,
        extraction.unsupported.map Unsupported.describe⟩

/-- What halts the comparison of two schemas; equal texts are not looked at. -/
def comparisonHalts (base head : RevisionRead) : List (Option Halt) :=
  if base.text? = head.text? then []
  else [base.text?.bind (extractionHalt? .base), head.text?.bind (extractionHalt? .head)]

/-- What each stage of a check would halt, in the order of the stages. -/
def CheckRequest.halts (request : CheckRequest) (probe : Probe) (reader : Reader) :
    List (Option Halt) :=
  [probeHalt? probe,
    schemaHalt? .base (reader request.baseRef request.schemaFile),
    schemaHalt? .head (reader request.headRef request.schemaFile),
    markerHalt? (reader request.baseRef request.markerFile),
    markerHalt? (reader request.headRef request.markerFile)]
  ++ comparisonHalts (reader request.baseRef request.schemaFile)
    (reader request.headRef request.schemaFile)

/-- The first of some halts. -/
def firstHalt (halts : List (Option Halt)) : Option Halt := halts.findSome? id

theorem probeHalt?_ne_breaks (probe : Probe) (cause : CheckBreak) :
    probeHalt? probe ≠ some (.breaks cause) := by
  rcases probe with message | availability
  · simp [probeHalt?]
  · cases availability <;> simp [probeHalt?]

theorem schemaHalt?_ne_breaks (side : Side) (read : RevisionRead) (cause : CheckBreak) :
    schemaHalt? side read ≠ some (.breaks cause) := by
  unfold schemaHalt?
  split <;> simp

theorem markerHalt?_eq_breaks_iff {read : RevisionRead} {cause : CheckBreak} :
    markerHalt? read = some (.breaks cause)
      ↔ ∃ text, read.text? = some text ∧ SemVer.parseMarker text = .error .longInteger
        ∧ cause = .marker read.location := by
  unfold markerHalt?
  cases read.text? with
  | none => simp
  | some text =>
    rcases hparse : SemVer.parseMarker text with (fault | _) | version
    · simp [hparse]
    · simp [hparse, eq_comm]
    · simp [hparse]

theorem extractionHalt?_ne_breaks (side : Side) (text : String) (cause : CheckBreak) :
    extractionHalt? side text ≠ some (.breaks cause) := by
  unfold extractionHalt?
  split <;> simp

theorem comparisonHalts_ne_breaks {base head : RevisionRead} {halt : Option Halt}
    (h : halt ∈ comparisonHalts base head) (cause : CheckBreak) : halt ≠ some (.breaks cause) := by
  unfold comparisonHalts at h
  split at h
  · cases h
  · have hextraction (side : Side) (text : Option String) :
        text.bind (extractionHalt? side) ≠ some (.breaks cause) := by
      cases text with
      | none => simp
      | some text => exact extractionHalt?_ne_breaks side text cause
    simp only [List.mem_cons, List.not_mem_nil, or_false] at h
    rcases h with rfl | rfl <;> exact hextraction _ _

/-- A check breaks off only at one of the two markers. -/
theorem exists_marker_of_breaks {request : CheckRequest} {probe : Probe} {reader : Reader}
    {cause : CheckBreak} (h : firstHalt (request.halts probe reader) = some (.breaks cause)) :
    ∃ ref, (ref = request.baseRef ∨ ref = request.headRef)
      ∧ markerHalt? (reader ref request.markerFile) = some (.breaks cause) := by
  obtain ⟨halt, hhalt, rfl⟩ := List.exists_of_findSome?_eq_some h
  rw [CheckRequest.halts, List.mem_append] at hhalt
  rcases hhalt with hhalt | hhalt
  · simp only [List.mem_cons, List.not_mem_nil, or_false] at hhalt
    rcases hhalt with hprobe | hbase | hhead | hbase | hhead
    · exact absurd hprobe.symm (probeHalt?_ne_breaks _ _)
    · exact absurd hbase.symm (schemaHalt?_ne_breaks _ _ _)
    · exact absurd hhead.symm (schemaHalt?_ne_breaks _ _ _)
    · exact ⟨_, .inl rfl, hbase.symm⟩
    · exact ⟨_, .inr rfl, hhead.symm⟩
  · exact absurd rfl (comparisonHalts_ne_breaks hhalt cause)

/-! ## §2 Verdicts -/

/-- The version that a marker file stands for: 0.0.0 if there is no text. -/
def RevisionRead.Marks (read : RevisionRead) (version : SemVer) : Prop :=
  match read.text? with
  | none => version = ⟨0, 0, 0⟩
  | some text => SemVer.parseMarker text = .ok version

/-- The outcome compares two complete extractions. -/
def ComparesComplete (base head : String) (outcome : Outcome) : Prop :=
  ∃ before after : Extraction,
    extractText base = .ok before ∧ before.unsupported = []
    ∧ extractText head = .ok after ∧ after.unsupported = []
    ∧ outcome = compareDeclarations before.declarations after.declarations

/-- The verdict that two schema texts and two markers call for. -/
structure Verdict.IsOn (verdict : Verdict) (base head : String)
    (baseMarker headMarker : RevisionRead) : Prop where
  baseVersion : baseMarker.Marks verdict.baseVersion
  headVersion : headMarker.Marks verdict.headVersion
  changed : verdict.change = none ↔ base = head
  change : ∀ outcome, verdict.change = some outcome → ComparesComplete base head outcome
  expected : verdict.expectedVersion
    = verdict.baseVersion.expectedAfter (verdict.change.map Outcome.bump)
  code : verdict.status.code = if verdict.headVersion = verdict.expectedVersion then 0 else 1

/-! ## §3 Results decided by halts -/

/-- The result ends the way the halt says; without a halt it has a value with the property. -/
def Decided {α : Type} (result : Except CheckFault α) (halt : Option Halt) (holds : α → Prop) :
    Prop :=
  match halt with
  | some halt => ∃ fault, result = .error fault ∧ fault.halt = halt
  | none => ∃ value, result = .ok value ∧ holds value

section Decisions

variable {α β : Type} {holds : α → Prop} {holds' : β → Prop}

theorem decided_ok {value : α} (h : holds value) : Decided (.ok value) (firstHalt []) holds :=
  ⟨value, rfl, h⟩

theorem decided_bind {result : Except CheckFault α} {next : α → Except CheckFault β}
    {halt : Option Halt} {halts : List (Option Halt)} (h : Decided result halt holds)
    (hnext : ∀ value, holds value → Decided (next value) (firstHalt halts) holds') :
    Decided (result >>= next) (firstHalt (halt :: halts)) holds' := by
  cases halt with
  | some halt =>
    obtain ⟨fault, rfl, hhalt⟩ := h
    exact ⟨fault, rfl, hhalt⟩
  | none =>
    obtain ⟨value, rfl, hvalue⟩ := h
    exact hnext value hvalue

theorem decided_map {result : Except CheckFault α} {halt : Option Halt} {f : α → β}
    (h : Decided result halt holds) (hf : ∀ value, holds value → holds' (f value)) :
    Decided (do return f (← result)) halt holds' := by
  cases halt with
  | some halt =>
    obtain ⟨fault, rfl, hhalt⟩ := h
    exact ⟨fault, rfl, hhalt⟩
  | none =>
    obtain ⟨value, rfl, hvalue⟩ := h
    exact ⟨f value, rfl, hf value hvalue⟩

end Decisions

theorem decided_requireStore (probe : Probe) :
    Decided (requireStore probe) (probeHalt? probe) fun _ => True := by
  rcases probe with message | availability
  · exact ⟨_, rfl, rfl⟩
  · cases availability <;> exact ⟨_, rfl, by trivial⟩

theorem decided_requireSchema (side : Side) (read : RevisionRead) :
    Decided (requireSchema side read) (schemaHalt? side read)
      fun text => read.text? = some text := by
  unfold requireSchema schemaHalt?
  cases htext : read.text? with
  | some text => exact ⟨text, rfl, rfl⟩
  | none =>
    cases side
    · exact ⟨_, rfl, rfl⟩
    · exact ⟨_, rfl, rfl⟩

theorem decided_versionOfMarker (read : RevisionRead) :
    Decided (versionOfMarker read).result (markerHalt? read) read.Marks := by
  unfold versionOfMarker markerHalt? RevisionRead.Marks
  cases htext : read.text? with
  | none => exact ⟨_, rfl, rfl⟩
  | some text =>
    simp only [Logged.ofResult, versionOfText]
    rcases SemVer.parseMarker text with (fault | _) | version
    · exact ⟨_, rfl, rfl⟩
    · exact ⟨_, rfl, rfl⟩
    · exact ⟨version, rfl, rfl⟩

theorem decided_requireComplete (side : Side) (text : String) :
    Decided (requireComplete side (extractText text)) (extractionHalt? side text)
      fun declarations => ∃ extraction, extractText text = .ok extraction
        ∧ extraction.unsupported = [] ∧ declarations = extraction.declarations := by
  unfold extractionHalt?
  cases hextract : extractText text with
  | error fault => exact ⟨_, rfl, rfl⟩
  | ok extraction =>
    unfold requireComplete
    dsimp only
    cases hunsupported : extraction.unsupported with
    | nil => exact ⟨_, rfl, extraction, rfl, hunsupported, rfl⟩
    | cons first rest =>
      have hcode : (CheckFailure.unsupported side first rest).status.code
          = unsupportedCode first.category := by
        obtain ⟨category, owner, kind⟩ := first
        cases category <;> rfl
      refine ⟨_, rfl, ?_⟩
      rw [CheckFault.halt, CheckFailure.stop, hcode]
      rfl

/-! ## §4 The stages of a check -/

theorem decided_compareTexts (base head : String) :
    Decided (compareTexts base head).result
      (firstHalt [extractionHalt? .base base, extractionHalt? .head head])
      (ComparesComplete base head) := by
  unfold compareTexts compareExtractions
  simp only [Logged.result_bind, Logged.ofResult, Logged.tell, Logged.result_pure]
  refine decided_bind (decided_requireComplete .base base) ?_
  rintro before ⟨earlier, hearlier, hbefore, rfl⟩
  refine decided_bind (decided_requireComplete .head head) ?_
  rintro after ⟨later, hlater, hafter, rfl⟩
  exact decided_ok ⟨earlier, later, hearlier, hbefore, hlater, hafter, rfl⟩

/-- What is found between two texts: nothing if they are equal, else a comparison. -/
def IsChange (base head : String) (change : Option Outcome) : Prop :=
  (change = none ↔ base = head)
    ∧ ∀ outcome, change = some outcome → ComparesComplete base head outcome

theorem decided_changeBetween {base head : String} {baseRead headRead : RevisionRead}
    (hbase : baseRead.text? = some base) (hhead : headRead.text? = some head) :
    Decided (changeBetween base head).result (firstHalt (comparisonHalts baseRead headRead))
      (IsChange base head) := by
  unfold changeBetween comparisonHalts
  rw [hbase, hhead]
  by_cases hsame : base = head
  · subst hsame
    simp only [if_true]
    exact decided_ok ⟨by simp, fun outcome h => by cases h⟩
  · rw [if_neg hsame, if_neg (fun h => hsame (Option.some.inj h))]
    simp only [Option.bind_some, Logged.result_bind, Logged.result_pure]
    refine decided_map (decided_compareTexts base head) fun outcome hcomplete => ?_
    refine ⟨by simp [hsame], ?_⟩
    rintro found ⟨⟩
    exact hcomplete

theorem isOn_of {base head : String} {baseMarker headMarker : RevisionRead}
    {baseVersion headVersion : SemVer} {change : Option Outcome}
    (hbase : baseMarker.Marks baseVersion) (hhead : headMarker.Marks headVersion)
    (hchange : IsChange base head change) :
    (Verdict.of baseVersion headVersion change).IsOn base head baseMarker headMarker where
  baseVersion := hbase
  headVersion := hhead
  changed := hchange.1
  change := hchange.2
  expected := rfl
  code := by
    unfold Verdict.of
    by_cases h : headVersion = baseVersion.expectedAfter (change.map Outcome.bump)
    · simp [h, ExitStatus.code]
    · simp [h, ExitStatus.code]

namespace CheckRequest

variable (request : CheckRequest) (probe : Probe) (reader : Reader)

/-- The files of a check, each with its revision: both schemas, then both markers. -/
def files : List (String × String) :=
  [(request.baseRef, request.schemaFile), (request.headRef, request.schemaFile),
    (request.baseRef, request.markerFile), (request.headRef, request.markerFile)]

/-- The verdict is on what the reader answers for the files. -/
def Judges (verdict : Verdict) : Prop :=
  ∃ base head : String,
    (reader request.baseRef request.schemaFile).text? = some base
    ∧ (reader request.headRef request.schemaFile).text? = some head
    ∧ verdict.IsOn base head (reader request.baseRef request.markerFile)
        (reader request.headRef request.markerFile)

/-- The result of a check, stage by stage. -/
theorem result_check :
    (request.check probe reader).result = (do
      requireStore probe
      let base ← requireSchema .base (reader request.baseRef request.schemaFile)
      let head ← requireSchema .head (reader request.headRef request.schemaFile)
      let baseVersion ← (versionOfMarker (reader request.baseRef request.markerFile)).result
      let headVersion ← (versionOfMarker (reader request.headRef request.markerFile)).result
      let change ← (changeBetween base head).result
      return Verdict.of baseVersion headVersion change) := by
  simp only [check, checkFrail, examine, readArtifacts, Logged.result_bind, Logged.ofResult,
    Logged.ask, requireAnswer, Logged.tell, Logged.result_pure]
  rfl

theorem decided_check :
    Decided (request.check probe reader).result (firstHalt (request.halts probe reader))
      (request.Judges reader) := by
  rw [result_check]
  unfold halts
  refine decided_bind (decided_requireStore probe) fun _ _ => ?_
  refine decided_bind (decided_requireSchema .base _) fun base hbase => ?_
  refine decided_bind (decided_requireSchema .head _) fun head hhead => ?_
  refine decided_bind (decided_versionOfMarker _) fun baseVersion hbaseVersion => ?_
  refine decided_bind (decided_versionOfMarker _) fun headVersion hheadVersion => ?_
  exact decided_map (decided_changeBetween hbase hhead) fun change hchange =>
    ⟨base, head, hbase, hhead, isOn_of hbaseVersion hheadVersion hchange⟩

/-! ## §5 What is read -/

theorem reads_bind_nil {α β : Type} {first : Logged α} {next : α → Logged β}
    (h : first.reads = []) (hnext : ∀ value, (next value).reads = []) :
    (first >>= next).reads = [] := by
  show (Logged.andThen first next).reads = []
  unfold Logged.andThen
  split
  · simp [h, hnext]
  · exact h

theorem reads_versionOfMarker (read : RevisionRead) : (versionOfMarker read).reads = [] := by
  unfold versionOfMarker
  split
  · rfl
  · exact reads_bind_nil rfl fun _ => rfl

theorem reads_changeBetween (base head : String) : (changeBetween base head).reads = [] := by
  unfold changeBetween
  split
  · rfl
  · refine reads_bind_nil ?_ fun _ => rfl
    refine reads_bind_nil rfl fun before => ?_
    refine reads_bind_nil rfl fun after => ?_
    exact reads_bind_nil rfl fun _ => rfl

theorem reads_examine (artifacts : Artifacts) : (request.examine artifacts).reads = [] := by
  refine reads_bind_nil rfl fun base => ?_
  refine reads_bind_nil rfl fun head => ?_
  refine reads_bind_nil (reads_versionOfMarker _) fun baseVersion => ?_
  refine reads_bind_nil (reads_versionOfMarker _) fun headVersion => ?_
  refine reads_bind_nil (reads_changeBetween base head) fun change => ?_
  exact reads_bind_nil rfl fun _ => rfl

/-- The files that are read after a probe: all of them if the store is available, else none. -/
def filesAfter : Probe → List (String × String)
  | .ok .available => request.files
  | _ => []

theorem reads_check : (request.check probe reader).reads = request.filesAfter probe := by
  rcases probe with message | availability
  · rfl
  · cases availability with
    | available =>
      show request.files ++ (request.examine _).reads = request.files
      rw [reads_examine, List.append_nil]
    | _ => rfl

end CheckRequest

/-- **A check is decided by its first failing stage.** Whatever the probe says and the reader
answers, the check halts at the first stage that halts it: it fails with the code, message and
details of this stage, or breaks off if this is a marker with an integer of too many digits. If
there is no such stage, it completes with the verdict on the files. All four files are read if the
store is available, and none otherwise. And what counts as a rejected schema text is always a
rejection with a reason. -/
theorem check_decided_by_stages (request : CheckRequest) (probe : Probe) (reader : Reader) :
    Decided (request.check probe reader).result (firstHalt (request.halts probe reader))
      (request.Judges reader)
    ∧ (request.check probe reader).reads = request.filesAfter probe
    ∧ ∀ text fault, extractText text = .error fault → fault.IsRejection :=
  ⟨request.decided_check probe reader, request.reads_check probe reader,
    fun _ _ => rejected_of_extractText⟩

/-- A feature branch against its main branch. -/
def featureCheck : CheckRequest := ⟨"main", "feature", "schema.graphql", "schema.ver"⟩

/-- A store in which no marker holds a version and the head schema breaks off. -/
def brokenHead : Reader := fun ref path =>
  if path = "schema.ver" then .found ref path "null"
  else if ref = "main" then .found ref path "type Query\x7ba:Int\x7d"
  else .found ref path "type"

/-- Both markers and the head schema are faulty; the base marker is what stops the check. The head
schema would have been rejected. -/
theorem base_marker_stops_first :
    (∃ failure, (featureCheck.check (.ok .available) brokenHead).result = .error (.failed failure)
      ∧ failure.stop = ⟨9, "Invalid version marker \"main:schema.ver\": "
          ++ "Version marker root must be an object.", []⟩)
    ∧ ∃ fault, extractText "type" = .error fault ∧ fault.IsRejection := by
  obtain ⟨hdecided, -, hrejected⟩ :=
    check_decided_by_stages featureCheck (.ok .available) brokenHead
  have hhalt : firstHalt (featureCheck.halts (.ok .available) brokenHead)
      = some (.fails ⟨9, "Invalid version marker \"main:schema.ver\": "
          ++ "Version marker root must be an object.", []⟩) := by decide +kernel
  have hfails : (extractText "type").toOption = none := by decide +kernel
  constructor
  · rw [hhalt] at hdecided
    obtain ⟨fault, hfault, hstop⟩ := hdecided
    cases fault with
    | failed failure => exact ⟨failure, hfault, Halt.fails.inj hstop⟩
    | broken cause => cases hstop
  · cases hextract : extractText "type" with
    | error fault => exact ⟨fault, rfl, hrejected "type" fault hextract⟩
    | ok extraction =>
      rw [hextract] at hfails
      cases hfails

/-- A store in which only the markers are out of the ordinary: they are numbers with so many
digits. -/
def numberMarkers (digits : Nat) : Reader := fun ref path =>
  if path = "schema.ver" then .found ref path (String.ofList (List.replicate digits '1'))
  else .found ref path "type Query\x7ba:Int\x7d"

theorem parseMarker_number {digits : Nat} (h : 4300 < digits) :
    SemVer.parseMarker (String.ofList (List.replicate digits '1')) = .error .longInteger := by
  obtain ⟨less, rfl⟩ : ∃ less, digits = less + 1 := ⟨digits - 1, by omega⟩
  rw [SemVer.parseMarker_eq_long_iff, String.toList_ofList, List.replicate_succ]
  have hdigits : ∀ d ∈ List.replicate less '1', d.isDigit = true := fun d hd => by
    rw [List.eq_of_mem_replicate hd]
    rfl
  have hlong : Json.IsLongInteger ('1' :: List.replicate less '1') :=
    Json.isLongInteger_of_length rfl (by decide) hdigits (by rw [List.length_replicate]; omega)
  have hend : Json.EndsInteger [] := Json.endsInteger_iff.mpr ⟨Json.stops_nil _, rfl, rfl⟩
  exact ⟨[], _, by simp [Json.IsGap], .here hlong hend, by simp⟩

theorem result_check_numberMarkers {digits : Nat} (h : 4300 < digits) :
    (featureCheck.check (.ok .available) (numberMarkers digits)).result
      = .error (.broken (.marker "main:schema.ver")) := by
  have hmarker : markerHalt? (numberMarkers digits "main" "schema.ver")
      = some (.breaks (.marker "main:schema.ver")) := by
    simp only [numberMarkers, if_true, markerHalt?, RevisionRead.found, RevisionRead.text?,
      parseMarker_number h]
    rfl
  have hhalt : firstHalt (featureCheck.halts (.ok .available) (numberMarkers digits))
      = some (.breaks (.marker "main:schema.ver")) := by
    simp only [firstHalt, CheckRequest.halts, featureCheck, hmarker]
    rfl
  have hdecided := featureCheck.decided_check (.ok .available) (numberMarkers digits)
  rw [hhalt] at hdecided
  obtain ⟨fault, hfault, hbreaks⟩ := hdecided
  rw [hfault, CheckFault.halt_eq_breaks_iff.mp hbreaks]

/-- A marker that is no object does not always make a check fail with 9: at a number with 4301
digits the check breaks off, and nothing is reported. -/
theorem long_marker_is_not_reported :
    (featureCheck.check (.ok .available) (numberMarkers 4301)).result
        = .error (.broken (.marker "main:schema.ver"))
      ∧ ¬ ∀ (request : CheckRequest) (probe : Probe) (reader : Reader),
        (∃ failure, (request.check probe reader).result = .error (.failed failure))
          ∨ ∃ verdict, (request.check probe reader).result = .ok verdict := by
  have hbroken : (featureCheck.check (.ok .available) (numberMarkers 4301)).result
      = .error (.broken (.marker "main:schema.ver")) := result_check_numberMarkers (by decide)
  refine ⟨hbroken, fun hall => ?_⟩
  rcases hall featureCheck (.ok .available) (numberMarkers 4301) with
    ⟨failure, h⟩ | ⟨verdict, h⟩
  · rw [hbroken] at h
    cases h
  · rw [hbroken] at h
    cases h

end SchemaSemver
