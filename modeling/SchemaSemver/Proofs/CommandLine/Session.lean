/-
SchemaSemver.Proofs.CommandLine.Session — a run reports a verdict only if it reached one.

Whoever calls the program sees an exit code, the lines it prints, and the commands it runs. The
commands may do anything: end with any code, print any bytes, or not start at all.
`Session.IsCandid` says what can be read off a run nevertheless, and `run_candid` that it can be
read off every run whose options are understood and whose settings are loaded or rejected: codes 0
and 1 stand for a verdict on texts that the commands for both schemas did print, and the closing
line tells the two apart. Two kinds of runs have no code, and nothing is printed in either: one in
which a command prints a marker with an integer of more than 4300 digits, and one that would have to
write an expected version with such an integer.

A check turns into a run in one place, `checkWith`. Its ways out are `checkWith_completed`,
`checkWith_failed` and `checkWith_broken`; what the theorem says about runs is read off these. That
a check is made at all once the settings are loaded is `exists_directory_of_load`: the directory of
the run can always be resolved.
-/
import SchemaSemver.Proofs.Check.Certificate
import SchemaSemver.Proofs.Settings.Encoding

namespace SchemaSemver

/-! ## §1 What commands answer -/

namespace GitStore

variable (store : GitStore) (run : CommandRunner)

/-- The probe command exits with 0. -/
def Opens : Prop := ∃ output errors, run [store.executable, "rev-parse", "--git-dir"]
  = .exited 0 output errors

/-- The command that prints a file. -/
def showCommand (ref path : String) : Command :=
  [store.executable, "show", LooseText.ofString (ref ++ ":" ++ path)]

/-- The command for a file exits with 0, and what it printed is a text in the encoding. -/
def Prints (ref path text : String) : Prop :=
  ∃ output errors, run (store.showCommand ref path) = .exited 0 output errors
    ∧ Text.decodeNamed store.codecs store.encoding output = .ok text

/-- The commands for some files, in their order. -/
def showCommands (files : List (String × String)) : List Command :=
  files.map fun (ref, path) => store.showCommand ref path

/-- Both schemas were printed, and the verdict is the one on them and on what the store says of the
two markers. -/
structure Reaches (request : CheckRequest) (base head : String) (verdict : Verdict) : Prop where
  opened : store.Opens run
  baseSchema : store.Prints run request.baseRef request.schemaFile base
  headSchema : store.Prints run request.headRef request.schemaFile head
  judged : ∃ baseMarker headMarker,
    store.reader run request.baseRef request.markerFile = .ok baseMarker
      ∧ store.reader run request.headRef request.markerFile = .ok headMarker
      ∧ verdict.IsOn base head baseMarker headMarker

/-- Whatever file is asked for, the store answers, and like this. -/
def Answers (reader : Reader) : Prop :=
  ∀ ref path, store.reader run ref path = .ok (reader ref path)

/-- What halts a check with the store, if anything does. -/
def halt? (reader : Reader) (request : CheckRequest) : Option Halt :=
  firstHalt (request.halts (store.probe (run store.probeCommand)) reader)

theorem decided_halt? (reader : Reader) (request : CheckRequest) :
    Decided (request.check (store.probe (run store.probeCommand)) reader).result
      (store.halt? run reader request) (request.Judges reader) :=
  request.decided_check _ _

variable {store run}

theorem availabilityOfCode_eq_available_iff (code : Int) :
    availabilityOfCode code = .available ↔ code = 0 := by
  unfold availabilityOfCode
  repeat' split
  all_goals simp_all

theorem probe_eq_available_iff :
    store.probe (run store.probeCommand) = .ok .available ↔ store.Opens run := by
  change _ ↔ ∃ output errors, run store.probeCommand = .exited 0 output errors
  cases run store.probeCommand with
  | exited code output errors => simp [probe, availabilityOfCode_eq_available_iff]
  | executableMissing reason => simp [probe]
  | notRun reason => simp [probe]

/-- A store breaks reading off only where its encoding does. -/
theorem exists_answers (store : GitStore) (hname : Text.isCodecName store.encoding = true)
    (hnever : store.codecs.NeverGivesUp store.encoding) (run : CommandRunner) :
    ∃ reader, store.Answers run reader := by
  suffices hanswer : ∀ ref path, ∃ read, store.reader run ref path = .ok read by
    choose reader hreader using hanswer
    exact ⟨reader, hreader⟩
  intro ref path
  unfold reader
  cases run (store.readCommand ref path) with
  | executableMissing reason => exact ⟨_, rfl⟩
  | notRun reason => exact ⟨_, rfl⟩
  | exited code output errors =>
    by_cases hcode : code = 0
    · subst hcode
      cases hread : store.readResult ref path (.exited 0 output errors) with
      | ok read => exact ⟨read, rfl⟩
      | error cause =>
        rw [readResult_eq_error_iff, Text.decodeNamed_eq_broken_iff hname] at hread
        obtain ⟨-, -, decode, hcodec, hgives⟩ := hread
        exact absurd hgives (hnever decode output hcodec)
    · exact ⟨_, by rw [readResult, if_pos hcode]⟩

section Answers

variable {reader : Reader} (h : store.Answers run reader)
include h

/-- The store has a text for a file exactly if the command for the file printed it. -/
theorem Answers.text?_iff {ref path text : String} :
    (reader ref path).text? = some text ↔ store.Prints run ref path text := by
  have hread : store.readResult ref path (run (store.showCommand ref path))
      = .ok (reader ref path) := h ref path
  unfold Prints
  generalize reader ref path = read at hread ⊢
  generalize run (store.showCommand ref path) = result at hread ⊢
  cases result with
  | executableMissing reason | notRun reason =>
    cases hread
    simp [RevisionRead.failed, RevisionRead.text?]
  | exited code output errors =>
    by_cases hcode : code = 0
    · subst hcode
      rw [readResult_exited_zero] at hread
      rcases hdecoded : Text.decodeNamed store.codecs store.encoding output with
        (fault | cause) | found
      all_goals rw [hdecoded] at hread; cases hread
      · simp [hdecoded, undecodable, RevisionRead.failed, RevisionRead.text?]
      · simp [hdecoded, RevisionRead.found, RevisionRead.text?]
    · rw [readResult, if_pos hcode] at hread
      cases hread
      simp [hcode, RevisionRead.notFound, RevisionRead.text?]

/-- An answer names the file that was asked for. -/
theorem Answers.location_eq (ref path : String) :
    (reader ref path).location = ref ++ ":" ++ path := by
  have hread := h ref path
  generalize reader ref path = read at hread ⊢
  unfold GitStore.reader readResult at hread
  repeat' split at hread
  all_goals cases hread
  all_goals rfl

/-- A check with a store that always answers is one with a reader. -/
theorem Answers.checkFrail_eq (request : CheckRequest) (probe : Probe) :
    request.checkFrail probe (store.reader run) = request.check probe reader := by
  have hreader : store.reader run = fun ref path => .ok (reader ref path) := by
    funext ref path
    exact h ref path
  rw [hreader]
  rfl

end Answers

theorem commandsOf_opened (request : CheckRequest) (reader : Reader) (h : store.Opens run) :
    CommandLine.commandsOf store
        (request.check (store.probe (run store.probeCommand)) reader).reads
      = store.probeCommand :: store.showCommands request.files := by
  rw [CheckRequest.reads_check, probe_eq_available_iff.mpr h]
  rfl

/-- Nothing is run after a probe that did not exit with 0. -/
theorem commandsOf_closed (request : CheckRequest) (reader : Reader) (h : ¬ store.Opens run) :
    CommandLine.commandsOf store
        (request.check (store.probe (run store.probeCommand)) reader).reads
      = [store.probeCommand] := by
  have hunavailable := mt probe_eq_available_iff.mp h
  rw [CheckRequest.reads_check]
  rcases hprobe : store.probe (run store.probeCommand) with message | availability
  · rfl
  · cases availability with
    | available => exact absurd hprobe hunavailable
    | _ => rfl

end GitStore

namespace CommandLine

/-! ## §2 Lines -/

/-- The line that states that nothing is to be done. -/
def nothingToDo : String := "Nothing to do here."

/-- The line that states which version was expected of the head, before it is printed. -/
def mismatchLine (request : CheckRequest) (expected : SemVer) : String :=
  "\"" ++ request.headRef ++ "\" version mismatch. Expected: " ++ expected.text

/-- What stands in front of the first control sequence is printed as it is. -/
theorem head?_toList_printed {line : String} {c : Char} {rest : List Char}
    (hline : line.toList = c :: rest) (hc : c ≠ '\x1b') :
    (printed line).toList.head? = some c := by
  have hlength : line.length = rest.length + 1 := by
    rw [← String.length_toList, hline, List.length_cons]
  have hnone : afterControl? (c :: rest) = none := by
    unfold afterControl?
    split
    · simp_all
    · rfl
  rw [printed, String.toList_ofList, hlength, hline, withoutControls, hnone]
  rfl

theorem printed_nothingToDo : printed nothingToDo = nothingToDo := by decide

theorem printed_mismatchLine_ne (request : CheckRequest) (expected : SemVer) :
    printed (mismatchLine request expected) ≠ nothingToDo := by
  -- a quotation mark opens the line, and no control sequence can swallow it
  intro heq
  have hquote : (printed (mismatchLine request expected)).toList.head? = some '"' :=
    head?_toList_printed (by simp [mismatchLine, String.toList_append]; rfl) (by decide)
  rw [heq] at hquote
  exact absurd hquote (by decide)

/-- A report closes with the line for its verdict. -/
theorem getLast?_report (verdict : Verdict) (request : CheckRequest) (listsDeclarations : Bool) :
    ((verdict.report request listsDeclarations).map printed).getLast?
      = some (printed (verdict.line request)) := by
  simp [Verdict.report, List.getLast?_append]

theorem printed_line {verdict : Verdict} {base head : String}
    {baseMarker headMarker : RevisionRead} (h : verdict.IsOn base head baseMarker headMarker)
    (request : CheckRequest) :
    printed (verdict.line request)
      = if verdict.headVersion = verdict.expectedVersion then nothingToDo
        else printed (mismatchLine request verdict.expectedVersion) := by
  simp only [Verdict.line, h.isMatch_iff]
  split
  · exact printed_nothingToDo
  · rfl

theorem isWritable_eq_false_iff {verdict : Verdict} {base head : String}
    {baseMarker headMarker : RevisionRead} (h : verdict.IsOn base head baseMarker headMarker) :
    verdict.isWritable = false
      ↔ verdict.headVersion ≠ verdict.expectedVersion ∧ verdict.expectedVersion.isLong = true := by
  rw [Verdict.isWritable, Bool.or_eq_false_iff, Bool.not_eq_false', ← Bool.not_eq_true,
    h.isMatch_iff]

/-! ## §3 Runs that can be trusted -/

/-- The options ask for the check, and the settings for it can be loaded; it is made in a
directory. -/
structure Options.Prepare (options : Options) (host : Host) (request : CheckRequest)
    (settings : Settings) (directory : Path) : Prop where
  arguments : options.arguments
    = [request.baseRef, request.headRef, request.schemaFile, request.markerFile]
  loaded : Settings.load host (options.config.map LooseText.ofString) = .ok settings
  resolved : host.resolve settings.workingDirectory = .ok directory

namespace Session

section Seen

variable (session : Session) (store : GitStore) (request : CheckRequest) (run : CommandRunner)

/-- The run reports the verdict that it reached on two schema texts that were printed. -/
structure Reports (base head : String) (verdict : Verdict) : Prop where
  reached : store.Reaches run request base head verdict
  exit : session.exit = .ok (if verdict.headVersion = verdict.expectedVersion then 0 else 1)
  last : session.output.getLast?
    = some (if verdict.headVersion = verdict.expectedVersion then nothingToDo
        else printed (mismatchLine request verdict.expectedVersion))

/-- The run breaks off at the marker of a revision: it was printed, and it comes to an integer with
too many digits. -/
structure BreaksAt (ref : String) : Prop where
  asked : ref = request.baseRef ∨ ref = request.headRef
  marker : ∃ text, store.Prints run ref request.markerFile text ∧ Json.ComesToLong text.toList
  exit : session.exit = .error (.check (.marker (ref ++ ":" ++ request.markerFile)))
  output : session.output = []

/-- The run withholds the verdict that it reached: it is a mismatch, and the version that was
expected has too many digits to be written. -/
structure Withholds (base head : String) (verdict : Verdict) : Prop where
  reached : store.Reaches run request base head verdict
  mismatch : verdict.headVersion ≠ verdict.expectedVersion
  long : verdict.expectedVersion.isLong = true
  exit : session.exit = .error .longVersion
  output : session.output = []

/-- The run breaks off at a marker, or when its verdict is to be written. -/
def BreaksOff : Prop :=
  (∃ ref, session.BreaksAt store request run ref)
    ∨ ∃ base head verdict, session.Withholds store request run base head verdict

/-- The run is a check with a store in a directory. It probes the store once and, if it opens, runs
one command for each of the four files; what stops it gives it a code of its own, and then nothing
is printed. A check that is completed reports its verdict or withholds it. -/
structure IsCheck (reader : Reader) (directory : Path) : Prop where
  answers : store.Answers run reader
  opened : store.Opens run → session.calls
    = ([store.executable, "rev-parse", "--git-dir"] :: store.showCommands request.files).map
        (⟨·, directory⟩)
  closed : ¬ store.Opens run → session.calls
    = [⟨[store.executable, "rev-parse", "--git-dir"], directory⟩]
  stopped : ∀ stop, store.halt? run reader request = some (.fails stop) →
    session.exit = .ok stop.code ∧ 2 ≤ stop.code ∧ session.output = []
  broken : ∀ cause, store.halt? run reader request = some (.breaks cause) →
    ∃ ref, session.BreaksAt store request run ref
  completed : store.halt? run reader request = none →
    ∃ base head verdict, session.Reports store request run base head verdict
      ∨ session.Withholds store request run base head verdict

end Seen

/-- What is seen of a run with options can be trusted. -/
structure IsCandid (session : Session) (host : Host) (runIn : Path → CommandRunner)
    (options : Options) : Prop where
  wrongArguments : options.arguments.length ≠ 4 → session.exit = .ok 4 ∧ session.calls = []
  rejectedSettings : options.arguments.length = 4 →
    ∀ reason, Settings.load host (options.config.map LooseText.ofString)
      = .error (.rejected reason) →
    session.exit = .ok 11 ∧ session.calls = []
  prepared : options.arguments.length = 4 →
    ∀ settings, Settings.load host (options.config.map LooseText.ofString) = .ok settings →
    ∃ request directory, options.Prepare host request settings directory
  check : ∀ request settings directory, options.Prepare host request settings directory →
    ∃ reader, session.IsCheck (settings.store host) request (runIn directory) reader directory
  verdict : session.exit = .ok 0 ∨ session.exit = .ok 1 →
    ∃ request settings directory base head verdict,
      options.Prepare host request settings directory
      ∧ session.Reports (settings.store host) request (runIn directory) base head verdict
  nothingToDo : session.output.getLast? = some nothingToDo ↔ session.exit = .ok 0
  code : (∃ code, session.exit = .ok code)
    ∨ ∃ request settings directory, options.Prepare host request settings directory
      ∧ session.BreaksOff (settings.store host) request (runIn directory)

end Session

/-! ## §4 Checks as runs -/

section Checks

variable {store : GitStore} (directory : Path) (listsDeclarations : Bool) (level : LogLevel)
  {request : CheckRequest} {run : CommandRunner} {reader : Reader}
  (hanswers : store.Answers run reader)
include hanswers

theorem calls_checkWith :
    (checkWith store directory listsDeclarations level request run).calls
      = (commandsOf store (request.check (store.probe (run store.probeCommand)) reader).reads).map
          (⟨·, directory⟩) := by
  unfold checkWith
  rw [hanswers.checkFrail_eq]
  dsimp only
  repeat' split
  all_goals rfl

/-- A failed check ends with its code and prints nothing. -/
theorem checkWith_failed {failure : CheckFailure}
    (h : (request.check (store.probe (run store.probeCommand)) reader).result
      = .error (.failed failure)) :
    (checkWith store directory listsDeclarations level request run).exit
        = .ok failure.status.code
      ∧ (checkWith store directory listsDeclarations level request run).output = [] := by
  simp only [checkWith, hanswers.checkFrail_eq, h, and_self]

/-- A check that breaks off has no code and prints nothing. -/
theorem checkWith_broken {cause : CheckBreak}
    (h : (request.check (store.probe (run store.probeCommand)) reader).result
      = .error (.broken cause)) :
    (checkWith store directory listsDeclarations level request run).exit = .error (.check cause)
      ∧ (checkWith store directory listsDeclarations level request run).output = [] := by
  simp only [checkWith, hanswers.checkFrail_eq, h, and_self]

/-- A completed check reports its verdict, or withholds one that cannot be written. -/
theorem checkWith_completed {verdict : Verdict}
    (h : (request.check (store.probe (run store.probeCommand)) reader).result = .ok verdict) :
    ∃ base head,
      (checkWith store directory listsDeclarations level request run).Reports store request run
          base head verdict
        ∨ (checkWith store directory listsDeclarations level request run).Withholds store request
            run base head verdict := by
  obtain ⟨-, base, head, hbase, hhead, hon⟩ := completed h
  have hreached : store.Reaches run request base head verdict :=
    { opened := GitStore.probe_eq_available_iff.mp (available_of_completed h)
      baseSchema := hanswers.text?_iff.mp hbase
      headSchema := hanswers.text?_iff.mp hhead
      judged := ⟨_, _, hanswers _ _, hanswers _ _, hon⟩ }
  refine ⟨base, head, ?_⟩
  cases hwritable : verdict.isWritable with
  | true =>
    left
    exact
      { reached := hreached
        exit := by
          simp only [checkWith, hanswers.checkFrail_eq, h, hwritable, if_true, hon.code]
        last := by
          simp only [checkWith, hanswers.checkFrail_eq, h, hwritable, if_true, getLast?_report,
            printed_line hon] }
  | false =>
    right
    obtain ⟨hmismatch, hlong⟩ := (isWritable_eq_false_iff hon).mp hwritable
    exact
      { reached := hreached
        mismatch := hmismatch
        long := hlong
        exit := by
          simp only [checkWith, hanswers.checkFrail_eq, h, hwritable, Bool.false_eq_true, if_false]
        output := by
          simp only [checkWith, hanswers.checkFrail_eq, h, hwritable, Bool.false_eq_true,
            if_false] }

theorem isCheck_checkWith (request : CheckRequest) :
    (checkWith store directory listsDeclarations level request run).IsCheck store request run
      reader directory where
  answers := hanswers
  opened hopens := by
    rw [calls_checkWith directory listsDeclarations level hanswers,
      GitStore.commandsOf_opened request reader hopens]
    rfl
  closed hclosed := by
    rw [calls_checkWith directory listsDeclarations level hanswers,
      GitStore.commandsOf_closed request reader hclosed]
    rfl
  stopped stop hstop := by
    have hdecided := store.decided_halt? run reader request
    rw [hstop] at hdecided
    obtain ⟨fault, hfault, hhalt⟩ := hdecided
    cases fault with
    | failed failure =>
      cases hhalt
      obtain ⟨hexit, houtput⟩ :=
        checkWith_failed directory listsDeclarations level hanswers hfault
      exact ⟨hexit, failure.two_le_code_stop, houtput⟩
    | broken cause => cases hhalt
  broken cause hbreaks := by
    have hdecided := store.decided_halt? run reader request
    rw [hbreaks] at hdecided
    obtain ⟨fault, hfault, hhalt⟩ := hdecided
    rw [CheckFault.halt_eq_breaks_iff.mp hhalt] at hfault
    obtain ⟨hexit, houtput⟩ := checkWith_broken directory listsDeclarations level hanswers hfault
    obtain ⟨ref, hasked, hmarker⟩ := exists_marker_of_breaks hbreaks
    obtain ⟨text, htext, hlong, rfl⟩ := markerHalt?_eq_breaks_iff.mp hmarker
    rw [hanswers.location_eq] at hexit
    have hcomes := SemVer.parseMarker_eq_long_iff.mp hlong
    exact ⟨ref, hasked, ⟨text, hanswers.text?_iff.mp htext, hcomes⟩, hexit, houtput⟩
  completed hnone := by
    have hdecided := store.decided_halt? run reader request
    rw [hnone] at hdecided
    obtain ⟨verdict, hverdict, -⟩ := hdecided
    obtain ⟨base, head, hsaid⟩ :=
      checkWith_completed directory listsDeclarations level hanswers hverdict
    exact ⟨base, head, verdict, hsaid⟩

end Checks

namespace Session

variable {session : Session} {store : GitStore} {request : CheckRequest} {run : CommandRunner}

/-- The closing line of a report tells the two codes apart. -/
theorem Reports.nothingToDo_iff {base head : String} {verdict : Verdict}
    (h : session.Reports store request run base head verdict) :
    session.output.getLast? = some nothingToDo ↔ session.exit = .ok 0 := by
  rw [h.last, h.exit]
  split
  · simp
  · simp [printed_mismatchLine_ne]

/-- A run that breaks off has no code and prints nothing. -/
theorem BreaksOff.silent (h : session.BreaksOff store request run) :
    session.output = [] ∧ ∃ cause, session.exit = .error cause := by
  rcases h with ⟨ref, hbreaks⟩ | ⟨base, head, verdict, hwithholds⟩
  · exact ⟨hbreaks.output, _, hbreaks.exit⟩
  · exact ⟨hwithholds.output, _, hwithholds.exit⟩

section IsCheck

variable {reader : Reader} {directory : Path}
  (h : session.IsCheck store request run reader directory)
include h

/-- A check is stopped and prints nothing, it breaks off, or it reports a verdict. -/
theorem IsCheck.outcomes :
    (session.output = [] ∧ ∃ code, session.exit = .ok code ∧ 2 ≤ code)
      ∨ session.BreaksOff store request run
      ∨ ∃ base head verdict, session.Reports store request run base head verdict := by
  cases hhalt : store.halt? run reader request with
  | none =>
    obtain ⟨base, head, verdict, hreports | hwithholds⟩ := h.completed hhalt
    · exact .inr (.inr ⟨base, head, verdict, hreports⟩)
    · exact .inr (.inl (.inr ⟨base, head, verdict, hwithholds⟩))
  | some halt =>
    cases halt with
    | fails stop =>
      obtain ⟨hexit, hle, houtput⟩ := h.stopped stop hhalt
      exact .inl ⟨houtput, stop.code, hexit, hle⟩
    | breaks cause => exact .inr (.inl (.inl (h.broken cause hhalt)))

theorem IsCheck.code_or_breaksOff :
    (∃ code, session.exit = .ok code) ∨ session.BreaksOff store request run := by
  rcases h.outcomes with ⟨-, code, hcode, -⟩ | hbreaks | ⟨base, head, verdict, hreports⟩
  · exact .inl ⟨code, hcode⟩
  · exact .inr hbreaks
  · exact .inl ⟨_, hreports.exit⟩

/-- The codes of a match and of a mismatch are only given with a verdict. -/
theorem IsCheck.reports_of_exit (hexit : session.exit = .ok 0 ∨ session.exit = .ok 1) :
    ∃ base head verdict, session.Reports store request run base head verdict := by
  rcases h.outcomes with ⟨-, code, hcode, hle⟩ | hbreaks | hreports
  · rw [hcode] at hexit
    rcases hexit with heq | heq <;> cases heq <;> omega
  · obtain ⟨-, cause, hcause⟩ := hbreaks.silent
    rw [hcause] at hexit
    rcases hexit with heq | heq <;> cases heq
  · exact hreports

theorem IsCheck.nothingToDo_iff :
    session.output.getLast? = some nothingToDo ↔ session.exit = .ok 0 := by
  rcases h.outcomes with ⟨houtput, code, hcode, hle⟩ | hbreaks | ⟨base, head, verdict, hreports⟩
  · rw [houtput, hcode]
    refine iff_of_false (by simp) fun hexit => ?_
    cases hexit
    omega
  · obtain ⟨houtput, cause, hcause⟩ := hbreaks.silent
    rw [houtput, hcause]
    exact iff_of_false (by simp) (by simp)
  · exact hreports.nothingToDo_iff

end IsCheck

end Session

/-! ## §5 The whole run -/

/-- A list of arguments is a request exactly if it holds its four parts. -/
theorem requestOf?_eq_some_iff {arguments : List String} {request : CheckRequest} :
    requestOf? arguments = some request ↔ arguments
      = [request.baseRef, request.headRef, request.schemaFile, request.markerFile] := by
  constructor
  · intro h
    unfold requestOf? at h
    split at h
    · cases h
      rfl
    · cases h
  · rintro rfl
    rfl

/-- The working directory of loaded settings is the one of the run, or it was found. -/
theorem workingDirectory_of_load {host : Host} {config : Option LooseText} {settings : Settings}
    (hutf8 : ∃ codec, host.codecs "utf-8" = some codec)
    (h : Settings.load host config = .ok settings) :
    settings.workingDirectory = .absolute host.workingDirectory
      ∨ settings.workingDirectory.isAbsolute = true
        ∧ ∃ place, host.Shows settings.workingDirectory place .directory := by
  cases config with
  | none =>
    cases h
    exact .inl rfl
  | some path =>
    obtain ⟨value, -, hacceptable, hchooses⟩ := (Settings.load_eq_ok_iff hutf8).mp h
    have hsets := hchooses.workingDirectory
    cases hgiven : Settings.given value .workingDirectory with
    | none =>
      rw [hgiven] at hsets
      exact .inl hsets
    | some found =>
      rw [hgiven] at hsets
      rcases hacceptable.allowed _ _ hgiven with rfl
        | ⟨text, hsays, reached, place, hreached, hshows⟩
      · exact .inl hsets
      · rw [Option.bind_some, (Settings.says_iff.mp hsays).1] at hsets
        obtain rfl := hreached.unique hsets
        exact .inr ⟨hreached.isAbsolute, place, hshows⟩

/-- The directory that settings name can be resolved: on a settled machine the directory of the run
can, and any other was found when the settings were loaded. -/
theorem exists_directory_of_load {host : Host} {config : Option LooseText} {settings : Settings}
    (hsettled : host.IsSettled) (hutf8 : ∃ codec, host.codecs "utf-8" = some codec)
    (h : Settings.load host config = .ok settings) :
    ∃ directory, host.resolve settings.workingDirectory = .ok directory := by
  rcases workingDirectory_of_load hutf8 h with hstandard | ⟨hroot, place, hshows⟩
  · rw [hstandard]
    exact ⟨_, hsettled.here.resolve_eq⟩
  · obtain ⟨count, -, hleads⟩ := hshows.leads
    rw [hroot, if_pos rfl] at hleads
    exact ⟨_, hsettled.resolve_of_leads hroot hshows.possible hleads⟩

theorem Options.Prepare.length {options : Options} {host : Host} {request : CheckRequest}
    {settings : Settings} {directory : Path}
    (h : options.Prepare host request settings directory) : options.arguments.length = 4 := by
  rw [h.arguments]
  rfl

section Runs

variable {host : Host} {runIn : Path → CommandRunner} {options : Options}

theorem runOptions_of_length_ne (h : options.arguments.length ≠ 4) :
    runOptions host runIn options = .ended .wrongArguments wrongArguments [] := by
  have hnone : requestOf? options.arguments = none := by
    rw [Option.eq_none_iff_forall_ne_some]
    intro request hrequest
    rw [requestOf?_eq_some_iff] at hrequest
    exact h (by rw [hrequest]; rfl)
  rw [runOptions, hnone]

theorem runOptions_of_prepare {request : CheckRequest} {settings : Settings} {directory : Path}
    (h : options.Prepare host request settings directory) :
    runOptions host runIn options
      = checkWith (settings.store host) directory settings.listDeclarations options.logLevel request
          (runIn directory) := by
  simp only [runOptions, requestOf?_eq_some_iff.mpr h.arguments, h.loaded, runWith, h.resolved]

theorem isCandid_of_length_ne (h : options.arguments.length ≠ 4) :
    (runOptions host runIn options).IsCandid host runIn options := by
  rw [runOptions_of_length_ne h]
  exact
    { wrongArguments := fun _ => ⟨rfl, rfl⟩
      rejectedSettings := fun hfour => absurd hfour h
      prepared := fun hfour => absurd hfour h
      check := fun _ _ _ hprepare => absurd hprepare.length h
      verdict := by rintro (hexit | hexit) <;> cases hexit
      nothingToDo := iff_of_false (by decide) fun hexit => by cases hexit
      code := .inl ⟨4, rfl⟩ }

theorem isCandid_of_rejected (h : options.arguments.length = 4) {reason : SettingsRejection}
    (hrejected : Settings.load host (options.config.map LooseText.ofString)
      = .error (.rejected reason)) :
    (runOptions host runIn options).IsCandid host runIn options := by
  have hnotLoaded (settings : Settings) :
      Settings.load host (options.config.map LooseText.ofString) ≠ .ok settings := by
    rw [hrejected]
    simp
  rw [Settings.runOptions_of_rejected h hrejected]
  exact
    { wrongArguments := fun hne => absurd h hne
      rejectedSettings := fun _ _ _ => ⟨rfl, rfl⟩
      prepared := fun _ settings hload => absurd hload (hnotLoaded settings)
      check := fun _ _ _ hprepare => absurd hprepare.loaded (hnotLoaded _)
      verdict := by rintro (hexit | hexit) <;> cases hexit
      nothingToDo := iff_of_false (fun hlast => by cases hlast) fun hexit => by cases hexit
      code := .inl ⟨11, rfl⟩ }

theorem isCandid_of_prepare {request : CheckRequest} {settings : Settings} {directory : Path}
    {reader : Reader} (h : options.Prepare host request settings directory)
    (hanswers : (settings.store host).Answers (runIn directory) reader) :
    (runOptions host runIn options).IsCandid host runIn options := by
  have hcheck := isCheck_checkWith directory settings.listDeclarations options.logLevel hanswers
    request
  rw [runOptions_of_prepare h]
  refine
    { wrongArguments := fun hne => absurd h.length hne
      rejectedSettings := fun _ reason hrejected => ?_
      prepared := fun _ found hload => ?_
      check := fun other found place hprepare => ?_
      verdict := fun hexit => ?_
      nothingToDo := hcheck.nothingToDo_iff
      code := hcheck.code_or_breaksOff.imp_right fun hbreaks =>
        ⟨request, settings, directory, h, hbreaks⟩ }
  · rw [h.loaded] at hrejected
    cases hrejected
  · obtain rfl : found = settings := Except.ok.inj (hload.symm.trans h.loaded)
    exact ⟨request, directory, h⟩
  · -- the options leave no choice of the request, the settings and the directory
    obtain rfl : other = request := Option.some.inj
      ((requestOf?_eq_some_iff.mpr hprepare.arguments).symm.trans
        (requestOf?_eq_some_iff.mpr h.arguments))
    obtain rfl : found = settings := Except.ok.inj (hprepare.loaded.symm.trans h.loaded)
    obtain rfl : place = directory := Except.ok.inj (hprepare.resolved.symm.trans h.resolved)
    exact ⟨reader, hcheck⟩
  · obtain ⟨base, head, verdict, hreports⟩ := hcheck.reports_of_exit hexit
    exact ⟨request, settings, directory, base, head, verdict, h, hreports⟩

end Runs

/-- **A run reports only verdicts that it reached.** Take any arguments that ask for a run, any
files such that the settings are loaded or rejected, an encoding that never gives up without naming
bytes, and commands that do anything; the machine is settled and knows UTF-8. Without four arguments
the run ends with 4, and with rejected settings with 11; neither runs a command. Otherwise the store
is probed once, and only if that exits with 0, one command is run for each of the four files. The
run ends with 0 or 1 only if both schemas were printed and decoded; it then reports the verdict on
them, and the line that nothing is to be done closes what is printed exactly if the code is 0. It
has no code only if a marker was printed that comes to an integer with too many digits, or if a
mismatch would have to be reported with such an integer in the expected version. -/
theorem run_candid (host : Host) (runIn : Path → CommandRunner) (arguments : List String)
    (options : Options) (hparse : parse arguments = .ok (.run options))
    (hload : ∀ cause,
      Settings.load host (options.config.map LooseText.ofString) ≠ .error (.broken cause))
    (hencoding : ∀ settings,
      Settings.load host (options.config.map LooseText.ofString) = .ok settings →
      host.codecs.NeverGivesUp settings.encoding)
    (hsettled : host.IsSettled) (hutf8 : ∃ codec, host.codecs "utf-8" = some codec) :
    (run host runIn arguments).IsCandid host runIn options := by
  -- the stages of a run: the arguments are counted, the settings loaded, the check made
  have hrun : run host runIn arguments = runOptions host runIn options := by
    simp only [run, hparse]
  rw [hrun]
  by_cases hfour : options.arguments.length = 4
  · obtain ⟨baseRef, headRef, schemaFile, markerFile, harguments⟩ := List.length_eq_four.mp hfour
    cases hsettings : Settings.load host (options.config.map LooseText.ofString) with
    | ok settings =>
      obtain ⟨directory, hdirectory⟩ := exists_directory_of_load hsettled hutf8 hsettings
      have hprepare :
          options.Prepare host ⟨baseRef, headRef, schemaFile, markerFile⟩ settings directory :=
        ⟨harguments, hsettings, hdirectory⟩
      obtain ⟨hname, -⟩ := Settings.encoding_of_load hutf8 hsettings
      obtain ⟨reader, hanswers⟩ := (settings.store host).exists_answers hname
        (hencoding settings hsettings) (runIn directory)
      exact isCandid_of_prepare hprepare hanswers
    | error fault =>
      cases fault with
      | rejected reason => exact isCandid_of_rejected hfour hsettings
      | broken cause => exact absurd hsettings (hload cause)
  · exact isCandid_of_length_ne hfour

/-- Commands for a store in which main and a feature branch hold the same schema and version. -/
def unchangedStore : CommandRunner := fun command =>
  if command = ["git", "rev-parse", "--git-dir"] then .exited 0 [] []
  else if command.getLast? ∈ ([some "main:schema.ver", some "feature:schema.ver"]
      : List (Option LooseText)) then
    .exited 0 "\x7b\"major\":1,\"minor\":0,\"patch\":0\x7d".toUTF8.toList []
  else .exited 0 "type Query\x7ba:Int\x7d".toUTF8.toList []

/-- A branch that changes nothing is reported as a match, after five commands. -/
theorem unchanged_branch_reported :
    let host : Host := .plain (["work"] : Location) fun _ => none
    let session := run host (fun _ => unchangedStore)
      ["main", "feature", "schema.graphql", "schema.ver"]
    session.exit = .ok 0 ∧ session.output.getLast? = some nothingToDo
      ∧ session.calls.length = 5 := by
  intro host session
  have hsettled : host.IsSettled := Host.isSettled_plain (by decide) (by decide)
  have hcandid : session.IsCandid host (fun _ => unchangedStore)
      ⟨none, .warning, ["main", "feature", "schema.graphql", "schema.ver"]⟩ :=
    run_candid host _ _ _ (by decide +kernel) (fun cause hbroken => by cases hbroken)
      (fun settings hloaded => by cases hloaded; exact Text.Codecs.standard_isLawful.neverGivesUp)
      hsettled ⟨_, Text.Codecs.standard_isLawful.utf8⟩
  have hopens : GitStore.standard.Opens unchangedStore := ⟨[], [], by decide⟩
  have hdirectory : host.resolve (Settings.standard host).workingDirectory
      = .ok (.absolute ["work"]) := hsettled.here.resolve_eq
  obtain ⟨reader, hcheck⟩ :=
    hcandid.check featureCheck (Settings.standard host) (.absolute ["work"]) ⟨rfl, rfl, hdirectory⟩
  have hexit : session.exit = .ok 0 := by decide +kernel
  refine ⟨hexit, hcandid.nothingToDo.mpr hexit, ?_⟩
  rw [hcheck.opened hopens]
  rfl

end CommandLine

end SchemaSemver
