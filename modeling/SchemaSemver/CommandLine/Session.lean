/-
SchemaSemver.CommandLine.Session — one run of the program, from its arguments to its exit code.

A run depends on its arguments, the files it sees, and what the commands do that it runs; it leaves
lines on two outputs and a code. Nothing is run before the arguments are right and the settings are
loaded. Then the store is probed once, and if it is available, four files are read.
-/
import SchemaSemver.Check.Report
import SchemaSemver.CommandLine.Help
import SchemaSemver.Revision.GitStore
import SchemaSemver.Settings.Load

namespace SchemaSemver

/-- The store that settings name, on a machine. -/
def Settings.store (settings : Settings) (host : Host) : GitStore :=
  ⟨settings.executable, settings.encoding, host.codecs⟩

namespace CommandLine

/-! ## Results -/

/-- A command and the directory in which it was run. -/
structure Call where
  command : Command
  directory : Path
deriving DecidableEq, Repr

/-- Why a run breaks off without an exit code. -/
inductive Interruption where
  /-- Loading the settings breaks off. -/
  | settings (cause : SettingsBreak)
  /-- The working directory cannot be resolved. -/
  | directory (fault : ResolveFault)
  /-- The check breaks off. -/
  | check (cause : CheckBreak)
  /-- The check is completed, but the version it expects has too many digits to be written. -/
  | longVersion
  /-- The path of the settings file holds a null character. -/
  | nullInConfig
deriving DecidableEq, Repr

/-- What a run leaves behind. -/
structure Session where
  /-- The exit code, or why there is none. -/
  exit : Except Interruption Nat
  output : List String
  errors : List String
  calls : List Call

namespace Session

/-- A run that ends with a status without running a command. -/
def ended (status : ExitStatus) (output errors : List String) : Session :=
  ⟨.ok status.code, output, errors, []⟩

/-- A run that breaks off. -/
def interrupted (cause : Interruption) : Session := ⟨.error cause, [], [], []⟩

end Session

/-! ## Lines -/

/-- The rest of a text behind a control sequence of a terminal: an escape, a bracket, parameters,
intermediate characters, and a final one, each from its range of ASCII. -/
def afterControl? : List Char → Option (List Char)
  | '\x1b' :: '[' :: rest =>
    let behindParameters := rest.dropWhile fun c => '0' ≤ c && c ≤ '?'
    match behindParameters.dropWhile fun c => ' ' ≤ c && c ≤ '/' with
    | final :: rest => if '@' ≤ final && final ≤ '~' then some rest else none
    | [] => none
  | _ => none

/-- The characters without control sequences. The first argument bounds the number of characters. -/
def withoutControls : Nat → List Char → List Char
  | 0, text => text
  | _, [] => []
  | fuel + 1, c :: rest =>
    match afterControl? (c :: rest) with
    | some after => withoutControls fuel after
    | none => c :: withoutControls fuel rest

/-- A line as it is printed. -/
def printed (line : String) : String :=
  String.ofList (withoutControls line.length line.toList)

/-- Lines as one text. -/
def textOfLines (lines : List String) : String :=
  String.join (lines.map fun line => line ++ "\n")

/-! ## Checks -/

/-- The lines that explain why a check was not completed. -/
def failureLines (failure : CheckFailure) : List String :=
  failure.message :: failure.details.map fun detail => "  " ++ detail

/-- A check of four arguments; there is none for another number. -/
def requestOf? : List String → Option CheckRequest
  | [baseRef, headRef, schemaFile, markerFile] => some ⟨baseRef, headRef, schemaFile, markerFile⟩
  | _ => none

/-- The commands that a check runs: the probe, then one for each file that is read. -/
def commandsOf (store : GitStore) (reads : List (String × String)) : List Command :=
  store.probeCommand :: reads.map fun (ref, path) => store.readCommand ref path

/-- What the store logs during a check. -/
def storeLog (store : GitStore) (reads : List (String × String)) (run : CommandRunner) :
    List LogEntry :=
  GitStore.probeLog (run store.probeCommand)
    ++ reads.flatMap fun (ref, path) => GitStore.readLog ref path (run (store.readCommand ref path))

/-- A check with a store, as it is printed. -/
def checkWith (store : GitStore) (directory : Path) (listsDeclarations : Bool) (level : LogLevel)
    (request : CheckRequest) (run : CommandRunner) : Session :=
  let checked := request.checkFrail (store.probe (run store.probeCommand)) (store.reader run)
  let entries := storeLog store checked.reads run ++ checked.log
  let log := (visibleEntries level entries).map LogEntry.line
  let calls := (commandsOf store checked.reads).map fun command => ⟨command, directory⟩
  match checked.result with
  | .ok verdict =>
    if verdict.isWritable then
      ⟨.ok verdict.status.code, (verdict.report request listsDeclarations).map printed, log, calls⟩
    else ⟨.error .longVersion, [], log, calls⟩
  | .error (.failed failure) =>
    ⟨.ok failure.status.code, [], log ++ (failureLines failure).map printed, calls⟩
  | .error (.broken cause) => ⟨.error (.check cause), [], log, calls⟩

/-! ## Runs -/

/-- A run with settings. -/
def runWith (host : Host) (settings : Settings) (level : LogLevel) (request : CheckRequest)
    (runIn : Path → CommandRunner) : Session :=
  match host.resolve settings.workingDirectory with
  | .error fault => .interrupted (.directory fault)
  | .ok directory =>
    checkWith (settings.store host) directory settings.listDeclarations level request
      (runIn directory)

/-- A run with options. -/
def runOptions (host : Host) (runIn : Path → CommandRunner) (options : Options) : Session :=
  match requestOf? options.arguments with
  | none => .ended .wrongArguments wrongArguments []
  | some request =>
    match Settings.load host (options.config.map LooseText.ofString) with
    | .error (.rejected reason) => .ended .invalidSettings [] [printed reason.message]
    | .error (.broken cause) => .interrupted (.settings cause)
    | .ok settings => runWith host settings options.logLevel request runIn

/-- A run of the program: `runIn` says what a command does in a directory. -/
def run (host : Host) (runIn : Path → CommandRunner) (arguments : List String) : Session :=
  match parse arguments with
  | .error (.wrongOption fault) => .ended .wrongArguments [] (fault.report.map printed)
  | .error .nullInConfig => .interrupted .nullInConfig
  | .ok .help => .ended .versionsMatch help []
  | .ok .version => .ended .versionsMatch version []
  | .ok (.run options) => runOptions host runIn options

end CommandLine

end SchemaSemver
