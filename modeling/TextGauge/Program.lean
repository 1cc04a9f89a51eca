import TextGauge.CommandLine.Help
import TextGauge.CommandLine.Scan
import TextGauge.Environment
import TextGauge.Log.Filter
import TextGauge.Log.Notice
import TextGauge.Run
import TextGauge.Settings.FromToml

/-!
# The whole program

The program is a function of its arguments and its **surroundings**, the files and environment
variables that it may read, to what it leaves behind: an exit code and two streams.

The log starts once the settings are known, because its level is one of them. Events before that
point are **unheard**: those of overriding settings, and the failure to load a settings file.
-/

namespace TextGauge

/-- What a program may read besides its arguments. -/
structure Surroundings where
  /-- The content of the file at a path. -/
  file : Bytes → Except FileFault Bytes
  /-- The environment variables. -/
  environment : Environment

/-- The settings in a file with the given content. -/
def Settings.ofFile (lookup : String → Option String) (content : Except FileFault Bytes) :
    Except Fault Settings := do
  match Utf8.decode? (← content.mapError .file) with
  | none => .error (.file .notUtf8)
  | some text => Settings.ofFileText lookup text

/-- The settings in the file at a path. -/
def Settings.load (around : Surroundings) (path : Bytes) : Except Fault Settings :=
  Settings.ofFile around.environment.text? (around.file path)

/-- The events of overriding settings by those of a command line. -/
def Settings.overrideEvents (flags : Settings) : List Event :=
  (flags.a.map (.overridden .a)).toList ++ (flags.b.map (.overridden .b)).toList

/-! ### The log -/

/-- The environment variable with the filter of the log. -/
def filterVariable : String := "RUST_LOG"

/-- The filter of a log at a level, where no variable says otherwise: the level for the program,
warnings for all else. The level stands in it as text. -/
def Filter.atLevel (level : String) : Filter :=
  Filter.readValid ("simple_program=" ++ level ++ ",warn")

/-- The filter of the log: that of the variable if it is wholly valid, else that of the level,
for which the verbose flag means `debug`. -/
def Filter.forRun (around : Surroundings) (verbose : Bool) (level : String) : Filter :=
  match (around.environment.text? filterVariable).bind Filter.read? with
  | some filter => filter
  | none => Filter.atLevel (if verbose then "debug" else level)

/-! ### Runs of the program -/

/-- A run of the program on an accepted command line. -/
structure Trace where
  /-- The events before the log starts. -/
  unheard : List Event
  /-- The filter of the log, if it starts. -/
  log : Option Filter
  /-- The events after that. -/
  heard : List Event
  /-- The output, or the fault in its place. -/
  result : Except Fault String

/-- The output for a report: its four lines, or its JSON text. -/
def Report.output (json : Bool) (r : Report) : String :=
  if json then r.toJson.write ++ "\n" else String.join (r.lines.map (· ++ "\n"))

/-- Checks the settings and runs on them. -/
def Settings.execute (source : Source) (json : Bool) (s : Settings) : Logged String :=
  match s.check source with
  | .error f => ⟨[], .error f⟩
  | .ok () =>
    let logged := run s.operands s.effectiveText
    ⟨logged.events, logged.result.map (Report.output json)⟩

/-- The events of an early end. -/
def failureEvents {α : Type} : Except Fault α → List Event
  | .error f => [.failed f]
  | .ok _ => []

/-- A run of the program on an accepted command line: with a settings file, its settings, with
those of the command line in their place; else those of the command line alone. -/
def CommandLine.trace (around : Surroundings) (line : CommandLine) : Trace :=
  match line.config with
  | none =>
    let logged := line.settings.execute .commandLine line.json
    { unheard := []
      log := some (.forRun around line.verbose line.settings.effectiveLevel)
      heard := logged.events ++ failureEvents logged.result
      result := logged.result }
  | some path =>
    match Settings.load around path with
    | .error f => ⟨[.failed f], none, [], .error f⟩
    | .ok loaded =>
      let settings := loaded.overriddenBy line.settings
      let logged := settings.execute .file line.json
      { unheard := line.settings.overrideEvents
        log := some (.forRun around line.verbose settings.effectiveLevel)
        heard := .loaded path :: (logged.events ++ failureEvents logged.result)
        result := logged.result }

/-- All events of a run, in the order in which they happen. -/
def Trace.events (t : Trace) : List Event :=
  t.unheard ++ t.heard

/-- The events that are logged. -/
def Trace.logged (t : Trace) : List Event :=
  match t.log with
  | none => []
  | some filter => t.heard.filter fun e => filter.admits e.target e.level

/-- What a run of the program writes on the error stream. -/
def Trace.notices (t : Trace) : List Notice :=
  t.logged.map .log ++
    match t.result with
    | .error f => [.fault f, .advice f]
    | .ok _ => []

/-- What a run of the program writes on the output stream. -/
def Trace.output (t : Trace) : String :=
  match t.result with
  | .error _ => ""
  | .ok text => text

/-- The exit code of a run of the program. -/
def Trace.exitCode (t : Trace) : Nat :=
  match t.result with
  | .error f => f.severity.exitCode
  | .ok _ => 0

/-- What the program leaves behind. -/
inductive Outcome
  /-- The command line was not accepted, or asked for a text. -/
  | stopped (stop : Stop)
  /-- The program ran. -/
  | ran (exitCode : Nat) (output : String) (notices : List Notice)
  deriving DecidableEq, Repr

/-- The exit code that the program leaves behind. -/
def Outcome.exitCode : Outcome → Nat
  | stopped stop => stop.exitCode
  | ran exitCode .. => exitCode

/-- The output that the program leaves behind. -/
def Outcome.output : Outcome → String
  | stopped stop => stop.output
  | ran _ output _ => output

/-- The program. -/
def program (around : Surroundings) (arguments : List Bytes) : Outcome :=
  match CommandLine.parse arguments with
  | .error stop => .stopped stop
  | .ok line =>
    let t := line.trace around
    .ran t.exitCode t.output t.notices

end TextGauge
