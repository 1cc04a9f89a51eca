import TextGauge.Program

/-!
# Sessions

A **session** keeps settings over a sequence of requests: they are loaded from files, overridden
by command lines, set one by one and run on, in an environment that can be replaced. A request
that fails leaves the settings as they were.
-/

namespace TextGauge

/-- What a session keeps. -/
structure Session where
  settings : Settings := {}
  environment : Environment := []
  deriving DecidableEq, Repr

namespace Session

/-- One setting with its new value. -/
inductive Assignment
  | a (value : Option Int32)
  | b (value : Option Int32)
  | text (value : Option String)
  | level (value : Option String)
  deriving DecidableEq, Repr

/-- Settings after an assignment. -/
def Assignment.apply (s : Settings) : Assignment → Settings
  | a value => { s with a := value }
  | b value => { s with b := value }
  | text value => { s with text := value }
  | level value => { s with level := value }

/-- What is asked of a session. -/
inductive Request
  /-- Replace the environment. -/
  | environment (replacement : Environment)
  /-- Take the settings from a file with this content. -/
  | load (content : Except FileFault Bytes)
  /-- Override the settings by those of a command line. -/
  | override (arguments : List Bytes)
  /-- Set one setting. -/
  | assign (assignment : Assignment)
  /-- Forget all settings. -/
  | reset
  /-- Check the settings. -/
  | check
  /-- Run on the settings, whether they pass the check or not. -/
  | run

/-- What a session answers. -/
inductive Answer
  | done
  | fault (f : Fault)
  | stopped (stop : Stop)
  | checked (settings : Settings) (result : Except Fault Unit)
  | report (r : Report)

/-- A request to a session: what it answers, the events on the way, and the session after it. -/
def ask (session : Session) : Request → Answer × List Event × Session
  | .environment replacement => (.done, [], { session with environment := replacement })
  | .load content =>
    match Settings.ofFile session.environment.text? content with
    | .error f => (.fault f, [], session)
    | .ok settings => (.done, [], { session with settings })
  | .override arguments =>
    match CommandLine.parse arguments with
    | .error stop => (.stopped stop, [], session)
    | .ok line =>
      (.done, line.settings.overrideEvents,
        { session with settings := session.settings.overriddenBy line.settings })
  | .assign assignment =>
    (.done, [], { session with settings := assignment.apply session.settings })
  | .reset => (.done, [], { session with settings := {} })
  | .check => (.checked session.settings (session.settings.check .file), [], session)
  | .run =>
    let logged := TextGauge.run session.settings.operands session.settings.effectiveText
    match logged.result with
    | .error f => (.fault f, logged.events, session)
    | .ok report => (.report report, logged.events, session)

/-- The answers to requests in sequence, each with its events and the settings after it. -/
def askAll (session : Session) : List Request → List (Answer × List Event × Settings)
  | [] => []
  | request :: rest =>
    let (answer, events, session) := session.ask request
    (answer, events, session.settings) :: askAll session rest

end Session

end TextGauge
