import TextGauge.Report
import TextGauge.Text.Measure

/-!
# Settings

The four settings of a run are the operands, the text and the log level, each of them set or not.
They come from a settings file and from the command line, where the command line wins setting by
setting (`overriddenBy`), and a setting that neither gives has a built-in value.

A run checks its **effective** values before it starts: the text must not hide a terminator
before its end, and the log level has to be one of those there are, in any ASCII case.
-/

namespace TextGauge

/-- The settings that a file or a command line gives. -/
structure Settings where
  a : Option Int32 := none
  b : Option Int32 := none
  text : Option String := none
  level : Option String := none
  deriving DecidableEq, Repr

/-- The log level of a run that is given none. -/
def defaultLevel : String := "info"

/-- Where the effective settings of a run come from: it decides by what names faults call them. -/
inductive Source
  | commandLine
  | file
  deriving DecidableEq, Repr

/-- The name of the setting that gives the text. -/
def Source.textName : Source → String
  | commandLine => "--text"
  | file => "input.text"

/-- The name of the setting that gives the log level. -/
def Source.levelName : Source → String
  | commandLine => "--log-level"
  | file => "logging.level"

/-! ### Checks -/

/-- Refuses a text with a zero byte; the fault shows the text as an echo. -/
def checkText (name text : String) : Except Fault Unit :=
  match Text.nulOffset? (Utf8.encode text) with
  | some offset => .error (.value name (Text.Echo.bare text) (.nulAt offset))
  | none => .ok ()

/-- Refuses a log level that is not one of those there are. -/
def checkLevel (name level : String) : Except Fault Unit :=
  if (Level.called? level).isSome then .ok ()
  else .error (.value name level .unknownLevel)

namespace Settings

/-- The operands of a run with these settings. -/
def operands (s : Settings) : Operands :=
  ⟨s.a.getD Operands.default.a, s.b.getD Operands.default.b⟩

/-- The text of a run with these settings. -/
def effectiveText (s : Settings) : String :=
  s.text.getD defaultText

/-- The log level of a run with these settings. -/
def effectiveLevel (s : Settings) : String :=
  s.level.getD defaultLevel

/-- These settings, with those that the others give in their place. -/
def overriddenBy (s others : Settings) : Settings where
  a := others.a <|> s.a
  b := others.b <|> s.b
  text := others.text <|> s.text
  level := others.level <|> s.level

/-- Checks the effective values: the text first, then the log level. -/
def check (source : Source) (s : Settings) : Except Fault Unit := do
  checkText source.textName s.effectiveText
  checkLevel source.levelName s.effectiveLevel

end Settings

end TextGauge
