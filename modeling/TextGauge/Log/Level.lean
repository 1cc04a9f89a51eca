/-!
# Log levels

The five levels from the most urgent to the most talkative one. A level has a **word**, by which
settings and filters call it in any case, and a **label**, which stands in log lines.
-/

namespace TextGauge

/-- A log level, from the most urgent on. -/
inductive Level
  | error
  | warn
  | info
  | debug
  | trace
  deriving DecidableEq, Repr

namespace Level

/-- All levels in their order. -/
def all : List Level := [error, warn, info, debug, trace]

/-- How talkative a log of this level is. -/
def rank : Level → Nat
  | error => 0
  | warn => 1
  | info => 2
  | debug => 3
  | trace => 4

/-- The word for a level. -/
def word : Level → String
  | error => "error"
  | warn => "warn"
  | info => "info"
  | debug => "debug"
  | trace => "trace"

/-- The label of a level. -/
def label : Level → String
  | error => "ERROR"
  | warn => "WARN"
  | info => "INFO"
  | debug => "DEBUG"
  | trace => "TRACE"

/-- The level that a text calls, in any ASCII case. -/
def called? (s : String) : Option Level :=
  all.find? fun level => level.word.toList = s.toList.map Char.toLower

end Level

end TextGauge
