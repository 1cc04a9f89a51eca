import TextGauge.Fault
import TextGauge.Log.Level
import TextGauge.Utf8

/-!
# Events

What a run does is told by **events**. An event is what happened, with the values that belong to
it; its level, the part of the program it comes from (its **target**) and its message are
functions of that.
-/

namespace TextGauge

/-- One of the two operands. -/
inductive Operand
  | a
  | b
  deriving DecidableEq, Repr

/-- The name of an operand. -/
def Operand.name : Operand → String
  | a => "a"
  | b => "b"

/-- Something that happened in a run. -/
inductive Event
  /-- The command line replaces an operand. -/
  | overridden (operand : Operand) (value : Int32)
  /-- The settings were read from the file at this path. -/
  | loaded (path : Bytes)
  /-- The arithmetic on the operands begins. -/
  | computing (a b : Int32)
  /-- The text is about to be measured. -/
  | analyzing (text : String)
  /-- The report is complete. -/
  | complete (sum difference : Int32) (length vowels : Nat)
  /-- The run ends early. -/
  | failed (fault : Fault)
  deriving DecidableEq, Repr

namespace Event

/-- The level of an event. -/
def level : Event → Level
  | overridden .. | computing .. | analyzing _ => .debug
  | loaded _ | complete .. => .info
  | failed _ => .error

/-- The part of the program that an event comes from. -/
def target : Event → String
  | overridden .. => "simple_program::config::toml_config"
  | computing .. | analyzing _ | complete .. => "simple_program::core::runner"
  | loaded _ | failed _ => "simple_program"

/-- The message of an event. -/
def message : Event → String
  | overridden operand value =>
    "Operand " ++ operand.name ++ " overridden to " ++ Decimal.text value.toInt
  | loaded path => "Loaded configuration from " ++ Utf8.decodeLossy path
  | computing a b =>
    "Computing arithmetic for a=" ++ Decimal.text a.toInt ++ " b=" ++ Decimal.text b.toInt
  | analyzing text => "Analyzing text " ++ Text.Echo.quoted text
  | complete sum difference length vowels =>
    "Run complete: sum=" ++ Decimal.text sum.toInt ++ ", difference="
      ++ Decimal.text difference.toInt ++ ", length=" ++ Decimal.text length ++ ", vowels="
      ++ Decimal.text vowels
  | failed fault =>
    "❌ Run failed: " ++ fault.message ++ " (Category: " ++ fault.category.name ++ ", Severity: "
      ++ fault.severity.name ++ ")"

end Event

end TextGauge
