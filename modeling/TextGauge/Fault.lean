import TextGauge.Log.Level
import TextGauge.Mismatch
import TextGauge.Text.Place

/-!
# Faults

Whatever ends a run early is a `Fault`, and its constructors are the **causes**: a file that
cannot be read, a report or a settings file of the wrong shape, a setting with a value that is
not allowed, a buffer without terminator, an arithmetic result outside 32 bits.

A fault has three wordings: `message` for the log, `notice` for the person at the terminal, and
`advice` on what to do about it. Its `category` says where to look for the cause and its
`severity` how bad it is; the severity alone decides the exit code.
-/

namespace TextGauge

/-! ### Causes -/

/-- Why a file could not be read. -/
inductive FileFault
  /-- There is no file at the path. -/
  | missing
  /-- The path goes through a file as if it were a directory. -/
  | notDirectory
  /-- The path is that of a directory. -/
  | directory
  /-- The path, or a name in it, is longer than the system allows. -/
  | nameTooLong
  /-- The content is not UTF-8. -/
  | notUtf8
  /-- A fault known by its words only. -/
  | described (words : String)
  deriving DecidableEq, Repr

/-- What is wrong with a settings file. -/
inductive SettingsFault
  /-- It is not a TOML document. -/
  | malformed
  /-- It is a TOML document of the wrong shape. -/
  | shape (mismatch : Mismatch)
  /-- A fault known by its words only. -/
  | described (words : String)
  deriving DecidableEq, Repr

/-- What is wrong with a report that is read or written. -/
inductive ReportFault
  /-- It is read from a data value of the wrong shape. -/
  | shape (mismatch : Mismatch)
  /-- A fault known by its words only, at a place of a text, if it has one. -/
  | described (words : String) (place : Option Text.Place)
  deriving DecidableEq, Repr

/-- Why the value of a setting is not allowed. -/
inductive Objection
  /-- The text has a zero byte, the first one at this offset. -/
  | nulAt (offset : Nat)
  /-- The log level is none of those there are. -/
  | unknownLevel
  /-- An objection known by its words only. -/
  | described (words : String)
  deriving DecidableEq, Repr

/-- The two arithmetic operations of a run. -/
inductive Operation
  | addition
  | subtraction
  deriving DecidableEq, Repr

/-- Why a run ends early. -/
inductive Fault
  /-- A file cannot be read. -/
  | file (cause : FileFault)
  /-- A report cannot be read or written. -/
  | report (cause : ReportFault)
  /-- A settings file cannot be understood. -/
  | settings (cause : SettingsFault)
  /-- The setting `name` has a value that is not allowed; `shown` is the value as messages have
  it. -/
  | value (name shown : String) (objection : Objection)
  /-- A buffer of this many bytes has no terminator. -/
  | unterminated (length : Nat)
  /-- The result of an operation on two operands does not fit in 32 bits. -/
  | overflow (operation : Operation) (a b : Int32)
  deriving DecidableEq, Repr

/-! ### Classes -/

/-- Where the cause of a fault lies. -/
inductive Category
  | system
  | configuration
  | input
  | computation
  deriving DecidableEq, Repr

/-- How bad a fault is, from the mildest on. -/
inductive Severity
  | low
  | medium
  | high
  | critical
  deriving DecidableEq, Repr

/-- The place of a severity in their order. -/
def Severity.rank : Severity → Nat
  | low => 0
  | medium => 1
  | high => 2
  | critical => 3

/-- The order of two severities. -/
def Severity.compare (x y : Severity) : Ordering :=
  Ord.compare x.rank y.rank

/-- The graver of two severities. -/
def Severity.max (x y : Severity) : Severity :=
  if x.rank ≤ y.rank then y else x

/-- The exit code of a run that ended with this severity. The codes do not follow the order of
the severities: 2 stands for arithmetic and 1 for input that has to be corrected. -/
def Severity.exitCode : Severity → Nat
  | low => 0
  | medium => 2
  | high => 1
  | critical => 3

/-- The category of a fault. -/
def Fault.category : Fault → Category
  | file _ | report _ => .system
  | settings _ | value .. => .configuration
  | unterminated _ => .input
  | overflow .. => .computation

/-- The severity of a fault. -/
def Fault.severity : Fault → Severity
  | file _ | report _ => .critical
  | settings _ | value .. | unterminated _ => .high
  | overflow .. => .medium

/-! ### Wordings -/

/-- The wording of a fault of a file. -/
def FileFault.message : FileFault → String
  | missing => "No such file or directory (os error 2)"
  | notDirectory => "Not a directory (os error 20)"
  | directory => "Is a directory (os error 21)"
  | nameTooLong => "File name too long (os error 36)"
  | notUtf8 => "stream did not contain valid UTF-8"
  | described words => words

/-- The wording of a fault of a settings file. -/
def SettingsFault.message : SettingsFault → String
  | malformed => "TOML syntax error"
  | shape mismatch => mismatch.message
  | described words => words

/-- The fault of a report that is known by its words only; they may end with its place. -/
def ReportFault.ofWords (words : String) : ReportFault :=
  let (words, place) := Text.Place.splitOff words.toList
  .described (String.ofList words) place

/-- The wording of a fault of a report. -/
def ReportFault.message : ReportFault → String
  | shape mismatch => mismatch.message
  | described words place =>
    words ++ String.ofList ((place.map Text.Place.written).getD [])

/-- The wording of an objection to a value. -/
def Objection.message : Objection → String
  | nulAt offset => "Text contains an embedded NUL byte at offset " ++ Decimal.text offset
  | unknownLevel =>
    "Unsupported level. Valid levels: " ++ ", ".intercalate (Level.all.map Level.word)
  | described words => words

/-- The sign of an operation. -/
def Operation.sign : Operation → String
  | addition => "+"
  | subtraction => "-"

/-- An operation on two operands, written out. -/
def Operation.term (operation : Operation) (a b : Int32) : String :=
  Decimal.text a.toInt ++ " " ++ operation.sign ++ " " ++ Decimal.text b.toInt

/-- The name of a category. -/
def Category.name : Category → String
  | system => "System"
  | configuration => "Configuration"
  | input => "Input"
  | computation => "Computation"

/-- The name of a severity. -/
def Severity.name : Severity → String
  | low => "Low"
  | medium => "Medium"
  | high => "High"
  | critical => "Critical"

/-- A fault as the log has it. -/
def Fault.message : Fault → String
  | file cause => "IO error: " ++ cause.message
  | report cause => "Serialization error: " ++ cause.message
  | settings cause => "Config parse error: " ++ cause.message
  | value name shown objection =>
    "Invalid value for '" ++ name ++ "': '" ++ shown ++ "' (" ++ objection.message ++ ")"
  | unterminated length => "Input of " ++ Decimal.text length ++ " bytes has no NUL terminator"
  | overflow operation a b =>
    "Arithmetic overflow: " ++ operation.term a b ++ " does not fit in i32"

/-- A fault as the person at the terminal reads it. -/
def Fault.notice : Fault → String
  | file cause => "Could not read or write a file: " ++ cause.message
  | report cause => "Could not render the report: " ++ cause.message
  | settings cause => "The configuration file is not valid TOML: " ++ cause.message
  | value name _ objection => "Setting '" ++ name ++ "' is invalid: " ++ objection.message
  | unterminated _ => "The input text ends without a terminator"
  | overflow operation a b => operation.term a b ++ " is out of range for a 32-bit integer"

/-- What to do about a fault. -/
def Fault.advice : Fault → String
  | file _ => "Check that the file exists and is readable"
  | report _ => "Run again without --json"
  | settings _ => "Fix the TOML syntax in the config file"
  | value .. => "Correct the value named above and run again"
  | unterminated _ => "Append a NUL byte to the end of the input"
  | overflow .. => "Use smaller operands"

end TextGauge
