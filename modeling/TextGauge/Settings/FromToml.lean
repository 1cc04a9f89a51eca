import TextGauge.Placeholder
import TextGauge.Settings.Basic
import TextGauge.Toml.Document

/-!
# Settings files

A settings file is a TOML document with the tables `operands` (keys `a`, `b`), `input` (key
`text`) and `logging` (key `level`), all of them optional. An array may stand for a table: its
elements are the values of the keys in order, and what is left over is ignored. Nothing is
converted: an operand has to be an integer of 32 bits and the others have to be strings.

Tables are looked at in the **order of their keys**, by UTF-8 bytes – which is the order of code
points – and depth first, so the fault of a document with several does not depend on the order in
which it is written.

Before it is parsed, the placeholders of the file are replaced by the values of environment
variables.
-/

namespace TextGauge

namespace Toml

/-- Floats of a document are written positionally, and of two equally near decimals the larger is
taken. -/
def floatStyle : Binary64.Style := ⟨.up, none⟩

/-- What a TOML value is found to be where something else is wanted. An integer is called by the
narrowest type that holds it; if none does that is the fault. -/
def Value.mismatch (wanted : Wanted) : Value → Mismatch
  | string s => .kind (.string s) wanted
  | integer n =>
    if -Int.pow 2 63 ≤ n ∧ n < Int.pow 2 64 then .kind (.integer n) wanted
    else if -Int.pow 2 127 ≤ n ∧ n < Int.pow 2 128 then .kind (.wide n) wanted
    else .hugeInteger
  | hugeInteger => .hugeInteger
  | float x => .kind (.float x floatStyle) wanted
  | hugeFloat => .hugeFloat
  | boolean b => .kind (.boolean b) wanted
  | moment _ => .kind .map wanted
  | array _ => .kind .sequence wanted
  | table _ => .kind .map wanted

/-- A value as an integer of 32 bits. -/
def Value.toInt32 : Value → Except Mismatch Int32
  | integer n =>
    match Decimal.int32? n with
    | some i => .ok i
    | none =>
      if -Int.pow 2 63 ≤ n ∧ n < Int.pow 2 64 then .error (.range n .int32)
      else .error ((integer n).mismatch .int32)
  | v => .error (v.mismatch .int32)

/-- A value as a text. -/
def Value.toText : Value → Except Mismatch String
  | string s => .ok s
  | v => .error (v.mismatch .string)

/-- The entries of a table in the order of their keys. -/
def sorted (entries : Entries) : Entries :=
  entries.mergeSort fun x y => decide (x.1 ≤ y.1)

/-- The key under which a moment that stands for a table would keep its text. -/
def momentKey : String := "$__toml_private_datetime"

/-- A value where a table is wanted and there is none. -/
def Value.noTable (record : Record) : Value → Mismatch
  | moment _ => .unknown momentKey record
  | v => v.mismatch (.record record)

end Toml

namespace Settings

open Toml

/-- The shape of the table `operands`. -/
def operandsRecord : Record := ⟨"OperandsConfig", ["a", "b"]⟩

/-- The shape of the table `input`. -/
def inputRecord : Record := ⟨"InputConfig", ["text"]⟩

/-- The shape of the table `logging`. -/
def loggingRecord : Record := ⟨"LoggingConfig", ["level"]⟩

/-- The shape of a settings file. -/
def fileRecord : Record := ⟨"TomlConfig", ["operands", "input", "logging"]⟩

/-- Adds an entry of the table `operands`. -/
def addOperand (s : Settings) (entry : String × Value) : Except Mismatch Settings :=
  if entry.1 = "a" then entry.2.toInt32.map fun n => { s with a := some n }
  else if entry.1 = "b" then entry.2.toInt32.map fun n => { s with b := some n }
  else .error (.unknown entry.1 operandsRecord)

/-- Adds what the key `operands` leads to. -/
def addOperands (s : Settings) : Value → Except Mismatch Settings
  | .table entries => (sorted entries).foldlM addOperand s
  | .array [] => .error (.short 0 operandsRecord)
  | .array [x] => x.toInt32.bind fun _ => .error (.short 1 operandsRecord)
  | .array (x :: y :: _) => do
    let a ← x.toInt32
    let b ← y.toInt32
    return { s with a := some a, b := some b }
  | v => .error (v.noTable operandsRecord)

/-- The text under the only key of a table of the given shape, if it is there. -/
def onlyText (record : Record) (key : String) : Value → Except Mismatch (Option String)
  | .table entries =>
    (sorted entries).foldlM
      (fun _ entry =>
        if entry.1 = key then entry.2.toText.map some else .error (.unknown entry.1 record))
      none
  | .array [] => .error (.short 0 record)
  | .array (x :: _) => x.toText.map some
  | v => .error (v.noTable record)

/-- Adds an entry of a settings file. -/
def addTable (s : Settings) (entry : String × Value) : Except Mismatch Settings :=
  if entry.1 = "operands" then s.addOperands entry.2
  else if entry.1 = "input" then
    (onlyText inputRecord "text" entry.2).map fun text => { s with text := text }
  else if entry.1 = "logging" then
    (onlyText loggingRecord "level" entry.2).map fun level => { s with level := level }
  else .error (.unknown entry.1 fileRecord)

/-- The settings in the table of a document. -/
def ofTable (entries : Entries) : Except Mismatch Settings :=
  (sorted entries).foldlM addTable {}

/-- The settings in a TOML document. -/
def ofToml (document : String) : Except Fault Settings :=
  match Toml.parse? document with
  | none => .error (.settings .malformed)
  | some entries => (ofTable entries).mapError fun m => .settings (.shape m)

/-- The settings in the text of a settings file, whose placeholders stand for the values that
`lookup` gives. -/
def ofFileText (lookup : String → Option String) (content : String) : Except Fault Settings :=
  ofToml (Placeholder.substitute lookup content)

end Settings

end TextGauge
