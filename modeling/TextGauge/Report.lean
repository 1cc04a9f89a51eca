import TextGauge.Fault
import TextGauge.Json.Printer

/-!
# Operands and reports

A run starts from two **operands** and a text, and ends in a **report**: the operands, their sum
and difference, the text, its length and its vowels. Nothing in a report says that its numbers
belong together; a report that a run produces does.

A report is shown in one of two ways: as four lines for a reader (`lines`), or as a JSON object
with the fields in the order of the structure (`toJson`).
-/

namespace TextGauge

/-- The two numbers of a run. -/
structure Operands where
  a : Int32
  b : Int32
  deriving DecidableEq, Repr

/-- The operands of a run that is given none. -/
def Operands.default : Operands := ⟨10, 3⟩

/-- The text of a run that is given none. -/
def defaultText : String := "Hello World!"

/-- What a run reports. -/
structure Report where
  a : Int32
  b : Int32
  sum : Int32
  difference : Int32
  text : String
  length : Nat
  vowels : Nat
  deriving DecidableEq, Repr

namespace Report

/-- The sum, as a line. -/
def sumLine (r : Report) : String :=
  "Addition: " ++ Decimal.text r.a.toInt ++ " + " ++ Decimal.text r.b.toInt ++ " = "
    ++ Decimal.text r.sum.toInt

/-- The difference, as a line. -/
def differenceLine (r : Report) : String :=
  "Subtraction: " ++ Decimal.text r.a.toInt ++ " - " ++ Decimal.text r.b.toInt ++ " = "
    ++ Decimal.text r.difference.toInt

/-- The length, as a line; the text stands in it as it is. -/
def lengthLine (r : Report) : String :=
  "String Length: " ++ r.text ++ " = " ++ Decimal.text r.length

/-- The vowels, as a line; the text stands in it as it is. -/
def vowelsLine (r : Report) : String :=
  "Vowel Count: " ++ r.text ++ " = " ++ Decimal.text r.vowels

/-- The four lines of a report. -/
def lines (r : Report) : List String :=
  [r.sumLine, r.differenceLine, r.lengthLine, r.vowelsLine]

/-- A report as a JSON value. -/
def toJson (r : Report) : Json :=
  .object
    [("a", .integer r.a.toInt), ("b", .integer r.b.toInt), ("sum", .integer r.sum.toInt),
     ("difference", .integer r.difference.toInt), ("text", .string r.text),
     ("length", .integer r.length), ("vowels", .integer r.vowels)]

end Report

end TextGauge
