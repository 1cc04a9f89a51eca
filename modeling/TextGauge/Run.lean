import TextGauge.Log.Event
import TextGauge.Settings.Basic

/-!
# Runs

A run adds and subtracts the operands, measures the text, and reports. The arithmetic is that of
the integers; a result outside 32 bits is a fault and never a wrapped number. What happens on the
way is told by events, so a run yields a list of these beside its result (`Logged`).
-/

namespace TextGauge

/-- A result, or the fault in its place, with the events on the way to it. -/
structure Logged (α : Type) where
  events : List Event
  result : Except Fault α
  deriving Repr

/-- The exact result of an operation. -/
def Operation.apply : Operation → Int → Int → Int
  | addition, a, b => a + b
  | subtraction, a, b => a - b

/-- The result of an operation on two integers of 32 bits, if it is one. -/
def Operation.run (operation : Operation) (a b : Int32) : Except Fault Int32 :=
  match Decimal.int32? (operation.apply a.toInt b.toInt) with
  | some n => .ok n
  | none => .error (.overflow operation a b)

/-- The sum of two integers of 32 bits. -/
def add (a b : Int32) : Except Fault Int32 :=
  Operation.addition.run a b

/-- The difference of two integers of 32 bits. -/
def subtract (a b : Int32) : Except Fault Int32 :=
  Operation.subtraction.run a b

/-- The text in a terminated buffer, or the fault that it has no terminator. -/
def terminatedText (buffer : Bytes) : Except Fault Bytes :=
  (Text.ofTerminated? buffer).elim (.error (.unterminated (Text.length buffer))) .ok

/-- A run on operands and a text. -/
def run (operands : Operands) (text : String) : Logged Report :=
  let computing := Event.computing operands.a operands.b
  match add operands.a operands.b, subtract operands.a operands.b with
  | .error f, _ => ⟨[computing], .error f⟩
  | .ok _, .error f => ⟨[computing], .error f⟩
  | .ok sum, .ok difference =>
    let bytes := Utf8.encode text
    let length := Text.length bytes
    let vowels := Text.vowelCount bytes
    ⟨[computing, .analyzing text, .complete sum difference length vowels],
      .ok ⟨operands.a, operands.b, sum, difference, text, length, vowels⟩⟩

end TextGauge
