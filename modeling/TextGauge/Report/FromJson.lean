import TextGauge.Report

/-!
# Reading reports from JSON values

A report, and a pair of operands, is read from a JSON object that has all its fields, or from an
array of their values. Integers have to be written as integers and to lie in the range of their
field; nothing is converted.

An object may have other members, which are ignored. Its fields are looked at in alphabetical
order, whatever the order of the members: the first bad value is the fault, and if there is none
the first missing field in the order of the record is. An array is read from the left, and its
length is the fault only if none of its elements is.
-/

namespace TextGauge

/-- The shape of a report. -/
def Report.record : Record :=
  ⟨"Report", ["a", "b", "sum", "difference", "text", "length", "vowels"]⟩

/-- The shape of operands. -/
def Operands.record : Record :=
  ⟨"Operands", ["a", "b"]⟩

namespace Json

/-- What a JSON value is found to be. -/
def found : Json → Found
  | null => .null
  | boolean b => .boolean b
  | integer n => .integer n
  | float x => .float x floatStyle
  | string s => .string s
  | array _ => .sequence
  | object _ => .map

/-- A value as an integer of 32 bits. -/
def toInt32 : Json → Except Mismatch Int32
  | integer n => (Decimal.int32? n).elim (.error (.range n .int32)) .ok
  | x => .error (.kind x.found .int32)

/-- A value as a size of 64 bits. -/
def toSize : Json → Except Mismatch Nat
  | integer n => if 0 ≤ n ∧ n < Int.pow 2 64 then .ok n.toNat else .error (.range n .size)
  | x => .error (.kind x.found .size)

/-- A value as a text. -/
def toText : Json → Except Mismatch String
  | string s => .ok s
  | x => .error (.kind x.found .string)

/-- The field of an object, if it is there, as what `convert` makes of it. -/
def field? {α : Type} (members : List (String × Json)) (convert : Json → Except Mismatch α)
    (name : String) : Except Mismatch (Option α) :=
  match members.lookup name with
  | none => .ok none
  | some x => (convert x).map some

/-- A field that has to be there. -/
def required {α : Type} (name : String) : Option α → Except Mismatch α
  | none => .error (.missing name)
  | some x => .ok x

/-- The next element of an array that is read as a record of which `read` fields are read, and
the elements after it. -/
def next {α : Type} (record : Record) (read : Nat) (convert : Json → Except Mismatch α) :
    List Json → Except Mismatch (α × List Json)
  | [] => .error (.short read record)
  | x :: rest => (convert x).map (·, rest)

/-- The end of an array that is read as a record: no element may be left. -/
def finish {α : Type} (read : Nat) (value : α) : List Json → Except Mismatch α
  | [] => .ok value
  | rest => .error (.long (read + rest.length))

end Json

open Json in
/-- The report that a JSON value holds. -/
def Report.ofJson : Json → Except Mismatch Report
  | .object members => do
    let a ← field? members toInt32 "a"
    let b ← field? members toInt32 "b"
    let difference ← field? members toInt32 "difference"
    let length ← field? members toSize "length"
    let sum ← field? members toInt32 "sum"
    let text ← field? members toText "text"
    let vowels ← field? members toSize "vowels"
    return {
      a := ← required "a" a
      b := ← required "b" b
      sum := ← required "sum" sum
      difference := ← required "difference" difference
      text := ← required "text" text
      length := ← required "length" length
      vowels := ← required "vowels" vowels }
  | .array xs => do
    let (a, xs) ← next record 0 toInt32 xs
    let (b, xs) ← next record 1 toInt32 xs
    let (sum, xs) ← next record 2 toInt32 xs
    let (difference, xs) ← next record 3 toInt32 xs
    let (text, xs) ← next record 4 toText xs
    let (length, xs) ← next record 5 toSize xs
    let (vowels, xs) ← next record 6 toSize xs
    finish 7 ⟨a, b, sum, difference, text, length, vowels⟩ xs
  | x => .error (.kind x.found (.record record))

open Json in
/-- The operands that a JSON value holds. -/
def Operands.ofJson : Json → Except Mismatch Operands
  | .object members => do
    let a ← field? members toInt32 "a"
    let b ← field? members toInt32 "b"
    return { a := ← required "a" a, b := ← required "b" b }
  | .array xs => do
    let (a, xs) ← next record 0 toInt32 xs
    let (b, xs) ← next record 1 toInt32 xs
    finish 2 ⟨a, b⟩ xs
  | x => .error (.kind x.found (.record record))

end TextGauge
