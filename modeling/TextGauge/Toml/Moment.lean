import TextGauge.Decimal.Integer
import TextGauge.Reader

/-!
# Dates and times

The four written forms of a **moment**: a date, a time, a date with a time, and these with an
offset from universal time. A time may leave out its seconds, a fraction needs them, and a
second 60 is allowed for leap seconds.
-/

namespace TextGauge.Toml.Moment

/-- Reads exactly `n` digits. -/
def digits (n : Nat) : Reader Nat := fun cs =>
  let ds := cs.take n
  if ds.length = n ∧ ds.all Char.isDigit then some (Decimal.value ds, cs.drop n) else none

/-- Reads `n` digits with a value between two bounds. -/
def digitsIn (n low high : Nat) : Reader Nat := fun cs =>
  (digits n cs).bind fun (x, cs) => if low ≤ x ∧ x ≤ high then some (x, cs) else none

/-- Whether a year has a 29th of February. -/
def isLeap (year : Nat) : Bool :=
  year % 4 = 0 && (year % 100 ≠ 0 || year % 400 = 0)

/-- The number of days of a month. -/
def daysIn (year month : Nat) : Nat :=
  if month = 2 then (if isLeap year then 29 else 28)
  else if month = 4 ∨ month = 6 ∨ month = 9 ∨ month = 11 then 30
  else 31

/-- Reads a date. -/
def date : Reader Unit := fun cs => do
  let (year, cs) ← digits 4 cs
  let (_, cs) ← Reader.word ['-'] cs
  let (month, cs) ← digitsIn 2 1 12 cs
  let (_, cs) ← Reader.word ['-'] cs
  let (_, cs) ← digitsIn 2 1 (daysIn year month) cs
  return ((), cs)

/-- Reads a fraction of a second, if there is one. -/
def fraction : Reader Unit
  | '.' :: cs =>
    if (cs.takeWhile Char.isDigit).isEmpty then none else some ((), cs.dropWhile Char.isDigit)
  | cs => some ((), cs)

/-- Reads seconds, if there are any. -/
def seconds : Reader Unit
  | ':' :: cs => (digitsIn 2 0 60 cs).bind fun (_, cs) => fraction cs
  | cs => some ((), cs)

/-- Reads a time. -/
def time : Reader Unit := fun cs => do
  let (_, cs) ← digitsIn 2 0 23 cs
  let (_, cs) ← Reader.word [':'] cs
  let (_, cs) ← digitsIn 2 0 59 cs
  seconds cs

/-- Reads hours and minutes of an offset. -/
def offsetSpan : Reader Unit := fun cs => do
  let (_, cs) ← digitsIn 2 0 23 cs
  let (_, cs) ← Reader.word [':'] cs
  let (_, cs) ← digitsIn 2 0 59 cs
  return ((), cs)

/-- Reads an offset, if there is one. -/
def offset : Reader Unit
  | c :: cs =>
    if c = 'Z' ∨ c = 'z' then some ((), cs)
    else if c = '+' ∨ c = '-' then offsetSpan cs
    else some ((), c :: cs)
  | [] => some ((), [])

/-- Reads what may follow a date: a mark, a time, and perhaps an offset. -/
def afterDate : Reader Unit
  | c :: cs =>
    if c = 'T' ∨ c = 't' ∨ c = ' ' then (time cs).bind fun (_, cs) => offset cs
    else some ((), c :: cs)
  | [] => some ((), [])

/-- Whether a reader takes the whole of a text. -/
def reads (reader : Reader Unit) (cs : List Char) : Bool :=
  match reader cs with
  | some (_, []) => true
  | _ => false

/-- Whether a text is a date and nothing else. -/
def isDate (cs : List Char) : Bool :=
  reads date cs

/-- Whether a text is a moment. -/
def isMoment (cs : List Char) : Bool :=
  reads time cs || reads (fun cs => (date cs).bind fun (_, cs) => afterDate cs) cs

end TextGauge.Toml.Moment
