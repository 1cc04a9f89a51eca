import TextGauge.Decimal.Integer
import TextGauge.Reader

/-!
# Places in a text

A **place** is a line and a column, counted from 1. A message that speaks of a place ends with it:
` at line 7 column 1`. `Place.splitOff` takes a place off the end of such a message; it reads any
number of leading zeros, which are not written again, but no number above 64 bits.
-/

namespace TextGauge.Text

/-- A line and a column of a text. -/
structure Place where
  line : Nat
  column : Nat
  deriving DecidableEq, Repr

namespace Place

/-- The word before the line of a place. -/
def lineWord : List Char := [' ', 'a', 't', ' ', 'l', 'i', 'n', 'e', ' ']

/-- The word between the line and the column of a place. -/
def columnWord : List Char := [' ', 'c', 'o', 'l', 'u', 'm', 'n', ' ']

/-- The end of a message that speaks of a place. -/
def written (place : Place) : List Char :=
  lineWord ++ Decimal.ofNat place.line ++ columnWord ++ Decimal.ofNat place.column

/-- The value of digits, if it fits in 64 bits. -/
def number? (ds : List Char) : Option Nat :=
  (Decimal.nat? ds).filter (· < Nat.pow 2 64)

/-- The digits at the end of a text that is given backwards, in their order, and the text before
them, backwards still. -/
def lastDigits (reversed : List Char) : List Char × List Char :=
  ((reversed.takeWhile Char.isDigit).reverse, reversed.dropWhile Char.isDigit)

/-- The text before the place at its end, and the place. -/
def split? (message : List Char) : Option (List Char × Place) := do
  let (columnDigits, before) := lastDigits message.reverse
  let column ← number? columnDigits
  let (_, before) ← Reader.word columnWord.reverse before
  let (lineDigits, before) := lastDigits before
  let line ← number? lineDigits
  let (_, before) ← Reader.word lineWord.reverse before
  return (before.reverse, ⟨line, column⟩)

/-- A message without the place at its end, and the place, if there is one. A place without a
line, line 0, is dropped. -/
def splitOff (message : List Char) : List Char × Option Place :=
  match split? message with
  | none => (message, none)
  | some (before, place) => (before, if place.line = 0 then none else some place)

end Place

end TextGauge.Text
