import TextGauge.Decimal.Binary64

/-!
# TOML values

A value as a document holds it, with what no reader of the document can tell apart left out: a
table lists its entries whichever way they were written, and a date or a time is kept as its
text. Keys of a table are distinct.
-/

namespace TextGauge.Toml

/-- A TOML value. -/
inductive Value
  | string (s : String)
  | integer (n : Int)
  /-- What is written as an integer but has no value: a radix mark without digits after it, or
  characters that are no digits behind an underscore. It counts as an integer that no integer type
  holds. -/
  | hugeInteger
  | float (x : Binary64)
  /-- A number written with digits that is beyond the largest finite float. -/
  | hugeFloat
  | boolean (b : Bool)
  /-- A date, a time, or both. -/
  | moment (written : String)
  | array (elements : List Value)
  | table (entries : List (String × Value))
  deriving Repr

/-- The entries of a table, in the order in which they were first written. -/
abbrev Entries := List (String × Value)

end TextGauge.Toml
