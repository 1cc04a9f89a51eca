import TextGauge.Decimal.Binary64
import TextGauge.Decimal.Integer
import TextGauge.Text.Echo

/-!
# Data of the wrong shape

A report and the settings are read from **data values** – of a JSON text, of a TOML document –
that may have any shape. A `Mismatch` says what is wrong with a value: what was found and what
was wanted, which field is missing or unknown, how many elements a list has. Its `message` is the
sentence that says so.
-/

namespace TextGauge

/-- A group of named fields that a data value is read as. -/
structure Record where
  /-- The name by which messages call the group. -/
  name : String
  /-- The names of the fields, in the order of a list that stands for the group. -/
  fields : List String
  deriving DecidableEq, Repr

/-- What a data value was found to be. -/
inductive Found
  | null
  | boolean (b : Bool)
  /-- An integer that fits in 64 bits, signed or unsigned. -/
  | integer (n : Int)
  /-- An integer that fits in 128 bits, signed or unsigned, but not in 64. -/
  | wide (n : Int)
  /-- A float, and how floats are written where it was found. -/
  | float (x : Binary64) (style : Binary64.Style)
  | string (s : String)
  | sequence
  | map
  deriving DecidableEq, Repr

/-- What a data value was wanted to be. -/
inductive Wanted
  /-- A signed integer of 32 bits. -/
  | int32
  /-- A size: an unsigned integer of 64 bits. -/
  | size
  | string
  | record (r : Record)
  deriving DecidableEq, Repr

/-- What is wrong with a data value. -/
inductive Mismatch
  /-- A value of another kind than wanted. -/
  | kind (found : Found) (wanted : Wanted)
  /-- An integer outside the wanted range. -/
  | range (n : Int) (wanted : Wanted)
  /-- A field that has to be there and is not. -/
  | missing (field : String)
  /-- A field that the record does not have. -/
  | unknown (field : String) (record : Record)
  /-- A list with too few elements for the record. -/
  | short (length : Nat) (record : Record)
  /-- A list with elements left over. -/
  | long (length : Nat)
  /-- An integer that no integer type holds. -/
  | hugeInteger
  /-- A written number beyond the largest finite one. -/
  | hugeFloat
  deriving DecidableEq, Repr

/-! ### Wording -/

/-- A name or value between backquotes. -/
def ticked (s : String) : String :=
  "`" ++ s ++ "`"

/-- The wording of what was found. -/
def Found.text : Found → String
  | null => "null"
  | boolean b => "boolean " ++ ticked (if b then "true" else "false")
  | integer n => "integer " ++ ticked (Decimal.text n)
  | wide n =>
    "integer " ++ ticked (Decimal.text n) ++ if n < Int.pow 2 127 then " as i128" else " as u128"
  | float x style => "floating point " ++ ticked (x.text style)
  | string s => "string " ++ Text.Echo.quoted s
  | sequence => "sequence"
  | map => "map"

/-- The wording of what was wanted. -/
def Wanted.text : Wanted → String
  | int32 => "i32"
  | size => "usize"
  | string => "a string"
  | record r => "struct " ++ r.name

/-- A choice among names: one, two joined by “or”, or more as a list. -/
def oneOf : List String → String
  | [x] => ticked x
  | [x, y] => ticked x ++ " or " ++ ticked y
  | xs => "one of " ++ ", ".intercalate (xs.map ticked)

/-- A number of elements. -/
def elements (n : Nat) : String :=
  Decimal.text n ++ if n = 1 then " element" else " elements"

/-- The sentence that says what is wrong. -/
def Mismatch.message : Mismatch → String
  | kind found wanted => "invalid type: " ++ found.text ++ ", expected " ++ wanted.text
  | range n wanted =>
    "invalid value: integer " ++ ticked (Decimal.text n) ++ ", expected " ++ wanted.text
  | missing field => "missing field " ++ ticked field
  | unknown field record => "unknown field " ++ ticked field ++ ", expected " ++ oneOf record.fields
  | short length record =>
    "invalid length " ++ Decimal.text length ++ ", expected struct " ++ record.name ++ " with "
      ++ elements record.fields.length
  | long length => "invalid length " ++ Decimal.text length ++ ", expected fewer elements in array"
  | hugeInteger => "integer number overflowed"
  | hugeFloat => "floating-point number overflowed"

end TextGauge
