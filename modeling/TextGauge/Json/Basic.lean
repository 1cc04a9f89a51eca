import TextGauge.Decimal.Binary64
import TextGauge.Decimal.Integer

/-!
# JSON values

A JSON value keeps apart two kinds of number: an **integer** is written with digits only and fits
in 64 bits, signed or unsigned; every other number is a binary64 **float**, also one that is
written with a point or an exponent and happens to be whole.

An object lists its members in the order in which they are written. Of members with one name the
last counts (`put`).
-/

namespace TextGauge

/-- A JSON value. -/
inductive Json
  | null
  | boolean (b : Bool)
  | integer (n : Int)
  | float (x : Binary64)
  | string (s : String)
  | array (elements : List Json)
  | object (members : List (String × Json))
  deriving Repr

namespace Json

/-- Floats are written with an exponent below `10^-5` and from `10^16` on, and of two equally near
decimals the one with an even last digit is taken. -/
def floatStyle : Binary64.Style := ⟨.even, some (-5, 15)⟩

/-- Sets a member: in its old place if the name is taken, else at the end. -/
def put (name : String) (value : Json) : List (String × Json) → List (String × Json)
  | [] => [(name, value)]
  | (name', value') :: rest =>
    if name' = name then (name, value) :: rest else (name', value') :: put name value rest

/-- The members that a list of written ones amounts to. -/
def membersOf (written : List (String × Json)) : List (String × Json) :=
  written.foldl (fun members m => put m.1 m.2 members) []

/-- The member of an object with this name. -/
def member? (name : String) : Json → Option Json
  | object members => members.lookup name
  | _ => none

end Json

end TextGauge
