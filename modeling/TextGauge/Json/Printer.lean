import TextGauge.Json.Basic

/-!
# Writing JSON

The written form is **indented**: each element of an array and each member of an object stands on
a line of its own, two spaces further in than the brackets; an empty array or object is written
on one line. In a string the double quote, the backslash and the control characters below U+0020
are escaped, and nothing else is.
-/

namespace TextGauge.Json

/-- One character of a written string. -/
def escape (c : Char) : List Char :=
  if c = '"' then ['\\', '"']
  else if c = '\\' then ['\\', '\\']
  else if c = '\x08' then ['\\', 'b']
  else if c = '\t' then ['\\', 't']
  else if c = '\n' then ['\\', 'n']
  else if c = '\x0c' then ['\\', 'f']
  else if c = '\r' then ['\\', 'r']
  else if c.toNat < 0x20 then
    ['\\', 'u', '0', '0', Nat.digitChar (c.toNat / 16), Nat.digitChar (c.toNat % 16)]
  else [c]

/-- A written string. -/
def quote (s : String) : List Char :=
  '"' :: (s.toList.flatMap escape ++ ['"'])

/-- A new line at a depth. -/
def line (depth : Nat) : List Char :=
  '\n' :: List.replicate (2 * depth) ' '

/-- Entries between brackets, each on its own line. -/
def block (opening closing : Char) (depth : Nat) (entries : List (List Char)) : List Char :=
  if entries.isEmpty then [opening, closing]
  else
    opening :: (List.intercalate [','] (entries.map (line (depth + 1) ++ ·))
      ++ line depth ++ [closing])

mutual

/-- The written form of a value whose brackets stand at a depth. -/
def writeAt (depth : Nat) : Json → List Char
  | null => ['n', 'u', 'l', 'l']
  | boolean true => ['t', 'r', 'u', 'e']
  | boolean false => ['f', 'a', 'l', 's', 'e']
  | integer n => Decimal.ofInt n
  | float (.finite negative m q) => ((Binary64.finite negative m q).text floatStyle).toList
  | float _ => ['n', 'u', 'l', 'l']
  | string s => quote s
  | array elements => block '[' ']' depth (writeElements (depth + 1) elements)
  | object members => block '{' '}' depth (writeMembers (depth + 1) members)

/-- The written elements of an array. -/
def writeElements (depth : Nat) : List Json → List (List Char)
  | [] => []
  | x :: xs => writeAt depth x :: writeElements depth xs

/-- The written members of an object. -/
def writeMembers (depth : Nat) : List (String × Json) → List (List Char)
  | [] => []
  | (name, x) :: rest =>
    (quote name ++ ':' :: ' ' :: writeAt depth x) :: writeMembers depth rest

end

/-- The written form of a value. -/
def write (x : Json) : String :=
  String.ofList (writeAt 0 x)

end TextGauge.Json
