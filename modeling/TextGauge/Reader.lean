/-!
# Readers

A **reader** takes a value off the front of a text and returns it with the rest of the text, or
refuses. All texts are read as lists of characters, so what a reader leaves is a suffix of what
it was given.

The one reader here that is not specific to a format is that of a **bracketed list**: elements
with commas between them up to a closing bracket, blanks around each. The readers of an element
and of blanks are parameters, so a format that nests its values ties the knot by itself.
-/

namespace TextGauge

/-- A function that reads a value off the front of a text. -/
abbrev Reader (α : Type) := List Char → Option (α × List Char)

namespace Reader

/-- Reads a fixed word. -/
def word : List Char → Reader Unit
  | [], cs => some ((), cs)
  | w :: ws, c :: cs => if c = w then word ws cs else none
  | _ :: _, [] => none

/-- Puts characters in front of those that have been read. -/
def prepend (cs : List Char) (result : Option (List Char × List Char)) :
    Option (List Char × List Char) :=
  result.map fun r => (cs ++ r.1, r.2)

/-- The value of a hexadecimal digit in either case. -/
def hexValue? (c : Char) : Option Nat :=
  if '0' ≤ c ∧ c ≤ '9' then some (c.toNat - '0'.toNat)
  else if 'a' ≤ c ∧ c ≤ 'f' then some (c.toNat - 'a'.toNat + 10)
  else if 'A' ≤ c ∧ c ≤ 'F' then some (c.toNat - 'A'.toNat + 10)
  else none

/-- The value of hexadecimal digits, read from the left onto a value. -/
def hexOnto : Nat → List Char → Option Nat
  | value, [] => some value
  | value, c :: cs => (hexValue? c).bind fun d => hexOnto (value * 16 + d) cs

section Bracketed

variable {α : Type} (close : Char) (blank : List Char → Option (List Char)) (element : Reader α)

/-- Reads the rest of a bracketed list after its opening bracket or a comma, its elements at most
`limit` many. `mayClose` says whether the closing bracket may stand here, `trailing` whether it
may follow a comma. -/
def elements (trailing : Bool) : Nat → Bool → Reader (List α)
  | 0, _, _ => none
  | limit + 1, mayClose, cs => do
    let cs ← blank cs
    if mayClose ∧ cs.head? = some close then
      return ([], cs.tail)
    let (x, cs) ← element cs
    let cs ← blank cs
    match cs with
    | [] => none
    | c :: rest =>
      if c = close then return ([x], rest)
      if c ≠ ',' then none
      let (xs, rest) ← elements trailing limit trailing rest
      return (x :: xs, rest)

/-- Reads a bracketed list after its opening bracket. Every element takes a character at least,
so the length of the text bounds their number. -/
def bracketed (trailing : Bool) : Reader (List α) := fun cs =>
  elements close blank element trailing (cs.length + 1) true cs

end Bracketed

end Reader

end TextGauge
