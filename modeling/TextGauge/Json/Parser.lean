import TextGauge.Json.Basic
import TextGauge.Reader

/-!
# Reading JSON

The grammar is that of the JSON standard, with nesting limited to `Json.deepest`. The reader of a
value is recursive in the depth that is left: an array read with `depth + 1` has elements read
with `depth`.

Reading a **float** is not correctly rounded. The digits are taken into a significand of 64 bits
as long as they fit, later ones only shift it, and the significand is then scaled by one power of
ten with one rounding of its own.
-/

namespace TextGauge.Json

open Reader (prepend)

/-- The deepest nesting of arrays and objects that is read. -/
def deepest : Nat := 128

/-- Skips blanks. -/
def skipBlank (cs : List Char) : List Char :=
  cs.dropWhile fun c => c = ' ' ∨ c = '\t' ∨ c = '\n' ∨ c = '\r'

/-! ### Strings -/

/-- The character behind a one-letter escape. -/
def unescape? (c : Char) : Option Char :=
  if c = '"' ∨ c = '\\' ∨ c = '/' then some c
  else if c = 'b' then some '\x08'
  else if c = 'f' then some '\x0c'
  else if c = 'n' then some '\n'
  else if c = 'r' then some '\r'
  else if c = 't' then some '\t'
  else none

/-- Reads a string after its opening quote, or after an escape that gave the first half `high` of
a surrogate pair, which only an escape with the second half may follow. -/
def stringBody : Option Nat → Reader (List Char)
  | none, '"' :: rest => some ([], rest)
  | some high, '\\' :: 'u' :: a :: b :: c :: d :: rest =>
    (Reader.hexOnto 0 [a, b, c, d]).bind fun low =>
      if 0xDC00 ≤ low ∧ low ≤ 0xDFFF then
        prepend [Char.ofNat (0x10000 + (high - 0xD800) * 0x400 + (low - 0xDC00))]
          (stringBody none rest)
      else none
  | some _, _ => none
  | none, '\\' :: 'u' :: a :: b :: c :: d :: rest =>
    (Reader.hexOnto 0 [a, b, c, d]).bind fun n =>
      if 0xD800 ≤ n ∧ n ≤ 0xDBFF then stringBody (some n) rest
      else if 0xDC00 ≤ n ∧ n ≤ 0xDFFF then none
      else prepend [Char.ofNat n] (stringBody none rest)
  | none, '\\' :: c :: rest => (unescape? c).bind fun d => prepend [d] (stringBody none rest)
  | none, c :: rest =>
    if c.toNat < 0x20 ∨ c = '\\' then none else prepend [c] (stringBody none rest)
  | none, [] => none

/-- Reads a string. -/
def string? : Reader String
  | '"' :: rest => (stringBody none rest).map fun r => (String.ofList r.1, r.2)
  | _ => none

/-! ### Numbers -/

/-- A number as it is written. -/
structure Numeral where
  negative : Bool
  whole : List Char
  /-- The digits after the point. -/
  fraction : Option (List Char)
  /-- Sign and digits of the exponent. -/
  exponent : Option (Bool × List Char)

/-- The largest unsigned integer of 64 bits. -/
def maxSignificand : Nat := Nat.pow 2 64 - 1

/-- Takes digits into a significand as long as it fits in 64 bits; also how many it took. -/
def absorb : Nat → Nat → List Char → Nat × Nat
  | significand, taken, [] => (significand, taken)
  | significand, taken, c :: cs =>
    let next := significand * 10 + (c.toNat - '0'.toNat)
    if next ≤ maxSignificand then absorb next (taken + 1) cs else (significand, taken)

/-- `x · 10^e` with one rounding, or with one more for each 308 decimal places that `e` lies
below -308; `none` beyond the largest finite number. -/
def scale (x : Binary64) (e : Int) : Option Binary64 :=
  if 0 ≤ e ∧ e ≤ 308 then
    let r := x.mul (.ofDecimal false 1 e)
    if r.isInfinite then none else some r
  else if -308 ≤ e ∧ e < 0 then some (x.div (.ofDecimal false 1 (-e)))
  else if x.isZero then some x
  else if e < 0 then scale (x.div (.ofDecimal false 1 308)) (e + 308)
  else none
termination_by (-e).toNat

/-- The value of a written number. -/
def Numeral.value? (n : Numeral) : Option Json :=
  let (significand, taken) := absorb 0 0 n.whole
  let beyond : Int := n.whole.length - taken
  let integral := n.fraction.isNone && n.exponent.isNone && beyond == 0
  if integral ∧ ¬n.negative then some (.integer significand)
  else if integral ∧ n.negative ∧ 0 < significand ∧ significand ≤ Nat.pow 2 63 then
    some (.integer (-significand))
  else
    let (significand, places) := absorb significand 0 (n.fraction.getD [])
    let shift : Int := match n.exponent with
      | none => 0
      | some (negative, ds) => if negative then -(Decimal.value ds) else Decimal.value ds
    (scale (.ofDecimal false significand 0) (beyond - places + shift)).map fun x =>
      .float (if n.negative then x.neg else x)

/-- Reads one digit or more. -/
def digits : Reader (List Char) := fun cs =>
  let ds := cs.takeWhile Char.isDigit
  if ds.isEmpty then none else some (ds, cs.dropWhile Char.isDigit)

/-- Reads the digits before the point: no leading zero. -/
def wholeDigits : Reader (List Char) := fun cs =>
  (digits cs).bind fun (ds, rest) =>
    if ds.head? = some '0' ∧ ds.length > 1 then none else some (ds, rest)

/-- Reads a point and the digits after it, if there is a point. -/
def fractionDigits : Reader (Option (List Char))
  | '.' :: cs => (digits cs).map fun (ds, rest) => (some ds, rest)
  | cs => some (none, cs)

/-- Reads the sign and the digits of an exponent, if there is one. -/
def exponentDigits : Reader (Option (Bool × List Char))
  | c :: cs =>
    if c = 'e' ∨ c = 'E' then
      match cs with
      | '-' :: cs => (digits cs).map fun (ds, rest) => (some (true, ds), rest)
      | '+' :: cs => (digits cs).map fun (ds, rest) => (some (false, ds), rest)
      | cs => (digits cs).map fun (ds, rest) => (some (false, ds), rest)
    else some (none, c :: cs)
  | [] => some (none, [])

/-- Reads a number. -/
def number? : Reader Json := fun cs => do
  let (negative, cs) := match cs with
    | '-' :: cs => (true, cs)
    | cs => (false, cs)
  let (whole, cs) ← wholeDigits cs
  let (fraction, cs) ← fractionDigits cs
  let (exponent, cs) ← exponentDigits cs
  let x ← Numeral.value? ⟨negative, whole, fraction, exponent⟩
  return (x, cs)

/-! ### Values -/

/-- Reads a member of an object, given the reader of its value. -/
def memberWith (value : Reader Json) : Reader (String × Json) := fun cs => do
  let (name, cs) ← string? cs
  match skipBlank cs with
  | ':' :: cs =>
    let (x, cs) ← value (skipBlank cs)
    return ((name, x), cs)
  | _ => none

/-- Reads a value with at most `depth` levels of arrays and objects. -/
def valueTo : (depth : Nat) → Reader Json
  | _, '"' :: cs => (string? ('"' :: cs)).map fun (s, rest) => (.string s, rest)
  | _, 'n' :: cs => (Reader.word ['u', 'l', 'l'] cs).map fun (_, rest) => (.null, rest)
  | _, 't' :: cs => (Reader.word ['r', 'u', 'e'] cs).map fun (_, rest) => (.boolean true, rest)
  | _, 'f' :: cs =>
    (Reader.word ['a', 'l', 's', 'e'] cs).map fun (_, rest) => (.boolean false, rest)
  | depth + 1, '[' :: cs =>
    (Reader.bracketed ']' (some ∘ skipBlank) (valueTo depth) false cs).map
      fun (xs, rest) => (.array xs, rest)
  | depth + 1, '{' :: cs =>
    (Reader.bracketed '}' (some ∘ skipBlank) (memberWith (valueTo depth)) false cs).map
      fun (ms, rest) => (.object (membersOf ms), rest)
  | _, cs => number? cs

/-- The value that a text consists of, blanks around it aside. -/
def parse? (s : String) : Option Json :=
  (valueTo deepest (skipBlank s.toList)).bind fun (x, rest) =>
    if (skipBlank rest).isEmpty then some x else none

end TextGauge.Json
