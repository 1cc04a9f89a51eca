import TextGauge.Toml.Moment
import TextGauge.Toml.Value

/-!
# Values without quotes or brackets

A boolean, a number or a moment is a **scalar**: a run of characters up to a mark of the document
(`isMark`), read as a whole. Words that follow one another after blanks belong to one run, since
a date may be followed by a time.

A number is a float if a point or an exponent mark stands behind its first digits, an integer
otherwise. Underscores may separate digits (`ungrouped?`), and a decimal number has no leading
zero; an integer with a radix mark has no sign. Behind the first underscore of an integer nothing
but the places next to underscores is looked at, so characters that are no digits may follow it.
Such a scalar is an integer still, one that has no value (`Value.hugeInteger`).
-/

namespace TextGauge.Toml.Scalar

/-! ### The extent of a scalar -/

/-- Whether a character ends a word of a scalar. The point does not, being part of numbers. -/
def isMark (c : Char) : Bool :=
  c == ' ' || c == '\t' || c == '\n' || c == '\r' || c == '#' || c == '=' || c == ','
    || c == '[' || c == ']' || c == '{' || c == '}'

/-- Whether a character may begin a further word of a scalar. -/
def startsWord (c : Char) : Bool :=
  !isMark c && c != '"' && c != '\''

/-- Reads words of a scalar, and the blanks between them. `blanks` are those before the text. -/
def wordsFrom (blanks : List Char) : List Char → List Char × List Char
  | [] => ([], blanks)
  | c :: cs =>
    if c = ' ' ∨ c = '\t' then wordsFrom (blanks ++ [c]) cs
    else if isMark c ∨ (¬blanks.isEmpty ∧ ¬startsWord c) then ([], blanks ++ c :: cs)
    else
      let (words, rest) := wordsFrom [] cs
      (blanks ++ c :: words, rest)

/-- The characters of the scalar that a text begins with, and the text behind it. -/
def extent (cs : List Char) : List Char × List Char :=
  match cs with
  | [] => ([], [])
  | c :: _ => if isMark c then ([], cs) else wordsFrom [] cs

/-! ### Signs and underscores -/

/-- A sign, and what follows it; `true` is minus. -/
def splitSign : List Char → Bool × List Char
  | '-' :: cs => (true, cs)
  | '+' :: cs => (false, cs)
  | cs => (false, cs)

/-- Whether a character is a hexadecimal digit. -/
def isHexDigit (c : Char) : Bool :=
  (Reader.hexValue? c).isSome

/-- Whether the parts of a number between underscores, of which the first one is not among these,
are not empty, begin with a digit, and, those with a part behind them, end with a digit. -/
def joinable (isDigit : Char → Bool) : List (List Char) → Bool
  | [] => true
  | [part] => part.head?.any isDigit
  | part :: parts =>
    part.head?.any isDigit && part.getLast?.any isDigit && joinable isDigit parts

/-- A number without its underscores, if each of them stands between two digits. The part before
the first one may be a single character that is no digit, which can only be a sign. -/
def ungrouped? (isDigit : Char → Bool) (cs : List Char) : Option (List Char) :=
  match cs.splitOn '_' with
  | [] | [_] => some cs
  | part :: parts =>
    if ¬part.isEmpty ∧ (part.length = 1 ∨ part.getLast?.any isDigit)
        ∧ joinable isDigit parts then
      some (part ++ parts.flatten)
    else none

/-! ### Integers -/

/-- The value of digits in a base. -/
def valueIn (base : Nat) (ds : List Char) : Nat :=
  ds.foldl (fun value c => value * base + (Reader.hexValue? c).getD 0) 0

/-- An integer whose digits follow a radix mark. -/
def radixInteger (base : Nat) (cs : List Char) : Option Value :=
  let isDigit c := match Reader.hexValue? c with
    | some d => d < base
    | none => false
  if cs.isEmpty then some .hugeInteger
  else if cs.all fun c => c == '_' || isDigit c then
    (ungrouped? isDigit cs).map fun ds => .integer (valueIn base ds)
  else none

/-- The integer that a decimal text without underscores stands for. -/
def integerOf (cs : List Char) : Value :=
  match Decimal.int? cs with
  | some n => .integer n
  | none => .hugeInteger

/-- A decimal integer, given with its sign and without it: not a sign alone, and no leading zero
unless it is the only digit. -/
def decimalInteger (cs body : List Char) : Option Value :=
  if body.isEmpty ∨ (body.head? = some '0' ∧ body.length > 1) then none
  else (ungrouped? isHexDigit cs).map integerOf

/-! ### Floats -/

/-- Whether a character is a digit or a separator of digits. -/
def isDigitOrGap (c : Char) : Bool :=
  c.isDigit || c == '_'

/-- Reads digits with underscores among them; how the underscores stand is not looked at. -/
def looseDigits : Reader (List Char) := fun cs =>
  if (cs.takeWhile isDigitOrGap).any Char.isDigit then
    some (cs.takeWhile isDigitOrGap, cs.dropWhile isDigitOrGap)
  else none

/-- Reads a point and the digits behind it, if there is a point. -/
def fraction : Reader (List Char)
  | '.' :: cs => looseDigits cs
  | cs => some ([], cs)

/-- Reads an exponent, if there is one: whether it is negative, and its digits. -/
def exponent : Reader (Bool × List Char)
  | [] => some ((false, []), [])
  | c :: cs =>
    if c = 'e' ∨ c = 'E' then
      let (negative, cs) := splitSign cs
      (looseDigits cs).map fun (ds, cs) => ((negative, ds), cs)
    else some ((false, []), c :: cs)

/-- The digits of a run of digits and underscores. -/
def onlyDigits (cs : List Char) : List Char :=
  cs.filter Char.isDigit

/-- The float with these digits before and after the point. -/
def floatOf (negative : Bool) (whole fraction : List Char) (exponent : Int) : Value :=
  match Binary64.ofDecimal negative (Decimal.value (whole ++ fraction))
      (exponent - fraction.length) with
  | .infinite _ => .hugeFloat
  | x => .float x

/-- A float, given with its sign and without it: no leading zero before the point unless it is
the only digit there. -/
def float (cs body : List Char) : Option Value := do
  let (whole, rest) ← looseDigits body
  if whole.head? = some '0' ∧ (onlyDigits whole).length > 1 then none
  let (fraction, rest) ← fraction rest
  let ((negative, exponent), rest) ← exponent rest
  if ¬rest.isEmpty then none
  let _ ← ungrouped? Char.isDigit cs
  let size : Int := Decimal.value (onlyDigits exponent)
  return floatOf (splitSign cs).1 (onlyDigits whole) (onlyDigits fraction)
    (if negative then -size else size)

/-! ### All scalars -/

/-- Whether a character makes a number a float. -/
def isFloatMark (c : Char) : Bool :=
  c == '.' || c == 'e' || c == 'E'

/-- A decimal number, given with its sign and without it. What follows the first digits says which
kind it is. -/
def decimal (cs body : List Char) : Option Value :=
  match body.dropWhile Char.isDigit with
  | [] => decimalInteger cs body
  | c :: rest =>
    if (c :: rest).contains ' ' then none
    else if c ≠ '-' ∧ c ≠ ':' ∧ (c :: rest).any isFloatMark then float cs body
    else if c = '_' then decimalInteger cs body
    else none

/-- The value of a number, signed or not. -/
def number (cs : List Char) : Option Value :=
  let (negative, body) := splitSign cs
  if body = ['i', 'n', 'f'] then some (.float (.infinite negative))
  else if body = ['n', 'a', 'n'] then some (.float .nan)
  else
    match cs with
    | '0' :: 'x' :: ds => radixInteger 16 ds
    | '0' :: 'o' :: ds => radixInteger 8 ds
    | '0' :: 'b' :: ds => radixInteger 2 ds
    | _ => decimal cs body

/-- The value of a scalar. -/
def value? (cs : List Char) : Option Value :=
  if cs = ['t', 'r', 'u', 'e'] then some (.boolean true)
  else if cs = ['f', 'a', 'l', 's', 'e'] then some (.boolean false)
  else if Moment.isMoment cs then some (.moment (String.ofList cs))
  else number cs

/-- Reads a scalar. -/
def read : Reader Value := fun cs =>
  let (scalar, rest) := extent cs
  (value? scalar).map fun x => (x, rest)

end TextGauge.Toml.Scalar
