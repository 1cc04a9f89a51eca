/-!
# Integers in decimal

The decimal text of an integer – no leading zero, `-` in front of a negative one – and the
reader of **signed digits**: an optional `+` or `-` and one digit or more, leading zeros
allowed. Every integer has one written form and many readable ones.
-/

namespace TextGauge.Decimal

/-- The decimal digits of a natural number. -/
def ofNat (n : Nat) : List Char :=
  Nat.toDigits 10 n

/-- The decimal text of an integer. -/
def ofInt : Int → List Char
  | .ofNat n => ofNat n
  | .negSucc n => '-' :: ofNat (n + 1)

/-- The value of a run of digits, read from the left. -/
def value (digits : List Char) : Nat :=
  Nat.ofDigitChars 10 digits 0

/-- The value of one digit or more, and nothing else. -/
def nat? (cs : List Char) : Option Nat :=
  if cs ≠ [] ∧ cs.all Char.isDigit then some (value cs) else none

/-- The value of signed digits. -/
def int? : List Char → Option Int
  | '+' :: digits => (nat? digits).map Int.ofNat
  | '-' :: digits => (nat? digits).map fun n => -Int.ofNat n
  | digits => (nat? digits).map Int.ofNat

/-- The texts that are an integer in signed digits. -/
inductive Spells : List Char → Int → Prop
  /-- Digits without sign. -/
  | plain {digits : List Char} : digits ≠ [] → (∀ c ∈ digits, c.isDigit) →
    Spells digits (value digits)
  /-- A plus sign and digits. -/
  | plus {digits : List Char} : digits ≠ [] → (∀ c ∈ digits, c.isDigit) →
    Spells ('+' :: digits) (value digits)
  /-- A minus sign and digits. -/
  | minus {digits : List Char} : digits ≠ [] → (∀ c ∈ digits, c.isDigit) →
    Spells ('-' :: digits) (-value digits)

/-- An integer that fits in 32 signed bits. -/
def int32? (n : Int) : Option Int32 :=
  if -Int.pow 2 31 ≤ n ∧ n < Int.pow 2 31 then some (Int32.ofInt n) else none

/-- The decimal text of an integer, as a `String`. -/
def text (n : Int) : String :=
  String.ofList (ofInt n)

end TextGauge.Decimal
