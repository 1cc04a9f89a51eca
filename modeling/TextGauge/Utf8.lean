/-!
# Texts as bytes

A text reaches this program as bytes and leaves it as bytes; in between it is a `String`.
`encode` writes a text in UTF-8. Reading runs a **byte machine** (`Utf8.step`): between two
bytes it either stands at a character boundary or inside a character of which so many bytes are
still missing. What it emits is one entry a character, and `none` for each **maximal ill-formed
run** – the longest start of a character that the following byte does not continue, or a single
byte that starts none.

`decode?` accepts a sequence without such runs, `decodeLossy` puts U+FFFD in the place of each.
-/

namespace TextGauge

/-- A sequence of bytes: an argument, a path, the content of a file. -/
abbrev Bytes := List UInt8

namespace Utf8

/-- The bytes of a text, one to four a character. -/
def encode (s : String) : Bytes :=
  s.toList.flatMap String.utf8EncodeChar

/-! ### The byte machine -/

/-- Where a reader stands between two bytes. -/
inductive State
  /-- At a character boundary. -/
  | boundary
  /-- Inside a character whose bytes so far give `value`: the next byte has to lie between `low`
  and `high`, and `more` bytes follow that one. -/
  | inside (more : Nat) (low high : UInt8) (value : Nat)
  deriving DecidableEq, Repr

/-- What a byte at a character boundary starts. The bounds on the second byte keep out overlong
forms, surrogates and values above U+10FFFF. -/
def first (b : UInt8) : List (Option Char) × State :=
  if b ≤ 0x7F then ([some (Char.ofNat b.toNat)], .boundary)
  else if b < 0xC2 then ([none], .boundary)
  else if b ≤ 0xDF then ([], .inside 0 0x80 0xBF (b.toNat % 32))
  else if b = 0xE0 then ([], .inside 1 0xA0 0xBF 0)
  else if b = 0xED then ([], .inside 1 0x80 0x9F 13)
  else if b ≤ 0xEF then ([], .inside 1 0x80 0xBF (b.toNat % 16))
  else if b = 0xF0 then ([], .inside 2 0x90 0xBF 0)
  else if b ≤ 0xF3 then ([], .inside 2 0x80 0xBF (b.toNat % 8))
  else if b = 0xF4 then ([], .inside 2 0x80 0x8F 4)
  else ([none], .boundary)

/-- One byte: what it completes, and where it leaves the reader. A byte that does not continue
the open character ends an ill-formed run and is looked at again as a first byte. -/
def step : State → UInt8 → List (Option Char) × State
  | .boundary, b => first b
  | .inside more low high value, b =>
    if low ≤ b ∧ b ≤ high then
      match more with
      | 0 => ([some (Char.ofNat (value * 64 + b.toNat % 64))], .boundary)
      | more + 1 => ([], .inside more 0x80 0xBF (value * 64 + b.toNat % 64))
    else
      (none :: (first b).1, (first b).2)

/-- The characters of a byte sequence read from a state on, `none` for an ill-formed run; a
character left open at the end is one. -/
def readFrom : State → Bytes → List (Option Char)
  | .boundary, [] => []
  | .inside .., [] => [none]
  | state, b :: rest => (step state b).1 ++ readFrom (step state b).2 rest

/-- The characters of a byte sequence, `none` for an ill-formed run. -/
def read (bytes : Bytes) : List (Option Char) :=
  readFrom .boundary bytes

/-- The text that a well-formed sequence encodes. -/
def decode? (bytes : Bytes) : Option String :=
  ((read bytes).mapM id).map String.ofList

/-- The text of any sequence, with U+FFFD for each ill-formed run. -/
def decodeLossy (bytes : Bytes) : String :=
  String.ofList ((read bytes).map fun c => c.getD '\uFFFD')

end Utf8

end TextGauge
