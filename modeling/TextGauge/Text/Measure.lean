import TextGauge.Utf8

/-!
# Measuring a text

A text is measured on its bytes: its **length** is their number, and its **vowels** are the bytes
that are the code of one of `a e i o u` in either case. A byte of a character outside ASCII is
never one of these.

A **terminated** buffer holds a text up to its first zero byte; what follows is no part of it.
-/

namespace TextGauge.Text

/-- The number of bytes. -/
def length (bytes : Bytes) : Nat :=
  List.length bytes

/-- The vowels, as characters. -/
def vowels : List Char :=
  ['a', 'e', 'i', 'o', 'u', 'A', 'E', 'I', 'O', 'U']

/-- Whether a byte is the code of a vowel. -/
def isVowel (b : UInt8) : Bool :=
  (vowels.map fun c => c.toNat.toUInt8).contains b

/-- The number of bytes that are vowels. -/
def vowelCount (bytes : Bytes) : Nat :=
  bytes.countP isVowel

/-- Whether there are no bytes. -/
def isEmpty (bytes : Bytes) : Bool :=
  List.isEmpty bytes

/-- Whether one of the bytes is zero. -/
def hasNul (bytes : Bytes) : Bool :=
  bytes.contains 0

/-- The position of the first zero byte. -/
def nulOffset? (bytes : Bytes) : Option Nat :=
  bytes.findIdx? (· == 0)

/-- The text in a terminated buffer: the bytes before the first zero byte, if there is one. -/
def ofTerminated? (buffer : Bytes) : Option Bytes :=
  (nulOffset? buffer).map buffer.take

end TextGauge.Text
