import TextGauge.Reader
import TextGauge.Unicode.White

/-!
# The atoms of patterns

A **pattern** is a regular expression by which a log filter tests the value of a field. What
matters here is only whether it is well formed, because no event has a field that a pattern could
be tried on. Since a pattern stands between braces, it has no closing brace in it, and whatever
needs a pair of braces – a counted repetition, a property with a long name – cannot be written.

Its **atoms** are characters, written as themselves or escaped, kinds of characters (`\d`, `\pL`)
and places between characters (`\A`, `\b`). Which of them are allowed depends on the **mode** at
the point where they stand: a pattern speaks of characters or of bytes. A pattern of bytes must
not reach beyond ASCII byte by byte, and the ends of words are known in a pattern of bytes only.
-/

namespace TextGauge.Pattern

/-- What holds at a point of a pattern. -/
structure Mode where
  /-- Whether the pattern speaks of characters; else it speaks of bytes. -/
  unicode : Bool := true
  /-- Whether blanks and comments are skipped. -/
  verbose : Bool := false
  deriving DecidableEq, Repr

/-! ### Blanks and comments -/

/-- Skips blanks, and comments from `#` to the end of the line. `inComment` says whether one is
open. -/
def skipGap : (inComment : Bool) → List Char → List Char
  | _, [] => []
  | true, c :: cs => skipGap (c != '\n') cs
  | false, c :: cs =>
    if Unicode.isWhite c then skipGap false cs
    else if c = '#' then skipGap true cs
    else c :: cs

/-- Skips blanks and comments where the mode says so. -/
def skip (mode : Mode) (cs : List Char) : List Char :=
  if mode.verbose then skipGap false cs else cs

/-! ### Atoms -/

/-- A part of a pattern that has no parts. -/
inductive Atom
  /-- A character. `byte` says whether it is given as one byte, by two hexadecimal digits. -/
  | char (c : Char) (byte : Bool)
  /-- Digits, blanks or the characters of words, or all characters but these. -/
  | kind (complement : Bool)
  /-- The characters of a general category. -/
  | category
  /-- The start or the end of the text or of a line. -/
  | anchor
  /-- A place at the end of a word, or one that is not. -/
  | wordBoundary
  deriving DecidableEq, Repr

/-- Whether an atom may stand in a pattern. -/
def Atom.isAllowed (mode : Mode) : Atom → Bool
  | char c byte => mode.unicode || !byte || c.toNat < 0x80
  | kind complement => mode.unicode || !complement
  | category => mode.unicode
  | anchor => true
  | wordBoundary => !mode.unicode

/-- Whether an atom may stand in a set of characters. -/
def Atom.isAllowedInSet (mode : Mode) : Atom → Bool
  | char c _ => mode.unicode || c.toNat < 0x80
  | kind complement => mode.unicode || !complement
  | category => mode.unicode
  | anchor | wordBoundary => false

/-- Reads the hexadecimal digits of a character: so many more, with the value of those before. -/
def hexDigits (mode : Mode) : (more value : Nat) → Reader Nat
  | 0, value, cs => some (value, skip mode cs)
  | more + 1, value, cs =>
    match skip mode cs with
    | [] => none
    | c :: cs => (Reader.hexValue? c).bind fun d => hexDigits mode more (value * 16 + d) cs

/-- Reads a character that is given by a number of hexadecimal digits. -/
def hexChar (mode : Mode) (size : Nat) : Reader Atom := fun cs =>
  (hexDigits mode size 0 cs).bind fun (value, cs) =>
    if value.isValidChar then some (.char (Char.ofNat value) (size = 2), cs) else none

/-- Reads the letter of a general category, in either case. -/
def categoryLetter (mode : Mode) : Reader Atom := fun cs =>
  match skip mode cs with
  | [] => none
  | c :: cs =>
    if ['c', 'l', 'm', 'n', 'p', 's', 'z'].contains c.toLower then some (.category, skip mode cs)
    else none

/-- The control character that a letter stands for after a backslash. -/
def controlOf? (c : Char) : Option Char :=
  if c = 'a' then some '\x07'
  else if c = 'f' then some '\x0c'
  else if c = 't' then some '\t'
  else if c = 'n' then some '\n'
  else if c = 'r' then some '\r'
  else if c = 'v' then some '\x0b'
  else none

/-- The atom of an escape of one character. An ASCII character that is neither a letter nor a digit
stands for itself, except for the angles, which are ends of words. -/
def letterEscape? (c : Char) : Option Atom :=
  if let some control := controlOf? c then some (.char control false)
  else if ['d', 's', 'w'].contains c then some (.kind false)
  else if ['D', 'S', 'W'].contains c then some (.kind true)
  else if c = 'A' ∨ c = 'z' then some .anchor
  else if ['b', 'B', '<', '>'].contains c then some .wordBoundary
  else if c.toNat < 0x80 ∧ ¬c.isAlphanum then some (.char c false)
  else none

/-- Reads an escape after its backslash. -/
def escape (mode : Mode) : Reader Atom
  | [] => none
  | c :: cs =>
    if c = 'x' then hexChar mode 2 cs
    else if c = 'u' then hexChar mode 4 cs
    else if c = 'U' then hexChar mode 8 cs
    else if c = 'p' ∨ c = 'P' then categoryLetter mode cs
    else if c = 'b' ∧ cs.head? = some '{' then none
    else (letterEscape? c).map fun atom => (atom, cs)

end TextGauge.Pattern
