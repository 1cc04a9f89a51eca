import TextGauge.Unicode.GraphemeExtend
import TextGauge.Unicode.Unprintable

/-!
# Echoes of a text on one line

A text that a message repeats is written as an **echo**: the control characters and whatever else
a terminal would not show become escapes, so an echo is a single line, and the backslash is
escaped with them, so the text can be read back from it (`unescape`).

There are two forms. `quoted` stands between double quotes and leaves the apostrophe alone;
`bare` has no quotes around it and escapes both kinds of quote. They differ as well in the
characters that extend the one before them: `quoted` escapes all of these, `bare` only one that
has nothing before it.
-/

namespace TextGauge.Text.Echo

/-- The escape by number: `\u`, and the code point in braces, in lower-case hexadecimal without
leading zeros. -/
def numbered (c : Char) : List Char :=
  '\\' :: 'u' :: '{' :: (Nat.toDigits 16 c.toNat ++ ['}'])

/-- The letter after the backslash in the escapes that have a name of their own. -/
def nameOf? (c : Char) : Option Char :=
  if c = '\x00' then some '0'
  else if c = '\t' then some 't'
  else if c = '\r' then some 'r'
  else if c = '\n' then some 'n'
  else none

/-- One character of an echo. `apostrophe` and `extenders` say whether the apostrophe and the
characters that extend the preceding one are escaped. -/
def escape (apostrophe extenders : Bool) (c : Char) : List Char :=
  match nameOf? c with
  | some name => ['\\', name]
  | none =>
    if c = '\\' ∨ c = '"' ∨ (c = '\'' ∧ apostrophe) then ['\\', c]
    else if Unicode.isUnprintable c ∨ (Unicode.isGraphemeExtend c ∧ extenders) then numbered c
    else [c]

/-- The characters of the echo between double quotes, without these. -/
def quotedBody (cs : List Char) : List Char :=
  cs.flatMap (escape false true)

/-- The echo of a text between double quotes. -/
def quoted (s : String) : String :=
  String.ofList ('"' :: (quotedBody s.toList ++ ['"']))

/-- The characters of the echo without quotes around it. -/
def bareBody : List Char → List Char
  | [] => []
  | c :: rest => escape true true c ++ rest.flatMap (escape true false)

/-- The echo of a text without quotes around it. -/
def bare (s : String) : String :=
  String.ofList (bareBody s.toList)

/-! ### Reading an echo back -/

/-- Where a reader of an echo stands. -/
inductive Place
  /-- Between two characters. -/
  | between
  /-- After a backslash. -/
  | escaped
  /-- After `\u`. -/
  | opening
  /-- Inside the braces of an escape by number, with the value of the digits so far. -/
  | number (value : Nat)

/-- The value of a lower-case hexadecimal digit. -/
def hexValue? (c : Char) : Option Nat :=
  if '0' ≤ c ∧ c ≤ '9' then some (c.toNat - '0'.toNat)
  else if 'a' ≤ c ∧ c ≤ 'f' then some (c.toNat - 'a'.toNat + 10)
  else none

/-- The character behind a named escape. -/
def named? (name : Char) : Option Char :=
  if name = '0' then some '\x00'
  else if name = 't' then some '\t'
  else if name = 'r' then some '\r'
  else if name = 'n' then some '\n'
  else if name = '\\' ∨ name = '"' ∨ name = '\'' then some name
  else none

/-- The text from a place in an echo on; `none` where the echo breaks off inside an escape or has
one that means nothing. -/
def unescapeFrom : Place → List Char → Option (List Char)
  | .between, [] => some []
  | _, [] => none
  | .between, c :: rest =>
    if c = '\\' then unescapeFrom .escaped rest else (unescapeFrom .between rest).map (c :: ·)
  | .escaped, c :: rest =>
    if c = 'u' then unescapeFrom .opening rest
    else (named? c).bind fun d => (unescapeFrom .between rest).map (d :: ·)
  | .opening, c :: rest => if c = '{' then unescapeFrom (.number 0) rest else none
  | .number value, c :: rest =>
    if c = '}' then (unescapeFrom .between rest).map (Char.ofNat value :: ·)
    else (hexValue? c).bind fun d => unescapeFrom (.number (value * 16 + d)) rest

/-- The text that an echo, without quotes around it, stands for. -/
def unescape (cs : List Char) : Option (List Char) :=
  unescapeFrom .between cs

end TextGauge.Text.Echo
