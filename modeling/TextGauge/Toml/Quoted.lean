import TextGauge.Reader

/-!
# Strings in quotes

A string stands between quotes, single or double, once or three times. Between double quotes a
backslash starts an escape, between single ones it is a character like any other. Three quotes
let the string run over lines: a line end right after the opening quotes is dropped, a backslash
at the end of a line joins it to the next character that is not blank, and one or two quotes
right before the closing ones belong to the string.
-/

namespace TextGauge.Toml.Quoted

open Reader (prepend)

/-- Whether a character may stand for itself: all but control characters, of which only the
tabulator may. -/
def isPlain (c : Char) : Bool :=
  c = '\t' || (0x20 ≤ c.toNat && c.toNat ≠ 0x7F)

/-- The character with this number, if there is one. -/
def charOf? (n : Nat) : Option Char :=
  if n.isValidChar then some (Char.ofNat n) else none

/-- The character behind a one-letter escape. -/
def unescape? (c : Char) : Option Char :=
  if c = 'b' then some '\x08'
  else if c = 't' then some '\t'
  else if c = 'n' then some '\n'
  else if c = 'f' then some '\x0c'
  else if c = 'r' then some '\r'
  else if c = 'e' then some '\x1b'
  else if c = '"' ∨ c = '\\' then some c
  else none

/-- The character that hexadecimal digits number. -/
def numbered? (ds : List Char) : Option Char :=
  (Reader.hexOnto 0 ds).bind charOf?

/-! ### On one line -/

/-- Reads a string after its opening double quote. -/
def basic : Reader (List Char)
  | [] => none
  | '"' :: rest => some ([], rest)
  | '\\' :: 'x' :: a :: b :: rest => (numbered? [a, b]).bind fun d => prepend [d] (basic rest)
  | '\\' :: 'u' :: a :: b :: c :: d :: rest =>
    (numbered? [a, b, c, d]).bind fun d => prepend [d] (basic rest)
  | '\\' :: 'U' :: a :: b :: c :: d :: e :: f :: g :: h :: rest =>
    (numbered? [a, b, c, d, e, f, g, h]).bind fun d => prepend [d] (basic rest)
  | '\\' :: c :: rest => (unescape? c).bind fun d => prepend [d] (basic rest)
  | c :: rest => if isPlain c ∧ c ≠ '\\' then prepend [c] (basic rest) else none

/-- Reads a string after its opening single quote. -/
def literal : Reader (List Char)
  | [] => none
  | c :: rest =>
    if c = '\'' then some ([], rest)
    else if isPlain c then prepend [c] (literal rest)
    else none

/-! ### Over several lines -/

/-- Drops a line end that follows the opening quotes. -/
def dropLineEnd : List Char → List Char
  | '\n' :: rest => rest
  | '\r' :: '\n' :: rest => rest
  | cs => cs

/-- Reads three closing quotes, with up to two more before them that belong to the string. -/
def closing? (quote : Char) (cs : List Char) : Option (List Char × List Char) :=
  let run := (cs.takeWhile (· == quote)).length
  if run < 3 then none
  else
    let extra := min (run - 3) 2
    some (List.replicate extra quote, cs.drop (extra + 3))

/-- Whether nothing but blanks stands before the end of the line. -/
def endsLine (cs : List Char) : Bool :=
  match cs.dropWhile fun c => c == ' ' || c == '\t' with
  | '\n' :: _ => true
  | '\r' :: '\n' :: _ => true
  | _ => false

/-- Reads a string after its three opening double quotes. While `joining` lines, blanks and line
ends are left out. -/
def multiBasic : Bool → Reader (List Char)
  | _, [] => none
  | joining, '\r' :: '\n' :: rest =>
    if joining then multiBasic true rest else prepend ['\r', '\n'] (multiBasic false rest)
  | _, '\\' :: 'x' :: a :: b :: rest =>
    (numbered? [a, b]).bind fun d => prepend [d] (multiBasic false rest)
  | _, '\\' :: 'u' :: a :: b :: c :: d :: rest =>
    (numbered? [a, b, c, d]).bind fun d => prepend [d] (multiBasic false rest)
  | _, '\\' :: 'U' :: a :: b :: c :: d :: e :: f :: g :: h :: rest =>
    (numbered? [a, b, c, d, e, f, g, h]).bind fun d => prepend [d] (multiBasic false rest)
  | _, '\\' :: c :: rest =>
    if endsLine (c :: rest) then multiBasic true (c :: rest)
    else (unescape? c).bind fun d => prepend [d] (multiBasic false rest)
  | joining, c :: rest =>
    if joining ∧ (c = ' ' ∨ c = '\t' ∨ c = '\n') then multiBasic true rest
    else if c = '"' then
      match closing? '"' (c :: rest) with
      | some r => some r
      | none => prepend ['"'] (multiBasic false rest)
    else if (isPlain c ∧ c ≠ '\\') ∨ c = '\n' then prepend [c] (multiBasic false rest)
    else none

/-- Reads a string after its three opening single quotes. -/
def multiLiteral : Reader (List Char)
  | [] => none
  | '\r' :: '\n' :: rest => prepend ['\r', '\n'] (multiLiteral rest)
  | c :: rest =>
    if c = '\'' then
      match closing? '\'' (c :: rest) with
      | some r => some r
      | none => prepend ['\''] (multiLiteral rest)
    else if isPlain c ∨ c = '\n' then prepend [c] (multiLiteral rest)
    else none

/-! ### All strings -/

/-- Reads a string on one line. -/
def readLine : Reader String
  | '"' :: rest => (basic rest).map fun r => (String.ofList r.1, r.2)
  | '\'' :: rest => (literal rest).map fun r => (String.ofList r.1, r.2)
  | _ => none

/-- Reads a string. -/
def read : Reader String
  | '"' :: '"' :: '"' :: rest =>
    (multiBasic false (dropLineEnd rest)).map fun r => (String.ofList r.1, r.2)
  | '\'' :: '\'' :: '\'' :: rest =>
    (multiLiteral (dropLineEnd rest)).map fun r => (String.ofList r.1, r.2)
  | cs => readLine cs

end TextGauge.Toml.Quoted
