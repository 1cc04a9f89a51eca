import TextGauge.Toml.Quoted
import TextGauge.Toml.Scalar
import TextGauge.Toml.Table

/-!
# Reading TOML documents

A document, of TOML 1.1, is read line by line into its pieces – headers, and keys with their
values – and these are put together into the table that it stands for. `Toml.parse?` refuses a
text that is malformed anywhere, and a document whose pieces contradict each other.

Arrays and inline tables nest at most `Toml.deepest` levels deep, and a dotted key has at most as
many parts. The reader of a value is recursive in the levels that are left; inside brackets, line
ends and comments count as blanks, except around the points of a dotted key.
-/

namespace TextGauge.Toml

/-- The deepest nesting of arrays and inline tables that is read, and the most parts of a key. -/
def deepest : Nat := 80

/-! ### Blanks and comments -/

/-- Whether a character is a blank within a line. -/
def isBlank (c : Char) : Bool :=
  c == ' ' || c == '\t'

/-- Skips blanks within a line. -/
def skipBlank (cs : List Char) : List Char :=
  cs.dropWhile isBlank

/-- Skips blanks, line ends and comments. `inComment` says whether a comment is open. -/
def skipGap (inComment : Bool) : List Char → Option (List Char)
  | [] => some []
  | '\r' :: '\n' :: rest => skipGap false rest
  | c :: rest =>
    if c = '\n' then skipGap false rest
    else if inComment then (if Quoted.isPlain c then skipGap true rest else none)
    else if isBlank c then skipGap false rest
    else if c = '#' then skipGap true rest
    else some (c :: rest)

/-- Skips the rest of a line, which may hold blanks and a comment only, and its end. -/
def finishLine (inComment : Bool) : List Char → Option (List Char)
  | [] => some []
  | '\r' :: '\n' :: rest => some rest
  | c :: rest =>
    if c = '\n' then some rest
    else if inComment then (if Quoted.isPlain c then finishLine true rest else none)
    else if isBlank c then finishLine false rest
    else if c = '#' then finishLine true rest
    else none

/-! ### Keys -/

/-- Whether a character may stand in a key without quotes. -/
def isBare (c : Char) : Bool :=
  c.isAlphanum || c == '-' || c == '_'

/-- Reads one part of a key. -/
def keyPart : Reader String := fun cs =>
  match cs with
  | '"' :: _ | '\'' :: _ => Quoted.readLine cs
  | _ =>
    let part := cs.takeWhile isBare
    if part.isEmpty then none else some (String.ofList part, cs.dropWhile isBare)

/-- Reads a dotted key of at most `limit` parts, and the blanks after it. -/
def pathTo : (limit : Nat) → Reader Path
  | 0, _ => none
  | limit + 1, cs => do
    let (part, cs) ← keyPart cs
    match skipBlank cs with
    | '.' :: cs =>
      let (path, cs) ← pathTo limit (skipBlank cs)
      return (⟨part :: path.way, path.last⟩, cs)
    | cs => return (⟨[], part⟩, cs)

/-- Reads a dotted key, and the blanks after it. -/
def path : Reader Path :=
  pathTo deepest

/-! ### Values -/

/-- Reads a line `path = value`, given what skips the blanks around `=` and the reader of its
value. -/
def lineWith (gap : List Char → Option (List Char)) (value : Reader Value) :
    Reader (Path × Value) := fun cs => do
  let (p, cs) ← path cs
  match ← gap cs with
  | '=' :: cs =>
    let (v, cs) ← value (← gap cs)
    return ((p, v), cs)
  | _ => none

/-- The table that the lines of an inline table amount to. -/
def inlineTable (lines : List (Path × Value)) : Option Value :=
  (tableOf? (lines.map fun (p, v) => .line p v)).map .table

/-- Reads a value with at most `depth` levels of arrays and inline tables. -/
def valueTo : (depth : Nat) → Reader Value
  | depth + 1, '[' :: cs =>
    (Reader.bracketed ']' (skipGap false) (valueTo depth) true cs).map
      fun (vs, rest) => (.array vs, rest)
  | depth + 1, '{' :: cs =>
    (Reader.bracketed '}' (skipGap false) (lineWith (skipGap false) (valueTo depth)) true cs).bind
      fun (lines, rest) => (inlineTable lines).map fun v => (v, rest)
  | _, '"' :: cs => (Quoted.read ('"' :: cs)).map fun (s, rest) => (.string s, rest)
  | _, '\'' :: cs => (Quoted.read ('\'' :: cs)).map fun (s, rest) => (.string s, rest)
  | _, cs => Scalar.read cs

/-! ### Documents -/

/-- Reads a piece of a document, without the rest of its last line. -/
def piece : Reader Piece
  | '[' :: '[' :: cs => do
    let (p, cs) ← path (skipBlank cs)
    let (_, cs) ← Reader.word [']', ']'] cs
    return (.elementHeader p, cs)
  | '[' :: cs => do
    let (p, cs) ← path (skipBlank cs)
    let (_, cs) ← Reader.word [']'] cs
    return (.header p, cs)
  | cs =>
    (lineWith (some ∘ skipBlank) (valueTo deepest) cs).map fun ((p, v), cs) => (.line p v, cs)

/-- Reads the pieces of a document, at most `limit` many. -/
def piecesTo : (limit : Nat) → List Char → Option (List Piece)
  | 0, _ => none
  | limit + 1, cs => do
    match ← skipGap false cs with
    | [] => return []
    | cs =>
      let (p, cs) ← piece cs
      let cs ← finishLine false cs
      let ps ← piecesTo limit cs
      return p :: ps

/-- The pieces of a document. Every piece takes a character at least. -/
def pieces (cs : List Char) : Option (List Piece) :=
  piecesTo (cs.length + 1) cs

/-- A text without the byte-order mark at its start. -/
def dropMark : List Char → List Char
  | '\uFEFF' :: cs => cs
  | cs => cs

/-- The table that a document stands for. -/
def parse? (document : String) : Option Entries :=
  (pieces (dropMark document.toList)).bind tableOf?

end TextGauge.Toml
