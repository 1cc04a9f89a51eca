import TextGauge.Pattern.Atom

/-!
# Sets of characters in patterns

A set is written between square brackets: characters, ranges, escapes, named sets (`[:alpha:]`)
and sets again, and intersections, differences and symmetric differences of such. Two things are
kept of a set that is read: how deep it nests, and whether it reaches beyond ASCII.

The second matters in a pattern of bytes. What can be written in a set there is of ASCII, a
complement apart, so a set holds all of the bytes from 0x80 on or none of them (`CharSet.high`);
a set in brackets of its own must hold none.
-/

namespace TextGauge.Pattern

/-- What is kept of a set of characters. -/
structure CharSet where
  /-- How many levels of brackets and operations lie inside it. -/
  depth : Nat := 0
  /-- Whether it holds the bytes from 0x80 on. -/
  high : Bool := false
  deriving DecidableEq, Repr

/-- The operations on sets, written `&&`, `--` and `~~`. -/
inductive SetOperation
  | intersection
  | difference
  | symmetricDifference
  deriving DecidableEq, Repr

namespace CharSet

/-- The union of the items of a set. Two items or more make a level of their own. -/
def union : List CharSet → CharSet
  | [] => {}
  | [x] => x
  | x :: xs => xs.foldl (fun u y => ⟨max u.depth (y.depth + 1), u.high || y.high⟩)
      ⟨x.depth + 1, x.high⟩

/-- An operation on two sets. -/
def combine (x : CharSet) (operation : SetOperation) (y : CharSet) : CharSet :=
  ⟨max x.depth y.depth + 1,
    match operation with
    | .intersection => x.high && y.high
    | .difference => x.high && !y.high
    | .symmetricDifference => x.high != y.high⟩

/-- The set that ends with some items, after an operation on what stands before them. -/
def joined (left : Option (CharSet × SetOperation)) (items : List CharSet) : CharSet :=
  match left with
  | none => union items
  | some (x, operation) => x.combine operation (union items)

/-- A set in brackets, or its complement. -/
def bracketed (mode : Mode) (complement : Bool) (x : CharSet) : Option CharSet :=
  let high := x.high != complement
  if high ∧ ¬mode.unicode then none else some ⟨x.depth + 1, high⟩

/-! ### Reading -/

/-- The named sets. -/
def names : List String :=
  ["alnum", "alpha", "ascii", "blank", "cntrl", "digit", "graph", "lower", "print", "punct",
   "space", "upper", "word", "xdigit"]

/-- Reads a named set after its opening bracket; whether it is the complement of one. -/
def named? : List Char → Option (Bool × List Char)
  | ':' :: cs =>
    let (complement, cs) := match cs with
      | '^' :: cs => (true, cs)
      | cs => (false, cs)
    match cs.dropWhile (· != ':') with
    | ':' :: ']' :: rest =>
      if names.contains (String.ofList (cs.takeWhile (· != ':'))) then some (complement, rest)
      else none
    | _ => none
  | _ => none

/-- Reads a single character or escape of a set. -/
def atom (mode : Mode) : Reader Atom := fun cs => do
  let (x, cs) ← match cs with
    | [] => none
    | '\\' :: cs => escape mode cs
    | c :: cs => some (.char c false, cs)
  if x.isAllowedInSet mode then some (x, cs) else none

/-- The first character that is neither blank nor skipped. Where comments are skipped, a `#` is
taken for the start of one without an end. -/
def peek? (mode : Mode) (cs : List Char) : Option Char :=
  if mode.verbose then
    match cs.dropWhile Unicode.isWhite with
    | '#' :: cs => (cs.dropWhile Unicode.isWhite).head?
    | cs => cs.head?
  else cs.head?

/-- Reads a character, an escape or a range of a set. A hyphen before the closing bracket or
another hyphen is no sign of a range. -/
def item (mode : Mode) : Reader Unit := fun cs => do
  let (first, cs) ← atom mode cs
  match skip mode cs with
  | '-' :: rest =>
    if peek? mode rest = some ']' ∨ peek? mode rest = some '-' then
      return ((), '-' :: rest)
    let (last, cs) ← atom mode (skip mode rest)
    match first, last with
    | .char low _, .char high _ => if low ≤ high then some ((), cs) else none
    | _, _ => none
  | cs => return ((), cs)

/-- Takes the hyphens at the start of a set, at most `limit` many. -/
def hyphens (mode : Mode) : (limit : Nat) → List Char → List CharSet × List Char
  | limit + 1, '-' :: cs =>
    let (items, cs) := hyphens mode limit (skip mode cs)
    ({} :: items, cs)
  | _, cs => ([], cs)

/-- Reads the start of a set after its opening bracket: whether it is a complement, and the items
that stand for themselves in this place only, hyphens or else a closing bracket. -/
def opening (mode : Mode) (cs : List Char) : Bool × List CharSet × List Char :=
  let (complement, cs) := match skip mode cs with
    | '^' :: cs => (true, skip mode cs)
    | cs => (false, cs)
  match hyphens mode cs.length cs with
  | ([], ']' :: cs) => (complement, [{}], skip mode cs)
  | (items, cs) => (complement, items, cs)

/-- Reads the rest of a set up to its closing bracket, in at most `limit` steps: `left` is what
stands before the last operation, `items` are those behind it. -/
def rest (mode : Mode) : (limit : Nat) → Option (CharSet × SetOperation) → List CharSet →
    Reader CharSet
  | 0, _, _, _ => none
  | limit + 1, left, items, cs =>
    match skip mode cs with
    | [] => none
    | ']' :: cs => some (joined left items, cs)
    | '[' :: cs =>
      match named? cs with
      | some (complement, cs) => rest mode limit left (⟨0, complement⟩ :: items) cs
      | none => do
        let (complement, first, cs) := opening mode cs
        let (inner, cs) ← rest mode limit none first cs
        let inner ← inner.bracketed mode complement
        rest mode limit left (inner :: items) cs
    | '&' :: '&' :: cs => rest mode limit (some (joined left items, .intersection)) [] cs
    | '-' :: '-' :: cs => rest mode limit (some (joined left items, .difference)) [] cs
    | '~' :: '~' :: cs => rest mode limit (some (joined left items, .symmetricDifference)) [] cs
    | cs => do
      let (_, cs) ← item mode cs
      rest mode limit left ({} :: items) cs

/-- Reads a set after its opening bracket. Every step takes a character at least. -/
def read (mode : Mode) : Reader CharSet := fun cs => do
  let (complement, first, cs) := opening mode cs
  let (inner, cs) ← rest mode (cs.length + 1) none first cs
  let set ← inner.bracketed mode complement
  return (set, cs)

end CharSet

end TextGauge.Pattern
