import TextGauge.Pattern.CharSet
import TextGauge.Unicode.Alphanumeric

/-!
# Well-formed patterns

A pattern is read from the left by a machine (`Pattern.step`) that keeps the open **groups**: of
each the mode, the branches between `|` that are done, and the items of the branch at hand. Of an
item only two things are kept, how deep it nests and whether a sign of repetition may follow it.

`Pattern.isValid` accepts a pattern whose groups are all closed and whose nesting is at most
`Pattern.deepest`.
-/

namespace TextGauge.Pattern

/-- The deepest nesting of sequences, alternatives, repetitions, groups and sets. -/
def deepest : Nat := 250

/-- What is kept of a part of a pattern. -/
structure Item where
  /-- How many levels lie inside it. -/
  depth : Nat := 0
  /-- Whether it can be repeated. -/
  repeatable : Bool := true
  deriving DecidableEq, Repr

/-- Parts put together: no part, a single one as it is, or a level above them. -/
def Item.compound : List Item → Item
  | [] => { repeatable := false }
  | [x] => x
  | xs => ⟨(xs.map Item.depth).foldl max 0 + 1, true⟩

/-- A group that is being read, or the whole pattern. -/
structure Group where
  mode : Mode := {}
  /-- The branches that are done. -/
  branches : List Item := []
  /-- The items of the branch at hand, the last one first. -/
  items : List Item := []
  deriving DecidableEq, Repr

/-- A group with one more item. -/
def Group.push (group : Group) (item : Item) : Group :=
  { group with items := item :: group.items }

/-- A group whose branch at hand is done. -/
def Group.nextBranch (group : Group) : Group :=
  { group with branches := Item.compound group.items :: group.branches, items := [] }

/-- What a group amounts to at its end. -/
def Group.content (group : Group) : Item :=
  Item.compound group.nextBranch.branches

/-- A group whose last item is repeated. -/
def Group.repeatLast? (group : Group) : Option Group :=
  match group.items with
  | [] => none
  | x :: xs =>
    if x.repeatable then some { group with items := ⟨x.depth + 1, true⟩ :: xs } else none

/-- Where the machine stands. -/
structure State where
  /-- The group at hand. -/
  group : Group := {}
  /-- The groups around it, the innermost first. -/
  outer : List Group := []
  /-- The names of groups. -/
  names : List (List Char) := []
  deriving DecidableEq, Repr

namespace State

/-- A state with one more item. -/
def push (state : State) (item : Item) : State :=
  { state with group := state.group.push item }

/-- A state with one more group open. -/
def openGroup (state : State) (mode : Mode) : State :=
  { state with group := { mode }, outer := state.group :: state.outer }

/-- A state with the group at hand closed. -/
def closeGroup? (state : State) : Option State :=
  match state.outer with
  | [] => none
  | group :: outer =>
    some { state with
      group := group.push ⟨state.group.content.depth + 1, true⟩
      outer }

end State

/-! ### Starts of groups -/

/-- Whether a character may begin the name of a group. -/
def mayBeginName (c : Char) : Bool :=
  c == '_' || Unicode.isAlphabetic c

/-- Whether a character may stand in the name of a group behind its first one. -/
def mayStandInName (c : Char) : Bool :=
  c == '_' || c == '.' || c == '[' || c == ']' || Unicode.isAlphanumeric c

/-- Whether characters are the name of a group. -/
def isName : List Char → Bool
  | [] => false
  | c :: cs => mayBeginName c && cs.all mayStandInName

/-- Reads the name of a group and opens the group. A name is given to one group only. -/
def named (state : State) (cs : List Char) : Option (State × List Char) :=
  let name := cs.takeWhile (· != '>')
  match cs.dropWhile (· != '>') with
  | [] => none
  | _ :: cs =>
    if isName name ∧ ¬state.names.contains name then
      some ({ state.openGroup state.group.mode with names := name :: state.names }, cs)
    else none

/-- The letters that switch something on, or off behind a hyphen. -/
def switches : List Char := ['i', 'm', 's', 'U', 'u', 'R', 'x', '-']

/-- Whether characters are switches: known, each at most once, and none off without being named. -/
def areSwitches (cs : List Char) : Bool :=
  cs.all switches.contains && decide cs.Nodup && cs.getLast? != some '-'

/-- What a letter is switched to by switches. -/
def switched (cs : List Char) (letter : Char) (before : Bool) : Bool :=
  if (cs.takeWhile (· != '-')).contains letter then true
  else if cs.contains letter then false
  else before

/-- A mode after switches. -/
def Mode.after (mode : Mode) (cs : List Char) : Mode :=
  ⟨switched cs 'u' mode.unicode, switched cs 'x' mode.verbose⟩

/-- Reads switches: they are for a group that starts with them, or for the rest of the group in
which they stand in brackets of their own. -/
def switching (state : State) (cs : List Char) : Option (State × List Char) :=
  let isEnd c := c == ':' || c == ')'
  let letters := cs.takeWhile (!isEnd ·)
  let mode := state.group.mode.after letters
  if ¬areSwitches letters then none
  else
    match cs.dropWhile (!isEnd ·) with
    | ':' :: cs => some (state.openGroup mode, cs)
    | _ :: cs =>
      if letters.isEmpty then none
      else
        let state := state.push { repeatable := false }
        some ({ state with group := { state.group with mode } }, cs)
    | [] => none

/-- Reads the start of a group after its opening bracket. There are no groups that look around. -/
def groupStart (state : State) (cs : List Char) : Option (State × List Char) :=
  match cs with
  | '?' :: '=' :: _ | '?' :: '!' :: _ | '?' :: '<' :: '=' :: _ | '?' :: '<' :: '!' :: _ => none
  | '?' :: 'P' :: '<' :: cs | '?' :: '<' :: cs => named state cs
  | '?' :: cs => switching state cs
  | cs => some (state.openGroup state.group.mode, cs)

/-! ### The machine -/

/-- One step of the machine from a character on. -/
def step (state : State) (c : Char) (cs : List Char) : Option (State × List Char) :=
  let mode := state.group.mode
  match c with
  | '(' => groupStart state (skip mode cs)
  | ')' => state.closeGroup?.map fun state => (state, cs)
  | '|' => some ({ state with group := state.group.nextBranch }, cs)
  | '[' => (CharSet.read mode cs).map fun (set, cs) => (state.push ⟨set.depth, true⟩, cs)
  | '?' | '*' | '+' =>
    state.group.repeatLast?.map fun group =>
      ({ state with group }, if cs.head? = some '?' then cs.tail else cs)
  | '{' => none
  | '.' => if mode.unicode then some (state.push {}, cs) else none
  | '\\' =>
    (escape mode cs).bind fun (atom, cs) =>
      if atom.isAllowed mode then some (state.push {}, cs) else none
  | _ => some (state.push {}, cs)

/-- The state at the end of a pattern, reached in at most `limit` steps. -/
def run : (limit : Nat) → State → List Char → Option State
  | 0, _, _ => none
  | limit + 1, state, cs =>
    match skip state.group.mode cs with
    | [] => some state
    | c :: cs => (step state c cs).bind fun (state, cs) => run limit state cs

/-- Whether a pattern is well formed. Every step takes a character at least. -/
def isValid (cs : List Char) : Bool :=
  match run (cs.length + 1) {} cs with
  | some state => state.outer.isEmpty && state.group.content.depth ≤ deepest
  | none => false

end TextGauge.Pattern
