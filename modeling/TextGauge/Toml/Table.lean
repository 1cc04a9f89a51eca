import TextGauge.Toml.Value

/-!
# Building tables

A document fills its tables piece by piece, from headers `[a.b]` and `[[a.b]]` and from lines
`a.b = value`. Whether a piece may go where it says depends on how the tables on its way came to
be, their **origin**: a table opened by a header of its own, one that a longer header or one that
a dotted key went through.

* A header may open a table that longer headers went through, once, and no other.
* A dotted key may go through tables without a header of their own, and what it sets has to lie in
  one that dotted keys made.
* Values, arrays and inline tables among them, are closed: nothing goes through them.
* The way through an array of tables goes through its last element.

`Node.along` walks such a way and changes the table at its end; the three kinds of piece differ
only in what they do there.
-/

namespace TextGauge.Toml

/-- How a table came to be. -/
inductive Origin
  /-- It has a header of its own, or is the table of the whole document. -/
  | header
  /-- A longer header went through it. -/
  | passage
  /-- A dotted key went through it. -/
  | dotted
  deriving DecidableEq, Repr

/-- What a key leads to in a table under construction. -/
inductive Node
  /-- A finished value. -/
  | value (v : Value)
  /-- A table. -/
  | table (origin : Origin) (entries : List (String × Node))
  /-- An array of tables: the finished ones, and the entries of the last. -/
  | tables (finished : List Value) (entries : List (String × Node))
  deriving Repr

namespace Node

/-- Replaces what a key leads to. -/
def replace (key : String) (node : Node) (entries : List (String × Node)) :
    List (String × Node) :=
  entries.map fun entry => if entry.1 = key then (key, node) else entry

mutual

/-- The value that a node amounts to. -/
def toValue : Node → Value
  | value v => v
  | table _ entries => .table (toEntries entries)
  | tables finished entries => .array (finished ++ [.table (toEntries entries)])

/-- The entries that nodes amount to. -/
def toEntries : List (String × Node) → Entries
  | [] => []
  | (key, node) :: rest => (key, toValue node) :: toEntries rest

end

/-- What is done to the table at the end of a way, given its origin. -/
abbrev Change := Origin → List (String × Node) → Option (List (String × Node))

/-- Changes the table to which a way leads. Tables that are missing on the way are made, with the
given origin; a dotted key does not go through a table with a header of its own. -/
def along (origin : Origin) (change : Change) : List String → Change
  | [], here, entries => change here entries
  | key :: way, _, entries =>
    match entries.lookup key with
    | none =>
      (along origin change way origin []).map fun inner => entries ++ [(key, table origin inner)]
    | some (table there inner) =>
      if origin = .dotted ∧ there = .header then none
      else
        (along origin change way there inner).map fun inner =>
          replace key (table there inner) entries
    | some (tables finished inner) =>
      (along origin change way .header inner).map fun inner =>
        replace key (tables finished inner) entries
    | some (value _) => none

/-- Opens the table of a header. -/
def openTable (key : String) : Change := fun _ entries =>
  match entries.lookup key with
  | none => some (entries ++ [(key, table .header [])])
  | some (table .passage inner) => some (replace key (table .header inner) entries)
  | some _ => none

/-- Opens one more table of an array of tables. -/
def openElement (key : String) : Change := fun _ entries =>
  match entries.lookup key with
  | none => some (entries ++ [(key, tables [] [])])
  | some (tables finished inner) =>
    some (replace key (tables (finished ++ [.table (toEntries inner)]) []) entries)
  | some _ => none

/-- Sets a key to a value. -/
def set (key : String) (v : Value) : Change := fun _ entries =>
  match entries.lookup key with
  | none => some (entries ++ [(key, value v)])
  | some _ => none

/-- Sets a key in a table that dotted keys made, and in no other. -/
def setInDotted (key : String) (v : Value) : Change := fun here entries =>
  if here = .dotted then set key v here entries else none

/-- Sets the key at the end of a way of dotted keys, which has to lead to a table that dotted
keys made. -/
def setDotted (way : List String) (key : String) (v : Value) : Change :=
  if way.isEmpty then set key v else along .dotted (setInDotted key v) way

end Node

/-! ### Pieces of a document -/

/-- A dotted key: the way, and the last part. -/
structure Path where
  way : List String
  last : String
  deriving DecidableEq, Repr

/-- The whole of a dotted key, as a way. -/
def Path.toWay (p : Path) : List String :=
  p.way ++ [p.last]

/-- A piece of a document. -/
inductive Piece
  /-- `[path]` -/
  | header (path : Path)
  /-- `[[path]]` -/
  | elementHeader (path : Path)
  /-- `path = value` -/
  | line (path : Path) (v : Value)
  deriving Repr

/-- A table under construction, and the way to the table that lines go to. -/
structure Draft where
  entries : List (String × Node)
  current : List String

/-- Adds a piece. -/
def Draft.add (draft : Draft) : Piece → Option Draft
  | .header path =>
    (Node.along .passage (Node.openTable path.last) path.way .header draft.entries).map
      fun entries => ⟨entries, path.toWay⟩
  | .elementHeader path =>
    (Node.along .passage (Node.openElement path.last) path.way .header draft.entries).map
      fun entries => ⟨entries, path.toWay⟩
  | .line path v =>
    (Node.along .passage (Node.setDotted path.way path.last v) draft.current .header
      draft.entries).map fun entries => ⟨entries, draft.current⟩

/-- The table that pieces amount to, if each may go where it says. -/
def tableOf? (pieces : List Piece) : Option Entries :=
  (pieces.foldlM Draft.add ⟨[], []⟩).map fun draft => Node.toEntries draft.entries

end TextGauge.Toml
