import TextGauge.Settings.FromToml

/-!
# Writing settings files

Settings that are set can be written as a TOML document in many ways. A document consists of
**blocks**: a table under a header, an entry with a dotted key, a table inline. A **layout** lists
blocks, tables and entries in any order, those with a header last, since what follows a header
belongs to its table. `Layout.Writes` says which layouts write given settings, and `Layout.text`
is the document.
-/

namespace TextGauge.Settings

/-- The value of a setting in a document. -/
inductive Literal
  | integer (n : Int32)
  | string (s : String)
  deriving DecidableEq, Repr

/-- A block of a document. -/
inductive Block
  /-- `[table]`, and a line `key = value` for each entry. -/
  | header (table : String) (entries : List (String × Literal))
  /-- A line `table.key = value`. -/
  | dotted (table key : String) (value : Literal)
  /-- A line `table = { key = value, … }`. -/
  | inline (table : String) (entries : List (String × Literal))
  deriving DecidableEq, Repr

/-- Blocks in the order in which they are written. -/
abbrev Layout := List Block

namespace Block

/-- The table of a block. -/
def table : Block → String
  | header table _ | dotted table _ _ | inline table _ => table

/-- The entries of a block. -/
def entries : Block → List (String × Literal)
  | header _ entries | inline _ entries => entries
  | dotted _ key value => [(key, value)]

/-- Whether a block has a header. -/
def isHeader : Block → Bool
  | header .. => true
  | _ => false

/-- Whether a block is an entry with a dotted key. -/
def isDotted : Block → Bool
  | dotted .. => true
  | _ => false

/-- What a block sets, under the names of its table and of the key. -/
def settings (block : Block) : List (String × String × Literal) :=
  block.entries.map fun entry => (block.table, entry)

end Block

/-! ### Text -/

/-- A hexadecimal digit in one of the two cases. -/
def hexDigit (capital : Bool) (n : Nat) : Char :=
  if capital then (Nat.digitChar n).toUpper else Nat.digitChar n

/-- One character of a string between double quotes. -/
def escape (capital : Bool) (c : Char) : List Char :=
  if c = '"' ∨ c = '\\' then ['\\', c]
  else if c.toNat < 0x20 ∨ c.toNat = 0x7F then
    ['\\', 'u', '0', '0', hexDigit capital (c.toNat / 16), hexDigit capital (c.toNat % 16)]
  else [c]

/-- The text of a value. -/
def Literal.text (capital : Bool) : Literal → List Char
  | integer n => Decimal.ofInt n.toInt
  | string s => '"' :: (s.toList.flatMap (escape capital) ++ ['"'])

/-- An entry under a name. -/
def entryText (capital : Bool) (name : List Char) (value : Literal) : List Char :=
  name ++ [' ', '=', ' '] ++ value.text capital

/-- The lines of a block. -/
def Block.lines (capital : Bool) : Block → List (List Char)
  | header table entries =>
    ('[' :: (table.toList ++ [']']))
      :: entries.map fun (key, value) => entryText capital key.toList value
  | dotted table key value => [entryText capital (table.toList ++ '.' :: key.toList) value]
  | inline table entries =>
    let entries := entries.map fun (key, value) => entryText capital key.toList value
    [table.toList ++ [' ', '=', ' ', '{', ' '] ++ List.intercalate [',', ' '] entries ++ [' ', '}']]

/-- The document of a layout, with hexadecimal digits in one of the two cases. -/
def Layout.text (capital : Bool) (layout : Layout) : String :=
  String.ofList ((layout.flatMap (Block.lines capital)).flatMap fun line => line ++ ['\n'])

/-! ### Layouts of settings -/

/-- What settings set, under the names of the table and of the key. -/
def entries (s : Settings) : List (String × String × Literal) :=
  (s.a.map fun n => ("operands", "a", Literal.integer n)).toList
    ++ (s.b.map fun n => ("operands", "b", Literal.integer n)).toList
    ++ (s.text.map fun t => ("input", "text", Literal.string t)).toList
    ++ (s.level.map fun t => ("logging", "level", Literal.string t)).toList

/-- Whether a layout writes settings: its blocks set what these set, in any order; none of them is
empty, a table has one block unless its blocks are dotted keys, and none without a header follows
one with a header. -/
structure Layout.Writes (layout : Layout) (s : Settings) : Prop where
  settings : (layout.flatMap Block.settings).Perm s.entries
  filled : ∀ block ∈ layout, block.entries ≠ []
  apart : layout.Pairwise fun x y => x.table = y.table → x.isDotted ∧ y.isDotted
  headersLast : layout.Pairwise fun x y => x.isHeader → y.isHeader

end TextGauge.Settings
