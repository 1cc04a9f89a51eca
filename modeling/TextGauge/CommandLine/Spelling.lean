import TextGauge.CommandLine.Scan

/-!
# Writing command lines

Every option and flag can be written in several ways. A `Spelling` is one such way: one argument,
or two where the value of an option stands in an argument of its own. The flag `-v` may share an
argument with an option behind it, as in `-va5`.

`Spelling.arguments` writes it, with the names and letters as they are typed, `Spelling.items` says
what it sets, and `Spelling.Valid` says which values it can be written with: next to the letter of
an option no empty value and none that starts with `=`, and in an argument of its own no value that
starts with a minus sign – the lone sign and the numbers of operands aside.

`Writes` says which spellings write a command line: all that it sets, each once and in any order.
-/

namespace TextGauge.CommandLine

/-- An option with its value, or a flag. -/
inductive Item
  | option (opt : Opt) (value : Bytes)
  | flag (flag : Flag)
  deriving DecidableEq, Repr

/-- A way to write an option with its value, or a flag. -/
inductive Spelling
  /-- `--name=value` -/
  | longEquals (opt : Opt) (value : Bytes)
  /-- `--name value` -/
  | longApart (opt : Opt) (value : Bytes)
  /-- `-xvalue`, perhaps with the verbose flag in front of the letter. -/
  | letterTogether (verbose : Bool) (opt : Opt) (value : Bytes)
  /-- `-x=value` -/
  | letterEquals (verbose : Bool) (opt : Opt) (value : Bytes)
  /-- `-x value` -/
  | letterApart (verbose : Bool) (opt : Opt) (value : Bytes)
  /-- `--name` -/
  | longFlag (flag : Flag)
  /-- `-v` -/
  | letterFlag
  deriving DecidableEq, Repr

/-- Whether a value may stand in an argument of its own. -/
def mayStandApart (opt : Opt) (value : Bytes) : Bool :=
  value.head? ≠ some (byte '-') || value = [byte '-'] || opt = .a || opt = .b

namespace Spelling

/-- The long name that an option is written with, if there is one. -/
def optionName? : Opt → Option String
  | .text => some "text"
  | .config => some "config"
  | .level => some "log-level"
  | .a | .b => none

/-- The letter that an option is written with, if there is one. -/
def optionLetter? : Opt → Option Char
  | .a => some 'a'
  | .b => some 'b'
  | .config => some 'c'
  | .text | .level => none

/-- The long name that a flag is written with. -/
def flagName : Flag → String
  | .json => "json"
  | .verbose => "verbose"
  | .help => "help"
  | .version => "version"

/-- A minus sign, perhaps with the letter of the verbose flag, and the letter of an option. -/
def lead (verbose : Bool) (opt : Opt) : Bytes :=
  byte '-' :: (if verbose then [byte 'v'] else []) ++ (optionLetter? opt).toList.map byte

/-- Two minus signs and a long name. -/
def longLead (name : Bytes) : Bytes :=
  byte '-' :: byte '-' :: name

/-- The arguments that a spelling consists of. -/
def arguments : Spelling → List Bytes
  | longEquals opt value => [longLead (ascii ((optionName? opt).getD "")) ++ byte '=' :: value]
  | longApart opt value => [longLead (ascii ((optionName? opt).getD "")), value]
  | letterTogether verbose opt value => [lead verbose opt ++ value]
  | letterEquals verbose opt value => [lead verbose opt ++ byte '=' :: value]
  | letterApart verbose opt value => [lead verbose opt, value]
  | longFlag flag => [longLead (ascii (flagName flag))]
  | letterFlag => [[byte '-', byte 'v']]

/-- The verbose flag, if it shares the argument. -/
def sharedFlag (verbose : Bool) : List Item :=
  if verbose then [.flag .verbose] else []

/-- What a spelling sets, from the left. -/
def items : Spelling → List Item
  | longEquals opt value | longApart opt value => [.option opt value]
  | letterTogether verbose opt value | letterEquals verbose opt value
  | letterApart verbose opt value => sharedFlag verbose ++ [.option opt value]
  | longFlag flag => [.flag flag]
  | letterFlag => [.flag .verbose]

/-- Whether an option can be written this way with this value. -/
def Valid : Spelling → Prop
  | longEquals opt _ => (optionName? opt).isSome
  | longApart opt value => (optionName? opt).isSome ∧ mayStandApart opt value
  | letterTogether _ opt value =>
    (optionLetter? opt).isSome ∧ value ≠ [] ∧ value.head? ≠ some (byte '=')
  | letterEquals _ opt _ => (optionLetter? opt).isSome
  | letterApart _ opt value => (optionLetter? opt).isSome ∧ mayStandApart opt value
  | longFlag _ => True
  | letterFlag => True

instance : DecidablePred Valid
  | longEquals opt _ => inferInstanceAs (Decidable ((optionName? opt).isSome = true))
  | longApart opt value =>
    inferInstanceAs
      (Decidable ((optionName? opt).isSome = true ∧ mayStandApart opt value = true))
  | letterTogether _ opt value =>
    inferInstanceAs
      (Decidable ((optionLetter? opt).isSome = true ∧ value ≠ [] ∧ value.head? ≠ some (byte '=')))
  | letterEquals _ opt _ => inferInstanceAs (Decidable ((optionLetter? opt).isSome = true))
  | letterApart _ opt value =>
    inferInstanceAs
      (Decidable ((optionLetter? opt).isSome = true ∧ mayStandApart opt value = true))
  | longFlag _ => .isTrue trivial
  | letterFlag => .isTrue trivial

end Spelling

/-! ### What spellings say -/

/-- An option or a flag by itself. -/
inductive Name
  | option (opt : Opt)
  | flag (flag : Flag)
  deriving DecidableEq, Repr

/-- What an item sets. -/
def Item.name : Item → Name
  | .option opt _ => .option opt
  | .flag f => .flag f

/-- Whether a command line sets an option or a flag. -/
def sets (line : CommandLine) : Name → Bool
  | .option opt => line.has opt
  | .flag .json => line.json
  | .flag .verbose => line.verbose
  | .flag .help | .flag .version => false

/-- Whether a value is a way to write an integer of 32 bits. -/
def IsNumeral (n : Int32) (value : Bytes) : Prop :=
  ∃ cs, Decimal.Spells cs n.toInt ∧ value = Utf8.encode (String.ofList cs)

/-- Whether a command line has the value of an option, or a flag. -/
def Says (line : CommandLine) : Item → Prop
  | .option .text value => ∃ s, line.settings.text = some s ∧ value = Utf8.encode s
  | .option .level value => ∃ s, line.settings.level = some s ∧ value = Utf8.encode s
  | .option .a value => ∃ n, line.settings.a = some n ∧ IsNumeral n value
  | .option .b value => ∃ n, line.settings.b = some n ∧ IsNumeral n value
  | .option .config value => line.config = some value
  | .flag flag => sets line (.flag flag)

/-- Whether spellings write a command line: they say of it nothing that is not so, everything that
it sets, and nothing twice. -/
structure Writes (spellings : List Spelling) (line : CommandLine) : Prop where
  valid : ∀ spelling ∈ spellings, spelling.Valid
  sound : ∀ item ∈ spellings.flatMap Spelling.items, Says line item
  once : ((spellings.flatMap Spelling.items).map Item.name).Nodup
  all : ∀ name, sets line name → name ∈ (spellings.flatMap Spelling.items).map Item.name

/-! ### Arguments -/

/-- The argument that closes a command line. -/
def closer : Bytes := [byte '-', byte '-']

/-- The arguments of spellings in sequence, with `--` at the end or without. -/
def write (spellings : List Spelling) (closed : Bool) : List Bytes :=
  spellings.flatMap Spelling.arguments ++ if closed then [closer] else []

end TextGauge.CommandLine
