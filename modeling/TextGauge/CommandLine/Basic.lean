import TextGauge.Settings.Basic

/-!
# Command lines

A command line is a list of byte strings. It sets **options**, which take a value, and **flags**,
which do not; each has a long name, a letter, or both. What an accepted command line says is a
`CommandLine`; whatever else stops the reading is a `Stop`.
-/

namespace TextGauge

/-- What an accepted command line says. -/
structure CommandLine where
  settings : Settings := {}
  /-- The path of the settings file. -/
  config : Option Bytes := none
  json : Bool := false
  verbose : Bool := false
  deriving DecidableEq, Repr

/-- Why the reading of a command line stops before its end. -/
inductive Stop
  /-- An argument that is no option, flag or value of an option. -/
  | unknownArgument
  /-- An option without value, or with an empty one where that is not allowed. -/
  | invalidValue
  /-- A value that is not an integer of 32 bits. -/
  | notInteger
  /-- A value that has to be UTF-8 and is not. -/
  | notUtf8
  /-- An option or flag that was given before. -/
  | repeated
  /-- A flag with a value. -/
  | valueOfFlag
  /-- The help text is asked for. -/
  | help
  /-- The version is asked for. -/
  | version
  deriving DecidableEq, Repr

/-- An option, which takes a value. -/
inductive Opt
  | text
  | a
  | b
  | config
  | level
  deriving DecidableEq, Repr

/-- A flag, which takes none. -/
inductive Flag
  | json
  | verbose
  | help
  | version
  deriving DecidableEq, Repr

/-- The byte of an ASCII character. -/
def byte (c : Char) : UInt8 :=
  c.toNat.toUInt8

/-- The bytes of an ASCII name. -/
def ascii (name : String) : Bytes :=
  name.toList.map byte

namespace Opt

/-- All options. -/
def all : List Opt := [text, a, b, config, level]

/-- The long name of an option, if it has one. -/
def longName? : Opt → Option Bytes
  | text => some (ascii "text")
  | config => some (ascii "config")
  | level => some (ascii "log-level")
  | a | b => none

/-- The letter of an option, if it has one. -/
def letter? : Opt → Option UInt8
  | a => some (byte 'a')
  | b => some (byte 'b')
  | config => some (byte 'c')
  | text | level => none

/-- The option with a long name. -/
def named? (name : Bytes) : Option Opt :=
  all.find? fun opt => opt.longName? = some name

/-- The option with a letter. -/
def lettered? (letter : UInt8) : Option Opt :=
  all.find? fun opt => opt.letter? = some letter

/-- Whether an option takes a number that starts with a minus sign as its value in an argument of
its own. -/
def takesNegative : Opt → Bool
  | a | b => true
  | _ => false

end Opt

namespace Flag

/-- All flags. -/
def all : List Flag := [json, verbose, help, version]

/-- The long name of a flag. -/
def longName : Flag → Bytes
  | json => ascii "json"
  | verbose => ascii "verbose"
  | help => ascii "help"
  | version => ascii "version"

/-- The letter of a flag, if it has one. -/
def letter? : Flag → Option UInt8
  | json => none
  | verbose => some (byte 'v')
  | help => some (byte 'h')
  | version => some (byte 'V')

/-- The flag with a long name. -/
def named? (name : Bytes) : Option Flag :=
  all.find? fun flag => flag.longName = name

/-- The flag with a letter. -/
def lettered? (letter : UInt8) : Option Flag :=
  all.find? fun flag => flag.letter? = some letter

end Flag

namespace CommandLine

/-! ### Setting options and flags -/

/-- Whether an option is set. -/
def has (line : CommandLine) : Opt → Bool
  | .text => line.settings.text.isSome
  | .a => line.settings.a.isSome
  | .b => line.settings.b.isSome
  | .config => line.config.isSome
  | .level => line.settings.level.isSome

/-- The value of an option that is a text. -/
def textOf (value : Bytes) : Except Stop String :=
  (Utf8.decode? value).elim (.error .notUtf8) .ok

/-- The value of an option that is an integer of 32 bits. -/
def int32Of (value : Bytes) : Except Stop Int32 := do
  let s ← textOf value
  ((Decimal.int? s.toList).bind Decimal.int32?).elim (.error .notInteger) .ok

/-- Sets an option that is not set yet. -/
def setOption (line : CommandLine) (opt : Opt) (value : Bytes) : Except Stop CommandLine :=
  if line.has opt then .error .repeated
  else
    match opt with
    | .text => (textOf value).map fun s =>
      { line with settings := { line.settings with text := some s } }
    | .level => (textOf value).map fun s =>
      { line with settings := { line.settings with level := some s } }
    | .a => (int32Of value).map fun n =>
      { line with settings := { line.settings with a := some n } }
    | .b => (int32Of value).map fun n =>
      { line with settings := { line.settings with b := some n } }
    | .config =>
      if value.isEmpty then .error .invalidValue else .ok { line with config := some value }

/-- Sets a flag that is not set yet. The flags that ask for a text stop the reading. -/
def setFlag (line : CommandLine) : Flag → Except Stop CommandLine
  | .json => if line.json then .error .repeated else .ok { line with json := true }
  | .verbose => if line.verbose then .error .repeated else .ok { line with verbose := true }
  | .help => .error .help
  | .version => .error .version

end CommandLine

end TextGauge
