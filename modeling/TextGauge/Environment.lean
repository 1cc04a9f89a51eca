import TextGauge.Utf8

/-!
# Environment variables

The environment of a program is a list of **entries** `name=value`. A variable is looked up by the
start of an entry: the value of a name is what follows the name and `=` in the first entry that
starts so. A name with `=` in it is no variable, but it finds an entry all the same if the value of
a variable goes on as the name does: with `A=B=C`, the name `A=B` has the value `C`.
-/

namespace TextGauge

/-- Environment variables with their values. -/
abbrev Environment := List (String × Bytes)

namespace Environment

/-- The byte between a name and a value. -/
def equalsSign : UInt8 := 0x3D

/-- A variable as the environment has it. -/
def entry (name : String) (value : Bytes) : Bytes :=
  Utf8.encode name ++ equalsSign :: value

/-- What follows the first bytes of a sequence, if these are the given ones. -/
def behind? : Bytes → Bytes → Option Bytes
  | [], bytes => some bytes
  | b :: start, c :: bytes => if b = c then behind? start bytes else none
  | _ :: _, [] => none

/-- The value of a name. -/
def value? (environment : Environment) (name : String) : Option Bytes :=
  environment.findSome? fun (variableName, value) =>
    behind? (entry name []) (entry variableName value)

/-- The value of a name, if it is a text. -/
def text? (environment : Environment) (name : String) : Option String :=
  (environment.value? name).bind Utf8.decode?

end Environment

end TextGauge
