import TextGauge.CommandLine.Basic

/-!
# Reading command lines

Arguments are taken from the left. A value may stand in the argument of its option (`--text=x`,
`-a5`, `-a=5`) or in the next one; in the second case the option is **pending**, and it is set
only when the next option or flag, or the end, is met – until then an argument that is nothing
goes first.

An argument is, in this order,

* after a lone `--`, nothing;
* `--name` or `--name=value`;
* where an operand is pending without value, a minus sign with a number: the value of it;
* a minus sign with letters: flags, up to an option that takes the rest as its value;
* where an option is pending without value, the value of it;
* nothing.
-/

namespace TextGauge.CommandLine

/-- What has been read so far. -/
structure Scan where
  line : CommandLine := {}
  /-- The option whose value stands in an argument of its own, and the value if it has been
  met. -/
  pending : Option (Opt × Option Bytes) := none
  /-- Whether a lone `--` has been met. -/
  closed : Bool := false
  deriving DecidableEq, Repr

/-! ### Numbers with a minus sign -/

/-- Whether a byte is the code of a digit. -/
def isDigit (b : UInt8) : Bool :=
  byte '0' ≤ b && b ≤ byte '9'

/-- Whether bytes are an exponent: a mark and one digit or more. -/
def isExponent : Bytes → Bool
  | [] => false
  | mark :: digits => (mark = byte 'e' || mark = byte 'E') && !digits.isEmpty && digits.all isDigit

/-- Whether bytes look like a number without sign: digits, perhaps a point and further digits,
perhaps an exponent. -/
def isNumber (bytes : Bytes) : Bool :=
  if (bytes.takeWhile isDigit).isEmpty then false
  else
    let rest := bytes.dropWhile isDigit
    let rest := match rest with
      | b :: more => if b = byte '.' then more.dropWhile isDigit else rest
      | [] => []
    rest.isEmpty || isExponent rest

namespace Scan

/-- Sets the pending option. -/
def settle (s : Scan) : Except Stop Scan :=
  match s.pending with
  | none => .ok s
  | some (_, none) => .error .invalidValue
  | some (opt, some value) => (s.line.setOption opt value).map fun line =>
    { s with line, pending := none }

/-- Meets an option with its value. -/
def option (s : Scan) (opt : Opt) (value : Bytes) : Except Stop Scan := do
  let s ← s.settle
  let line ← s.line.setOption opt value
  return { s with line }

/-- Meets an option whose value is to follow. -/
def await (s : Scan) (opt : Opt) : Except Stop Scan :=
  s.settle.map fun s => { s with pending := some (opt, none) }

/-- Meets a flag. -/
def flag (s : Scan) (flag : Flag) : Except Stop Scan := do
  let s ← s.settle
  let line ← s.line.setFlag flag
  return { s with line }

/-- Whether an option is pending without value, and which. -/
def awaiting (s : Scan) : Option Opt :=
  match s.pending with
  | some (opt, none) => some opt
  | _ => none

/-- Meets an argument that is a value or nothing. -/
def word (s : Scan) (argument : Bytes) : Except Stop Scan :=
  match s.awaiting with
  | some opt => .ok { s with pending := some (opt, some argument) }
  | none => .error .unknownArgument

/-- Meets `--name`, perhaps with `=` and a value. -/
def long (s : Scan) (body : Bytes) : Except Stop Scan :=
  let name := body.takeWhile (· != byte '=')
  let value := match body.dropWhile (· != byte '=') with
    | [] => none
    | _ :: value => some value
  match Opt.named? name, Flag.named? name with
  | some opt, _ => match value with
    | some value => s.option opt value
    | none => s.await opt
  | none, some flag => if value.isSome then .error .valueOfFlag else s.flag flag
  | none, none => .error .unknownArgument

/-- Meets an option by its letter, with the rest of the argument. -/
def attached (s : Scan) (opt : Opt) : Bytes → Except Stop Scan
  | [] => s.await opt
  | b :: rest => if b = byte '=' then s.option opt rest else s.option opt (b :: rest)

/-- Meets letters, each a flag or an option that takes the rest. -/
def cluster (s : Scan) : Bytes → Except Stop Scan
  | [] => .ok s
  | b :: rest =>
    match Flag.lettered? b, Opt.lettered? b with
    | some flag, _ => (s.flag flag).bind (cluster · rest)
    | none, some opt => s.attached opt rest
    | none, none => .error .unknownArgument

/-- Meets an argument. -/
def argument (s : Scan) (bytes : Bytes) : Except Stop Scan :=
  if s.closed then .error .unknownArgument
  else
    match bytes with
    | [] => s.word bytes
    | first :: rest =>
      if first ≠ byte '-' ∨ rest.isEmpty then s.word bytes
      else if rest = [byte '-'] then .ok { s with closed := true }
      else if rest.head? = some (byte '-') then s.long rest.tail
      else if s.awaiting.any Opt.takesNegative ∧ isNumber rest then s.word bytes
      else s.cluster rest

end Scan

/-- What a list of arguments says, or why it is not accepted. -/
def parse (arguments : List Bytes) : Except Stop CommandLine := do
  let s ← arguments.foldlM Scan.argument {}
  let s ← s.settle
  return s.line

end TextGauge.CommandLine
