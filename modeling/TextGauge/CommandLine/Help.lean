import TextGauge.CommandLine.Basic

/-!
# Help and version

The texts that a command line can ask for, and the line that says why one is not accepted.
-/

namespace TextGauge.CommandLine

/-- The lines of the help text. -/
def helpLines : List String :=
  ["Adds and subtracts two integers, then measures a text and counts its vowels",
   "",
   "Usage: simple-program [OPTIONS]",
   "",
   "Options:",
   "      --text <TEXT>            Text to measure",
   "  -a <A>                       First operand",
   "  -b <B>                       Second operand",
   "  -c, --config <CONFIG>        Path to a TOML configuration file",
   "      --json                   Print the report as JSON",
   "      --log-level <LOG_LEVEL>  Log level (error, warn, info, debug, trace)",
   "  -v, --verbose                Enable verbose output",
   "  -h, --help                   Print help",
   "  -V, --version                Print version"]

/-- The text that `--help` asks for. -/
def helpText : String :=
  String.join (helpLines.map (· ++ "\n"))

/-- The text that `--version` asks for. -/
def versionText : String :=
  "simple-program 0.1.0\n"

end TextGauge.CommandLine

namespace TextGauge.Stop

/-- The text that a stopped reading leaves on the output stream. -/
def output : Stop → String
  | help => CommandLine.helpText
  | version => CommandLine.versionText
  | _ => ""

/-- The exit code after a stopped reading: asking for a text is no failure. -/
def exitCode : Stop → Nat
  | help | version => 0
  | _ => 2

/-- The line that says why a command line is not accepted, if it is a failure. -/
def complaint? : Stop → Option String
  | unknownArgument => some "error: unexpected argument found"
  | invalidValue => some "error: a value is required for an option but none was supplied"
  | notInteger => some "error: the value of an operand is not a 32-bit integer"
  | notUtf8 => some "error: the value of an option is not valid UTF-8"
  | repeated => some "error: an option cannot be used multiple times"
  | valueOfFlag => some "error: a flag takes no value"
  | help | version => none

end TextGauge.Stop
