import TextGauge.Program

/-!
# The command line

The outer layer: it hands the program its arguments, the settings file and the environment
variables that the file mentions, and writes what the program leaves behind.
-/

namespace TextGauge

/-- The bytes of a text, as the system passes it. -/
def bytesOf (s : String) : Bytes :=
  s.toUTF8.toList

/-- The number of a system error, which some calls give with its sign changed. -/
def errorNumber (code : UInt32) : UInt32 :=
  if code ≥ 0x80000000 then 0 - code else code

/-- The content of the file at a path. -/
def readContent (path : Bytes) : IO (Except FileFault Bytes) := do
  let path := Utf8.decodeLossy path
  try
    let content ← IO.FS.readBinFile path
    return .ok content.toList
  catch
    | .noFileOrDirectory .. => return .error .missing
    | .inappropriateType _ code _ =>
      return .error (if errorNumber code = 20 then .notDirectory else .directory)
    | .invalidArgument _ code details =>
      return .error (if errorNumber code = 36 then .nameTooLong else .described details)
    | e => return .error (.described (toString e))

/-- The values of environment variables. -/
def readVariables (names : List String) : IO Environment := do
  let mut found := []
  for name in names do
    if let some value ← IO.getEnv name then
      found := (name, bytesOf value) :: found
  return found

/-- What the program may read, as far as these arguments make it read anything. -/
def surroundings (arguments : List Bytes) : IO Surroundings := do
  let content : Except FileFault Bytes ←
    match CommandLine.parse arguments with
    | .ok { config := some path, .. } => readContent path
    | _ => pure (.error .missing)
  let mentioned := match content with
    | .ok bytes => Placeholder.names (Utf8.decodeLossy bytes)
    | .error _ => []
  let environment ← readVariables (filterVariable :: mentioned)
  return { file := fun _ => content, environment }

/-- The mark at the start of a log line: milliseconds of a clock that only moves forward. -/
def timeMark : IO String := do
  return s!"[{← IO.monoMsNow}]"

end TextGauge

open TextGauge

/-- Runs the program. -/
def main (arguments : List String) : IO UInt32 := do
  let arguments := arguments.map bytesOf
  let outcome := program (← surroundings arguments) arguments
  (← IO.getStdout).putStr outcome.output
  let stderr ← IO.getStderr
  match outcome with
  | .stopped stop =>
    if let some complaint := stop.complaint? then
      stderr.putStrLn complaint
  | .ran _ _ notices =>
    let time ← timeMark
    for notice in notices do
      stderr.putStrLn (notice.text time)
  return outcome.exitCode.toUInt32
