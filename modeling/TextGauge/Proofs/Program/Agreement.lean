import TextGauge.Proofs.Placeholder.Division
import TextGauge.Proofs.Program.Contract

/-!
# Settings from a file and settings from the command line agree

It makes no difference to a run whether a setting stands in the settings file or on the command
line (`TextGauge.program_file_eq_program_flags`). Take a command line and what a settings file
says, and **fill** the command line: each setting that it lacks is taken over from the file, and
the file is no longer named. The run with the file and the run on the filled command line print the
same, exit with the same code, and fail with the same fault, except that a fault calls a setting by
the name that it has where it comes from (`TextGauge.Fault.inFile`).
-/

namespace TextGauge

/-! ### Filling a command line -/

/-- A setting of a command line, or that of a file where the command line has none. -/
def filledBy {α : Type} (file : Option α) : Option α → Option α
  | some flag => some flag
  | none => file

namespace Settings

/-- Settings of a command line, each one that is missing taken from a file. -/
def filledFrom (flags file : Settings) : Settings where
  a := filledBy file.a flags.a
  b := filledBy file.b flags.b
  text := filledBy file.text flags.text
  level := filledBy file.level flags.level

/-- **Every setting of the command line wins**, whatever the others are. -/
theorem overriddenBy_eq_filledFrom (file flags : Settings) :
    file.overriddenBy flags = flags.filledFrom file := by
  obtain ⟨a, b, text, level⟩ := flags
  rw [overriddenBy, filledFrom, mk.injEq]
  refine ⟨?_, ?_, ?_, ?_⟩
  · cases a <;> rfl
  · cases b <;> rfl
  · cases text <;> rfl
  · cases level <;> rfl

/-- A file that sets nothing adds nothing. -/
theorem filledFrom_empty (flags : Settings) : flags.filledFrom {} = flags := by
  obtain ⟨a, b, text, level⟩ := flags
  rw [filledFrom, mk.injEq]
  refine ⟨?_, ?_, ?_, ?_⟩
  · cases a <;> rfl
  · cases b <;> rfl
  · cases text <;> rfl
  · cases level <;> rfl

end Settings

/-- A command line that says all by itself what it and a settings file say. -/
def CommandLine.filledFrom (line : CommandLine) (file : Settings) : CommandLine :=
  { line with config := none, settings := line.settings.filledFrom file }

/-! ### Names in faults -/

/-- The name that a setting has in a file, given its name on the command line. -/
def nameInFile (name : String) : String :=
  if name = "--text" then "input.text"
  else if name = "--log-level" then "logging.level"
  else name

/-- A fault that calls settings by their names in a file. -/
def Fault.inFile : Fault → Fault
  | .value name shown objection => .value (nameInFile name) shown objection
  | f => f

@[simp] theorem Fault.severity_inFile (f : Fault) : f.inFile.severity = f.severity := by
  cases f <;> rfl

theorem checkText_inFile (text : String) :
    checkText Source.file.textName text =
      (checkText Source.commandLine.textName text).mapError Fault.inFile := by
  rw [checkText, checkText]
  rcases Text.nulOffset? (Utf8.encode text) with _ | offset
  · rfl
  · rfl

theorem checkLevel_inFile (level : String) :
    checkLevel Source.file.levelName level =
      (checkLevel Source.commandLine.levelName level).mapError Fault.inFile := by
  rw [checkLevel, checkLevel]
  by_cases hlevel : (Level.called? level).isSome
  · rw [if_pos hlevel, if_pos hlevel]
    rfl
  · rw [if_neg hlevel, if_neg hlevel]
    rfl

/-- **The same values pass the check**, and the same value fails it. -/
theorem Settings.check_inFile (s : Settings) :
    s.check .file = (s.check .commandLine).mapError Fault.inFile := by
  rw [check, check, checkText_inFile, checkLevel_inFile]
  rcases checkText Source.commandLine.textName s.effectiveText with f | _
  · rfl
  · rcases checkLevel Source.commandLine.levelName s.effectiveLevel with f | _
    · rfl
    · rfl

/-- An operation that fails names no setting. -/
theorem Operation.inFile_of_run {operation : Operation} {a b : Int32} {f : Fault}
    (h : operation.run a b = .error f) : f.inFile = f := by
  rw [run] at h
  split at h
  · exact absurd h (by simp)
  · obtain rfl := Except.error.inj h
    rfl

/-- Nor does a run that fails. -/
theorem inFile_of_run {operands : Operands} {text : String} {f : Fault}
    (h : (run operands text).result = .error f) : f.inFile = f := by
  rw [run] at h
  rcases hadd : add operands.a operands.b with f' | sum
  · rw [hadd] at h
    obtain rfl := Except.error.inj h
    exact Operation.inFile_of_run hadd
  · rcases hsubtract : subtract operands.a operands.b with f' | difference
    · rw [hadd, hsubtract] at h
      obtain rfl := Except.error.inj h
      exact Operation.inFile_of_run hsubtract
    · rw [hadd, hsubtract] at h
      exact absurd h (by simp)

/-- **Settings are run on in the same way**, wherever they come from. -/
theorem Settings.execute_inFile (s : Settings) (json : Bool) :
    (s.execute .file json).events = (s.execute .commandLine json).events ∧
      (s.execute .file json).result =
        (s.execute .commandLine json).result.mapError Fault.inFile := by
  rw [execute, execute, check_inFile]
  rcases s.check .commandLine with f | _
  · exact ⟨rfl, rfl⟩
  · refine ⟨rfl, ?_⟩
    change (run s.operands s.effectiveText).result.map _ =
      ((run s.operands s.effectiveText).result.map _).mapError _
    rcases hrun : (run s.operands s.effectiveText).result with f | report
    · simp [Except.map, Except.mapError, inFile_of_run hrun]
    · rfl

/-! ### Two runs -/

section Program

variable {around : Surroundings} {line : CommandLine} {path : Bytes} {file : Settings}

/-- The run with a settings file, and the run on the filled command line. -/
theorem CommandLine.result_trace_inFile (hconfig : line.config = some path)
    (hload : Settings.load around path = .ok file) (around' : Surroundings) :
    (line.trace around).result =
      ((line.filledFrom file).trace around').result.mapError Fault.inFile := by
  have hfile : (line.trace around).result =
      ((line.settings.filledFrom file).execute .file line.json).result := by
    simp only [trace, hconfig, hload, Settings.overriddenBy_eq_filledFrom]
  rw [hfile, (Settings.execute_inFile _ _).2]
  rfl

/-- **The settings file and the command line agree**. Settings of a file with those of a command
line in their place are run on as the filled command line is. So the two runs of the program print
the same, exit with the same code, and name the same fault up to the name of a setting; and a file
that sets nothing is like no file. -/
theorem program_file_eq_program_flags (line : CommandLine) (file : Settings) :
    (file.overriddenBy line.settings = (line.filledFrom file).settings ∧
      ((file.overriddenBy line.settings).execute .file line.json).events =
        ((line.filledFrom file).settings.execute .commandLine line.json).events ∧
      ((file.overriddenBy line.settings).execute .file line.json).result =
        ((line.filledFrom file).settings.execute .commandLine line.json).result.mapError
          Fault.inFile) ∧
    (∀ (around around' : Surroundings) (arguments arguments' : List Bytes) (path : Bytes),
      CommandLine.parse arguments = .ok { line with config := some path } →
      Settings.load around path = .ok file →
      CommandLine.parse arguments' = .ok (line.filledFrom file) →
      (program around arguments).output = (program around' arguments').output ∧
      (program around arguments).exitCode = (program around' arguments').exitCode ∧
      (program around arguments).fault? =
        (program around' arguments').fault?.map Fault.inFile) ∧
    line.filledFrom {} = { line with config := none } := by
  refine ⟨⟨Settings.overriddenBy_eq_filledFrom _ _, ?_⟩, ?_, ?_⟩
  · rw [Settings.overriddenBy_eq_filledFrom]
    exact Settings.execute_inFile _ _
  · intro around around' arguments arguments' path hparse hload hparse'
    have hresult : (CommandLine.trace around { line with config := some path }).result =
        ((line.filledFrom file).trace around').result.mapError Fault.inFile :=
      CommandLine.result_trace_inFile rfl hload around'
    rcases hflags : ((line.filledFrom file).trace around').result with f | text
    · rw [hflags] at hresult
      have hfile := leaves_of_error hparse hresult
      have hflags := leaves_of_error hparse' hflags
      refine ⟨hfile.output.trans hflags.output.symm, ?_, ?_⟩
      · rw [hfile.exitCode, hflags.exitCode, Fault.severity_inFile]
      · rw [hfile.fault, hflags.fault, Option.map_some]
    · rw [hflags] at hresult
      have hfile := leaves_of_ok hparse hresult
      have hflags := leaves_of_ok hparse' hflags
      refine ⟨hfile.output.trans hflags.output.symm, ?_, ?_⟩
      · rw [hfile.exitCode, hflags.exitCode]
      · rw [hfile.fault, hflags.fault, Option.map_none]
  · rw [CommandLine.filledFrom, Settings.filledFrom_empty]

/-- A file with a log level that there is not: both runs fail, each with its name of the setting. -/
theorem program_file_eq_program_flags_unknown_level :
    let line : CommandLine := { settings := { a := some 20 } }
    let file : Settings := { level := some "loud" }
    let content := "[logging]\nlevel = \"loud\"\n"
    let around : Surroundings := ⟨fun _ => .ok (Utf8.encode content), []⟩
    let around' : Surroundings := ⟨fun _ => .error .missing, []⟩
    let arguments := [ascii "-c", ascii "f", ascii "-a", ascii "20"]
    let arguments' := [ascii "--log-level=loud", ascii "-a=20"]
    (CommandLine.parse arguments = .ok { line with config := some (ascii "f") } ∧
      Settings.load around (ascii "f") = .ok file ∧
      CommandLine.parse arguments' = .ok (line.filledFrom file)) ∧
    (program around arguments).output = (program around' arguments').output ∧
    (program around arguments).exitCode = (program around' arguments').exitCode ∧
    (program around arguments).fault? = (program around' arguments').fault?.map Fault.inFile := by
  intro line file content around around' arguments arguments'
  have hparse : CommandLine.parse arguments = .ok { line with config := some (ascii "f") } := by rfl
  have hparse' : CommandLine.parse arguments' = .ok (line.filledFrom file) := by rfl
  have htoml : Settings.ofToml content = .ok file := by decide +kernel
  have hload : Settings.load around (ascii "f") = .ok file := by
    have hsubstitute : Placeholder.substitute (Environment.text? []) content = content :=
      Placeholder.substitute_eq_self fun name _ => rfl
    simp only [Settings.load, Settings.ofFile, around, Except.mapError, ok_bind,
      Utf8.decode?_encode, Settings.ofFileText, hsubstitute, htoml]
  exact ⟨⟨hparse, hload, hparse'⟩,
    (program_file_eq_program_flags line file).2.1 around around' arguments arguments' (ascii "f")
      hparse hload hparse'⟩

end Program

end TextGauge
