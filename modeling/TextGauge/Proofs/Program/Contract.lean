import TextGauge.Proofs.Report.Printed
import TextGauge.Proofs.Run

/-!
# What a run of the program leaves behind

The exit code and the output of the program are described here by **rules**
(`TextGauge.Ends`), one for each way in which a run ends: what has to hold of the arguments, of the
settings file and of the effective values, and what is left behind then. The rules know nothing of
the order in which the program looks at things; each says by itself what it needs of the others.
What stands in the output of a run that reports is `TextGauge.Report.printed`.

The program follows these rules and no others (`TextGauge.program_contract`). So of several faults
the rules say which one wins, and a run that fails leaves no output and never the exit code 0.
-/

namespace TextGauge

/-! ### The settings of a run -/

namespace CommandLine

/-- **What the settings file says**: nothing if none is given; else the settings in its text, where
placeholders stand for environment variables. -/
inductive FileGives (around : Surroundings) (line : CommandLine) : Settings → Prop
  | nothing : line.config = none → FileGives around line {}
  | settings {path : Bytes} {text : String} {tables : Toml.Entries} {s : Settings} :
    line.config = some path → around.file path = .ok (Utf8.encode text) →
    Toml.parse? (Placeholder.substitute around.environment.text? text) = some tables →
    Settings.ofTable tables = .ok s → FileGives around line s

/-- **What is wrong with the settings file**: it cannot be read, it is no text, its text is no TOML
document, or the document has not the shape of settings. -/
inductive FileFails (around : Surroundings) (line : CommandLine) : Fault → Prop
  | unreadable {path : Bytes} {cause : FileFault} :
    line.config = some path → around.file path = .error cause →
    FileFails around line (.file cause)
  | notUtf8 {path content : Bytes} :
    line.config = some path → around.file path = .ok content →
    (∀ text, Utf8.encode text ≠ content) → FileFails around line (.file .notUtf8)
  | malformed {path : Bytes} {text : String} :
    line.config = some path → around.file path = .ok (Utf8.encode text) →
    Toml.parse? (Placeholder.substitute around.environment.text? text) = none →
    FileFails around line (.settings .malformed)
  | misshapen {path : Bytes} {text : String} {tables : Toml.Entries} {mismatch : Mismatch} :
    line.config = some path → around.file path = .ok (Utf8.encode text) →
    Toml.parse? (Placeholder.substitute around.environment.text? text) = some tables →
    Settings.ofTable tables = .error mismatch →
    FileFails around line (.settings (.shape mismatch))

end CommandLine

/-- The effective values of a run. -/
structure Effective where
  a : Int32
  b : Int32
  text : String
  level : String

/-- **The command line wins**, then the settings file, then what is built in. -/
def CommandLine.effective (line : CommandLine) (file : Settings) : Effective where
  a := (line.settings.a.or file.a).getD 10
  b := (line.settings.b.or file.b).getD 3
  text := (line.settings.text.or file.text).getD "Hello World!"
  level := (line.settings.level.or file.level).getD "info"

/-- Where the effective values come from, as far as their names in faults go. -/
def CommandLine.source (line : CommandLine) : Source :=
  if line.config = none then .commandLine else .file

namespace Effective

/-- The report on effective values, given the sum and the difference. -/
def report (e : Effective) (sum difference : Int32) : Report where
  a := e.a
  b := e.b
  sum := sum
  difference := difference
  text := e.text
  length := e.text.utf8ByteSize
  vowels := e.text.toList.countP fun c => c ∈ ['a', 'e', 'i', 'o', 'u', 'A', 'E', 'I', 'O', 'U']

/-- Whether the text and the log level are allowed. -/
structure Allowed (e : Effective) : Prop where
  text : '\x00' ∉ e.text.toList
  level : lowered e.level ∈ levelWords

end Effective

/-! ### The rules -/

/-- **How a run ends**: the exit code, the output, and the fault that the error stream names. -/
inductive Ends (around : Surroundings) (arguments : List Bytes) : ℕ → String → Option Fault → Prop
  /-- The help text is asked for. -/
  | help : CommandLine.parse arguments = .error .help →
    Ends around arguments 0 CommandLine.helpText none
  /-- The version is asked for. -/
  | version : CommandLine.parse arguments = .error .version →
    Ends around arguments 0 CommandLine.versionText none
  /-- The command line is not accepted. -/
  | refused {stop : Stop} : CommandLine.parse arguments = .error stop →
    stop ≠ .help → stop ≠ .version → Ends around arguments 2 "" none
  /-- The settings file cannot be read. -/
  | unreadable {line : CommandLine} {cause : FileFault} :
    CommandLine.parse arguments = .ok line → line.FileFails around (.file cause) →
    Ends around arguments 3 "" (some (.file cause))
  /-- The settings file cannot be understood. -/
  | unclear {line : CommandLine} {cause : SettingsFault} :
    CommandLine.parse arguments = .ok line → line.FileFails around (.settings cause) →
    Ends around arguments 1 "" (some (.settings cause))
  /-- The text has a zero character, whatever the log level is; the first one is named. -/
  | zeroInText {line : CommandLine} {file : Settings} {before after : List Char} :
    CommandLine.parse arguments = .ok line → line.FileGives around file →
    (line.effective file).text.toList = before ++ '\x00' :: after → '\x00' ∉ before →
    Ends around arguments 1 "" (some (.value line.source.textName
      (Text.Echo.bare (line.effective file).text) (.nulAt (String.ofList before).utf8ByteSize)))
  /-- The log level is none of those there are. -/
  | unknownLevel {line : CommandLine} {file : Settings} :
    CommandLine.parse arguments = .ok line → line.FileGives around file →
    '\x00' ∉ (line.effective file).text.toList →
    lowered (line.effective file).level ∉ levelWords →
    Ends around arguments 1 ""
      (some (.value line.source.levelName (line.effective file).level .unknownLevel))
  /-- The sum does not fit in 32 bits. -/
  | sumTooLarge {line : CommandLine} {file : Settings} :
    CommandLine.parse arguments = .ok line → line.FileGives around file →
    (line.effective file).Allowed →
    ¬Fits ((line.effective file).a.toInt + (line.effective file).b.toInt) →
    Ends around arguments 2 ""
      (some (.overflow .addition (line.effective file).a (line.effective file).b))
  /-- The sum fits and the difference does not. -/
  | differenceTooLarge {line : CommandLine} {file : Settings} :
    CommandLine.parse arguments = .ok line → line.FileGives around file →
    (line.effective file).Allowed →
    Fits ((line.effective file).a.toInt + (line.effective file).b.toInt) →
    ¬Fits ((line.effective file).a.toInt - (line.effective file).b.toInt) →
    Ends around arguments 2 ""
      (some (.overflow .subtraction (line.effective file).a (line.effective file).b))
  /-- All is well. -/
  | report {line : CommandLine} {file : Settings} {sum difference : Int32} :
    CommandLine.parse arguments = .ok line → line.FileGives around file →
    (line.effective file).Allowed →
    sum.toInt = (line.effective file).a.toInt + (line.effective file).b.toInt →
    difference.toInt = (line.effective file).a.toInt - (line.effective file).b.toInt →
    Ends around arguments 0 (((line.effective file).report sum difference).printed line.json) none

/-- The fault that a notice names. -/
def Notice.fault? : Notice → Option Fault
  | fault f => some f
  | _ => none

/-- The fault that the error stream names. -/
def Outcome.fault? : Outcome → Option Fault
  | stopped _ => none
  | ran _ _ notices => notices.findSome? Notice.fault?

/-- Whether the program failed: its command line was not accepted, or the error stream names a
fault. -/
def Outcome.Failed : Outcome → Prop
  | stopped stop => stop ≠ .help ∧ stop ≠ .version
  | ran _ _ notices => (notices.findSome? Notice.fault?).isSome

/-! ### From the settings file to the effective values -/

namespace CommandLine

variable {around : Surroundings} {line : CommandLine} {file : Settings} {f : Fault}

/-- The settings that a run goes on with, or the fault of the settings file. -/
def gathered (around : Surroundings) (line : CommandLine) : Except Fault Settings :=
  match line.config with
  | none => .ok line.settings
  | some path => (Settings.load around path).map fun file => file.overriddenBy line.settings

/-- A run gathers its settings and goes on with them. -/
theorem result_trace (around : Surroundings) (line : CommandLine) :
    (line.trace around).result =
      (line.gathered around).bind fun s => (s.execute line.source line.json).result := by
  rcases hconfig : line.config with _ | path
  · simp [trace, gathered, hconfig, source, Except.bind]
  · rcases hload : Settings.load around path with f | file
    · simp [trace, gathered, hconfig, hload, Except.map, Except.bind]
    · simp [trace, gathered, hconfig, hload, source, Except.map, Except.bind]

theorem FileGives.gathered_eq (h : line.FileGives around file) :
    line.gathered around = .ok (file.overriddenBy line.settings) := by
  cases h with
  | nothing hconfig =>
    have hempty : ({} : Settings).overriddenBy line.settings = line.settings := by
      simp [Settings.overriddenBy]
    rw [gathered, hconfig, hempty]
  | settings hconfig hfile hparse htable =>
    simp [gathered, hconfig, Settings.load, Settings.ofFile, hfile, Except.mapError,
      Settings.ofFileText, Settings.ofToml, hparse, htable, Except.map]

theorem FileFails.gathered_eq (h : line.FileFails around f) : line.gathered around = .error f := by
  cases h with
  | unreadable hconfig hfile =>
    simp [gathered, hconfig, Settings.load, Settings.ofFile, hfile, Except.mapError, Except.map]
  | notUtf8 hconfig hfile hnone =>
    have hdecode := Utf8.decode?_eq_none_iff.mpr hnone
    simp [gathered, hconfig, Settings.load, Settings.ofFile, hfile, hdecode, Except.mapError,
      Except.map]
  | malformed hconfig hfile hparse =>
    simp [gathered, hconfig, Settings.load, Settings.ofFile, hfile, Except.mapError,
      Settings.ofFileText, Settings.ofToml, hparse, Except.map]
  | misshapen hconfig hfile hparse htable =>
    simp [gathered, hconfig, Settings.load, Settings.ofFile, hfile, Except.mapError,
      Settings.ofFileText, Settings.ofToml, hparse, htable, Except.map]

/-- **The settings file says something or fails.** -/
theorem fileGives_or_fileFails (around : Surroundings) (line : CommandLine) :
    (∃ file, line.FileGives around file) ∨ ∃ f, line.FileFails around f := by
  rcases hconfig : line.config with _ | path
  · exact .inl ⟨{}, .nothing hconfig⟩
  · rcases hfile : around.file path with cause | content
    · exact .inr ⟨_, .unreadable hconfig hfile⟩
    · by_cases hutf8 : ∃ text, Utf8.encode text = content
      · obtain ⟨text, rfl⟩ := hutf8
        rcases hparse : Toml.parse? (Placeholder.substitute around.environment.text? text) with
          _ | tables
        · exact .inr ⟨_, .malformed hconfig hfile hparse⟩
        · rcases htable : Settings.ofTable tables with mismatch | s
          · exact .inr ⟨_, .misshapen hconfig hfile hparse htable⟩
          · exact .inl ⟨s, .settings hconfig hfile hparse htable⟩
      · exact .inr ⟨_, .notUtf8 hconfig hfile fun text he => hutf8 ⟨text, he⟩⟩

/-! ### From the effective values to the report -/

theorem operands_overriddenBy (line : CommandLine) (file : Settings) :
    (file.overriddenBy line.settings).operands =
      ⟨(line.effective file).a, (line.effective file).b⟩ := by
  simp [Settings.overriddenBy, Settings.operands, effective, Operands.default]

theorem effectiveText_overriddenBy (line : CommandLine) (file : Settings) :
    (file.overriddenBy line.settings).effectiveText = (line.effective file).text := by
  simp [Settings.overriddenBy, Settings.effectiveText, effective, defaultText]

theorem effectiveLevel_overriddenBy (line : CommandLine) (file : Settings) :
    (file.overriddenBy line.settings).effectiveLevel = (line.effective file).level := by
  simp [Settings.overriddenBy, Settings.effectiveLevel, effective, defaultLevel]

/-- **What follows the settings file**: the two checks, and the run. -/
theorem FileGives.result_trace (h : line.FileGives around file) :
    (line.trace around).result =
      (checkText line.source.textName (line.effective file).text >>= fun _ =>
        checkLevel line.source.levelName (line.effective file).level >>= fun _ =>
          (run ⟨(line.effective file).a, (line.effective file).b⟩
            (line.effective file).text).result.map (Report.output line.json)) := by
  rw [CommandLine.result_trace, h.gathered_eq, Except.bind, Settings.execute, Settings.check,
    operands_overriddenBy, effectiveText_overriddenBy, effectiveLevel_overriddenBy]
  rcases checkText line.source.textName (line.effective file).text with _ | _
  · rfl
  · rcases checkLevel line.source.levelName (line.effective file).level with _ | _ <;> rfl

theorem FileFails.result_trace (h : line.FileFails around f) :
    (line.trace around).result = .error f := by
  rw [CommandLine.result_trace, h.gathered_eq, Except.bind]

/-- Effective values that are allowed are run on. -/
theorem FileGives.result_trace_of_allowed (h : line.FileGives around file)
    (hallowed : (line.effective file).Allowed) :
    (line.trace around).result =
      (run ⟨(line.effective file).a, (line.effective file).b⟩ (line.effective file).text).result.map
        (Report.output line.json) := by
  rw [h.result_trace, checkText_eq_ok hallowed.text, ok_bind, checkLevel_eq_ok hallowed.level,
    ok_bind]

end CommandLine

/-! ### From the result to what is left behind -/

section Program

variable {around : Surroundings} {arguments : List Bytes} {line : CommandLine}

/-- What the program leaves behind, as far as the rules go. -/
structure Leaves (outcome : Outcome) (code : ℕ) (output : String) (fault : Option Fault) :
    Prop where
  exitCode : outcome.exitCode = code
  output : outcome.output = output
  fault : outcome.fault? = fault

/-- A log line names no fault. -/
theorem findSome?_fault?_log (events : List Event) :
    (events.map Notice.log).findSome? Notice.fault? = none := by
  simp [Notice.fault?]

theorem leaves_of_stop {stop : Stop} (h : CommandLine.parse arguments = .error stop) :
    Leaves (program around arguments) stop.exitCode stop.output none := by
  rw [program, h]
  exact ⟨rfl, rfl, rfl⟩

/-- **A fault** decides the exit code by its severity, and nothing is printed. -/
theorem leaves_of_error {f : Fault} (h : CommandLine.parse arguments = .ok line)
    (hresult : (line.trace around).result = .error f) :
    Leaves (program around arguments) f.severity.exitCode "" (some f) := by
  rw [program, h]
  refine ⟨?_, ?_, ?_⟩
  · simp [Outcome.exitCode, Trace.exitCode, hresult]
  · simp [Outcome.output, Trace.output, hresult]
  · simp only [Outcome.fault?, Trace.notices, hresult, List.findSome?_append, findSome?_fault?_log]
    rfl

/-- **A result** is printed. -/
theorem leaves_of_ok {text : String} (h : CommandLine.parse arguments = .ok line)
    (hresult : (line.trace around).result = .ok text) :
    Leaves (program around arguments) 0 text none := by
  rw [program, h]
  refine ⟨?_, ?_, ?_⟩
  · simp [Outcome.exitCode, Trace.exitCode, hresult]
  · simp [Outcome.output, Trace.output, hresult]
  · simp [Outcome.fault?, Trace.notices, hresult, findSome?_fault?_log]

/-- **Each rule is followed.** -/
theorem Ends.leaves {code : ℕ} {output : String} {fault : Option Fault}
    (h : Ends around arguments code output fault) :
    Leaves (program around arguments) code output fault := by
  cases h with
  | help hparse | version hparse => exact leaves_of_stop hparse
  | @refused stop hparse hhelp hversion =>
    cases stop with
    | help => exact absurd rfl hhelp
    | version => exact absurd rfl hversion
    | _ => exact leaves_of_stop hparse
  | unreadable hparse hfails | unclear hparse hfails =>
    exact leaves_of_error hparse hfails.result_trace
  | zeroInText hparse hgives hsplit hbefore =>
    have hresult := hgives.result_trace
    rw [checkText_eq_error hsplit hbefore, error_bind] at hresult
    exact leaves_of_error hparse hresult
  | unknownLevel hparse hgives htext hlevel =>
    have hresult := hgives.result_trace
    rw [checkText_eq_ok htext, ok_bind, checkLevel_eq_error hlevel, error_bind] at hresult
    exact leaves_of_error hparse hresult
  | sumTooLarge hparse hgives hallowed hsum =>
    have hresult := hgives.result_trace_of_allowed hallowed
    rw [run_eq_error_addition hsum, Except.map] at hresult
    exact leaves_of_error hparse hresult
  | differenceTooLarge hparse hgives hallowed hsum hdifference =>
    have hresult := hgives.result_trace_of_allowed hallowed
    rw [run_eq_error_subtraction hsum hdifference, Except.map] at hresult
    exact leaves_of_error hparse hresult
  | @report line file sum difference hparse hgives hallowed hsum hdifference =>
    have hrun : (run ⟨(line.effective file).a, (line.effective file).b⟩
        (line.effective file).text).result = .ok ((line.effective file).report sum difference) :=
      run_eq_ok hsum hdifference _
    have hresult := hgives.result_trace_of_allowed hallowed
    rw [hrun, Except.map, Report.output_eq_printed] at hresult
    exact leaves_of_ok hparse hresult

theorem CommandLine.FileFails.cases {f : Fault} (h : line.FileFails around f) :
    (∃ cause, f = .file cause) ∨ ∃ cause, f = .settings cause := by
  cases h with
  | unreadable | notUtf8 => exact .inl ⟨_, rfl⟩
  | malformed | misshapen => exact .inr ⟨_, rfl⟩

/-- Effective values lead to one of the last five rules. -/
theorem exists_ends_of_fileGives {file : Settings} (hparse : CommandLine.parse arguments = .ok line)
    (hgives : line.FileGives around file) :
    ∃ code output fault, Ends around arguments code output fault := by
  -- split in the order in which the faults win
  by_cases htext : '\x00' ∈ (line.effective file).text.toList
  · obtain ⟨before, after, hsplit, hbefore⟩ := List.eq_append_cons_of_mem htext
    exact ⟨_, _, _, .zeroInText hparse hgives hsplit hbefore⟩
  · by_cases hlevel : lowered (line.effective file).level ∈ levelWords
    · have hallowed : (line.effective file).Allowed := ⟨htext, hlevel⟩
      by_cases hsum : Fits ((line.effective file).a.toInt + (line.effective file).b.toInt)
      · by_cases hdifference : Fits ((line.effective file).a.toInt - (line.effective file).b.toInt)
        · obtain ⟨sum, hsum⟩ := hsum.exists_toInt_eq
          obtain ⟨difference, hdifference⟩ := hdifference.exists_toInt_eq
          exact ⟨_, _, _, .report hparse hgives hallowed hsum hdifference⟩
        · exact ⟨_, _, _, .differenceTooLarge hparse hgives hallowed hsum hdifference⟩
      · exact ⟨_, _, _, .sumTooLarge hparse hgives hallowed hsum⟩
    · exact ⟨_, _, _, .unknownLevel hparse hgives htext hlevel⟩

/-- **One of the rules applies.** -/
theorem exists_ends (around : Surroundings) (arguments : List Bytes) :
    ∃ code output fault, Ends around arguments code output fault := by
  rcases hparse : CommandLine.parse arguments with stop | line
  · by_cases hhelp : stop = .help
    · exact ⟨_, _, _, .help (by rw [hparse, hhelp])⟩
    · by_cases hversion : stop = .version
      · exact ⟨_, _, _, .version (by rw [hparse, hversion])⟩
      · exact ⟨_, _, _, .refused hparse hhelp hversion⟩
  · rcases line.fileGives_or_fileFails around with ⟨file, hgives⟩ | ⟨f, hfails⟩
    · exact exists_ends_of_fileGives hparse hgives
    · rcases hfails.cases with ⟨cause, rfl⟩ | ⟨cause, rfl⟩
      · exact ⟨_, _, _, .unreadable hparse hfails⟩
      · exact ⟨_, _, _, .unclear hparse hfails⟩

/-! ### Failures -/

variable {code : ℕ} {output : String} {fault : Option Fault}

/-- A failure has an exit code of its own. -/
theorem Ends.failed_iff (h : Ends around arguments code output fault) :
    (program around arguments).Failed ↔ code ≠ 0 := by
  have hfault := h.leaves.fault
  have hran : ∀ line, CommandLine.parse arguments = .ok line →
      ((program around arguments).Failed ↔ fault.isSome) := by
    intro line hparse
    rw [← hfault, program, hparse]
    rfl
  cases h with
  | help hparse | version hparse => simp [program, hparse, Outcome.Failed]
  | refused hparse hhelp hversion => simp [program, hparse, Outcome.Failed, hhelp, hversion]
  | unreadable hparse | unclear hparse | zeroInText hparse | unknownLevel hparse
  | sumTooLarge hparse | differenceTooLarge hparse | report hparse => simp [hran _ hparse]

/-- Nothing is printed where the exit code is that of a failure. -/
theorem Ends.output_eq_empty (h : Ends around arguments code output fault) (hcode : code ≠ 0) :
    output = "" := by
  cases h with
  | help | version | report => exact absurd rfl hcode
  | _ => rfl

/-- **The contract of the program**: what it leaves behind is what the rules say and nothing else;
it exits with 0 exactly if it does not fail, and it prints nothing if it does. -/
theorem program_contract (around : Surroundings) (arguments : List Bytes) :
    (∀ code output fault, Ends around arguments code output fault ↔
      (program around arguments).exitCode = code ∧ (program around arguments).output = output ∧
        (program around arguments).fault? = fault) ∧
    ((program around arguments).exitCode = 0 ↔ ¬(program around arguments).Failed) ∧
    ((program around arguments).Failed → (program around arguments).output = "") := by
  -- one rule applies, and it is followed, so what it promises is what is left behind
  obtain ⟨code, output, fault, hends⟩ := exists_ends around arguments
  obtain ⟨rfl, rfl, rfl⟩ := hends.leaves
  refine ⟨fun code output fault => ⟨fun h => ?_, ?_⟩, ?_, fun hfailed => ?_⟩
  · exact ⟨h.leaves.exitCode, h.leaves.output, h.leaves.fault⟩
  · rintro ⟨rfl, rfl, rfl⟩
    exact hends
  · rw [hends.failed_iff, not_not]
  · exact hends.output_eq_empty (hends.failed_iff.mp hfailed)

end Program

end TextGauge
