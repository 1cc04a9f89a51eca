import TextGauge.Proofs.Environment
import TextGauge.Proofs.Placeholder.Division
import TextGauge.Proofs.Program.Contract

/-!
# What the results of a run depend on

The **results** of a run are its exit code and its output. They depend on nothing that is only
about the log, and of the surroundings on no more than the settings file asks for
(`TextGauge.results_independent`):

* The verbose flag, the variable with the filter and the log level make no difference, as long as
  the level is one of those there are.
* Without settings file, neither files nor variables make a difference.
* With one, its content and the values of the names of its placeholders tell the results.

A placeholder can bring in the variable with the filter not only by its name: the name may go on
behind it with `=`, and then finds the variable if its value goes on as the name does
(`TextGauge.Environment.Reaches`). So a run whose settings file names no variable for the log may
still depend on that one (`TextGauge.results_reached_by_filter`).
-/

namespace TextGauge

/-- **The same results**: the same exit code and the same output. What stands on the error stream
may differ. -/
structure SameResults (outcome outcome' : Outcome) : Prop where
  exitCode : outcome.exitCode = outcome'.exitCode
  output : outcome.output = outcome'.output

/-! ### Settings that differ in the level -/

namespace Settings

/-- Settings that **differ in the log level** at most. -/
structure SameButLevel (s s' : Settings) : Prop where
  a : s.a = s'.a
  b : s.b = s'.b
  text : s.text = s'.text

/-- Settings files that **differ in the log level** at most: their settings do, or neither is
usable, for the same fault. -/
inductive LoadAlike : Except Fault Settings → Except Fault Settings → Prop
  | settings {s s' : Settings} : s.SameButLevel s' → LoadAlike (.ok s) (.ok s')
  | fault (f : Fault) : LoadAlike (.error f) (.error f)

variable {s s' flags flags' : Settings} {load load' : Except Fault Settings}

theorem SameButLevel.refl (s : Settings) : s.SameButLevel s :=
  ⟨rfl, rfl, rfl⟩

theorem SameButLevel.overriddenBy (h : s.SameButLevel s') (hflags : flags.SameButLevel flags') :
    (s.overriddenBy flags).SameButLevel (s'.overriddenBy flags') where
  a := by rw [Settings.overriddenBy, Settings.overriddenBy, h.a, hflags.a]
  b := by rw [Settings.overriddenBy, Settings.overriddenBy, h.b, hflags.b]
  text := by rw [Settings.overriddenBy, Settings.overriddenBy, h.text, hflags.text]

theorem LoadAlike.refl (load : Except Fault Settings) : LoadAlike load load := by
  cases load with
  | error f => exact .fault f
  | ok s => exact .settings (.refl s)

theorem LoadAlike.overriddenBy (h : LoadAlike load load') (hflags : flags.SameButLevel flags') :
    LoadAlike (load.map fun s => s.overriddenBy flags)
      (load'.map fun s => s.overriddenBy flags') := by
  cases h with
  | settings hs => exact .settings (hs.overriddenBy hflags)
  | fault f => exact .fault f

/-- What goes on alike from settings that differ in the level ends alike. -/
theorem LoadAlike.bind_eq {α : Type} {next next' : Settings → Except Fault α}
    (h : LoadAlike load load') (hnext : ∀ s s', load = .ok s → load' = .ok s' → s.SameButLevel s' →
      next s = next' s') : load.bind next = load'.bind next' := by
  cases h with
  | settings hs => exact hnext _ _ rfl rfl hs
  | fault f => rfl

/-- **An accepted level** makes no difference to what is run on, nor to what happens on the way. -/
theorem SameButLevel.execute_eq (h : s.SameButLevel s')
    (hlevel : lowered s.effectiveLevel ∈ levelWords)
    (hlevel' : lowered s'.effectiveLevel ∈ levelWords) (source : Source) (json : Bool) :
    s.execute source json = s'.execute source json := by
  have htext : s.effectiveText = s'.effectiveText := by
    rw [effectiveText, effectiveText, h.text]
  have hoperands : s.operands = s'.operands := by
    rw [operands, operands, h.a, h.b]
  rw [execute, execute, check, check, checkLevel_eq_ok hlevel, checkLevel_eq_ok hlevel', htext,
    hoperands]

/-- **A settings file** is read with the values of the names of its placeholders. -/
theorem ofFile_congr {lookup lookup' : String → Option String} {content : Except FileFault Bytes}
    (h : ∀ text, content = .ok (Utf8.encode text) →
      ∀ name ∈ Placeholder.names text, lookup name = lookup' name) :
    ofFile lookup content = ofFile lookup' content := by
  rcases content with cause | bytes
  · rfl
  · rcases hdecode : Utf8.decode? bytes with _ | text
    · simp only [ofFile, Except.mapError, ok_bind, hdecode]
    · obtain rfl := Utf8.decode?_eq_some_iff.mp hdecode
      simp only [ofFile, Except.mapError, ok_bind, hdecode, ofFileText,
        Placeholder.substitute_congr (h text rfl)]

end Settings

/-! ### Two command lines -/

namespace CommandLine

/-- Command lines that **differ in what they say about the log**: in the verbose flag, and in the
log level. -/
structure SameButLog (line line' : CommandLine) : Prop where
  settings : line.settings.SameButLevel line'.settings
  config : line.config = line'.config
  json : line.json = line'.json

/-- **The log level of a run is accepted**, unless the settings file is not usable and there is
none. -/
def LevelAccepted (around : Surroundings) (line : CommandLine) : Prop :=
  ∀ file, line.FileGives around file → lowered (line.effective file).level ∈ levelWords

variable {around around' : Surroundings} {line line' : CommandLine} {s : Settings}

theorem SameButLog.source_eq (h : line.SameButLog line') : line.source = line'.source := by
  rw [source, source, h.config]

/-- The level of the command line is the level of the run. -/
theorem levelAccepted_of_level {level : String} (h : line.settings.level = some level)
    (hlevel : lowered level ∈ levelWords) (around : Surroundings) : line.LevelAccepted around := by
  intro file _
  rwa [effective, h]

theorem exists_fileGives_of_gathered (h : line.gathered around = .ok s) :
    ∃ file, line.FileGives around file ∧ s = file.overriddenBy line.settings := by
  rcases line.fileGives_or_fileFails around with ⟨file, hgives⟩ | ⟨f, hfails⟩
  · rw [hgives.gathered_eq] at h
    exact ⟨file, hgives, (Except.ok.inj h).symm⟩
  · rw [hfails.gathered_eq] at h
    cases h

theorem LevelAccepted.of_gathered (hlevel : line.LevelAccepted around)
    (h : line.gathered around = .ok s) : lowered s.effectiveLevel ∈ levelWords := by
  obtain ⟨file, hgives, rfl⟩ := exists_fileGives_of_gathered h
  rw [effectiveLevel_overriddenBy]
  exact hlevel file hgives

theorem levelAccepted_of_gathered (h : line.gathered around = .ok s)
    (hlevel : lowered s.effectiveLevel ∈ levelWords) : line.LevelAccepted around := by
  intro file hgives
  rw [hgives.gathered_eq] at h
  rwa [← effectiveLevel_overriddenBy, Except.ok.inj h]

/-- What two runs go on with, if their settings files differ in the level at most. -/
theorem SameButLog.loadAlike_gathered (h : line.SameButLog line')
    (hfile : ∀ path, line.config = some path →
      Settings.LoadAlike (Settings.load around path) (Settings.load around' path)) :
    Settings.LoadAlike (line.gathered around) (line'.gathered around') := by
  rw [gathered, gathered, ← h.config]
  rcases hconfig : line.config with _ | path
  · exact .settings h.settings
  · exact (hfile path hconfig).overriddenBy h.settings

/-- **The result does not depend on the log.** -/
theorem SameButLog.result_trace_eq (h : line.SameButLog line')
    (hfile : ∀ path, line.config = some path →
      Settings.LoadAlike (Settings.load around path) (Settings.load around' path))
    (hlevel : line.LevelAccepted around) (hlevel' : line'.LevelAccepted around') :
    (line.trace around).result = (line'.trace around').result := by
  rw [result_trace, result_trace]
  refine (h.loadAlike_gathered hfile).bind_eq fun s s' hs hs' hsame => ?_
  rw [← h.source_eq, ← h.json,
    hsame.execute_eq (hlevel.of_gathered hs) (hlevel'.of_gathered hs')]

end CommandLine

/-! ### Two runs -/

section Program

variable {around around' : Surroundings} {arguments arguments' : List Bytes}
  {line line' : CommandLine}

/-- **What a command line looks at** in two surroundings, if these differ in what they say about the
log: no placeholder of the settings file reaches the variable with the filter, in which the
environments differ; and the files differ in the level at most, as they are read in the first
environment. -/
structure CommandLine.SeesAlike (line : CommandLine) (around around' : Surroundings) : Prop where
  environment : Environment.SameBut filterVariable around.environment around'.environment
  unreached : ∀ path text, line.config = some path → around'.file path = .ok (Utf8.encode text) →
    ∀ name ∈ Placeholder.names text, ¬Environment.Reaches filterVariable name
  file : ∀ path, line.config = some path → Settings.LoadAlike
    (Settings.ofFile around.environment.text? (around.file path))
    (Settings.ofFile around.environment.text? (around'.file path))

theorem CommandLine.SeesAlike.load {path : Bytes} (h : line.SeesAlike around around')
    (hconfig : line.config = some path) :
    Settings.LoadAlike (Settings.load around path) (Settings.load around' path) := by
  have hnames : Settings.ofFile around.environment.text? (around'.file path) =
      Settings.ofFile around'.environment.text? (around'.file path) :=
    Settings.ofFile_congr fun text htext name hname =>
      h.environment.text?_eq (by decide) (h.unreached path text hconfig htext name hname)
  rw [Settings.load, Settings.load, ← hnames]
  exact h.file path hconfig

theorem Leaves.sameResults {outcome outcome' : Outcome} {code : ℕ} {output : String}
    {fault fault' : Option Fault} (h : Leaves outcome code output fault)
    (h' : Leaves outcome' code output fault') : SameResults outcome outcome' :=
  ⟨h.exitCode.trans h'.exitCode.symm, h.output.trans h'.output.symm⟩

theorem sameResults_of_result (hparse : CommandLine.parse arguments = .ok line)
    (hparse' : CommandLine.parse arguments' = .ok line')
    (hresult : (line.trace around).result = (line'.trace around').result) :
    SameResults (program around arguments) (program around' arguments') := by
  rcases htrace : (line.trace around).result with f | text
  · exact (leaves_of_error hparse htrace).sameResults
      (leaves_of_error hparse' (hresult.symm.trans htrace))
  · exact (leaves_of_ok hparse htrace).sameResults
      (leaves_of_ok hparse' (hresult.symm.trans htrace))

/-- **The settings file and the names of its placeholders** tell the results. -/
theorem sameResults_of_load
    (h : ∀ line path, CommandLine.parse arguments = .ok line → line.config = some path →
      Settings.load around path = Settings.load around' path) :
    SameResults (program around arguments) (program around' arguments) := by
  rcases hparse : CommandLine.parse arguments with stop | line
  · exact (leaves_of_stop hparse).sameResults (leaves_of_stop hparse)
  · refine sameResults_of_result hparse hparse ?_
    rw [CommandLine.result_trace, CommandLine.result_trace]
    rcases hconfig : line.config with _ | path
    · simp only [CommandLine.gathered, hconfig]
    · simp only [CommandLine.gathered, hconfig, h line path hparse hconfig]

/-- **What the results of a run depend on**: not on the verbose flag, nor on an accepted log level,
nor on the variable with the filter where no placeholder reaches it; without settings file on none
of the surroundings, and with one on its content and on the values of the names of its
placeholders. -/
theorem results_independent (around around' : Surroundings) (arguments arguments' : List Bytes) :
    (∀ line line', CommandLine.parse arguments = .ok line →
      CommandLine.parse arguments' = .ok line' → line.SameButLog line' →
      line.SeesAlike around around' → line.LevelAccepted around → line'.LevelAccepted around' →
      SameResults (program around arguments) (program around' arguments')) ∧
    ((∀ line, CommandLine.parse arguments = .ok line → line.config = none) →
      SameResults (program around arguments) (program around' arguments)) ∧
    ((∀ line path, CommandLine.parse arguments = .ok line → line.config = some path →
        around.file path = around'.file path ∧
        ∀ text, around.file path = .ok (Utf8.encode text) → ∀ name ∈ Placeholder.names text,
          around.environment.text? name = around'.environment.text? name) →
      SameResults (program around arguments) (program around' arguments)) := by
  refine ⟨?_, fun hnone => ?_, fun h => ?_⟩
  · intro line line' hparse hparse' hline hsees hlevel hlevel'
    exact sameResults_of_result hparse hparse'
      (hline.result_trace_eq (fun _ hconfig => hsees.load hconfig) hlevel hlevel')
  · refine sameResults_of_load fun line path hparse hconfig => ?_
    cases (hnone line hparse).symm.trans hconfig
  · refine sameResults_of_load fun line path hparse hconfig => ?_
    obtain ⟨hfile, hnames⟩ := h line path hparse hconfig
    rw [Settings.load, Settings.load, ← hfile]
    exact Settings.ofFile_congr hnames

/-- A placeholder for a variable that is not about the log, in runs that differ in all that is. -/
theorem results_independent_placeholder :
    let text := "[input]\ntext = \"$\x7bNAME\x7d\"\n"
    let around : Surroundings := ⟨fun _ => .ok (Utf8.encode text),
      [("RUST_LOG", Utf8.encode "off"), ("NAME", Utf8.encode "a")]⟩
    let around' : Surroundings := ⟨fun _ => .ok (Utf8.encode text), [("NAME", Utf8.encode "a")]⟩
    let arguments := ["-c", "f", "--log-level", "TRACE"].map Utf8.encode
    let arguments' := ["-v", "-c", "f"].map Utf8.encode
    let line : CommandLine :=
      { settings := { level := some "TRACE" }, config := some (Utf8.encode "f") }
    let line' : CommandLine := { config := some (Utf8.encode "f"), verbose := true }
    (CommandLine.parse arguments = .ok line ∧ CommandLine.parse arguments' = .ok line' ∧
      line.SameButLog line' ∧ line.SeesAlike around around' ∧ line.LevelAccepted around ∧
      line'.LevelAccepted around') ∧
    SameResults (program around arguments) (program around' arguments') ∧
    SameResults (program around []) (program ⟨fun _ => .error .missing, []⟩ []) ∧
    SameResults (program around arguments) (program around' arguments) := by
  intro text around around' arguments arguments' line line'
  have hparse : CommandLine.parse arguments = .ok line := by decide +kernel
  have hparse' : CommandLine.parse arguments' = .ok line' := by decide +kernel
  have hempty : CommandLine.parse [] = .ok {} := by decide +kernel
  have hnames : Placeholder.names text = ["NAME"] := by decide +kernel
  have htext : ∀ text' path, around'.file path = .ok (Utf8.encode text') → text' = text :=
    fun text' _ h => (Utf8.encode_injective (Except.ok.inj h)).symm
  have hline : line.SameButLog line' := ⟨⟨rfl, rfl, rfl⟩, rfl, rfl⟩
  have hreach : ¬Environment.Reaches filterVariable "NAME" := by
    rintro (h | ⟨rest, h⟩)
    · exact absurd h (by decide)
    · have hlength := congrArg String.length h
      have hname : "NAME".length = 4 := by decide
      have hstart : (filterVariable ++ "=").length = 9 := by decide
      rw [String.length_append, hname, hstart] at hlength
      omega
  have hsees : line.SeesAlike around around' := by
    refine ⟨by decide, fun path text' _ h name hname => ?_, fun path _ => .refl _⟩
    rw [htext text' path h, hnames, List.mem_singleton] at hname
    rwa [hname]
  have hlevel : line.LevelAccepted around := CommandLine.levelAccepted_of_level rfl (by decide) _
  have hgathered : line'.gathered around' = .ok { text := some "a" } := by decide +kernel
  have hlevel' : line'.LevelAccepted around' :=
    CommandLine.levelAccepted_of_gathered hgathered (by decide)
  refine ⟨⟨hparse, hparse', hline, hsees, hlevel, hlevel'⟩,
    (results_independent around around' arguments arguments').1 line line' hparse hparse' hline
      hsees hlevel hlevel',
    (results_independent around _ [] []).2.1 fun line hline => ?_,
    (results_independent around around' arguments arguments').2.2 fun line path _ _ => ⟨rfl, ?_⟩⟩
  · obtain rfl := Except.ok.inj (hempty.symm.trans hline)
    rfl
  · intro text' h name hname
    rw [htext text' path h, hnames, List.mem_singleton] at hname
    rw [hname]
    decide +kernel

/-- A placeholder with another name that the variable with the filter reaches: whether that variable
is set makes a difference. -/
theorem results_reached_by_filter :
    let text := "[input]\ntext = \"$\x7bRUST_LOG=x\x7d\"\n"
    let around : Surroundings :=
      ⟨fun _ => .ok (Utf8.encode text), [("RUST_LOG", Utf8.encode "x=warn")]⟩
    let around' : Surroundings := ⟨fun _ => .ok (Utf8.encode text), []⟩
    let arguments := ["-c", "f"].map Utf8.encode
    let line : CommandLine := { config := some (Utf8.encode "f") }
    (CommandLine.parse arguments = .ok line ∧ line.LevelAccepted around ∧
      line.LevelAccepted around' ∧
      Environment.SameBut filterVariable around.environment around'.environment ∧
      filterVariable ∉ Placeholder.names text) ∧
    (program around arguments).output = "Addition: 10 + 3 = 13\nSubtraction: 10 - 3 = 7\n" ++
      "String Length: warn = 4\nVowel Count: warn = 1\n" ∧
    (program around' arguments).output = "Addition: 10 + 3 = 13\nSubtraction: 10 - 3 = 7\n" ++
      "String Length: $\x7bRUST_LOG=x\x7d = 13\nVowel Count: $\x7bRUST_LOG=x\x7d = 2\n" := by
  intro text around around' arguments line
  have hgathered : line.gathered around = .ok { text := some "warn" } := by decide +kernel
  have hgathered' : line.gathered around' = .ok { text := some "$\x7bRUST_LOG=x\x7d" } := by
    decide +kernel
  have hlevel : line.LevelAccepted around :=
    CommandLine.levelAccepted_of_gathered hgathered (by decide)
  have hlevel' : line.LevelAccepted around' :=
    CommandLine.levelAccepted_of_gathered hgathered' (by decide)
  refine ⟨⟨?_, hlevel, hlevel', ?_, ?_⟩, ?_, ?_⟩ <;> decide +kernel

end Program

end TextGauge
