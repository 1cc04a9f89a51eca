import TextGauge.Proofs.Program.Contract

/-!
# What a verbose run logs

The verbose flag raises the log to `debug`, which is enough for every event there is
(`TextGauge.Event.admits_atLevel`): where no variable asks for another filter, all that happens
after the log has started is logged. Without settings file the log starts at once. With one it
starts when the settings are complete, and the events before that are lost, verbose or not: those
of overriding an operand, and the failure of a run whose settings file is not usable.

What a verbose run loses is put down here as rules (`TextGauge.CommandLine.Lost`), and the events
of the run are exactly what it loses and what it logs
(`TextGauge.CommandLine.program_logged_of_verbose`).
-/

namespace TextGauge

/-! ### The filter of a level -/

/-- The directives for a level: one for the program, and one for all else. -/
def levelDirectives (most : Level) : Filter :=
  [{ threshold := some most, target := some "simple_program".toList }, { threshold := some .warn }]

theorem Filter.atLevel_word (most : Level) : Filter.atLevel most.word = levelDirectives most := by
  cases most <;> decide +kernel

theorem mostSpecific_levelDirectives (most : Level) :
    Filter.mostSpecific (levelDirectives most) = (levelDirectives most).head? :=
  rfl

/-- A directive matches the targets that go on as its own does. -/
theorem Directive.matchesTarget_append (threshold : Threshold) (target part : String) :
    matchesTarget { threshold, target := some target.toList } (target ++ part).toList := by
  simp [matchesTarget]

namespace Event

/-- Every event comes from the program. -/
theorem exists_target_eq (e : Event) : ∃ part, e.target = "simple_program" ++ part := by
  cases e with
  | overridden => exact ⟨"::config::toml_config", rfl⟩
  | computing | analyzing | complete => exact ⟨"::core::runner", rfl⟩
  | loaded | failed => exact ⟨"", rfl⟩

/-- **The filter of a level** logs the events within that level. -/
theorem admits_atLevel (most : Level) (e : Event) :
    (Filter.atLevel most.word).admits e.target e.level = decide (e.level.rank ≤ most.rank) := by
  obtain ⟨part, hpart⟩ := e.exists_target_eq
  have hmatches : ∀ d ∈ levelDirectives most, d.matchesTarget e.target.toList := by
    intro d hd
    rw [hpart]
    rcases List.mem_pair.mp hd with rfl | rfl
    · exact Directive.matchesTarget_append (some most) "simple_program" part
    · rfl
  rw [Filter.atLevel_word, Filter.admits, List.filter_eq_self.mpr hmatches,
    mostSpecific_levelDirectives]
  rfl

/-- No event is more talkative than `debug`. -/
theorem rank_level_le (e : Event) : e.level.rank ≤ Level.debug.rank := by
  cases e <;> simp [level, Level.rank]

end Event

/-! ### What is logged, and what is lost -/

/-- The event that a notice tells. -/
def Notice.event? : Notice → Option Event
  | log e => some e
  | _ => none

/-- **The events on the error stream**, in the order in which they stand there. -/
def Outcome.logged : Outcome → List Event
  | stopped _ => []
  | ran _ _ notices => notices.filterMap Notice.event?

namespace CommandLine

/-- **What a verbose run loses**: nothing without settings file; the failure, if the file is not
usable; else the events of overriding what the file says. -/
inductive Lost (around : Surroundings) (line : CommandLine) : List Event → Prop
  | nothing : line.config = none → Lost around line []
  | failure {path : Bytes} {f : Fault} : line.config = some path → line.FileFails around f →
    Lost around line [.failed f]
  | overrides {path : Bytes} {file : Settings} : line.config = some path →
    line.FileGives around file → Lost around line line.settings.overrideEvents

variable {around : Surroundings} {arguments : List Bytes} {line : CommandLine} {lost : List Event}
  {path : Bytes} {file : Settings} {f : Fault}

theorem exists_lost (around : Surroundings) (line : CommandLine) :
    ∃ lost, line.Lost around lost := by
  rcases hconfig : line.config with _ | path
  · exact ⟨_, .nothing hconfig⟩
  · rcases line.fileGives_or_fileFails around with ⟨file, hgives⟩ | ⟨f, hfails⟩
    · exact ⟨_, .overrides hconfig hgives⟩
    · exact ⟨_, .failure hconfig hfails⟩

theorem FileFails.load_eq (h : line.FileFails around f) (hconfig : line.config = some path) :
    Settings.load around path = .error f := by
  have hgathered := h.gathered_eq
  simp only [gathered, hconfig] at hgathered
  exact map_eq_error_iff.mp hgathered

theorem FileGives.exists_load_eq (h : line.FileGives around file)
    (hconfig : line.config = some path) : ∃ loaded, Settings.load around path = .ok loaded := by
  have hgathered := h.gathered_eq
  simp only [gathered, hconfig] at hgathered
  obtain ⟨loaded, hload, -⟩ := map_eq_ok_iff.mp hgathered
  exact ⟨loaded, hload⟩

/-- **What is lost** is what happens before the log starts. -/
theorem Lost.unheard_eq (h : line.Lost around lost) : (line.trace around).unheard = lost := by
  cases h with
  | nothing hconfig => rw [trace, hconfig]
  | failure hconfig hfails =>
    rw [trace, hconfig]
    simp only [hfails.load_eq hconfig]
  | overrides hconfig hgives =>
    obtain ⟨loaded, hload⟩ := hgives.exists_load_eq hconfig
    rw [trace, hconfig]
    simp only [hload]

theorem unheard_eq_iff : (line.trace around).unheard = lost ↔ line.Lost around lost := by
  refine ⟨?_, Lost.unheard_eq⟩
  rintro rfl
  obtain ⟨lost, hlost⟩ := exists_lost around line
  rwa [hlost.unheard_eq]

/-- The filter of a verbose run, where no variable says otherwise. -/
theorem forRun_of_verbose (hunset : around.environment.value? filterVariable = none)
    (level : String) : Filter.forRun around true level = Filter.atLevel Level.debug.word := by
  have htext : around.environment.text? filterVariable = none := by
    rw [Environment.text?, hunset]
    rfl
  rw [Filter.forRun, htext]
  rfl

/-- **A verbose log** that starts logs all that happens from then on. -/
theorem logged_trace_of_verbose (hverbose : line.verbose = true)
    (hunset : around.environment.value? filterVariable = none) :
    (line.trace around).logged = (line.trace around).heard := by
  have hfilter : ∀ (level : String) (events : List Event),
      (events.filter fun e => (Filter.forRun around line.verbose level).admits e.target e.level) =
        events := by
    intro level events
    refine List.filter_eq_self.mpr fun e _ => ?_
    rw [hverbose, forRun_of_verbose hunset, e.admits_atLevel]
    exact decide_eq_true e.rank_level_le
  rcases hconfig : line.config with _ | path
  · rw [trace, hconfig]
    exact hfilter _ _
  · rw [trace, hconfig]
    rcases hload : Settings.load around path with f | file
    · simp only [hload]
      rfl
    · simp only [hload]
      exact hfilter _ _

theorem logged_program (hparse : CommandLine.parse arguments = .ok line) :
    (program around arguments).logged = (line.trace around).logged := by
  have hlog : ∀ events : List Event, (events.map Notice.log).filterMap Notice.event? = events := by
    intro events
    rw [List.filterMap_map]
    exact List.filterMap_some
  rw [program, hparse]
  simp only [Outcome.logged, Trace.notices, List.filterMap_append, hlog]
  rcases (line.trace around).result with f | text
  · exact List.append_nil _
  · exact List.append_nil _

theorem overrideEvents_eq_nil_iff {flags : Settings} :
    flags.overrideEvents = [] ↔ flags.a = none ∧ flags.b = none := by
  simp [Settings.overrideEvents]

/-- **Nothing is lost** without settings file, and with one that is usable and of which no operand
is overridden. -/
theorem lost_nil_iff : line.Lost around [] ↔ line.config = none ∨
    (∃ file, line.FileGives around file) ∧ line.settings.a = none ∧ line.settings.b = none := by
  constructor
  · intro h
    generalize hlost : ([] : List Event) = lost at h
    cases h with
    | nothing hconfig => exact .inl hconfig
    | failure => cases hlost
    | overrides _ hgives => exact .inr ⟨⟨_, hgives⟩, overrideEvents_eq_nil_iff.mp hlost.symm⟩
  · rintro (hconfig | ⟨⟨file, hgives⟩, hoperands⟩)
    · exact .nothing hconfig
    · rcases hconfig : line.config with _ | path
      · exact .nothing hconfig
      · have h := Lost.overrides hconfig hgives
        rwa [overrideEvents_eq_nil_iff.mpr hoperands] at h

/-- **What a verbose run logs**, where no variable says otherwise: the events of the run, in the
order in which they happen, without those that it loses. It logs them all exactly if there is no
settings file, or one that is usable and no operand to override. -/
theorem program_logged_of_verbose (hparse : CommandLine.parse arguments = .ok line)
    (hverbose : line.verbose = true)
    (hunset : around.environment.value? filterVariable = none) :
    (∀ lost, (line.trace around).events = lost ++ (program around arguments).logged ↔
      line.Lost around lost) ∧
    ((program around arguments).logged = (line.trace around).events ↔ line.config = none ∨
      (∃ file, line.FileGives around file) ∧ line.settings.a = none ∧ line.settings.b = none) := by
  have hlogged : (program around arguments).logged = (line.trace around).heard :=
    (logged_program hparse).trans (logged_trace_of_verbose hverbose hunset)
  have hlost : ∀ lost, (line.trace around).events = lost ++ (program around arguments).logged ↔
      line.Lost around lost := by
    intro lost
    rw [hlogged, Trace.events, List.append_left_inj, unheard_eq_iff]
  refine ⟨hlost, ?_⟩
  rw [← lost_nil_iff, ← hlost, List.nil_append, eq_comm]

/-- A settings file that is missing: the failure is the only event, and it is lost. -/
theorem program_logged_of_verbose_missing :
    let around : Surroundings := ⟨fun _ => .error .missing, []⟩
    let arguments := ["--verbose", "--config", "f"].map Utf8.encode
    let line : CommandLine := { config := some (Utf8.encode "f"), verbose := true }
    (CommandLine.parse arguments = .ok line ∧ line.verbose = true ∧
      around.environment.value? filterVariable = none) ∧
    (line.trace around).events =
      [.failed (.file .missing)] ++ (program around arguments).logged ∧
    (program around arguments).logged ≠ (line.trace around).events := by
  intro around arguments line
  have hparse : CommandLine.parse arguments = .ok line := by decide +kernel
  have hunset : around.environment.value? filterVariable = none := rfl
  have hfails : line.FileFails around (.file .missing) := .unreadable rfl rfl
  obtain ⟨hlost, hall⟩ := program_logged_of_verbose hparse rfl hunset
  refine ⟨⟨hparse, rfl, hunset⟩, (hlost _).mpr (.failure rfl hfails), ?_⟩
  intro heq
  rcases hall.mp heq with hconfig | ⟨⟨file, hgives⟩, -⟩
  · cases hconfig
  · cases hfails.gathered_eq.symm.trans hgives.gathered_eq

/-- An operand that is overridden: the event is lost, though the run is verbose. -/
theorem program_loses_overridden :
    let around : Surroundings := ⟨fun _ => .ok [], []⟩
    let arguments := ["-v", "-c", "f", "-a", "20"].map Utf8.encode
    ∃ line, CommandLine.parse arguments = .ok line ∧ line.verbose = true ∧
      around.environment.value? filterVariable = none ∧
      .overridden .a 20 ∈ (line.trace around).events ∧
      .overridden .a 20 ∉ (program around arguments).logged := by
  intro around arguments
  refine ⟨{ settings := { a := some 20 }, config := some (Utf8.encode "f"), verbose := true },
    ?_, rfl, rfl, ?_, ?_⟩
  · decide +kernel
  · decide +kernel
  · decide +kernel

end CommandLine

end TextGauge
