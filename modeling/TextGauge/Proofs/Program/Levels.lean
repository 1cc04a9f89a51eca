import TextGauge.Proofs.Program.Independence
import TextGauge.Proofs.Program.Log

/-!
# What the log level does to the error stream

Raising the log level adds log lines to the error stream and does nothing else to it, and where the
variable with the filter holds a filter that is wholly valid, the level does not matter at all
(`TextGauge.notices_sublist_of_level`). There are two things to this:

* **The filter of a level** is written as a text, with the word for the level in it as it was given.
  A word in any case stands for the same two directives as the word itself
  (`TextGauge.Filter.atLevel_eq`), since nothing in it ends a directive, is trimmed from one or is
  read as a number.
* **Two runs that differ in what they say about the log** hear the same events, if their levels are
  accepted, and each shows them through a filter of its own
  (`TextGauge.CommandLine.SameButLog.exists_heard`). What they write about a fault is the same, too.
-/

namespace TextGauge

/-! ### Words in any case -/

section Letter

variable {c : Char}

theorem isAlpha_eq (c : Char) : c.isAlpha = (c.isUpper || c.isLower) :=
  rfl

theorem isUpper_iff : c.isUpper ↔ 65 ≤ c.toNat ∧ c.toNat ≤ 90 :=
  decide_eq_true_iff

theorem isLower_iff : c.isLower ↔ 97 ≤ c.toNat ∧ c.toNat ≤ 122 :=
  Bool.and_eq_true_iff.trans (and_congr decide_eq_true_iff decide_eq_true_iff)

theorem toNat_of_isAlpha (h : c.isAlpha) :
    65 ≤ c.toNat ∧ c.toNat ≤ 90 ∨ 97 ≤ c.toNat ∧ c.toNat ≤ 122 := by
  rwa [isAlpha_eq, Bool.or_eq_true, isUpper_iff, isLower_iff] at h

/-- What is a small letter in lower case is a letter. -/
theorem isAlpha_of_isLower_toLower (h : c.toLower.isLower) : c.isAlpha := by
  rw [isAlpha_eq, Bool.or_eq_true]
  by_cases hupper : c.isUpper
  · exact .inl hupper
  · have hsame : c.toLower = c := dif_neg fun hrange => hupper (isUpper_iff.mpr hrange)
    rw [hsame] at h
    exact .inr h

theorem isWhite_of_isAlpha (h : c.isAlpha) : Unicode.isWhite c = false := by
  have hrange := toNat_of_isAlpha h
  simp only [Unicode.isWhite, Unicode.Ranges.contains, Unicode.whiteRanges, List.any_cons,
    List.any_nil, Bool.or_false, Bool.or_eq_false_iff, Bool.and_eq_false_imp, decide_eq_true_eq,
    decide_eq_false_iff_not]
  omega

theorem isDigit_of_isAlpha (h : c.isAlpha) : c.isDigit = false := by
  have hrange := toNat_of_isAlpha h
  simp only [Char.isDigit, Char.reduceVal, ge_iff_le, UInt32.le_iff_toNat_le, UInt32.reduceToNat,
    Char.toNat_val, Bool.and_eq_false_imp, decide_eq_true_eq, decide_eq_false_iff_not]
  omega

end Letter

section Word

variable {level level' : String} {most : Level}

namespace Level

theorem called?_congr (h : lowered level = lowered level') : called? level = called? level' := by
  have hchars : level.toList.map Char.toLower = level'.toList.map Char.toLower :=
    String.ofList_injective h
  rw [called?, called?, hchars]

theorem map_toLower_of_called? (h : called? level = some most) :
    level.toList.map Char.toLower = most.word.toList := by
  have hfound := List.find?_some h
  exact (of_decide_eq_true hfound).symm

/-- **A word for a level** has letters only. -/
theorem isAlpha_of_called? (h : called? level = some most) : ∀ c ∈ level.toList, c.isAlpha := by
  intro c hc
  have hword : ∀ d ∈ most.word.toList, d.isLower := by
    rw [← List.all_eq_true]
    cases most <;> decide
  have hlower : c.toLower ∈ most.word.toList := by
    rw [← map_toLower_of_called? h]
    exact List.mem_map_of_mem hc
  exact isAlpha_of_isLower_toLower (hword _ hlower)

theorem toList_ne_nil_of_called? (h : called? level = some most) : level.toList ≠ [] := by
  intro hnil
  have hword := map_toLower_of_called? h
  rw [hnil, List.map_nil] at hword
  cases most <;> exact absurd hword (by decide)

end Level

/-- What begins with a letter is no number, so it is read as a word. -/
theorem Threshold.read?_cons_of_isAlpha {c : Char} (hc : c.isAlpha) (cs : List Char) :
    Threshold.read? (c :: cs) =
      if (c :: cs).map Char.toLower = ['o', 'f', 'f'] then some none
      else (Level.called? (String.ofList (c :: cs))).map some := by
  have hnat : Decimal.nat? (c :: cs) = none := by
    rw [Decimal.nat?, if_neg]
    rintro ⟨-, hdigits⟩
    rw [List.all_cons, isDigit_of_isAlpha hc] at hdigits
    cases hdigits
  simp only [Threshold.read?]
  split
  · rename_i hsome
    split at hsome
    · rename_i heq
      obtain rfl := (List.cons.inj heq).1
      exact absurd hc (by decide)
    · rw [hnat] at hsome
      cases hsome
  · rfl

/-- **A word for a level** is read as the threshold of that level. -/
theorem Threshold.read?_of_called? (h : Level.called? level = some most) :
    Threshold.read? level.toList = some (some most) := by
  obtain ⟨c, cs, hcons⟩ := List.exists_cons_of_ne_nil (Level.toList_ne_nil_of_called? h)
  have hc : c.isAlpha := Level.isAlpha_of_called? h c (by rw [hcons]; exact List.mem_cons_self)
  have hoff : level.toList.map Char.toLower ≠ ['o', 'f', 'f'] := by
    rw [Level.map_toLower_of_called? h]
    cases most <;> decide
  rw [hcons, read?_cons_of_isAlpha hc, ← hcons, if_neg hoff, String.ofList_toList, h,
    Option.map_some]

/-- Characters without a blank at either end are not trimmed. -/
theorem trim_cons_concat {c d : Char} (hc : Unicode.isWhite c = false)
    (hd : Unicode.isWhite d = false) (middle : List Char) :
    trim (c :: (middle ++ [d])) = c :: (middle ++ [d]) := by
  simp [trim, hc, hd]

/-- **A directive for the program** is read as its target and the threshold behind it. -/
theorem Directive.read?_program {front : List Char} {d : Char} (hd : Unicode.isWhite d = false) :
    Directive.read? ("simple_program=".toList ++ (front ++ [d])) =
      (Threshold.read? (front ++ [d])).map fun threshold =>
        { threshold, target := some "simple_program".toList } := by
  have htrim : trim ("simple_program=".toList ++ (front ++ [d])) =
      "simple_program=".toList ++ (front ++ [d]) := by
    simpa using trim_cons_concat (c := 's') (by decide) hd ("imple_program=".toList ++ front)
  have hbegin : Directive.mayBegin 's' = true := by decide
  simp only [Directive.read?, htrim]
  simp [List.findIdx?_cons, hbegin, Directive.close?, slice, Threshold.behind?]

/-- **The filter of a level** is that of its word, in whatever case it is given. -/
theorem Filter.atLevel_eq (h : Level.called? level = some most) :
    Filter.atLevel level = levelDirectives most := by
  have halpha := Level.isAlpha_of_called? h
  have hcomma : ',' ∉ "simple_program=".toList ++ level.toList := by
    rw [List.mem_append, not_or]
    exact ⟨by decide, fun hmem => absurd (halpha _ hmem) (by decide)⟩
  have hpieces : betweenCommas ("simple_program=" ++ level ++ ",warn").toList =
      ["simple_program=".toList ++ level.toList, "warn".toList] := by
    have htext : ("simple_program=" ++ level ++ ",warn").toList =
        "simple_program=".toList ++ level.toList ++ ',' :: "warn".toList := by
      simp
    rw [betweenCommas, htext, List.splitOn_append_cons_self_of_not_mem hcomma,
      List.splitOn_eq_singleton (by decide)]
    rfl
  have hfirst : Directive.read? ("simple_program=".toList ++ level.toList) =
      some { threshold := some most, target := some "simple_program".toList } := by
    obtain ⟨front, d, hconcat⟩ :=
      (List.eq_nil_or_concat' level.toList).resolve_left (Level.toList_ne_nil_of_called? h)
    have hd : d.isAlpha := halpha d (by rw [hconcat]; simp)
    rw [hconcat, Directive.read?_program (isWhite_of_isAlpha hd), ← hconcat,
      Threshold.read?_of_called? h, Option.map_some]
  have hsecond : Directive.read? "warn".toList = some { threshold := some .warn } := by
    decide +kernel
  rw [Filter.atLevel, Filter.readValid, hpieces, List.filterMap_cons_some hfirst,
    List.filterMap_cons_some hsecond]
  rfl

end Word

/-! ### Log lines between others -/

/-- **Log lines are inserted** between notices, and nothing else is done to these. -/
inductive LogInserted : List Notice → List Notice → Prop
  | nil : LogInserted [] []
  | kept {notices notices' : List Notice} (notice : Notice) : LogInserted notices notices' →
    LogInserted (notice :: notices) (notice :: notices')
  | inserted {notices notices' : List Notice} (e : Event) : LogInserted notices notices' →
    LogInserted notices (.log e :: notices')

theorem LogInserted.refl (notices : List Notice) : LogInserted notices notices := by
  induction notices with
  | nil => exact .nil
  | cons notice notices ih => exact ih.kept notice

theorem LogInserted.sublist {notices notices' : List Notice} (h : LogInserted notices notices') :
    notices.Sublist notices' := by
  induction h with
  | nil => exact .slnil
  | kept notice _ ih => exact ih.cons_cons notice
  | inserted e _ ih => exact ih.cons (.log e)

/-- More events are more log lines, whatever stands behind them. -/
theorem logInserted_of_sublist {events events' : List Event} (h : events.Sublist events')
    (others : List Notice) :
    LogInserted (events.map .log ++ others) (events'.map .log ++ others) := by
  induction h with
  | slnil => exact .refl others
  | cons e _ ih => exact ih.inserted e
  | cons_cons e _ ih => exact ih.kept (.log e)

/-! ### What a run shows of what it hears -/

/-- What a log with a filter shows of events. -/
def Filter.shown (filter : Filter) (events : List Event) : List Event :=
  events.filter fun e => filter.admits e.target e.level

/-- **A more talkative level** only inserts events. -/
theorem Filter.shown_levelDirectives_sublist {most most' : Level} (h : most.rank ≤ most'.rank)
    (events : List Event) :
    ((levelDirectives most).shown events).Sublist ((levelDirectives most').shown events) := by
  refine List.monotone_filter_right events fun e hshown => ?_
  rw [← Filter.atLevel_word, Event.admits_atLevel, decide_eq_true_eq] at hshown ⊢
  exact hshown.trans h

namespace CommandLine

variable {around : Surroundings} {line line' : CommandLine} {file s : Settings} {f : Fault}
  {most most' : Level}

/-- **The level that a run asks its log for**, given what the settings file says: `debug` with the
verbose flag, else the effective level. -/
def asked (line : CommandLine) (file : Settings) : String :=
  if line.verbose then "debug" else (line.effective file).level

/-- What a run hears from when its settings are complete. -/
def heardFrom (line : CommandLine) (s : Settings) : List Event :=
  (line.config.map Event.loaded).toList ++
    ((s.execute line.source line.json).events ++
      failureEvents (s.execute line.source line.json).result)

theorem logged_trace_of_error (h : line.gathered around = .error f) :
    (line.trace around).logged = [] := by
  rcases hconfig : line.config with _ | path
  · simp only [gathered, hconfig, reduceCtorEq] at h
  · simp only [gathered, hconfig, map_eq_error_iff] at h
    simp only [trace, hconfig, h, Trace.logged]

theorem logged_trace_of_ok (h : line.gathered around = .ok s) :
    (line.trace around).logged =
      (Filter.forRun around line.verbose s.effectiveLevel).shown (line.heardFrom s) := by
  rcases hconfig : line.config with _ | path
  · simp only [gathered, hconfig, Except.ok.injEq] at h
    simp only [trace, hconfig, h, Trace.logged, Filter.shown, heardFrom, source, Option.map_none,
      Option.toList_none, List.nil_append, if_true]
  · simp only [gathered, hconfig, map_eq_ok_iff] at h
    obtain ⟨loaded, hload, rfl⟩ := h
    simp [trace, hconfig, hload, Trace.logged, Filter.shown, heardFrom, source]

theorem FileGives.of_config_eq (h : line.FileGives around file)
    (hconfig : line.config = line'.config) : line'.FileGives around file := by
  cases h with
  | nothing hnone => exact .nothing (hconfig.symm.trans hnone)
  | settings hsome hfile hparse htable =>
    exact .settings (hconfig.symm.trans hsome) hfile hparse htable

theorem FileFails.of_config_eq (h : line.FileFails around f)
    (hconfig : line.config = line'.config) : line'.FileFails around f := by
  cases h with
  | unreadable hsome hfile => exact .unreadable (hconfig.symm.trans hsome) hfile
  | notUtf8 hsome hfile hnone => exact .notUtf8 (hconfig.symm.trans hsome) hfile hnone
  | malformed hsome hfile hparse => exact .malformed (hconfig.symm.trans hsome) hfile hparse
  | misshapen hsome hfile hparse htable =>
    exact .misshapen (hconfig.symm.trans hsome) hfile hparse htable

/-- **Two runs that differ in what they say about the log** hear the same, and each shows what its
filter admits of it; if the settings file is not usable, both show nothing. -/
theorem SameButLog.exists_heard (h : line.SameButLog line') (hlevel : line.LevelAccepted around)
    (hlevel' : line'.LevelAccepted around) :
    ((line.trace around).logged = [] ∧ (line'.trace around).logged = []) ∨
      ∃ file events, line.FileGives around file ∧ line'.FileGives around file ∧
        (line.trace around).logged =
          (Filter.forRun around line.verbose (line.effective file).level).shown events ∧
        (line'.trace around).logged =
          (Filter.forRun around line'.verbose (line'.effective file).level).shown events := by
  rcases line.fileGives_or_fileFails around with ⟨file, hgives⟩ | ⟨f, hfails⟩
  · have hgives' := hgives.of_config_eq h.config
    have hsame := (Settings.SameButLevel.refl file).overriddenBy h.settings
    have hheard : line.heardFrom (file.overriddenBy line.settings) =
        line'.heardFrom (file.overriddenBy line'.settings) := by
      have hexecute := hsame.execute_eq (hlevel.of_gathered hgives.gathered_eq)
        (hlevel'.of_gathered hgives'.gathered_eq) line.source line.json
      rw [heardFrom, heardFrom, hexecute, h.config, h.source_eq, h.json]
    refine .inr ⟨file, line.heardFrom (file.overriddenBy line.settings), hgives, hgives', ?_, ?_⟩
    · rw [logged_trace_of_ok hgives.gathered_eq, effectiveLevel_overriddenBy]
    · rw [logged_trace_of_ok hgives'.gathered_eq, effectiveLevel_overriddenBy, hheard]
  · exact .inl ⟨logged_trace_of_error hfails.gathered_eq,
      logged_trace_of_error (hfails.of_config_eq h.config).gathered_eq⟩

/-- The result of the two runs is the same. -/
theorem SameButLog.result_trace_eq_of_accepted (h : line.SameButLog line')
    (hlevel : line.LevelAccepted around) (hlevel' : line'.LevelAccepted around) :
    (line.trace around).result = (line'.trace around).result :=
  h.result_trace_eq (fun _ _ => .refl _) hlevel hlevel'

/-- **The log is all the difference** between the error streams of the two runs. -/
theorem SameButLog.logInserted_notices_trace (h : line.SameButLog line')
    (hlevel : line.LevelAccepted around) (hlevel' : line'.LevelAccepted around)
    (hlogged : (line.trace around).logged.Sublist (line'.trace around).logged) :
    LogInserted (line.trace around).notices (line'.trace around).notices := by
  rw [Trace.notices, Trace.notices, h.result_trace_eq_of_accepted hlevel hlevel']
  exact logInserted_of_sublist hlogged _

theorem SameButLog.notices_trace_eq (h : line.SameButLog line')
    (hlevel : line.LevelAccepted around) (hlevel' : line'.LevelAccepted around)
    (hlogged : (line.trace around).logged = (line'.trace around).logged) :
    (line.trace around).notices = (line'.trace around).notices := by
  rw [Trace.notices, Trace.notices, h.result_trace_eq_of_accepted hlevel hlevel', hlogged]

/-! ### Where the filter comes from -/

/-- Where the variable holds no filter that is wholly valid, the level decides. -/
theorem forRun_eq_atLevel
    (hvariable : (around.environment.text? filterVariable).bind Filter.read? = none)
    (line : CommandLine) (file : Settings) :
    Filter.forRun around line.verbose (line.effective file).level =
      Filter.atLevel (line.asked file) := by
  rw [Filter.forRun, hvariable]
  rfl

/-- Where it holds one, the level does not matter. -/
theorem forRun_eq_of_variable {filter : Filter}
    (hvariable : (around.environment.text? filterVariable).bind Filter.read? = some filter)
    (verbose : Bool) (level : String) : Filter.forRun around verbose level = filter := by
  rw [Filter.forRun, hvariable]

/-- An accepted command line asks for a level that there is. -/
theorem LevelAccepted.exists_called?_asked (hlevel : line.LevelAccepted around)
    (hgives : line.FileGives around file) :
    ∃ most, Level.called? (line.asked file) = some most := by
  rw [asked]
  split
  · exact ⟨.debug, by decide⟩
  · exact Option.isSome_iff_exists.mp (isSome_called?_iff.mpr (hlevel file hgives))

/-! ### Two runs -/

/-- Levels that are equal up to case show the same. -/
theorem SameButLog.notices_trace_eq_of_asked (h : line.SameButLog line')
    (hlevel : line.LevelAccepted around) (hlevel' : line'.LevelAccepted around)
    (hvariable : (around.environment.text? filterVariable).bind Filter.read? = none)
    (hsame : ∀ file, line.FileGives around file →
      lowered (line.asked file) = lowered (line'.asked file)) :
    (line.trace around).notices = (line'.trace around).notices := by
  refine h.notices_trace_eq hlevel hlevel' ?_
  rcases h.exists_heard hlevel hlevel' with
    ⟨hnone, hnone'⟩ | ⟨file, events, hgives, -, hshown, hshown'⟩
  · rw [hnone, hnone']
  · obtain ⟨most, hmost⟩ := hlevel.exists_called?_asked hgives
    have hmost' := (Level.called?_congr (hsame file hgives)).symm.trans hmost
    rw [hshown, hshown', forRun_eq_atLevel hvariable, forRun_eq_atLevel hvariable,
      Filter.atLevel_eq hmost, Filter.atLevel_eq hmost']

/-- A level that is at least as talkative only inserts log lines. -/
theorem SameButLog.logInserted_notices_trace_of_asked (h : line.SameButLog line')
    (hlevel : line.LevelAccepted around) (hlevel' : line'.LevelAccepted around)
    (hvariable : (around.environment.text? filterVariable).bind Filter.read? = none)
    (hrank : ∀ file most most', line.FileGives around file →
      Level.called? (line.asked file) = some most →
      Level.called? (line'.asked file) = some most' → most.rank ≤ most'.rank) :
    LogInserted (line.trace around).notices (line'.trace around).notices := by
  refine h.logInserted_notices_trace hlevel hlevel' ?_
  rcases h.exists_heard hlevel hlevel' with
    ⟨hnone, hnone'⟩ | ⟨file, events, hgives, hgives', hshown, hshown'⟩
  · rw [hnone, hnone']
  · obtain ⟨most, hmost⟩ := hlevel.exists_called?_asked hgives
    obtain ⟨most', hmost'⟩ := hlevel'.exists_called?_asked hgives'
    rw [hshown, hshown', forRun_eq_atLevel hvariable, forRun_eq_atLevel hvariable,
      Filter.atLevel_eq hmost, Filter.atLevel_eq hmost']
    exact Filter.shown_levelDirectives_sublist (hrank file most most' hgives hmost hmost') events

/-- A filter of the variable shows the same, whatever the level is. -/
theorem SameButLog.notices_trace_eq_of_variable {filter : Filter} (h : line.SameButLog line')
    (hlevel : line.LevelAccepted around) (hlevel' : line'.LevelAccepted around)
    (hvariable : (around.environment.text? filterVariable).bind Filter.read? = some filter) :
    (line.trace around).notices = (line'.trace around).notices := by
  refine h.notices_trace_eq hlevel hlevel' ?_
  rcases h.exists_heard hlevel hlevel' with
    ⟨hnone, hnone'⟩ | ⟨file, events, -, -, hshown, hshown'⟩
  · rw [hnone, hnone']
  · rw [hshown, hshown', forRun_eq_of_variable hvariable, forRun_eq_of_variable hvariable]

end CommandLine

/-! ### The error stream -/

/-- What stands on the error stream of a run. -/
def Outcome.notices : Outcome → List Notice
  | stopped _ => []
  | ran _ _ notices => notices

theorem notices_program {around : Surroundings} {arguments : List Bytes} {line : CommandLine}
    (hparse : CommandLine.parse arguments = .ok line) :
    (program around arguments).notices = (line.trace around).notices := by
  rw [program, hparse]
  rfl

/-- **What the log level does to the error stream**, in runs that differ in the verbose flag and in
accepted levels. Where no variable holds another filter, a level that is at least as talkative only
inserts log lines, and levels that are equal up to case give the same error stream, `debug` being
the level of the verbose flag. Where the variable holds a filter, the error stream is always the
same. -/
theorem notices_sublist_of_level {around : Surroundings} {arguments arguments' : List Bytes}
    {line line' : CommandLine} (hparse : CommandLine.parse arguments = .ok line)
    (hparse' : CommandLine.parse arguments' = .ok line') (hline : line.SameButLog line')
    (hlevel : line.LevelAccepted around) (hlevel' : line'.LevelAccepted around) :
    ((around.environment.text? filterVariable).bind Filter.read? = none →
      ((∀ file most most', line.FileGives around file →
          Level.called? (line.asked file) = some most →
          Level.called? (line'.asked file) = some most' → most.rank ≤ most'.rank) →
        LogInserted (program around arguments).notices (program around arguments').notices ∧
          (program around arguments).notices.Sublist (program around arguments').notices) ∧
      ((∀ file, line.FileGives around file →
          lowered (line.asked file) = lowered (line'.asked file)) →
        (program around arguments).notices = (program around arguments').notices) ∧
      (line.verbose = true → line'.verbose = false →
        (∀ file, line.FileGives around file → lowered (line'.effective file).level = "debug") →
        (program around arguments).notices = (program around arguments').notices)) ∧
    ((∃ filter, (around.environment.text? filterVariable).bind Filter.read? = some filter) →
      (program around arguments).notices = (program around arguments').notices) := by
  rw [notices_program hparse, notices_program hparse']
  refine ⟨fun hvariable => ⟨fun hrank => ?_, fun hsame => ?_, fun hverbose hquiet hdebug => ?_⟩, ?_⟩
  · have hinserted := hline.logInserted_notices_trace_of_asked hlevel hlevel' hvariable hrank
    exact ⟨hinserted, hinserted.sublist⟩
  · exact hline.notices_trace_eq_of_asked hlevel hlevel' hvariable hsame
  · refine hline.notices_trace_eq_of_asked hlevel hlevel' hvariable fun file hgives => ?_
    rw [CommandLine.asked, CommandLine.asked, if_pos hverbose, hquiet, if_neg Bool.false_ne_true,
      hdebug file hgives]
    decide
  · rintro ⟨filter, hvariable⟩
    exact hline.notices_trace_eq_of_variable hlevel hlevel' hvariable

/-- A sum that is too large, with a filter that is not valid, and with one that is. -/
theorem notices_sublist_of_level_overflow :
    let around : Surroundings :=
      ⟨fun _ => .error .missing, [("RUST_LOG", Utf8.encode "simple_program=loud")]⟩
    let around' : Surroundings := ⟨fun _ => .error .missing, [("RUST_LOG", Utf8.encode "off")]⟩
    let warn := ["-a", "2147483647", "--log-level", "Warn"].map Utf8.encode
    let debug := ["-a", "2147483647", "--log-level", "deBUG"].map Utf8.encode
    let verbose := ["-v", "-a", "2147483647", "--log-level", "Error"].map Utf8.encode
    let line (level : String) (verbose : Bool) : CommandLine :=
      { settings := { a := some 2147483647, level := some level }, verbose }
    (CommandLine.parse warn = .ok (line "Warn" false) ∧
      CommandLine.parse debug = .ok (line "deBUG" false) ∧
      CommandLine.parse verbose = .ok (line "Error" true) ∧
      (around.environment.text? filterVariable).bind Filter.read? = none ∧
      ∃ filter, (around'.environment.text? filterVariable).bind Filter.read? = some filter) ∧
    (LogInserted (program around warn).notices (program around verbose).notices ∧
      (program around warn).notices.Sublist (program around verbose).notices) ∧
    (program around verbose).notices = (program around debug).notices ∧
    (program around' warn).notices = (program around' verbose).notices := by
  intro around around' warn debug verbose line
  have hwarn : CommandLine.parse warn = .ok (line "Warn" false) := by decide +kernel
  have hdebug : CommandLine.parse debug = .ok (line "deBUG" false) := by decide +kernel
  have hverbose : CommandLine.parse verbose = .ok (line "Error" true) := by decide +kernel
  have hinvalid : (around.environment.text? filterVariable).bind Filter.read? = none := by
    decide +kernel
  have hvalid : (around'.environment.text? filterVariable).bind Filter.read? =
      some [{ threshold := none }] := by
    decide +kernel
  have hline : ∀ level level' flag flag', (line level flag).SameButLog (line level' flag') :=
    fun _ _ _ _ => ⟨⟨rfl, rfl, rfl⟩, rfl, rfl⟩
  have hlevel : ∀ level flag around, lowered level ∈ levelWords →
      (line level flag).LevelAccepted around :=
    fun _ _ around hmem => CommandLine.levelAccepted_of_level rfl hmem around
  refine ⟨⟨hwarn, hdebug, hverbose, hinvalid, _, hvalid⟩, ?_, ?_, ?_⟩
  · refine ((notices_sublist_of_level hwarn hverbose (hline _ _ _ _) (hlevel _ _ _ (by decide))
      (hlevel _ _ _ (by decide))).1 hinvalid).1 fun file most most' _ hmost hmost' => ?_
    have hlow : Level.called? "Warn" = some .warn := by decide
    have hhigh : Level.called? "debug" = some .debug := by decide
    obtain rfl := Option.some.inj (hlow.symm.trans hmost)
    obtain rfl := Option.some.inj (hhigh.symm.trans hmost')
    decide
  · have hlowered : lowered "deBUG" = "debug" := by decide
    exact ((notices_sublist_of_level hverbose hdebug (hline _ _ _ _) (hlevel _ _ _ (by decide))
      (hlevel _ _ _ (by decide))).1 hinvalid).2.2 rfl rfl fun file _ => hlowered
  · exact (notices_sublist_of_level hwarn hverbose (hline _ _ _ _) (hlevel _ _ _ (by decide))
      (hlevel _ _ _ (by decide))).2 ⟨_, hvalid⟩

end TextGauge
