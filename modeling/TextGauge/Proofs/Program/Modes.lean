import TextGauge.Proofs.Program.Contract
import TextGauge.Proofs.Report

/-!
# The two forms of the output

A report is printed as a JSON document or as four lines, and this is all that the flag for JSON
decides: up to the report two runs that differ only in it are the same, so they fail alike, log
alike and exit with the same code. Nor does one form say more than the other. The document holds
the whole report, and the lines of the report that is read from it are those that the other run
prints (`TextGauge.CommandLine.trace_json_eq_trace_lines`).

The length of a text is a size of 64 bits, so the document of a longer text cannot be read back.
-/

namespace TextGauge

/-! ### The report behind an output -/

/-- The report on settings, or the fault in its place. -/
def Settings.reported (source : Source) (s : Settings) : Except Fault Report :=
  s.check source >>= fun _ => (run s.operands s.effectiveText).result

/-- The output is that of the report. -/
theorem Settings.result_execute (source : Source) (json : Bool) (s : Settings) :
    (s.execute source json).result = (s.reported source).map (Report.output json) := by
  rw [execute, reported]
  rcases s.check source with f | _
  · rfl
  · rfl

theorem failureEvents_map {α β : Type} (x : Except Fault α) (f : α → β) :
    failureEvents (x.map f) = failureEvents x := by
  cases x with
  | error e => rfl
  | ok a => rfl

/-- **What happens on the way** does not depend on the form of the output, nor does an early end. -/
theorem Settings.heard_execute (source : Source) (json json' : Bool) (s : Settings) :
    (s.execute source json).events ++ failureEvents (s.execute source json).result =
      (s.execute source json').events ++ failureEvents (s.execute source json').result := by
  rw [result_execute, result_execute, failureEvents_map, failureEvents_map, execute, execute]
  rcases s.check source with f | _
  · rfl
  · rfl

namespace CommandLine

variable {around : Surroundings} {line : CommandLine} {file : Settings}

/-- The report of a run of the program, or the fault in its place. -/
def reported (around : Surroundings) (line : CommandLine) : Except Fault Report :=
  line.gathered around >>= fun s => s.reported line.source

/-- **The result of a run is its report, printed.** -/
theorem result_trace_eq_map (around : Surroundings) (line : CommandLine) :
    (line.trace around).result = (line.reported around).map (Report.output line.json) := by
  rw [result_trace, reported]
  rcases line.gathered around with f | s
  · rfl
  · exact Settings.result_execute line.source line.json s

/-- **The form decides how the report is printed**, and nothing else. -/
theorem trace_eq_of_form (around : Surroundings) (line : CommandLine) (json : Bool) :
    ({ line with json } : CommandLine).trace around =
      { line.trace around with result := (line.reported around).map (Report.output json) } := by
  have hresult := result_trace_eq_map around { line with json }
  obtain ⟨settings, config, json', verbose⟩ := line
  cases config with
  | none =>
    rw [Trace.mk.injEq]
    exact ⟨rfl, rfl, settings.heard_execute .commandLine json json', hresult⟩
  | some path =>
    rw [Trace.mk.injEq]
    simp only [trace] at hresult ⊢
    cases hload : Settings.load around path with
    | error f =>
      rw [hload] at hresult
      exact ⟨rfl, rfl, rfl, hresult⟩
    | ok loaded =>
      rw [hload] at hresult
      exact ⟨rfl, rfl, congrArg (Event.loaded path :: ·) (Settings.heard_execute _ _ _ _), hresult⟩

theorem logged_trace_of_form (around : Surroundings) (line : CommandLine) (json : Bool) :
    (({ line with json } : CommandLine).trace around).logged = (line.trace around).logged := by
  rw [trace_eq_of_form]
  rfl

/-- A run that ends in a report has a settings file that is usable, or none. -/
theorem exists_fileGives_of_reported {r : Report} (h : line.reported around = .ok r) :
    ∃ file, line.FileGives around file := by
  rcases line.fileGives_or_fileFails around with hgives | ⟨f, hfails⟩
  · exact hgives
  · rw [reported, hfails.gathered_eq, error_bind] at h
    cases h

/-- The report of a run measures the effective values. -/
theorem FileGives.measures_of_reported (h : line.FileGives around file) {r : Report}
    (hr : line.reported around = .ok r) :
    r.Measures ⟨(line.effective file).a, (line.effective file).b⟩ (line.effective file).text := by
  rw [reported, h.gathered_eq, ok_bind] at hr
  obtain ⟨-, -, hrun⟩ := bind_eq_ok_iff.mp hr
  rw [operands_overriddenBy, effectiveText_overriddenBy] at hrun
  exact measures_of_run hrun

/-- **The printed document** is read as a value that holds the report, if its sizes are sizes. -/
theorem ofJson_parse?_output {r : Report} (hlength : r.length < Nat.pow 2 64)
    (hvowels : r.vowels < Nat.pow 2 64) :
    ∃ value, Json.parse? (r.output true) = some value ∧ Report.ofJson value = .ok r := by
  have houtput : r.output true = r.toJson.write ++ "\n" := if_pos rfl
  refine ⟨r.toJson, ?_, Report.ofJson_toJson hlength hvowels⟩
  rw [houtput]
  exact Json.parse?_write_newline (Report.readable_toJson hlength hvowels)

/-- Every fault has an exit code of its own. -/
theorem exitCode_ne_zero (f : Fault) : f.severity.exitCode ≠ 0 := by
  cases f <;> simp [Fault.severity, Severity.exitCode]

/-- **The two forms of the output say the same.** Take two runs of which one prints a document and
the other lines. They exit with the same code, log the same and fail with the same fault, if they
do. If they do not, the document is read as a report of which the lines, each with its end, are what
the other run prints. -/
theorem trace_json_eq_trace_lines (around : Surroundings) (line : CommandLine) :
    let document := ({ line with json := true } : CommandLine).trace around
    let plain := ({ line with json := false } : CommandLine).trace around
    document.exitCode = plain.exitCode ∧ document.notices = plain.notices ∧
      (∀ f, document.result = .error f ↔ plain.result = .error f) ∧
      (document.exitCode = 0 → (∀ file, line.FileGives around file →
        (line.effective file).text.utf8ByteSize < Nat.pow 2 64) →
        ∃ value r, Json.parse? document.output = some value ∧ Report.ofJson value = .ok r ∧
          plain.output = String.join (r.lines.map (· ++ "\n"))) := by
  intro document plain
  have hdocument : document.result = (line.reported around).map (Report.output true) :=
    congrArg Trace.result (trace_eq_of_form around line true)
  have hplain : plain.result = (line.reported around).map (Report.output false) :=
    congrArg Trace.result (trace_eq_of_form around line false)
  have hlogged : document.logged = plain.logged :=
    (logged_trace_of_form around line true).trans (logged_trace_of_form around line false).symm
  rcases hreported : line.reported around with f | r
  · rw [hreported, Except.map] at hdocument hplain
    refine ⟨?_, ?_, fun f' => ?_, fun hexit _ => ?_⟩
    · rw [Trace.exitCode, Trace.exitCode, hdocument, hplain]
    · rw [Trace.notices, Trace.notices, hlogged, hdocument, hplain]
    · rw [hdocument, hplain]
    · rw [Trace.exitCode, hdocument] at hexit
      exact absurd hexit (exitCode_ne_zero f)
  · rw [hreported, Except.map] at hdocument hplain
    refine ⟨?_, ?_, fun f' => ?_, fun _ hsize => ?_⟩
    · rw [Trace.exitCode, Trace.exitCode, hdocument, hplain]
    · rw [Trace.notices, Trace.notices, hlogged, hdocument, hplain]
    · simp [hdocument, hplain]
    · obtain ⟨file, hgives⟩ := exists_fileGives_of_reported hreported
      have hmeasures := hgives.measures_of_reported hreported
      have hlength : r.length < Nat.pow 2 64 := by
        rw [hmeasures.length]
        exact hsize file hgives
      have hvowels : r.vowels < Nat.pow 2 64 := hmeasures.vowels_le.trans_lt (hsize file hgives)
      have hlines : r.output false = String.join (r.lines.map (· ++ "\n")) :=
        if_neg Bool.false_ne_true
      obtain ⟨value, hparse, hread⟩ := ofJson_parse?_output hlength hvowels
      refine ⟨value, r, ?_, hread, ?_⟩
      · rw [Trace.output, hdocument]
        exact hparse
      · rw [Trace.output, hplain]
        exact hlines

/-- A text with a line of its own that looks like one of the report, and with much that is escaped
in the document. -/
theorem trace_json_eq_trace_lines_forged :
    let line : CommandLine :=
      { settings :=
          { a := some Int32.minValue
            b := some 0
            text := some "é = 2\nVowel Count: \"\\\x1f" } }
    let around : Surroundings := ⟨fun _ => .error .missing, []⟩
    let document := ({ line with json := true } : CommandLine).trace around
    let plain := ({ line with json := false } : CommandLine).trace around
    (document.exitCode = 0 ∧ ∀ file, line.FileGives around file →
      (line.effective file).text.utf8ByteSize < Nat.pow 2 64) ∧
    ∃ value r, Json.parse? document.output = some value ∧ Report.ofJson value = .ok r ∧
      plain.output = String.join (r.lines.map (· ++ "\n")) := by
  intro line around document plain
  have hexit : document.exitCode = 0 := by decide +kernel
  have hsize : ∀ file, line.FileGives around file →
      (line.effective file).text.utf8ByteSize < Nat.pow 2 64 := by
    intro file hgives
    cases hgives with
    | nothing => decide
    | settings hconfig => cases hconfig
  exact ⟨⟨hexit, hsize⟩, (trace_json_eq_trace_lines around line).2.2.2 hexit hsize⟩

end CommandLine

end TextGauge
