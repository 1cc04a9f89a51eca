import TextGauge.Log.Notice
import TextGauge.Proofs.Run.Exact
import TextGauge.Proofs.Text.Echo

/-!
# Lines that repeat a text

The text of a run is repeated in two places beside the report: in the event that says that it is
about to be measured, and in the fault that refuses it for a zero character. In both it is an echo,
so each stays on its line whatever the text is, and the text can be told from it
(`TextGauge.echoes_lossless_on_one_line`).

A log line is written with the control characters of its message escaped once more, those apart that
end a line. A message with an echo has none, so what is on the line is the message itself
(`TextGauge.Notice.text_log`), and nothing comes between the echo and the one who reads it back.
-/

namespace TextGauge

open Text.Echo (Echoes)
open Unicode (IsControl ControlFree)

/-! ### Log lines -/

theorem escapeControl_eq_singleton {c : Char} (h : ¬IsControl c) : escapeControl c = [c] := by
  unfold escapeControl
  split_ifs with hescape hbell hbackspace hfeed hdelete hhigh
  case pos | pos | pos | pos | pos => subst c; exact absurd (by decide) h
  · exact absurd (.inr (by omega)) h
  · rfl

theorem flatMap_escapeControl {cs : List Char} (h : ControlFree cs) :
    cs.flatMap escapeControl = cs := by
  induction cs with
  | nil => rfl
  | cons c cs ih =>
    obtain ⟨hc, hcs⟩ := Unicode.controlFree_cons_iff.mp h
    rw [List.flatMap_cons, escapeControl_eq_singleton hc, ih hcs, List.singleton_append]

theorem controlFree_padded (level : Level) : ControlFree level.padded.toList := by
  cases level <;> decide +kernel

namespace Notice

/-- **On one line**: written at a time without control characters, a notice has none at all. -/
def OnOneLine (notice : Notice) : Prop :=
  ∀ time : String, ControlFree time.toList → ControlFree (notice.text time).toList

variable {event : Event}

/-- **A message without control characters** is written as it is. -/
theorem text_log (h : ControlFree event.message.toList) (time : String) :
    (log event).text time = time ++ " " ++ event.level.padded ++ " " ++ event.message := by
  -- not by the equations of this definition, which Lean is slow to make
  have hline : (log event).text time = time ++ " " ++ event.level.padded ++ " " ++
      String.ofList (event.message.toList.flatMap escapeControl) := rfl
  rw [hline, flatMap_escapeControl h, String.ofList_toList]

theorem onOneLine_log (h : ControlFree event.message.toList) : (log event).OnOneLine := by
  intro time htime
  simp only [text_log h, String.toList_append, Unicode.controlFree_append_iff]
  exact ⟨⟨⟨⟨htime, by decide⟩, controlFree_padded event.level⟩, by decide⟩, h⟩

end Notice

/-! ### The text that is measured -/

section Analyzing

variable {operands : Operands} {s t : String}

/-- The event of measuring has the echo between quotes. -/
theorem message_analyzing (s : String) :
    (Event.analyzing s).message =
      "Analyzing text \"" ++ String.ofList (Text.Echo.quotedBody s.toList) ++ "\"" := by
  have hmessage : (Event.analyzing s).message = "Analyzing text " ++ Text.Echo.quoted s := rfl
  have hopening : "Analyzing text \"".toList = "Analyzing text ".toList ++ ['"'] := rfl
  have hclosing : "\"".toList = ['"'] := rfl
  rw [hmessage, ← String.toList_inj]
  simp only [Text.Echo.quoted, String.toList_append, String.toList_ofList, hopening, hclosing,
    List.append_assoc, List.cons_append, List.nil_append]

theorem controlFree_message_analyzing (s : String) :
    ControlFree (Event.analyzing s).message.toList := by
  simp only [message_analyzing, String.toList_append, String.toList_ofList,
    Unicode.controlFree_append_iff]
  exact ⟨⟨by decide, (Text.Echo.echoes_quotedBody s).controlFree⟩, by decide⟩

/-- **The message tells the text.** -/
theorem eq_of_message_analyzing_eq
    (h : (Event.analyzing s).message = (Event.analyzing t).message) : s = t := by
  rw [message_analyzing, message_analyzing, String.append_left_inj, String.append_right_inj] at h
  have hs := Text.Echo.echoes_quotedBody s
  rw [String.ofList_injective h] at hs
  exact hs.unique (Text.Echo.echoes_quotedBody t)

/-- A run that reports has told of its text. -/
theorem analyzing_mem_events {r : Report} (h : (run operands s).result = .ok r) :
    .analyzing s ∈ (run operands s).events := by
  rw [events_run_of_ok h]
  exact .tail _ (.head _)

/-- A run tells of no other text than its own. -/
theorem eq_of_analyzing_mem_events (h : .analyzing t ∈ (run operands s).events) : t = s := by
  rcases run_cases operands s with ⟨sum, difference, -, -, hrun⟩ | ⟨operation, -, hrun⟩
  · rw [hrun] at h
    simpa using h
  · rw [hrun] at h
    simp at h

end Analyzing

/-! ### The text that is refused -/

section Refused

variable {name s : String} {f : Fault}

/-- A fault that refuses a text shows the echo without quotes. -/
theorem eq_value_of_checkText (h : checkText name s = .error f) :
    ∃ offset, f = .value name (Text.Echo.bare s) (.nulAt offset) := by
  rw [checkText] at h
  split at h
  · exact ⟨_, (Except.error.inj h).symm⟩
  · cases h

theorem echoes_bare (s : String) : Echoes (Text.Echo.bare s).toList s := by
  rw [Text.Echo.bare, String.toList_ofList]
  exact Text.Echo.echoes_bareBody s

theorem exists_checkText_eq_error (h : '\x00' ∈ s.toList) (name : String) :
    ∃ offset, checkText name s = .error (.value name (Text.Echo.bare s) (.nulAt offset)) := by
  obtain ⟨before, after, hsplit, hbefore⟩ := List.eq_append_cons_of_mem h
  exact ⟨_, checkText_eq_error hsplit hbefore name⟩

theorem controlFree_nulAt (offset : ℕ) : ControlFree (Objection.nulAt offset).message.toList := by
  have hmessage : (Objection.nulAt offset).message =
      "Text contains an embedded NUL byte at offset " ++ Decimal.text offset := rfl
  have hdigits : ControlFree (Decimal.text offset).toList := by
    rw [Decimal.text, String.toList_ofList]
    exact Unicode.controlFree_toDigits (by decide) (by decide) offset
  rw [hmessage, String.toList_append, Unicode.controlFree_append_iff]
  exact ⟨by decide, hdigits⟩

/-- The log says of a text that is refused what the setting is, and shows the text. -/
theorem controlFree_message_failed (hname : ControlFree name.toList) (s : String) (offset : ℕ) :
    ControlFree
      (Event.failed (.value name (Text.Echo.bare s) (.nulAt offset))).message.toList := by
  have hmessage : (Event.failed (.value name (Text.Echo.bare s) (.nulAt offset))).message =
      "❌ Run failed: " ++ ("Invalid value for '" ++ name ++ "': '" ++ Text.Echo.bare s ++ "' (" ++
        (Objection.nulAt offset).message ++ ")") ++ " (Category: " ++ "Configuration" ++
        ", Severity: " ++ "High" ++ ")" := rfl
  have hshown := (echoes_bare s).controlFree
  have hobjection := controlFree_nulAt offset
  simp only [hmessage, String.toList_append, Unicode.controlFree_append_iff, hname, hshown,
    hobjection]
  decide

/-- The person at the terminal is told of the setting and the offset, not of the text. -/
theorem onOneLine_fault (hname : ControlFree name.toList) (shown : String) (offset : ℕ) :
    (Notice.fault (.value name shown (.nulAt offset))).OnOneLine := by
  intro time _
  have htext : (Notice.fault (.value name shown (.nulAt offset))).text time =
      "❌ " ++ ("Setting '" ++ name ++ "' is invalid: " ++ (Objection.nulAt offset).message) := rfl
  have hobjection := controlFree_nulAt offset
  simp only [htext, String.toList_append, Unicode.controlFree_append_iff, hname, hobjection]
  decide

theorem onOneLine_advice (name shown : String) (objection : Objection) :
    (Notice.advice (.value name shown objection)).OnOneLine := by
  intro time _
  have htext : (Notice.advice (.value name shown objection)).text time =
      "💡 " ++ "Correct the value named above and run again" := rfl
  rw [htext]
  decide +kernel

/-- **What is written about a text that is refused** is one line each time: in the log, and for the
person at the terminal. -/
theorem onOneLine_of_checkText (hname : ControlFree name.toList) (h : checkText name s = .error f) :
    ∀ notice ∈ [Notice.log (.failed f), .fault f, .advice f], notice.OnOneLine := by
  obtain ⟨offset, rfl⟩ := eq_value_of_checkText h
  intro notice hmem
  rw [List.mem_cons, List.mem_pair] at hmem
  rcases hmem with rfl | rfl | rfl
  · exact Notice.onOneLine_log (controlFree_message_failed hname s offset)
  · exact onOneLine_fault hname _ offset
  · exact onOneLine_advice name _ _

theorem controlFree_textName (source : Source) : ControlFree source.textName.toList := by
  cases source <;> decide

end Refused

/-- **Echoes are lossless and stay on their line.** A run tells of its text if it reports, and of
no other text. The message of that event is an echo between quotes, without control characters, and
stands on its log line as it is. A text with a zero character is refused, and the value that the
fault shows is an echo of it; with the names that the program has for the setting, what is written
about the fault is one line each time. Two texts never have the same message, and are never shown as
the same value. -/
theorem echoes_lossless_on_one_line :
    (∀ (operands : Operands) (s : String),
      (∀ r, (run operands s).result = .ok r → .analyzing s ∈ (run operands s).events) ∧
      ∀ t, .analyzing t ∈ (run operands s).events →
        (∃ echo, Echoes echo s ∧
          (Event.analyzing t).message = "Analyzing text \"" ++ String.ofList echo ++ "\"") ∧
        ControlFree (Event.analyzing t).message.toList ∧
        (Notice.log (.analyzing t)).OnOneLine ∧
        ∀ time, (Notice.log (.analyzing t)).text time =
          time ++ " DEBUG " ++ (Event.analyzing t).message) ∧
    (∀ name s : String, '\x00' ∈ s.toList →
      ∃ shown offset, checkText name s = .error (.value name shown (.nulAt offset)) ∧
        Echoes shown.toList s) ∧
    (∀ (source : Source) (s : String) (f : Fault), checkText source.textName s = .error f →
      ∀ notice ∈ [Notice.log (.failed f), .fault f, .advice f], notice.OnOneLine) ∧
    (∀ s t, (Event.analyzing s).message = (Event.analyzing t).message → s = t) ∧
    (∀ name name' s t shown objection objection',
      checkText name s = .error (.value name shown objection) →
      checkText name' t = .error (.value name' shown objection') → s = t) := by
  refine ⟨fun operands s => ⟨fun r => analyzing_mem_events, fun t ht => ?_⟩,
    fun name s hzero => ?_,
    fun source s f => onOneLine_of_checkText (controlFree_textName source),
    fun s t => eq_of_message_analyzing_eq,
    fun name name' s t shown objection objection' hs ht => ?_⟩
  · obtain rfl := eq_of_analyzing_mem_events ht
    have hfree := controlFree_message_analyzing t
    refine ⟨⟨_, Text.Echo.echoes_quotedBody t, message_analyzing t⟩, hfree,
      Notice.onOneLine_log hfree, fun time => ?_⟩
    have hlevel : time ++ " DEBUG " = time ++ " " ++ Level.debug.padded ++ " " := by
      rw [String.append_assoc, String.append_assoc]
      rfl
    rw [Notice.text_log hfree, hlevel]
    rfl
  · obtain ⟨offset, hoffset⟩ := exists_checkText_eq_error hzero name
    exact ⟨_, offset, hoffset, echoes_bare s⟩
  · obtain ⟨offset, hs⟩ := eq_value_of_checkText hs
    obtain ⟨offset', ht⟩ := eq_value_of_checkText ht
    obtain ⟨-, rfl, -⟩ := Fault.value.inj hs
    obtain ⟨-, hshown, -⟩ := Fault.value.inj ht
    have hecho := echoes_bare s
    rw [hshown] at hecho
    exact hecho.unique (echoes_bare t)

/-- A text that begins with a mark over nothing, goes on with a digit behind the zero character and
with what looks like an escape, and ends the line; and once more by the numbers of its
characters. -/
theorem echoes_lossless_on_one_line_forged :
    let s := "\u0301\x000\\u\x7b41\x7d'\n"
    let t := String.ofList
      ([0x301, 0x0, 0x30, 0x5C, 0x75, 0x7B, 0x34, 0x31, 0x7D, 0x27, 0xA].map Char.ofNat)
    let report : Report := ⟨1, 2, 3, -1, s, 12, 1⟩
    let shown := "\\u\x7b301\x7d\\00\\\\u\x7b41\x7d\\'\\n"
    let fault : Fault := .value "--text" shown (.nulAt 2)
    ((run ⟨1, 2⟩ s).result = .ok report ∧ .analyzing s ∈ (run ⟨1, 2⟩ s).events ∧
      (∃ echo, Echoes echo s ∧
        (Event.analyzing s).message = "Analyzing text \"" ++ String.ofList echo ++ "\"") ∧
      (Notice.log (.analyzing s)).OnOneLine) ∧
    ('\x00' ∈ s.toList ∧ checkText "--text" s = .error fault ∧ Echoes shown.toList s ∧
      ∀ notice ∈ [Notice.log (.failed fault), .fault fault, .advice fault], notice.OnOneLine) ∧
    ((Event.analyzing s).message = (Event.analyzing t).message ∧ s = t) ∧
    (checkText "input.text" t = .error (.value "input.text" shown (.nulAt 2)) ∧ t = s) := by
  intro s t report shown fault
  obtain ⟨hruns, hrefused, hlines, hmessages, hvalues⟩ := echoes_lossless_on_one_line
  have hresult : (run ⟨1, 2⟩ s).result = .ok report := by decide +kernel
  have hzero : '\x00' ∈ s.toList := by decide +kernel
  have hcheck : checkText "--text" s = .error fault := by decide +kernel
  have hcheck' : checkText "input.text" t = .error (.value "input.text" shown (.nulAt 2)) := by
    decide +kernel
  have hmessage : (Event.analyzing s).message = (Event.analyzing t).message := by decide +kernel
  have hevent := (hruns ⟨1, 2⟩ s).1 report hresult
  obtain ⟨hecho, -, hline, -⟩ := (hruns ⟨1, 2⟩ s).2 s hevent
  obtain ⟨shown', offset, hcheck'', hshown⟩ := hrefused "--text" s hzero
  obtain ⟨-, rfl, -⟩ := Fault.value.inj (Except.error.inj (hcheck.symm.trans hcheck''))
  exact ⟨⟨hresult, hevent, hecho, hline⟩,
    ⟨hzero, hcheck, hshown, hlines .commandLine s fault hcheck⟩,
    ⟨hmessage, hmessages s t hmessage⟩, ⟨hcheck', hvalues _ _ t s shown _ _ hcheck' hcheck⟩⟩

end TextGauge
