import TextGauge.Proofs.Program.Modes

/-!
# Terminators

A buffer is **terminated** by its first zero byte, and what stands before that is its text. This
library looks for a zero byte in four places: where a terminated buffer is cut, where bytes are
asked whether there is one, where the text of a setting is checked, and where a fault says how far
it is to the first one. The four agree (`TextGauge.terminators_agree`).

A text that is checked therefore comes back whole from any buffer that holds it up to a terminator,
whatever follows there. No report is made of a text that is not checked, so every run reports what
it would find in a terminated buffer.
-/

namespace TextGauge

/-! ### Buffers -/

namespace Text

variable {buffer text : Bytes}

theorem ofTerminated?_append_zero (h : 0 ∉ text) (rest : Bytes) :
    ofTerminated? (text ++ 0 :: rest) = some text := by
  rw [ofTerminated?, nulOffset?_append_zero h, Option.map_some, length, List.take_left]

theorem ofTerminated?_eq_none (h : 0 ∉ buffer) : ofTerminated? buffer = none := by
  rw [ofTerminated?, nulOffset?_eq_none_iff_not_mem.mpr h, Option.map_none]

/-- **The text of a buffer** is what stands before its first zero byte. -/
theorem ofTerminated?_eq_some_iff :
    ofTerminated? buffer = some text ↔ 0 ∉ text ∧ ∃ rest, buffer = text ++ 0 :: rest := by
  constructor
  · intro h
    by_cases hzero : 0 ∈ buffer
    · obtain ⟨before, rest, rfl, hbefore⟩ := List.eq_append_cons_of_mem hzero
      rw [ofTerminated?_append_zero hbefore, Option.some_inj] at h
      subst h
      exact ⟨hbefore, rest, rfl⟩
    · rw [ofTerminated?_eq_none hzero] at h
      cases h
  · rintro ⟨hzero, rest, rfl⟩
    exact ofTerminated?_append_zero hzero rest

/-- **The longest start of a buffer that has no zero byte**: every other such start is one of it. -/
structure LongestNulFree (text buffer : Bytes) : Prop where
  isPrefix : text <+: buffer
  nulFree : hasNul text = false
  longest : ∀ start, start <+: buffer → hasNul start = false → start <+: text

theorem longestNulFree_append_zero (h : 0 ∉ text) (rest : Bytes) :
    LongestNulFree text (text ++ 0 :: rest) where
  isPrefix := List.prefix_append ..
  nulFree := hasNul_eq_false_iff.mpr h
  longest start hstart hfree := by
    -- a start that goes on behind the text takes the zero byte with it
    have hzero : text ++ [0] <+: text ++ 0 :: rest := ⟨rest, by simp⟩
    rcases List.prefix_or_prefix_of_prefix hstart hzero with hshort | hlong
    · rcases List.prefix_concat_iff.mp hshort with rfl | hprefix
      · exact absurd (by simp) (hasNul_eq_false_iff.mp hfree)
      · exact hprefix
    · exact absurd (hlong.subset (by simp)) (hasNul_eq_false_iff.mp hfree)

end Text

section Terminated

variable {buffer text : Bytes}

/-- **A terminated text** is the longest start of its buffer without zero byte. -/
theorem terminatedText_eq_ok_iff :
    terminatedText buffer = .ok text ↔ 0 ∉ text ∧ ∃ rest, buffer = text ++ 0 :: rest := by
  rw [← Text.ofTerminated?_eq_some_iff, terminatedText]
  rcases Text.ofTerminated? buffer with _ | text'
  · exact iff_of_false (by simp) (by simp)
  · rw [Option.elim_some, Except.ok.injEq, Option.some_inj]

theorem terminatedText_eq_error (h : 0 ∉ buffer) :
    terminatedText buffer = .error (.unterminated (Text.length buffer)) := by
  rw [terminatedText, Text.ofTerminated?_eq_none h, Option.elim_none]

end Terminated

/-! ### Texts that are checked -/

section Check

variable {s name : String} {f : Fault}

theorem checkText_eq_ok_iff : checkText name s = .ok () ↔ '\x00' ∉ s.toList := by
  refine ⟨fun h hzero => ?_, fun h => checkText_eq_ok h name⟩
  obtain ⟨before, after, hsplit, hbefore⟩ := List.eq_append_cons_of_mem hzero
  rw [checkText_eq_error hsplit hbefore] at h
  cases h

/-- **A text without zero character** comes back whole from a buffer that goes on behind it with a
terminator, and with anything after that. -/
theorem terminatedText_encode_append (h : '\x00' ∉ s.toList) (junk : Bytes) :
    terminatedText (Utf8.encode s ++ 0 :: junk) = .ok (Utf8.encode s) :=
  terminatedText_eq_ok_iff.mpr ⟨fun hzero => h (Utf8.zero_mem_encode_iff.mp hzero), junk, rfl⟩

theorem not_mem_of_terminatedText_encode_append {junk : Bytes}
    (h : terminatedText (Utf8.encode s ++ 0 :: junk) = .ok (Utf8.encode s)) : '\x00' ∉ s.toList :=
  fun hzero => (terminatedText_eq_ok_iff.mp h).1 (Utf8.zero_mem_encode_iff.mpr hzero)

/-- **A text that is refused** is refused for the place where a terminated buffer would end. -/
theorem exists_terminatedText_of_checkText (h : checkText name s = .error f) :
    ∃ text, terminatedText (Utf8.encode s) = .ok text ∧
      f = .value name (Text.Echo.bare s) (.nulAt (Text.length text)) := by
  have hzero : '\x00' ∈ s.toList := by
    by_contra hnone
    rw [checkText_eq_ok hnone] at h
    cases h
  obtain ⟨before, after, hsplit, hbefore⟩ := List.eq_append_cons_of_mem hzero
  have hfree : 0 ∉ Utf8.encode (String.ofList before) := by
    rwa [Utf8.zero_mem_encode_iff, String.toList_ofList]
  rw [checkText_eq_error hsplit hbefore, ← Text.length_encode] at h
  refine ⟨Utf8.encode (String.ofList before), ?_, (Except.error.inj h).symm⟩
  exact terminatedText_eq_ok_iff.mpr ⟨hfree, _, Utf8.encode_eq_append_zero hsplit⟩

end Check

/-! ### Runs -/

namespace CommandLine

variable {around : Surroundings} {arguments : List Bytes} {line : CommandLine} {file : Settings}
  {r : Report}

/-- **No report without check**: the text of a run that reports has passed. -/
theorem FileGives.checkText_of_reported (h : line.FileGives around file)
    (hr : line.reported around = .ok r) :
    checkText line.source.textName (line.effective file).text = .ok () := by
  rw [reported, h.gathered_eq, ok_bind] at hr
  obtain ⟨⟨⟩, hcheck, -⟩ := bind_eq_ok_iff.mp hr
  obtain ⟨⟨⟩, htext, -⟩ := bind_eq_ok_iff.mp hcheck
  rwa [effectiveText_overriddenBy] at htext

/-- A run that exits with 0 prints a report. -/
theorem exists_reported_of_exitCode (hparse : CommandLine.parse arguments = .ok line)
    (hexit : (program around arguments).exitCode = 0) :
    ∃ r, line.reported around = .ok r ∧
      (program around arguments).output = r.printed line.json := by
  have hresult := result_trace_eq_map around line
  rcases hreported : line.reported around with f | r
  · rw [hreported, Except.map] at hresult
    exact absurd ((leaves_of_error hparse hresult).exitCode.symm.trans hexit) (exitCode_ne_zero f)
  · rw [hreported, Except.map, Report.output_eq_printed] at hresult
    exact ⟨r, rfl, (leaves_of_ok hparse hresult).output⟩

end CommandLine

/-- **All notions of a terminator agree.** The text of a buffer is what stands before its first zero
byte, and the longest start of it that has none; it is there exactly if the buffer has a zero byte,
and else the fault tells the length of the buffer. A text passes the check exactly if its bytes have
no zero byte, if it has no zero character, and if it comes back whole from every buffer that goes on
behind it with a terminator; a text that does not pass is refused for the length of the text that
comes back. So every run that prints a report prints the length and the vowels of the text in a
terminated buffer. -/
theorem terminators_agree :
    (∀ buffer : Bytes,
      ((∃ text, terminatedText buffer = .ok text) ↔ Text.hasNul buffer = true) ∧
      (∀ text, terminatedText buffer = .ok text → Text.LongestNulFree text buffer ∧
        ∀ rest, terminatedText (text ++ 0 :: rest) = .ok text) ∧
      (Text.hasNul buffer = false →
        terminatedText buffer = .error (.unterminated (Text.length buffer)))) ∧
    (∀ name s : String,
      (checkText name s = .ok () ↔ Text.hasNul (Utf8.encode s) = false) ∧
      (Text.hasNul (Utf8.encode s) = false ↔ '\x00' ∉ s.toList) ∧
      ('\x00' ∉ s.toList ↔
        ∀ junk, terminatedText (Utf8.encode s ++ 0 :: junk) = .ok (Utf8.encode s)) ∧
      (∀ f, checkText name s = .error f → ∃ text, terminatedText (Utf8.encode s) = .ok text ∧
        f = .value name (Text.Echo.bare s) (.nulAt (Text.length text)))) ∧
    (∀ (around : Surroundings) (arguments : List Bytes) (line : CommandLine),
      CommandLine.parse arguments = .ok line → (program around arguments).exitCode = 0 →
      ∃ (file : Settings) (r : Report) (text : Bytes), line.FileGives around file ∧
        r.text = (line.effective file).text ∧
        (program around arguments).output = r.printed line.json ∧
        terminatedText (Utf8.encode r.text ++ [0]) = .ok text ∧
        r.length = Text.length text ∧ r.vowels = Text.vowelCount text) := by
  refine ⟨fun buffer => ⟨?_, fun text htext => ?_, fun hfree => ?_⟩,
    fun name s => ⟨?_, ?_, ?_, fun f => exists_terminatedText_of_checkText⟩,
    fun around arguments line hparse hexit => ?_⟩
  · constructor
    · rintro ⟨text, htext⟩
      obtain ⟨-, rest, rfl⟩ := terminatedText_eq_ok_iff.mp htext
      rw [Text.hasNul, List.contains_iff_mem]
      simp
    · intro hzero
      rw [Text.hasNul, List.contains_iff_mem] at hzero
      obtain ⟨text, rest, rfl, hfree⟩ := List.eq_append_cons_of_mem hzero
      exact ⟨text, terminatedText_eq_ok_iff.mpr ⟨hfree, rest, rfl⟩⟩
  · obtain ⟨hfree, rest, rfl⟩ := terminatedText_eq_ok_iff.mp htext
    exact ⟨Text.longestNulFree_append_zero hfree rest,
      fun rest' => terminatedText_eq_ok_iff.mpr ⟨hfree, rest', rfl⟩⟩
  · exact terminatedText_eq_error (Text.hasNul_eq_false_iff.mp hfree)
  · rw [checkText_eq_ok_iff, Text.hasNul_eq_false_iff, Utf8.zero_mem_encode_iff]
  · rw [Text.hasNul_eq_false_iff, Utf8.zero_mem_encode_iff]
  · exact ⟨terminatedText_encode_append, fun h => not_mem_of_terminatedText_encode_append (h [])⟩
  · obtain ⟨r, hr, houtput⟩ := CommandLine.exists_reported_of_exitCode hparse hexit
    obtain ⟨file, hgives⟩ := CommandLine.exists_fileGives_of_reported hr
    have hmeasures := hgives.measures_of_reported hr
    have htext : '\x00' ∉ r.text.toList := by
      rw [hmeasures.text]
      exact checkText_eq_ok_iff.mp (hgives.checkText_of_reported hr)
    refine ⟨file, r, Utf8.encode r.text, hgives, hmeasures.text, houtput,
      terminatedText_encode_append htext [], ?_, ?_⟩
    · rw [Text.length_encode, hmeasures.length_eq]
    · rw [Text.vowelCount_encode, hmeasures.text, hmeasures.vowels]

/-- Two zero characters behind one of two bytes, and a run on a text of several bytes a
character. -/
theorem terminators_agree_wide :
    let s := "é\x00a\x00"
    let fault : Fault := .value "--text" (Text.Echo.bare s) (.nulAt 2)
    let around : Surroundings := ⟨fun _ => .error .missing, []⟩
    let arguments := ["--text", "é a"].map Utf8.encode
    let line : CommandLine := { settings := { text := some "é a" } }
    (terminatedText (Utf8.encode s) = .ok (Utf8.encode "é") ∧
      Text.LongestNulFree (Utf8.encode "é") (Utf8.encode s)) ∧
    (Text.hasNul (Utf8.encode "é") = false ∧
      terminatedText (Utf8.encode "é") = .error (.unterminated 2)) ∧
    (checkText "--text" s = .error fault ∧ ∃ text, terminatedText (Utf8.encode s) = .ok text ∧
      fault = .value "--text" (Text.Echo.bare s) (.nulAt (Text.length text))) ∧
    (CommandLine.parse arguments = .ok line ∧ (program around arguments).exitCode = 0) ∧
    ∃ (file : Settings) (r : Report) (text : Bytes), line.FileGives around file ∧
      r.text = (line.effective file).text ∧
      (program around arguments).output = r.printed line.json ∧
      terminatedText (Utf8.encode r.text ++ [0]) = .ok text ∧
      r.length = Text.length text ∧ r.vowels = Text.vowelCount text := by
  intro s fault around arguments line
  obtain ⟨hbuffers, htexts, hruns⟩ := terminators_agree
  have htext : terminatedText (Utf8.encode s) = .ok (Utf8.encode "é") := by decide +kernel
  have hfree : Text.hasNul (Utf8.encode "é") = false := by decide +kernel
  have hcheck : checkText "--text" s = .error fault := by decide +kernel
  have hparse : CommandLine.parse arguments = .ok line := by decide +kernel
  have hexit : (program around arguments).exitCode = 0 := by decide +kernel
  exact ⟨⟨htext, ((hbuffers _).2.1 _ htext).1⟩, ⟨hfree, (hbuffers _).2.2 hfree⟩,
    ⟨hcheck, (htexts _ _).2.2.2 _ hcheck⟩, ⟨hparse, hexit⟩, hruns _ _ _ hparse hexit⟩

end TextGauge
