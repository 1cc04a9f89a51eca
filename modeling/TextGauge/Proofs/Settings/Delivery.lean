import TextGauge.Proofs.Settings.RoundTrip

/-!
# A value between quotes

A placeholder in a string of a settings file delivers the value of its name as it is
(`TextGauge.Settings.ofFileText_placeholder`), whatever the value looks like: a placeholder again, a
comment, a table, the end of a literal string. Two things are at work.

* **The placeholder is found.** No placeholder begins before it if nothing there opens one, not even
  at a `$` right in front of it; so the search comes to it, and it takes its value without looking
  at that again.
* **The value stays within the string.** Only a quote ends the string, only a backslash escapes, and
  of the control characters only the tabulator may stand there. A value without these is read
  character by character, and so is what stands around it.
-/

namespace TextGauge

/-! ### Where nothing opens a placeholder -/

namespace Placeholder

/-- What every placeholder begins with. -/
def opening : List Char := ['$', '{']

theorem Begins.opening_isPrefix {cs : List Char} (h : Begins cs) : opening <+: cs := by
  obtain ⟨name, rest, -, -, rfl⟩ := h
  exact ⟨name ++ '}' :: rest, by simp [written, opening]⟩

theorem opening_not_isInfix_append {front back : List Char} (hfront : '$' ∉ front)
    (hback : ¬opening <:+: back) : ¬opening <:+: front ++ back := by
  induction front with
  | nil => exact hback
  | cons c front ih =>
    rw [List.mem_cons, not_or] at hfront
    rw [List.cons_append, List.infix_cons_iff, not_or]
    exact ⟨fun h => hfront.1 (List.cons_prefix_cons.mp h).1, ih hfront.2⟩

theorem opening_not_isInfix_concat {front : List Char} {c : Char} (hc : c ≠ '{')
    (hfront : ¬opening <:+: front) : ¬opening <:+: front ++ [c] := by
  rw [List.infix_concat_iff, List.suffix_concat_iff]
  rintro ((h | ⟨rest, hrest, -⟩) | h)
  · cases h
  · have hends : ['$'] ++ ['{'] = rest ++ [c] := hrest
    exact hc (List.singleton_inj.mp (List.append_inj' hends rfl).2.symm)
  · exact hfront h

/-- **No placeholder begins where nothing opens one**, not even with the last character, if no brace
follows. -/
theorem not_begins_append {after tail : List Char} (h : ¬opening <:+: after) (hne : after ≠ [])
    (htail : tail.head? ≠ some '{') : ¬Begins (after ++ tail) := by
  intro hbegins
  obtain ⟨rest, hrest⟩ := hbegins.opening_isPrefix
  rcases after with _ | ⟨c, _ | ⟨d, after⟩⟩
  · exact hne rfl
  · simp only [opening, List.cons_append, List.nil_append, List.cons.injEq] at hrest
    rw [← hrest.2, List.head?_cons] at htail
    exact htail rfl
  · simp only [opening, List.cons_append, List.nil_append, List.cons.injEq] at hrest
    obtain ⟨rfl, rfl, -⟩ := hrest
    exact h (List.prefix_append opening after).isInfix

/-- **A placeholder between texts that open none** is the only one. -/
theorem leftmost_next_last {before name after : List Char} (hname : name ≠ [] ∧ '}' ∉ name)
    (hbefore : ¬opening <:+: before) (hafter : ¬opening <:+: after) :
    (Division.next before name (.last after)).Leftmost := by
  refine ⟨hname, ?_, ?_⟩
  · rintro front back rfl hne
    exact not_begins_append (fun hin => hbefore (hin.trans (List.suffix_append front back).isInfix))
      hne (by simp [written])
  · rintro front back rfl hbegins
    have hback : ¬opening <:+: back :=
      fun hin => hafter (hin.trans (List.suffix_append front back).isInfix)
    exact hback hbegins.opening_isPrefix.isInfix

/-- **Its value takes its place.** -/
theorem substitute_between {lookup : String → Option String} {before after : List Char}
    {name value : String} (hname : name ≠ "" ∧ '}' ∉ name.toList)
    (hvalue : lookup name = some value) (hbefore : ¬opening <:+: before)
    (hafter : ¬opening <:+: after) :
    substitute lookup (String.ofList (before ++ (written name.toList ++ after))) =
      String.ofList (before ++ (value.toList ++ after)) := by
  have hleftmost := leftmost_next_last
    ⟨fun hnil => hname.1 (String.toList_eq_nil_iff.mp hnil), hname.2⟩ hbefore hafter
  have htext : (String.ofList (before ++ (written name.toList ++ after))).toList =
      (Division.next before name.toList (.last after)).text := String.toList_ofList
  rw [substitute_eq_ofList_expand, htext, hleftmost.ofStretches_stretches, Division.expand,
    String.ofList_toList, hvalue, Option.map_some, Option.getD_some, Division.expand]

end Placeholder

/-! ### A document with one text -/

namespace Toml

/-- A line `key = "…"`, with characters between the quotes as they are. -/
def rawLine (key : String) (cs : List Char) : List Char :=
  key.toList ++ [' ', '=', ' '] ++ '"' :: (cs ++ ['"'])

/-- A document with one such line under a header, and no line end behind it. -/
def rawDocument (table key : String) (cs : List Char) : List Char :=
  '[' :: (table.toList ++ [']']) ++ '\n' :: rawLine key cs

/-- What such a document begins with. -/
def rawOpening (table key : String) : List Char :=
  '[' :: (table.toList ++ ']' :: '\n' :: (key.toList ++ [' ', '=', ' ', '"']))

theorem rawDocument_eq (table key : String) (cs : List Char) :
    rawDocument table key cs = rawOpening table key ++ (cs ++ ['"']) := by
  simp [rawDocument, rawLine, rawOpening]

section Raw

variable {table key : String} {cs : List Char}

/-- **A line of raw characters** is read as these, if all of them stand for themselves. -/
theorem piece_rawLine (hkey : IsName key) (h : ∀ c ∈ cs, Quoted.StandsForItself c) :
    piece (rawLine key cs ++ []) = some (.line ⟨[], key⟩ (.string (String.ofList cs)), []) := by
  have hvalue :
      ReadsAs (valueTo deepest) ('"' :: (cs ++ ['"'])) (.string (String.ofList cs)) [] := by
    refine ⟨⟨'"', cs ++ ['"'], rfl, by decide⟩, ?_⟩
    rw [List.append_nil, valueTo_quote, Quoted.read_append h (by simp), Option.map_some]
  have hline := lineWith_append skipsBlanks_skipBlank (path_name hkey) hvalue
  obtain ⟨c, others, hcons, hc⟩ := hkey.exists_eq_cons
  rw [rawLine]
  rw [hcons] at hline ⊢
  exact (piece_of_isBare hc _).trans (congrArg (Option.map _) hline)

/-- **A document of one raw line** is read as a table in a table. -/
theorem parse?_rawDocument (htable : IsName table) (hkey : IsName key)
    (h : ∀ c ∈ cs, Quoted.StandsForItself c) :
    parse? (String.ofList (rawDocument table key cs)) =
      some [(table, .table [(key, .string (String.ofList cs))])] := by
  obtain ⟨c, others, hcons, hc⟩ := hkey.exists_eq_cons
  have hbegins : ∃ c cs', rawLine key cs = c :: cs' ∧ beginsLine c :=
    ⟨c, _, by rw [rawLine, hcons]; rfl, by simp [beginsLine, hc]⟩
  -- one step of the reader for each line, and one for the end of the document
  have hpieces : ∀ limit, piecesTo (limit + 3) (rawDocument table key cs) =
      some [.header ⟨[], table⟩, .line ⟨[], key⟩ (.string (String.ofList cs))] := by
    intro limit
    have hlast := piecesTo_append hbegins (piece_rawLine hkey h) rfl (limit + 1)
    rw [List.append_nil] at hlast
    have hheader := lineOf_header htable
    rw [rawDocument, piecesTo_append hheader.begins (hheader.read _) rfl, hlast]
    rfl
  obtain ⟨limit, hlimit⟩ : ∃ limit, (rawDocument table key cs).length + 1 = limit + 3 :=
    ⟨(rawDocument table key cs).length - 2, by simp [rawDocument]; omega⟩
  have hmark : dropMark (rawDocument table key cs) = rawDocument table key cs :=
    dropMark_of_beginsLine (by decide) _
  have hopened : List.lookup table [(table, Node.table .header [])] = some (.table .header []) :=
    List.lookup_cons_self
  rw [parse?, String.toList_ofList, hmark, pieces, hlimit, hpieces, Option.bind_some, tableOf?,
    List.foldlM_cons, add_header rfl, Option.bind_eq_bind, Option.bind_some, List.foldlM_cons,
    List.nil_append, add_line_header hopened rfl]
  simp [Node.replace, Node.toEntries, Node.toValue]

end Raw

end Toml

/-! ### What is delivered -/

namespace Settings

open Toml Placeholder

theorem ofTable_text (text : String) :
    ofTable [("input", .table [("text", .string text)])] = .ok { text := some text } := by
  simp [ofTable, sorted, addTable, onlyText, Value.toText, Except.map]

/-- **A placeholder in a string delivers the value of its name as it is**, between what stands
before and behind it, and sets nothing else. -/
theorem ofFileText_placeholder {lookup : String → Option String}
    {name value before after : String} (hne : name ≠ "") (hbrace : '}' ∉ name.toList)
    (hset : lookup name = some value)
    (hvalue : ∀ c ∈ value.toList, Quoted.StandsForItself c)
    (hbefore : ∀ c ∈ before.toList, Quoted.StandsForItself c)
    (hafter : ∀ c ∈ after.toList, Quoted.StandsForItself c)
    (hopen : ¬['$', '{'] <:+: before.toList) (hopen' : ¬['$', '{'] <:+: after.toList) :
    ∃ s, ofFileText lookup
        ("[input]\ntext = \"" ++ before ++ "$\x7b" ++ name ++ "\x7d" ++ after ++ "\"") = .ok s ∧
      s.effectiveText = before ++ value ++ after ∧ s.operands = Operands.default ∧
      s.effectiveLevel = defaultLevel := by
  refine ⟨{ text := some (before ++ value ++ after) }, ?_, rfl, rfl, rfl⟩
  have hdocument : "[input]\ntext = \"" ++ before ++ "$\x7b" ++ name ++ "\x7d" ++ after ++ "\"" =
      String.ofList (rawOpening "input" "text" ++ before.toList ++
        (written name.toList ++ (after.toList ++ ['"']))) := by
    rw [← String.toList_inj]
    simp [rawOpening, written]
  have hopening : ¬opening <:+: rawOpening "input" "text" ++ before.toList :=
    opening_not_isInfix_append (by decide) hopen
  have hclosing : ¬opening <:+: after.toList ++ ['"'] :=
    opening_not_isInfix_concat (by decide) hopen'
  have hchars : ∀ c ∈ (before ++ value ++ after).toList, Quoted.StandsForItself c := by
    simp only [String.toList_append, List.mem_append]
    rintro c ((hc | hc) | hc)
    · exact hbefore c hc
    · exact hvalue c hc
    · exact hafter c hc
  have hdelivered : rawOpening "input" "text" ++ before.toList ++
      (value.toList ++ (after.toList ++ ['"'])) =
      rawDocument "input" "text" (before ++ value ++ after).toList := by
    simp [rawDocument_eq]
  rw [ofFileText, hdocument, substitute_between ⟨hne, hbrace⟩ hset hopening hclosing, hdelivered,
    ofToml, parse?_rawDocument (isName_of_mem (by decide)) (isName_of_mem (by decide)) hchars,
    String.ofList_toList]
  exact congrArg (Except.mapError _) (ofTable_text _)

/-- A name and a value that look like the start of a placeholder and like one, between a `$` in
front of them and a brace behind them. -/
theorem ofFileText_placeholder_nested :
    let environment : Environment :=
      [("A\n$\x7b", Utf8.encode "$\x7bB\x7d' # = [é😀]"), ("B", Utf8.encode "b")]
    environment.text? "A\n$\x7b" = some "$\x7bB\x7d' # = [é😀]" ∧
      ∃ s, ofFileText environment.text? ("[input]\ntext = \"" ++ "\x7b\t$" ++ "$\x7b" ++
          "A\n$\x7b" ++ "\x7d" ++ "\x7d" ++ "\"") = .ok s ∧
        s.effectiveText = "\x7b\t$" ++ "$\x7bB\x7d' # = [é😀]" ++ "\x7d" ∧
        s.operands = Operands.default ∧ s.effectiveLevel = defaultLevel := by
  intro environment
  have hset : environment.text? "A\n$\x7b" = some "$\x7bB\x7d' # = [é😀]" := by
    decide +kernel
  exact ⟨hset, ofFileText_placeholder (by decide) (by decide) hset
    (by simp [Quoted.StandsForItself]) (by simp [Quoted.StandsForItself])
    (by simp [Quoted.StandsForItself]) (by decide) (by decide)⟩

end Settings

end TextGauge
