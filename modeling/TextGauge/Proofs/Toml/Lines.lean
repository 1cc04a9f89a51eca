import Mathlib.Data.List.Forall2
import TextGauge.Proofs.Toml.Literals

/-!
# Reading written lines

A line of a written document is read as the piece that it was written for, and a document as the
pieces of its blocks (`TextGauge.Settings.Layout.parse?_text_eq`), provided its **names** can stand
for keys without quotes. What the readers have to agree on is where a name ends, where a value
ends, and that neither begins with a blank; then a line is one step of the reader of documents,
and the document is an induction on its lines.
-/

namespace TextGauge.Toml

/-! ### Names -/

/-- A name that may stand for a key without quotes. -/
structure IsName (name : String) : Prop where
  ne_nil : name.toList ≠ []
  isBare : ∀ c ∈ name.toList, isBare c

theorem IsName.exists_eq_cons {name : String} (h : IsName name) :
    ∃ c cs, name.toList = c :: cs ∧ Toml.isBare c := by
  rcases hcons : name.toList with _ | ⟨c, cs⟩
  · exact absurd hcons h.ne_nil
  · exact ⟨c, cs, rfl, h.isBare c (by rw [hcons]; exact List.mem_cons_self)⟩

/-- A name is read up to the first character that cannot be part of it. -/
theorem keyPart_append {name : String} (h : IsName name) {c : Char} (hc : isBare c = false)
    (rest : List Char) : keyPart (name.toList ++ c :: rest) = some (name, c :: rest) := by
  obtain ⟨first, others, hcons, hfirst⟩ := h.exists_eq_cons
  -- a name does not begin with a quote
  have hplain : keyPart (name.toList ++ c :: rest) =
      if ((name.toList ++ c :: rest).takeWhile isBare).isEmpty then none
      else some (String.ofList ((name.toList ++ c :: rest).takeWhile isBare),
        (name.toList ++ c :: rest).dropWhile isBare) := by
    rw [hcons, List.cons_append, keyPart.eq_def]
    split
    · rename_i heq
      rw [(List.cons.inj heq).1] at hfirst
      exact absurd hfirst (by decide)
    · rename_i heq
      rw [(List.cons.inj heq).1] at hfirst
      exact absurd hfirst (by decide)
    · rfl
  rw [hplain, takeWhile_append_cons h.isBare hc, dropWhile_append_cons h.isBare hc,
    if_neg (by rw [List.isEmpty_iff]; exact h.ne_nil), String.ofList_toList]

/-- A key that is a single name, and the blanks behind it. -/
theorem pathTo_name {name : String} (h : IsName name) {c : Char} (hc : isBare c = false)
    {rest : List Char} (hpoint : (skipBlank (c :: rest)).head? ≠ some '.') (limit : ℕ) :
    pathTo (limit + 1) (name.toList ++ c :: rest) = some (⟨[], name⟩, skipBlank (c :: rest)) := by
  rw [pathTo, keyPart_append h hc]
  simp only [Option.bind_eq_bind, Option.bind_some]
  split
  · rename_i heq
    rw [heq] at hpoint
    exact absurd rfl hpoint
  · rfl

/-- A key that is a name, a point and a further key. -/
theorem pathTo_point {name : String} (h : IsName name) {cs rest : List Char} {p : Path}
    {limit : ℕ} (hpath : pathTo limit cs = some (p, rest)) (hcs : skipBlank cs = cs) :
    pathTo (limit + 1) (name.toList ++ '.' :: cs) = some (⟨name :: p.way, p.last⟩, rest) := by
  have hskip : skipBlank ('.' :: cs) = '.' :: cs := rfl
  rw [pathTo, keyPart_append h (by decide)]
  simp [hskip, hcs, hpath]

/-! ### Blanks -/

/-- A character that neither is a blank or a line end nor opens a comment. -/
def isSolid (c : Char) : Bool :=
  !isBlank c && c != '\n' && c != '\r' && c != '#'

theorem isSolid_of_isBare {c : Char} (h : isBare c) : isSolid c := by
  by_contra hnot
  simp only [isSolid, isBlank, Bool.and_eq_true, Bool.not_eq_true', bne_iff_ne, not_and_or,
    Bool.or_eq_false_iff, beq_eq_false_iff_ne, not_not] at hnot
  rcases hnot with (((rfl | rfl) | rfl) | rfl) | rfl <;> exact absurd h (by decide)

theorem skipBlank_of_isSolid {c : Char} (h : isSolid c) (rest : List Char) :
    skipBlank (c :: rest) = c :: rest := by
  simp only [isSolid, Bool.and_eq_true, Bool.not_eq_true'] at h
  rw [skipBlank, List.dropWhile_cons_of_neg (by simp [h.1.1.1])]

theorem skipGap_of_isSolid {c : Char} (h : isSolid c) (rest : List Char) :
    skipGap false (c :: rest) = some (c :: rest) := by
  simp only [isSolid, Bool.and_eq_true, Bool.not_eq_true', bne_iff_ne] at h
  rw [skipGap.eq_def]
  split <;> simp_all

/-- What skips the blanks before a character that is none, be it within a line or over lines. -/
structure SkipsBlanks (gap : List Char → Option (List Char)) : Prop where
  solid : ∀ {c : Char}, isSolid c → ∀ rest, gap (c :: rest) = some (c :: rest)
  space : ∀ cs, gap (' ' :: cs) = gap cs

theorem skipsBlanks_skipBlank : SkipsBlanks (some ∘ skipBlank) where
  solid h rest := by rw [Function.comp_apply, skipBlank_of_isSolid h]
  space _ := rfl

theorem skipsBlanks_skipGap : SkipsBlanks (skipGap false) where
  solid := skipGap_of_isSolid
  space cs := by rw [skipGap.eq_def]; simp [isBlank]

/-! ### Lines -/

/-- The text of a value, which begins with no blank and is read as the value. -/
structure ReadsAs (value : Reader Value) (text : List Char) (v : Value) (rest : List Char) :
    Prop where
  solid : ∃ c cs, text = c :: cs ∧ isSolid c
  read : value (text ++ rest) = some (v, rest)

/-- **A written line is read as what was written**, once its key is read. -/
theorem lineWith_append {gap : List Char → Option (List Char)} (hgap : SkipsBlanks gap)
    {value : Reader Value} {key text rest : List Char} {p : Path} {v : Value}
    (hkey : ∀ cs, path (key ++ ' ' :: '=' :: cs) = some (p, '=' :: cs))
    (htext : ReadsAs value text v rest) :
    lineWith gap value (key ++ [' ', '=', ' '] ++ text ++ rest) = some ((p, v), rest) := by
  obtain ⟨c, cs, rfl, hc⟩ := htext.solid
  have hequals : gap ('=' :: ' ' :: (c :: cs ++ rest)) = some ('=' :: ' ' :: (c :: cs ++ rest)) :=
    hgap.solid (by decide) _
  have hvalue : gap (' ' :: (c :: cs ++ rest)) = some (c :: cs ++ rest) := by
    rw [hgap.space, List.cons_append, hgap.solid hc]
  have hshape : key ++ [' ', '=', ' '] ++ (c :: cs) ++ rest =
      key ++ ' ' :: '=' :: (' ' :: (c :: cs ++ rest)) := by simp
  rw [hshape, lineWith, hkey]
  simp only [Option.bind_eq_bind, Option.bind_some, hequals, hvalue, htext.read]
  rfl

/-- A name in front of an equals sign. -/
theorem path_name {name : String} (h : IsName name) (cs : List Char) :
    path (name.toList ++ ' ' :: '=' :: cs) = some (⟨[], name⟩, '=' :: cs) :=
  pathTo_name h (by decide) (by simp [skipBlank, isBlank]) 79

/-- A name of a table and the name of a key in it, in front of an equals sign. -/
theorem path_point {table key : String} (htable : IsName table) (hkey : IsName key)
    (cs : List Char) :
    path (table.toList ++ '.' :: key.toList ++ ' ' :: '=' :: cs) =
      some (⟨[table], key⟩, '=' :: cs) := by
  obtain ⟨c, others, hcons, hc⟩ := hkey.exists_eq_cons
  have hskip : skipBlank (key.toList ++ ' ' :: '=' :: cs) = key.toList ++ ' ' :: '=' :: cs := by
    rw [hcons, List.cons_append, skipBlank_of_isSolid (isSolid_of_isBare hc)]
  have hlast : pathTo 79 (key.toList ++ ' ' :: '=' :: cs) = some (⟨[], key⟩, '=' :: cs) :=
    pathTo_name hkey (by decide) (by simp [skipBlank, isBlank]) 78
  rw [List.append_assoc, List.cons_append]
  exact pathTo_point htable hlast hskip

/-! ### Lists in braces -/

/-- In a written inline table one blank stands in front of each entry and of the closing brace. -/
theorem layout_brace : Reader.Layout '}' (skipGap false) (fun c => isBare c) [' '] [' '] where
  close_ne_comma := by decide
  before {c} hc cs := by
    rw [List.singleton_append, skipsBlanks_skipGap.space, skipGap_of_isSolid (isSolid_of_isBare hc)]
  comma := skipGap_of_isSolid (by decide)
  close cs := by
    rw [List.singleton_append, skipsBlanks_skipGap.space, skipGap_of_isSolid (by decide)]

/-! ### Documents -/

/-- A character with which a line of a written document begins. -/
def beginsLine (c : Char) : Bool :=
  c == '[' || isBare c

theorem isSolid_of_beginsLine {c : Char} (h : beginsLine c) : isSolid c := by
  simp only [beginsLine, Bool.or_eq_true, beq_iff_eq] at h
  rcases h with rfl | h
  · decide
  · exact isSolid_of_isBare h

/-- A line that is read as a piece, up to its end. -/
structure LineOf (line : List Char) (p : Piece) : Prop where
  begins : ∃ c cs, line = c :: cs ∧ beginsLine c
  read : ∀ rest, piece (line ++ '\n' :: rest) = some (p, '\n' :: rest)

/-- What begins with a name is a line with a key. -/
theorem piece_of_isBare {c : Char} (h : isBare c) (cs : List Char) :
    piece (c :: cs) =
      (lineWith (some ∘ skipBlank) (valueTo deepest) (c :: cs)).map
        fun ((p, v), cs) => (.line p v, cs) := by
  have hbracket : c ≠ '[' := by
    rintro rfl
    exact absurd h (by decide)
  rw [piece.eq_def]
  split
  · rename_i heq
    exact absurd (List.cons.inj heq).1 hbracket
  · rename_i heq
    exact absurd (List.cons.inj heq).1 hbracket
  · rfl

/-- What begins with a bracket and a name is a header. -/
theorem piece_bracket {c : Char} (h : isBare c) (cs : List Char) :
    piece ('[' :: c :: cs) = (path (skipBlank (c :: cs))).bind fun r =>
      (Reader.word [']'] r.2).bind fun s => some (.header r.1, s.2) := by
  have hbracket : c ≠ '[' := by
    rintro rfl
    exact absurd h (by decide)
  rw [piece.eq_def]
  split
  · rename_i heq
    exact absurd (List.cons.inj (List.cons.inj heq).2).1 hbracket
  · rename_i heq
    rw [← (List.cons.inj heq).2]
    rfl
  · rename_i heq
    exact absurd rfl (heq _)

/-- A header is read as one. -/
theorem lineOf_header {name : String} (h : IsName name) :
    LineOf ('[' :: (name.toList ++ [']'])) (.header ⟨[], name⟩) := by
  refine ⟨⟨'[', _, rfl, by decide⟩, fun rest => ?_⟩
  obtain ⟨c, cs, hcons, hc⟩ := h.exists_eq_cons
  have hskip :
      skipBlank (name.toList ++ ']' :: '\n' :: rest) = name.toList ++ ']' :: '\n' :: rest := by
    rw [hcons, List.cons_append, skipBlank_of_isSolid (isSolid_of_isBare hc)]
  have hclose : skipBlank (']' :: '\n' :: rest) = ']' :: '\n' :: rest := rfl
  have hpath : path (name.toList ++ ']' :: '\n' :: rest) = some (⟨[], name⟩, ']' :: '\n' :: rest) :=
    pathTo_name h (by decide) (by rw [hclose]; simp) 79
  have hshape : '[' :: (name.toList ++ [']']) ++ '\n' :: rest =
      '[' :: (name.toList ++ ']' :: '\n' :: rest) := by simp
  rw [hcons, List.cons_append] at hskip hpath
  rw [hshape, hcons, List.cons_append, piece_bracket hc, hskip, hpath]
  simp [Reader.word]

/-- A line with a key is read as one. -/
theorem lineOf_line {c : Char} {cs : List Char} {p : Path} {v : Value} (hc : isBare c)
    (hread : ∀ rest, lineWith (some ∘ skipBlank) (valueTo deepest) (c :: cs ++ '\n' :: rest) =
      some ((p, v), '\n' :: rest)) :
    LineOf (c :: cs) (.line p v) := by
  refine ⟨⟨c, cs, rfl, by simp [beginsLine, hc]⟩, fun rest => ?_⟩
  have hread' := hread rest
  rw [List.cons_append] at hread' ⊢
  rw [piece_of_isBare hc, hread', Option.map_some]

/-- **One step of the reader of documents**: a piece, and the rest of its line. -/
theorem piecesTo_append {line tail rest rest' : List Char} {p : Piece}
    (hbegins : ∃ c cs, line = c :: cs ∧ beginsLine c)
    (hread : piece (line ++ tail) = some (p, rest)) (hfinish : finishLine false rest = some rest')
    (limit : ℕ) : piecesTo (limit + 1) (line ++ tail) = (piecesTo limit rest').map (p :: ·) := by
  obtain ⟨c, cs, rfl, hc⟩ := hbegins
  rw [List.cons_append] at hread ⊢
  rw [piecesTo, skipGap_of_isSolid (isSolid_of_beginsLine hc)]
  simp only [Option.bind_eq_bind, Option.bind_some, hread, hfinish]
  rcases piecesTo limit rest' with _ | ps <;> rfl

/-- **The pieces of a document are those of its lines.** -/
theorem piecesTo_lines {lines : List (List Char)} {ps : List Piece}
    (h : List.Forall₂ LineOf lines ps) {limit : ℕ} (hlimit : lines.length < limit) :
    piecesTo limit (lines.flatMap fun line => line ++ ['\n']) = some ps := by
  -- each line, of which there are fewer than the limit, takes one step of the reader
  induction h generalizing limit with
  | nil =>
    obtain ⟨limit, rfl⟩ : ∃ k, limit = k + 1 := ⟨limit - 1, by omega⟩
    rfl
  | @cons line p lines ps hline _ ih =>
    obtain ⟨limit, rfl⟩ : ∃ k, limit = k + 1 := ⟨limit - 1, by omega⟩
    have hrest : piecesTo limit (lines.flatMap fun line => line ++ ['\n']) = some ps :=
      ih (by simpa using hlimit)
    rw [List.flatMap_cons, List.append_assoc, List.singleton_append,
      piecesTo_append hline.begins (hline.read _) rfl, hrest, Option.map_some]

/-- A document begins with no byte-order mark if its first line does not. -/
theorem dropMark_of_beginsLine {c : Char} (h : beginsLine c) (cs : List Char) :
    dropMark (c :: cs) = c :: cs := by
  unfold dropMark
  split
  · rename_i heq
    rw [(List.cons.inj heq).1] at h
    exact absurd h (by decide)
  · rfl

theorem length_le_length_lines (lines : List (List Char)) :
    lines.length ≤ (lines.flatMap fun line => line ++ ['\n']).length := by
  induction lines with
  | nil => exact Nat.le_refl 0
  | cons line lines ih =>
    simp only [List.flatMap_cons, List.length_append, List.length_cons, List.length_nil]
    omega

theorem pieces_lines {lines : List (List Char)} {ps : List Piece}
    (h : List.Forall₂ LineOf lines ps) :
    pieces (dropMark (lines.flatMap fun line => line ++ ['\n'])) = some ps := by
  have hmark : dropMark (lines.flatMap fun line => line ++ ['\n']) =
      lines.flatMap fun line => line ++ ['\n'] := by
    cases h with
    | nil => rfl
    | cons hline _ =>
      obtain ⟨c, cs, hcons, hc⟩ := hline.begins
      rw [List.flatMap_cons, hcons, List.cons_append, List.cons_append, dropMark_of_beginsLine hc]
  rw [hmark, pieces, piecesTo_lines h (Nat.lt_succ_of_le (length_le_length_lines lines))]

end TextGauge.Toml
