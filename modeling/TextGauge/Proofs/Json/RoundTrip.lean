import TextGauge.Proofs.Json.Literals

/-!
# Reading written values

A value that is written is read back as itself (`TextGauge.Json.parse?_write`), if it is
**readable**: its integers fit in 64 bits, signed or unsigned, no name stands twice in an object,
its nesting is not too deep, and it has no float. It is written on lines of which only the ends are
below the space.
-/

namespace TextGauge.Json

/-! ### Blanks -/

/-- A character that is no blank. -/
def IsSolid (c : Char) : Prop :=
  ¬(c = ' ' ∨ c = '\t' ∨ c = '\n' ∨ c = '\r')

instance : DecidablePred IsSolid := fun _ => inferInstanceAs (Decidable (¬_))

theorem skipBlank_of_isSolid {c : Char} (h : IsSolid c) (cs : List Char) :
    skipBlank (c :: cs) = c :: cs :=
  List.dropWhile_cons_of_neg (by simpa [IsSolid] using h)

/-- A new line is all blanks. -/
theorem skipBlank_line {c : Char} (h : IsSolid c) (depth : ℕ) (cs : List Char) :
    skipBlank (line depth ++ c :: cs) = c :: cs := by
  refine dropWhile_append_cons ?_ (by simpa [IsSolid] using h) cs
  intro d hd
  rcases List.mem_cons.mp hd with rfl | hd
  · decide
  · rw [List.eq_of_mem_replicate hd]
    decide

/-- In a written list each element and the closing bracket stand on lines of their own. -/
theorem layout_line {close : Char} (hclose : IsSolid close) (hne : close ≠ ',') (depth : ℕ) :
    Reader.Layout close (some ∘ skipBlank) IsSolid (line (depth + 1)) (line depth) where
  close_ne_comma := hne
  before hc cs := congrArg some (skipBlank_line hc (depth + 1) cs)
  comma cs := congrArg some (skipBlank_of_isSolid (by decide) cs)
  close cs := congrArg some (skipBlank_line hclose depth cs)

/-! ### Members -/

/-- A name that is not taken is set at the end. -/
theorem put_of_not_mem {name : String} {members : List (String × Json)}
    (h : name ∉ members.map Prod.fst) (value : Json) :
    put name value members = members ++ [(name, value)] := by
  induction members with
  | nil => rfl
  | cons member members ih =>
    rw [List.map_cons, List.mem_cons, not_or] at h
    rw [put, if_neg (Ne.symm h.1), ih h.2, List.cons_append]

/-- **Members with distinct names** are what they amount to. -/
theorem membersOf_of_nodup {written : List (String × Json)}
    (h : (written.map Prod.fst).Nodup) : membersOf written = written := by
  have hfold : ∀ members : List (String × Json), ((members ++ written).map Prod.fst).Nodup →
      written.foldl (fun members m => put m.1 m.2 members) members = members ++ written := by
    clear h
    -- the members that are set so far, and those still to be set, have distinct names
    induction written with
    | nil => intro members _; rw [List.foldl_nil, List.append_nil]
    | cons m written ih =>
      intro members hnodup
      have hm : m.1 ∉ members.map Prod.fst := by
        rw [List.map_append, List.map_cons] at hnodup
        intro hmem
        exact (List.nodup_append.mp hnodup).2.2 m.1 hmem m.1 List.mem_cons_self rfl
      rw [List.foldl_cons, put_of_not_mem hm, ih _ (by simpa using hnodup), List.append_assoc,
        List.singleton_append]
  exact hfold [] h

/-! ### Values -/

/-- The values that can be read back: integers of 64 bits, no floats, no name twice in an object,
and at most this many levels of arrays and objects. -/
def Readable : ℕ → Json → Prop
  | _, .null | _, .boolean _ | _, .string _ => True
  | _, .integer n => IsWord n
  | _, .float _ => False
  | depth + 1, .array xs => ∀ x ∈ xs, Readable depth x
  | depth + 1, .object members =>
    (members.map Prod.fst).Nodup ∧ ∀ m ∈ members, Readable depth m.2
  | 0, .array _ | 0, .object _ => False

theorem writeElements_eq_map (depth : ℕ) (xs : List Json) :
    writeElements depth xs = xs.map (writeAt depth) := by
  induction xs with
  | nil => rw [writeElements, List.map_nil]
  | cons x xs ih => rw [writeElements, ih, List.map_cons]

/-- A written member. -/
def memberText (depth : ℕ) (m : String × Json) : List Char :=
  quote m.1 ++ ':' :: ' ' :: writeAt depth m.2

theorem writeMembers_eq_map (depth : ℕ) (members : List (String × Json)) :
    writeMembers depth members = members.map (memberText depth) := by
  induction members with
  | nil => rw [writeMembers, List.map_nil]
  | cons m members ih => rw [writeMembers, ih, List.map_cons, memberText]

/-- A value begins neither with a blank nor with a closing bracket. -/
theorem exists_writeAt_eq_cons {depth : ℕ} {x : Json} (h : Readable depth x) (indent : ℕ) :
    ∃ c cs, writeAt indent x = c :: cs ∧ IsSolid c ∧ c ≠ ']' := by
  cases x with
  | null => exact ⟨'n', _, by rw [writeAt], by decide, by decide⟩
  | boolean b =>
    cases b with
    | false => exact ⟨'f', _, by rw [writeAt], by decide, by decide⟩
    | true => exact ⟨'t', _, by rw [writeAt], by decide, by decide⟩
  | integer n =>
    obtain ⟨c, cs, hcons, hc⟩ := Decimal.exists_ofInt_eq_cons n
    refine ⟨c, cs, by rw [writeAt, hcons], ?_, ?_⟩
    · rintro (rfl | rfl | rfl | rfl) <;> exact absurd hc (by decide)
    · rintro rfl
      exact absurd hc (by decide)
  | float x => cases depth <;> exact absurd h (by simp [Readable])
  | string s => exact ⟨'"', _, by rw [writeAt, quote], by decide, by decide⟩
  | array xs =>
    rw [writeAt, block]
    split
    · exact ⟨'[', _, rfl, by decide, by decide⟩
    · exact ⟨'[', _, rfl, by decide, by decide⟩
  | object members =>
    rw [writeAt, block]
    split
    · exact ⟨'{', _, rfl, by decide, by decide⟩
    · exact ⟨'{', _, rfl, by decide, by decide⟩

/-- What begins as an integer does is a number. -/
theorem valueTo_sign_or_digit {c : Char} (h : c = '-' ∨ c.isDigit) (depth : ℕ) (cs : List Char) :
    valueTo depth (c :: cs) = number? (c :: cs) := by
  have hother : c ∉ ['"', 'n', 't', 'f', '[', '{'] := by
    intro hmem
    simp only [List.mem_cons, List.not_mem_nil, or_false] at hmem
    rcases hmem with rfl | rfl | rfl | rfl | rfl | rfl <;> exact absurd h (by decide)
  rw [valueTo.eq_def]
  split <;> simp_all

theorem valueTo_quote (depth : ℕ) (cs : List Char) :
    valueTo depth ('"' :: cs) = (string? ('"' :: cs)).map fun (s, rest) => (.string s, rest) := by
  cases depth <;> rfl

/-- A written member is read back, if its value is. -/
theorem memberWith_memberText {depth : ℕ} {m : String × Json} (h : Readable depth m.2)
    (indent : ℕ) {rest : List Char}
    (hread : valueTo depth (writeAt indent m.2 ++ rest) = some (m.2, rest)) :
    memberWith (valueTo depth) (memberText indent m ++ rest) = some (m, rest) := by
  obtain ⟨c, cs, hcons, hc, -⟩ := exists_writeAt_eq_cons h indent
  have hname : string? (memberText indent m ++ rest) =
      some (m.1, ':' :: ' ' :: (writeAt indent m.2 ++ rest)) := by
    rw [memberText, List.append_assoc, string?_quote, List.cons_append, List.cons_append]
  have hcolon : skipBlank (':' :: ' ' :: (writeAt indent m.2 ++ rest)) =
      ':' :: ' ' :: (writeAt indent m.2 ++ rest) := skipBlank_of_isSolid (by decide) _
  have hvalue : skipBlank (' ' :: (writeAt indent m.2 ++ rest)) = writeAt indent m.2 ++ rest := by
    rw [hcons, List.cons_append]
    exact skipBlank_of_isSolid hc (cs ++ rest)
  simp only [memberWith, hname, hcolon, hvalue, hread, Option.bind_eq_bind, Option.bind_some]
  rfl

/-- Entries between brackets are read back, if each of them is. -/
theorem bracketed_block {α : Type} {opening close : Char} (hclose : IsSolid close)
    (hne : close ≠ ',') {element : Reader α} {text : α → List Char} {xs : List α} (indent : ℕ)
    (hread : ∀ x ∈ xs, Reader.Element close IsSolid EndsNumber element (text x) x)
    (rest : List Char) :
    ∃ cs, block opening close indent (xs.map text) ++ rest = opening :: cs ∧
      Reader.bracketed close (some ∘ skipBlank) element false cs = some (xs, rest) := by
  rcases xs with _ | ⟨x, xs⟩
  · refine ⟨close :: rest, rfl, ?_⟩
    simp [Reader.bracketed, Reader.elements, skipBlank_of_isSolid hclose]
  · have hlist := Reader.bracketed_intercalate (layout_line hclose hne indent) endsNumber_comma
      (endsNumber_line indent <| close :: ·) (List.cons_ne_nil x xs) hread false rest
    rw [List.map_id'] at hlist
    refine ⟨_, ?_, hlist⟩
    simp [block, Function.comp_def]

/-- **A written value is read back**, up to what ends a number. -/
theorem valueTo_writeAt {depth : ℕ} {x : Json} (h : Readable depth x) (indent : ℕ)
    {rest : List Char} (hrest : EndsNumber rest) :
    valueTo depth (writeAt indent x ++ rest) = some (x, rest) := by
  -- on the levels that are left, since the elements of an array are read with one level less
  induction depth using Nat.strong_induction_on generalizing x indent rest with
  | _ depth ih =>
  cases x with
  | null =>
    rw [writeAt]
    cases depth <;> rfl
  | boolean b =>
    cases b with
    | false =>
      rw [writeAt]
      cases depth <;> rfl
    | true =>
      rw [writeAt]
      cases depth <;> rfl
  | integer n =>
    have hword : IsWord n := by
      cases depth <;> exact h
    obtain ⟨c, cs, hcons, hc⟩ := Decimal.exists_ofInt_eq_cons n
    have hread := number?_ofInt hword hrest
    rw [hcons, List.cons_append] at hread
    rw [writeAt, hcons, List.cons_append, valueTo_sign_or_digit hc]
    exact hread
  | float x =>
    cases depth <;> exact h.elim
  | string s =>
    have hread := string?_quote s rest
    rw [quote, List.cons_append] at hread
    rw [writeAt, quote, List.cons_append, valueTo_quote, hread]
    rfl
  | array xs =>
    cases depth with
    | zero => exact h.elim
    | succ depth =>
      have hread : ∀ x ∈ xs, Reader.Element ']' IsSolid EndsNumber (valueTo depth)
          (writeAt (indent + 1) x) x := by
        intro x hx
        exact ⟨exists_writeAt_eq_cons (h x hx) (indent + 1),
          fun rest hrest => ih depth (Nat.lt_succ_self depth) (h x hx) (indent + 1) hrest⟩
      obtain ⟨cs, hcons, hlist⟩ := bracketed_block (by decide) (by decide) indent hread rest
      rw [writeAt, writeElements_eq_map, hcons, valueTo, hlist]
      rfl
  | object members =>
    cases depth with
    | zero => exact h.elim
    | succ depth =>
      obtain ⟨hnames, hmembers⟩ := h
      have hread : ∀ m ∈ members, Reader.Element '}' IsSolid EndsNumber
          (memberWith (valueTo depth)) (memberText (indent + 1) m) m := by
        intro m hm
        refine ⟨⟨'"', _, rfl, by decide, by decide⟩, fun rest hrest => ?_⟩
        exact memberWith_memberText (hmembers m hm) (indent + 1)
          (ih depth (Nat.lt_succ_self depth) (hmembers m hm) (indent + 1) hrest)
      obtain ⟨cs, hcons, hlist⟩ := bracketed_block (by decide) (by decide) indent hread rest
      rw [writeAt, writeMembers_eq_map, hcons, valueTo, hlist, Option.map_some]
      simp only [membersOf_of_nodup hnames]

/-- **A written value is read back as itself**, also with blanks behind it. -/
theorem parse?_write_append {x : Json} (h : Readable deepest x) {blanks : List Char}
    (hends : EndsNumber blanks) (hblanks : skipBlank blanks = []) :
    parse? (x.write ++ String.ofList blanks) = some x := by
  obtain ⟨c, cs, hcons, hc, -⟩ := exists_writeAt_eq_cons h 0
  have hskip : skipBlank (writeAt 0 x ++ blanks) = writeAt 0 x ++ blanks := by
    rw [hcons, List.cons_append, skipBlank_of_isSolid hc]
  rw [parse?, write, String.toList_append, String.toList_ofList, String.toList_ofList, hskip,
    valueTo_writeAt h 0 hends, Option.bind_some]
  exact if_pos (by rw [hblanks]; rfl)

/-- **A written value is read back as itself.** -/
theorem parse?_write {x : Json} (h : Readable deepest x) : parse? x.write = some x := by
  have hread := parse?_write_append h endsNumber_nil rfl
  rwa [String.ofList_nil, String.append_empty] at hread

/-- A written value is read back from a line of its own. -/
theorem parse?_write_newline {x : Json} (h : Readable deepest x) :
    parse? (x.write ++ "\n") = some x :=
  parse?_write_append h (endsNumber_line 0 []) rfl

/-! ### Lines -/

/-- A text without characters below the space, so on one line. -/
def IsLine (cs : List Char) : Prop :=
  ∀ c ∈ cs, ¬BelowSpace c

/-- A text of so many lines: the newlines between them are all its characters below the space. -/
inductive Lined : ℕ → List Char → Prop
  | last {cs : List Char} : IsLine cs → Lined 1 cs
  | next {n : ℕ} {cs rest : List Char} : IsLine cs → Lined n rest →
    Lined (n + 1) (cs ++ '\n' :: rest)

theorem IsLine.append {cs ds : List Char} (hcs : IsLine cs) (hds : IsLine ds) :
    IsLine (cs ++ ds) := by
  intro c hc
  rcases List.mem_append.mp hc with hc | hc
  · exact hcs c hc
  · exact hds c hc

theorem isLine_quote (s : String) : IsLine (quote s) :=
  fun _ => not_belowSpace_of_mem_quote

theorem isLine_ofInt (n : ℤ) : IsLine (Decimal.ofInt n) :=
  fun _ => not_belowSpace_of_mem_ofInt

theorem isLine_singleton {c : Char} (h : ¬BelowSpace c) : IsLine [c] := by
  intro d hd
  rwa [List.mem_singleton.mp hd]

theorem isLine_spaces (n : ℕ) : IsLine (List.replicate n ' ') := by
  intro c hc
  rw [List.eq_of_mem_replicate hc]
  decide

/-- The rest of a block, after some of a line. -/
theorem lined_entries {closing : Char} (hclosing : ¬BelowSpace closing) (depth : ℕ)
    {entries : List (List Char)} (hentries : ∀ e ∈ entries, IsLine e) {lead : List Char}
    (hlead : IsLine lead) :
    Lined (entries.length + 2)
      (lead ++ (List.intercalate [','] (entries.map (line (depth + 1) ++ ·)) ++ line depth
        ++ [closing])) := by
  -- each entry, and the comma behind it, is the next line
  induction entries generalizing lead with
  | nil => exact .next hlead (.last ((isLine_spaces _).append (isLine_singleton hclosing)))
  | cons e entries ih =>
    have he : IsLine (List.replicate (2 * (depth + 1)) ' ' ++ e) :=
      (isLine_spaces _).append (hentries e List.mem_cons_self)
    have hrest := fun d hd => hentries d (List.mem_cons_of_mem e hd)
    rcases entries with _ | ⟨d, ds⟩
    · have hlined := Lined.next hlead (ih hrest he)
      simpa [line, List.intercalate_singleton] using hlined
    · have hcomma : IsLine (List.replicate (2 * (depth + 1)) ' ' ++ e ++ [',']) :=
        he.append (isLine_singleton (by decide))
      have hlined := Lined.next hlead (ih hrest hcomma)
      simpa [line, List.intercalate_cons_cons] using hlined

/-- **A block is as many lines as it has entries, and two for the brackets.** -/
theorem lined_block {opening closing : Char} (hopening : ¬BelowSpace opening)
    (hclosing : ¬BelowSpace closing) (depth : ℕ) {entries : List (List Char)} (hne : entries ≠ [])
    (hentries : ∀ e ∈ entries, IsLine e) :
    Lined (entries.length + 2) (block opening closing depth entries) := by
  rw [block, if_neg (by rwa [List.isEmpty_iff])]
  exact lined_entries hclosing depth hentries (isLine_singleton hopening)

/-- **An object of scalars** has each of its members on a line. -/
theorem lined_write_object {members : List (String × Json)} {n : ℕ}
    (hlength : members.length = n + 1) (h : ∀ m ∈ members, IsLine (writeAt 1 m.2)) :
    Lined (n + 3) (object members).write.toList := by
  have hne : members.map (memberText 1) ≠ [] := by
    rw [← List.length_pos_iff, List.length_map, hlength]
    exact Nat.succ_pos n
  have hentries : ∀ e ∈ members.map (memberText 1), IsLine e := by
    intro e he
    obtain ⟨m, hm, rfl⟩ := List.mem_map.mp he
    have hcolon : IsLine [':', ' '] :=
      (isLine_singleton (by decide)).append (isLine_singleton (by decide))
    have hline := ((isLine_quote m.1).append hcolon).append (h m hm)
    rwa [List.append_assoc] at hline
  have hblock :=
    lined_block (by decide : ¬BelowSpace '{') (by decide : ¬BelowSpace '}') 0 hne hentries
  rw [List.length_map, hlength] at hblock
  rw [write, String.toList_ofList, writeAt, writeMembers_eq_map]
  exact hblock

end TextGauge.Json
