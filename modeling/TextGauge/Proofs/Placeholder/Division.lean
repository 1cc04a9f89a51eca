import TextGauge.Placeholder
import TextGauge.Proofs.Span

/-!
# What substitution does to a text

The placeholders of a text are found by a scanner. Here the same placeholders are described
without one: a text is **divided** into runs of literal characters with a placeholder between
each two (`TextGauge.Placeholder.Division`), and the division is **leftmost**
(`TextGauge.Placeholder.Division.Leftmost`) if no placeholder begins anywhere in a literal run,
which is to say that every placeholder begins at the first place behind the one before it where
any placeholder begins.

A text has exactly one leftmost division, and `TextGauge.Placeholder.substitute` puts values in
the place of its placeholders and does nothing else
(`TextGauge.Placeholder.substitute_eq_expand_division`). Everything that a second pass or a
wrong place to go on would spoil is in this statement: values are not divided again, and what
looks like the start of a placeholder but is none – `${}`, or an opening without a closing
brace – lies in a literal run.
-/

namespace TextGauge.Placeholder

/-! ### Where a placeholder begins -/

/-- **A placeholder begins a text**: the text starts with the written form of a name that is not
empty and has no closing brace in it. -/
def Begins (cs : List Char) : Prop :=
  ∃ name rest, name ≠ [] ∧ '}' ∉ name ∧ cs = written name ++ rest

/-- No character of a name ends it. -/
theorem bne_brace_of_mem {name : List Char} (h : '}' ∉ name) : ∀ c ∈ name, (c != '}') = true := by
  intro c hc
  have hne : c ≠ '}' := fun he => h (he ▸ hc)
  simpa using hne

/-- **The scanner reads a placeholder exactly where one begins**, and reads all of it. -/
theorem placeholder?_eq_some_iff {cs name rest : List Char} :
    placeholder? cs = some (name, rest) ↔ name ≠ [] ∧ '}' ∉ name ∧ cs = written name ++ rest := by
  constructor
  · intro h
    unfold placeholder? at h
    split at h
    · rename_i cs
      have hsplit : cs.takeWhile (· != '}') ++ cs.dropWhile (· != '}') = cs :=
        List.takeWhile_append_dropWhile
      have hname : '}' ∉ cs.takeWhile (· != '}') := fun hmem => by
        simpa using List.mem_takeWhile_imp hmem
      simp only at h
      split at h
      · simp at h
      · rename_i c rest' hdrop
        obtain rfl : c = '}' := by
          have hc := List.head?_dropWhile_not (· != '}') cs
          simpa [hdrop] using hc
        split at h
        · simp at h
        · rename_i hne
          simp only [Option.some.injEq, Prod.mk.injEq] at h
          obtain ⟨rfl, rfl⟩ := h
          refine ⟨by simpa using hne, hname, ?_⟩
          rw [hdrop] at hsplit
          simp [written, hsplit]
    · simp at h
  · rintro ⟨hne, hbrace, rfl⟩
    have hall := bne_brace_of_mem hbrace
    have htake := takeWhile_append_cons (b := '}') hall (by simp) rest
    have hdrop := dropWhile_append_cons (b := '}') hall (by simp) rest
    have hne' : name.isEmpty = false := by simpa using hne
    simp [written, placeholder?, htake, hdrop, hne']

theorem placeholder?_eq_none_iff {cs : List Char} : placeholder? cs = none ↔ ¬Begins cs := by
  rw [Option.eq_none_iff_forall_ne_some]
  constructor
  · rintro h ⟨name, rest, hbegins⟩
    exact h (name, rest) (placeholder?_eq_some_iff.mpr hbegins)
  · rintro h ⟨name, rest⟩ hread
    exact h ⟨name, rest, placeholder?_eq_some_iff.mp hread⟩

/-! ### Stretches, by what begins a text -/

@[simp] theorem stretches_nil : stretches [] = [] := by
  rw [stretches]

/-- Where a placeholder begins it is taken whole. -/
theorem stretches_written_append {name rest : List Char} (hne : name ≠ []) (hbrace : '}' ∉ name) :
    stretches (written name ++ rest) = .placeholder name :: stretches rest := by
  have hread : placeholder? (written name ++ rest) = some (name, rest) :=
    placeholder?_eq_some_iff.mpr ⟨hne, hbrace, rfl⟩
  have hcons : written name ++ rest = '$' :: ('{' :: (name ++ ['}']) ++ rest) := rfl
  rw [hcons] at hread ⊢
  rw [stretches]
  split
  · rename_i heq
    rw [hread] at heq
    simp only [Option.some.injEq, Prod.mk.injEq] at heq
    obtain ⟨rfl, rfl⟩ := heq
    rfl
  · rename_i heq
    rw [hread] at heq
    simp at heq

/-- Where none begins a character stands for itself. -/
theorem stretches_cons_of_not_begins {c : Char} {cs : List Char} (h : ¬Begins (c :: cs)) :
    stretches (c :: cs) = .literal c :: stretches cs := by
  rw [stretches]
  split
  · rename_i heq
    rw [placeholder?_eq_none_iff.mpr h] at heq
    simp at heq
  · rfl

/-! ### Divisions -/

/-- **A division of a text**: literal runs, each but the last with the name of a placeholder
behind it. -/
inductive Division
  /-- The last literal run. -/
  | last (literal : List Char)
  /-- A literal run, the name of a placeholder, and what follows. -/
  | next (literal name : List Char) (rest : Division)

namespace Division

/-- The text that is divided. -/
def text : Division → List Char
  | last literal => literal
  | next literal name rest => literal ++ (written name ++ rest.text)

/-- The names of the placeholders of a division. -/
def names : Division → List (List Char)
  | last _ => []
  | next _ name rest => name :: rest.names

/-- The text with the value of each name in the place of its placeholder; a name without value
leaves its placeholder as it is written. -/
def expand (lookup : String → Option String) : Division → List Char
  | last literal => literal
  | next literal name rest =>
    literal ++ (((lookup (String.ofList name)).map String.toList).getD (written name) ++
      rest.expand lookup)

/-- **A division is leftmost** if its placeholders are placeholders and none begins in a literal
run: neither in the last one, nor in one before a placeholder and perhaps running past its end. -/
def Leftmost : Division → Prop
  | last literal => ∀ before after, literal = before ++ after → ¬Begins after
  | next literal name rest =>
    (name ≠ [] ∧ '}' ∉ name) ∧
      (∀ before after, literal = before ++ after → after ≠ [] →
        ¬Begins (after ++ (written name ++ rest.text))) ∧
      rest.Leftmost

/-- A division of a text is **the** division of it if it is leftmost. -/
structure Divides (d : Division) (cs : List Char) : Prop where
  text_eq : d.text = cs
  leftmost : d.Leftmost

/-- A division with a literal character in front. -/
def cons (c : Char) : Division → Division
  | last literal => last (c :: literal)
  | next literal name rest => next (c :: literal) name rest

@[simp] theorem text_cons (c : Char) (d : Division) : (d.cons c).text = c :: d.text := by
  cases d <;> rfl

/-- The division that stretches amount to. -/
def ofStretches : List Stretch → Division
  | [] => last []
  | .literal c :: rest => (ofStretches rest).cons c
  | .placeholder name :: rest => next [] name (ofStretches rest)

/-- A literal character may stand in front of a leftmost division if no placeholder begins
there. -/
theorem Leftmost.cons {c : Char} {d : Division} (h : d.Leftmost) (hc : ¬Begins (c :: d.text)) :
    (d.cons c).Leftmost := by
  cases d with
  | last literal =>
    intro before after hsplit
    -- a placeholder would begin at the new character or behind it
    rcases before with _ | ⟨b, before⟩
    · obtain rfl : c :: literal = after := hsplit
      exact hc
    · rw [List.cons_append, List.cons.injEq] at hsplit
      exact h before after hsplit.2
  | next literal name rest =>
    obtain ⟨hname, hliteral, hrest⟩ := h
    refine ⟨hname, ?_, hrest⟩
    intro before after hsplit hne
    rcases before with _ | ⟨b, before⟩
    · obtain rfl : c :: literal = after := hsplit
      exact hc
    · rw [List.cons_append, List.cons.injEq] at hsplit
      exact hliteral before after hsplit.2 hne

/-- **The stretches of a text divide it.** -/
theorem divides_ofStretches (cs : List Char) : (ofStretches (stretches cs)).Divides cs := by
  -- as the scanner goes: the end, a placeholder, or a character where none begins
  fun_induction stretches cs with
  | case1 =>
    refine ⟨rfl, fun before after hsplit => ?_⟩
    obtain ⟨rfl, rfl⟩ := List.append_eq_nil_iff.mp hsplit.symm
    rintro ⟨name, rest, -, -, h⟩
    simp [written] at h
  | case2 c cs name rest hread _ ih =>
    obtain ⟨hne, hbrace, hcs⟩ := placeholder?_eq_some_iff.mp hread
    refine ⟨by rw [ofStretches, text, ih.text_eq, hcs, List.nil_append],
      ⟨hne, hbrace⟩, ?_, ih.leftmost⟩
    intro before after hsplit hafter
    exact absurd (List.append_eq_nil_iff.mp hsplit.symm).2 hafter
  | case3 c cs hread ih =>
    have hbegins : ¬Begins (c :: cs) := placeholder?_eq_none_iff.mp hread
    refine ⟨by rw [ofStretches, text_cons, ih.text_eq], ih.leftmost.cons ?_⟩
    rwa [ih.text_eq]

/-- The text behind a literal run is read from where the run ends. -/
theorem ofStretches_stretches_append {literal : List Char} (tail : List Char)
    (h : ∀ before after, literal = before ++ after → after ≠ [] → ¬Begins (after ++ tail)) :
    ofStretches (stretches (literal ++ tail)) =
      literal.foldr Division.cons (ofStretches (stretches tail)) := by
  induction literal with
  | nil => rfl
  | cons c literal ih =>
    have hc : ¬Begins (c :: (literal ++ tail)) := h [] (c :: literal) rfl (by simp)
    rw [List.cons_append, stretches_cons_of_not_begins hc, ofStretches, List.foldr_cons, ih]
    intro before after hsplit
    exact h (c :: before) after (by rw [hsplit, List.cons_append])

theorem foldr_cons_last (literal : List Char) :
    literal.foldr Division.cons (last []) = last literal := by
  induction literal with
  | nil => rfl
  | cons c literal ih => rw [List.foldr_cons, ih, Division.cons]

theorem foldr_cons_next (literal name : List Char) (rest : Division) :
    literal.foldr Division.cons (next [] name rest) = next literal name rest := by
  induction literal with
  | nil => rfl
  | cons c literal ih => rw [List.foldr_cons, ih, Division.cons]

/-- **A leftmost division is the one that the stretches of its text amount to.** -/
theorem Leftmost.ofStretches_stretches {d : Division} (h : d.Leftmost) :
    ofStretches (stretches d.text) = d := by
  induction d with
  | last literal =>
    have hread : ofStretches (stretches (literal ++ [])) = last literal := by
      rw [ofStretches_stretches_append [] fun before after hsplit _ => ?_, stretches_nil,
        ofStretches, foldr_cons_last]
      simpa using h before after hsplit
    rwa [List.append_nil] at hread
  | next literal name rest ih =>
    obtain ⟨⟨hne, hbrace⟩, hliteral, hrest⟩ := h
    rw [text, ofStretches_stretches_append _ hliteral, stretches_written_append hne hbrace,
      ofStretches, ih hrest, foldr_cons_next]

/-! ### Expanding a division -/

@[simp] theorem expand_cons (lookup : String → Option String) (c : Char) (d : Division) :
    (d.cons c).expand lookup = c :: d.expand lookup := by
  cases d <;> rfl

/-- Stretches are expanded one by one, as their division is. -/
theorem expand_ofStretches (lookup : String → Option String) (stretches : List Stretch) :
    (ofStretches stretches).expand lookup = stretches.flatMap (Stretch.expand lookup) := by
  induction stretches with
  | nil => rfl
  | cons stretch rest ih =>
    cases stretch with
    | literal c => simp [ofStretches, Stretch.expand, ih]
    | placeholder name => simp [ofStretches, expand, Stretch.expand, ih]

/-- A division none of whose names has a value expands to its text. -/
theorem expand_eq_text {lookup : String → Option String} {d : Division}
    (h : ∀ name ∈ d.names, lookup (String.ofList name) = none) : d.expand lookup = d.text := by
  induction d with
  | last literal => rfl
  | next literal name rest ih =>
    have hname : lookup (String.ofList name) = none := h name (by simp [names])
    have hrest := ih fun name' hmem => h name' (by simp [names, hmem])
    simp [expand, text, hname, hrest]

end Division

/-! ### Substitution -/

/-- What substitution gives is the division of the text, expanded. -/
theorem substitute_eq_ofList_expand (lookup : String → Option String) (s : String) :
    substitute lookup s =
      String.ofList ((Division.ofStretches (stretches s.toList)).expand lookup) := by
  rw [substitute, Division.expand_ofStretches]

/-- **A text none of whose names has a value** is left as it is. -/
theorem substitute_eq_self {lookup : String → Option String} {s : String}
    (h : ∀ name ∈ (Division.ofStretches (stretches s.toList)).names,
      lookup (String.ofList name) = none) : substitute lookup s = s := by
  rw [substitute_eq_ofList_expand, Division.expand_eq_text h,
    (Division.divides_ofStretches s.toList).text_eq, String.ofList_toList]

/-- **Substitution puts values in the place of placeholders and does nothing else**: a text has
exactly one leftmost division, substitution expands that division, and it leaves the text as it
is if no name in it has a value. -/
theorem substitute_eq_expand_division (lookup : String → Option String) (s : String) :
    ∃ d : Division, (∀ d' : Division, d'.Divides s.toList ↔ d' = d) ∧
      substitute lookup s = String.ofList (d.expand lookup) ∧
      ((∀ name ∈ d.names, lookup (String.ofList name) = none) → substitute lookup s = s) := by
  refine ⟨Division.ofStretches (stretches s.toList), fun d' => ⟨?_, ?_⟩,
    substitute_eq_ofList_expand lookup s, substitute_eq_self⟩
  · rintro ⟨htext, hleft⟩
    rw [← htext, hleft.ofStretches_stretches]
  · rintro rfl
    exact Division.divides_ofStretches s.toList

/-- **Only the names of its placeholders** are looked up for a text. -/
theorem substitute_congr {lookup lookup' : String → Option String} {s : String}
    (h : ∀ name ∈ names s, lookup name = lookup' name) :
    substitute lookup s = substitute lookup' s := by
  have hexpand : ∀ stretch ∈ stretches s.toList,
      stretch.expand lookup = stretch.expand lookup' := by
    intro stretch hmem
    cases stretch with
    | literal c => rfl
    | placeholder name =>
      have hname : String.ofList name ∈ names s := List.mem_filterMap.mpr ⟨_, hmem, rfl⟩
      rw [Stretch.expand, Stretch.expand, h _ hname]
  rw [substitute, substitute, List.flatMap_def, List.flatMap_def, List.map_congr_left hexpand]

/-- A value is not read again, and what is no placeholder stays as it is. -/
example :
    substitute (fun name => if name = "A" then some "${B}${A}" else none) "${} $${A} ${B}" =
      "${} $${B}${A} ${B}" := by
  cbv

end TextGauge.Placeholder
