import TextGauge.Environment
import TextGauge.Proofs.Except
import TextGauge.Proofs.Placeholder.Division
import TextGauge.Proofs.Settings.Written

/-!
# Settings are read as they are written

Whichever way settings are written as a document – under headers, with dotted keys, inline, tables
and keys in any order – reading the document gives the settings back, provided that no environment
variable is set (`TextGauge.Settings.ofFileText_text`).

The document stands for a table of tables, and what is left is the **shape**: the tables are looked
at in the order of their names and their entries in the order of the keys, which is neither the
order of the document nor that of the settings. So reading is followed table by table, and what has
been read after some tables are the settings **restricted** to these.
-/

namespace TextGauge.Settings

open Toml

/-! ### The entries of one table -/

/-- What settings set in one table. -/
def fields (s : Settings) (table : String) : List (String × Literal) :=
  (s.entries.filter fun entry => entry.1 = table).map Prod.snd

theorem fields_operands (s : Settings) : s.fields "operands" =
    (s.a.map fun n => ("a", Literal.integer n)).toList
      ++ (s.b.map fun n => ("b", Literal.integer n)).toList := by
  obtain ⟨a, b, text, level⟩ := s
  cases a <;> cases b <;> cases text <;> cases level <;> rfl

theorem fields_input (s : Settings) :
    s.fields "input" = (s.text.map fun t => ("text", Literal.string t)).toList := by
  obtain ⟨a, b, text, level⟩ := s
  cases a <;> cases b <;> cases text <;> cases level <;> rfl

theorem fields_logging (s : Settings) :
    s.fields "logging" = (s.level.map fun t => ("level", Literal.string t)).toList := by
  obtain ⟨a, b, text, level⟩ := s
  cases a <;> cases b <;> cases text <;> cases level <;> rfl

/-- Settings know three tables and four keys, and no others. -/
theorem names_of_mem_entries {s : Settings} {table key : String} {literal : Literal}
    (h : (table, key, literal) ∈ s.entries) :
    table ∈ ["operands", "input", "logging"] ∧ key ∈ ["a", "b", "text", "level"] := by
  simp only [entries, List.mem_append, Option.mem_toList, Option.map_eq_some_iff,
    Prod.mk.injEq] at h
  rcases h with ((⟨_, -, rfl, rfl, -⟩ | ⟨_, -, rfl, rfl, -⟩) | ⟨_, -, rfl, rfl, -⟩) |
    ⟨_, -, rfl, rfl, -⟩ <;> decide

theorem table_of_fields_ne_nil {s : Settings} {table : String} (h : s.fields table ≠ []) :
    table = "operands" ∨ table = "input" ∨ table = "logging" := by
  obtain ⟨_, hfield⟩ := List.exists_mem_of_ne_nil _ h
  obtain ⟨⟨_, key, literal⟩, hfiltered, -⟩ := List.mem_map.mp hfield
  obtain ⟨hmem, htable⟩ := List.mem_filter.mp hfiltered
  obtain rfl := of_decide_eq_true htable
  simpa using (names_of_mem_entries hmem).1

/-- No table has a key twice. -/
theorem nodup_keys_fields (s : Settings) (table : String) :
    ((s.fields table).map Prod.fst).Nodup := by
  by_cases hnil : s.fields table = []
  · rw [hnil]
    exact List.nodup_nil
  · obtain ⟨a, b, text, level⟩ := s
    rcases table_of_fields_ne_nil hnil with rfl | rfl | rfl
    · rw [fields_operands]
      cases a <;> cases b <;> simp
    · rw [fields_input]
      cases text <;> simp
    · rw [fields_logging]
      cases level <;> simp

/-! ### The shape of a settings file -/

/-- The settings of some tables. -/
def restrict (s : Settings) (tables : List String) : Settings where
  a := if "operands" ∈ tables then s.a else none
  b := if "operands" ∈ tables then s.b else none
  text := if "input" ∈ tables then s.text else none
  level := if "logging" ∈ tables then s.level else none

/-- Where all tables that set something are among them, these are all settings. -/
theorem restrict_eq_self {s : Settings} {tables : List String}
    (h : ∀ table, s.fields table ≠ [] → table ∈ tables) : s.restrict tables = s := by
  have hoperands := h "operands"
  have hinput := h "input"
  have hlogging := h "logging"
  rw [fields_operands] at hoperands
  rw [fields_input] at hinput
  rw [fields_logging] at hlogging
  obtain ⟨a, b, text, level⟩ := s
  simp only [restrict, mk.injEq]
  refine ⟨?_, ?_, ?_, ?_⟩
  · cases a <;> simp_all
  · cases b <;> simp_all
  · cases text <;> simp_all
  · cases level <;> simp_all

theorem eq_or_eq_of_perm_pair {α : Type} {l : List α} {x y : α} (h : l.Perm [x, y]) :
    l = [x, y] ∨ l = [y, x] := by
  have hmem : x ∈ l := h.mem_iff.mpr List.mem_cons_self
  obtain ⟨before, after, rfl⟩ := List.append_of_mem hmem
  have hrest : (before ++ after).Perm [y] := (List.perm_middle.symm.trans h).cons_inv
  rcases List.append_eq_singleton_iff.mp (List.perm_singleton.mp hrest) with
    ⟨rfl, rfl⟩ | ⟨rfl, rfl⟩
  · exact .inl rfl
  · exact .inr rfl

theorem sorted_values_perm {entries fields : List (String × Literal)} (h : entries.Perm fields) :
    (sorted (values entries)).Perm (values fields) :=
  (List.mergeSort_perm _ _).trans (h.map _)

@[simp] theorem addOperand_a (base : Settings) (n : Int32) :
    base.addOperand ("a", .integer n.toInt) = .ok { base with a := some n } := by
  simp [addOperand, Value.toInt32, Except.map]

@[simp] theorem addOperand_b (base : Settings) (n : Int32) :
    base.addOperand ("b", .integer n.toInt) = .ok { base with b := some n } := by
  simp [addOperand, Value.toInt32, Except.map]

/-- **Operands** are read in any order. -/
theorem addOperands_of_perm {s : Settings} {entries : List (String × Literal)}
    (h : entries.Perm (s.fields "operands")) (base : Settings) :
    base.addOperands (.table (values entries)) =
      .ok { base with a := s.a <|> base.a, b := s.b <|> base.b } := by
  have hsorted := sorted_values_perm h
  rw [fields_operands] at hsorted
  rw [addOperands]
  obtain ⟨a, b, text, level⟩ := s
  -- with two entries there are two orders
  rcases a with _ | a <;> rcases b with _ | b
  · rw [List.perm_nil.mp hsorted]
    rfl
  · rw [List.perm_singleton.mp hsorted]
    simp [Literal.value]
  · rw [List.perm_singleton.mp hsorted]
    simp [Literal.value]
  · rcases eq_or_eq_of_perm_pair hsorted with heq | heq
    · rw [heq]
      simp [Literal.value]
    · rw [heq]
      simp [Literal.value]

/-- **The text of a table** that has no other key. -/
theorem onlyText_of_perm {record : Record} {key text : String}
    {entries : List (String × Literal)} (h : entries.Perm [(key, .string text)]) :
    onlyText record key (.table (values entries)) = .ok (some text) := by
  rw [onlyText, List.perm_singleton.mp (sorted_values_perm h)]
  simp [Literal.value, Value.toText, Except.map]

/-- **One table more.** -/
theorem addTable_of_perm {s : Settings} {table : String} {entries : List (String × Literal)}
    (h : entries.Perm (s.fields table)) (hne : entries ≠ []) (tables : List String) :
    (s.restrict tables).addTable (table, .table (values entries)) =
      .ok (s.restrict (table :: tables)) := by
  have hfields : s.fields table ≠ [] := fun hnil => hne (List.perm_nil.mp (hnil ▸ h))
  rcases table_of_fields_ne_nil hfields with rfl | rfl | rfl
  · rw [addTable, if_pos rfl, addOperands_of_perm h]
    obtain ⟨a, b, text, level⟩ := s
    cases a <;> cases b <;> simp [restrict]
  · rw [fields_input] at h hfields
    obtain ⟨a, b, _ | text, level⟩ := s
    · exact absurd rfl hfields
    · rw [addTable, if_neg (by simp), if_pos rfl, onlyText_of_perm h]
      simp [restrict, Except.map]
  · rw [fields_logging] at h hfields
    obtain ⟨a, b, text, _ | level⟩ := s
    · exact absurd rfl hfields
    · rw [addTable, if_neg (by simp), if_neg (by simp), if_pos rfl, onlyText_of_perm h]
      simp [restrict, Except.map]

/-- **Table by table**, in whichever order they come. -/
theorem foldlM_addTable {s : Settings} {tables : Entries}
    (h : ∀ entry ∈ tables, ∃ entries, entry.2 = .table (values entries) ∧ entries ≠ [] ∧
      entries.Perm (s.fields entry.1)) (done : List String) :
    tables.foldlM addTable (s.restrict done) =
      .ok (s.restrict ((tables.map Prod.fst).reverse ++ done)) := by
  -- what has been read are the settings of the tables in `done`
  induction tables generalizing done with
  | nil => rfl
  | cons entry tables ih =>
    obtain ⟨table, v⟩ := entry
    obtain ⟨entries, rfl, hne, hperm⟩ := h (table, v) List.mem_cons_self
    rw [List.foldlM_cons, addTable_of_perm hperm hne, ok_bind,
      ih fun other hmem => h other (List.mem_cons_of_mem _ hmem)]
    simp

/-- **The tables of a document give the settings**, if they are those of the settings. -/
theorem ofTable_of_perm {s : Settings} {tables : Entries}
    (hsound : ∀ entry ∈ tables, ∃ entries, entry.2 = .table (values entries) ∧ entries ≠ [] ∧
      entries.Perm (s.fields entry.1))
    (hcomplete : ∀ table, s.fields table ≠ [] → ∃ entry ∈ tables, entry.1 = table) :
    ofTable tables = .ok s := by
  have hperm : (sorted tables).Perm tables := List.mergeSort_perm _ _
  have hfold := foldlM_addTable (fun entry hmem => hsound entry (hperm.mem_iff.mp hmem)) []
  have hempty : s.restrict [] = {} := by simp [restrict]
  rw [hempty] at hfold
  rw [ofTable, hfold, restrict_eq_self]
  intro table hne
  obtain ⟨entry, hmem, rfl⟩ := hcomplete table hne
  simp only [List.append_nil, List.mem_reverse]
  exact List.mem_map_of_mem (hperm.mem_iff.mpr hmem)

/-! ### Layouts that write settings -/

theorem isName_of_mem {name : String}
    (h : name ∈ ["operands", "input", "logging"] ++ ["a", "b", "text", "level"]) :
    IsName name := by
  simp only [List.cons_append, List.nil_append, List.mem_cons, List.not_mem_nil, or_false] at h
  rcases h with rfl | rfl | rfl | rfl | rfl | rfl | rfl <;>
    exact ⟨by decide, by rw [← List.all_eq_true]; decide⟩

namespace Layout

variable {layout : Layout} {s : Settings}

/-- The entries of a table are what the blocks set there. -/
theorem entriesAt_eq (layout : Layout) (table : String) :
    layout.entriesAt table =
      ((layout.flatMap Block.settings).filter fun entry => entry.1 = table).map Prod.snd := by
  induction layout with
  | nil => rfl
  | cons block layout ih =>
    have hcons : entriesAt (block :: layout) table =
        entriesAt [block] table ++ entriesAt layout table := entriesAt_append [block] layout table
    rw [hcons, ih, List.flatMap_cons, List.filter_append, List.map_append]
    by_cases he : block.table = table
    · subst he
      simp [entriesAt, Block.settings, List.filter_map, Function.comp_def]
    · simp [entriesAt, Block.settings, List.filter_map, Function.comp_def, he]

/-- **Each table has the entries that the settings have for it**, in some order. -/
theorem Writes.entriesAt_perm (h : layout.Writes s) (table : String) :
    (layout.entriesAt table).Perm (s.fields table) := by
  rw [entriesAt_eq]
  exact (h.settings.filter _).map _

theorem Writes.named (h : layout.Writes s) : ∀ block ∈ layout, block.Named := by
  intro block hblock
  have hnames : ∀ entry ∈ block.entries, block.table ∈ ["operands", "input", "logging"] ∧
      entry.1 ∈ ["a", "b", "text", "level"] := by
    intro entry hmem
    have hset : (block.table, entry) ∈ layout.flatMap Block.settings :=
      List.mem_flatMap.mpr ⟨block, hblock, List.mem_map_of_mem hmem⟩
    exact names_of_mem_entries (h.settings.mem_iff.mp hset)
  constructor
  · obtain ⟨entry, hmem⟩ := List.exists_mem_of_ne_nil _ (h.filled block hblock)
    exact isName_of_mem (List.mem_append_left _ (hnames entry hmem).1)
  · intro entry hmem
    exact isName_of_mem (List.mem_append_right _ (hnames entry hmem).2)

theorem Writes.consistent (h : layout.Writes s) : layout.Consistent where
  keys table := ((h.entriesAt_perm table).map Prod.fst).nodup_iff.mpr (nodup_keys_fields s table)
  apart := h.apart
  headersLast := h.headersLast

end Layout

/-! ### The round trip -/

/-- **Settings are read as they are written**: whichever layout writes them, reading the document
gives them back, if no environment variable is set. -/
theorem ofFileText_text {layout : Layout} {s : Settings} (h : layout.Writes s) (capital : Bool) :
    ofFileText (Environment.text? []) (layout.text capital) = .ok s := by
  obtain ⟨tables, hparse, htables⟩ := Layout.parse?_text h.named h.filled h.consistent capital
  have hsubstitute : Placeholder.substitute (Environment.text? []) (layout.text capital) =
      layout.text capital := Placeholder.substitute_eq_self fun name _ => rfl
  have hsettings : ofTable tables = .ok s := by
    refine ofTable_of_perm (fun entry hmem => ?_) fun table hne => ?_
    · obtain ⟨hne, hvalue⟩ := htables.sound entry hmem
      exact ⟨_, hvalue, hne, h.entriesAt_perm entry.1⟩
    · refine htables.complete table fun hnil => hne ?_
      exact List.nil_perm.mp (hnil ▸ h.entriesAt_perm table)
  rw [ofFileText, hsubstitute, ofToml, hparse]
  simp [hsettings, Except.mapError]

/-- Dotted keys of one table with an inline table between them, a header behind, and a text that
looks like a placeholder and like the end of a string. -/
theorem ofFileText_text_alternating :
    let s : Settings := ⟨some (-3), some 7, some "\"$\x7bA\x7d\\\n", some "warn"⟩
    let layout : Layout :=
      [.dotted "operands" "b" (.integer 7),
        .inline "input" [("text", .string "\"$\x7bA\x7d\\\n")],
        .dotted "operands" "a" (.integer (-3)), .header "logging" [("level", .string "warn")]]
    layout.Writes s ∧ ofFileText (Environment.text? []) (layout.text true) = .ok s := by
  intro s layout
  have h : layout.Writes s := ⟨by decide, by decide, by decide, by decide⟩
  exact ⟨h, ofFileText_text h true⟩

end TextGauge.Settings
