import TextGauge.Proofs.Settings.RoundTrip
import TextGauge.Proofs.Settings.Schema

/-!
# Which settings files are accepted

A file is accepted exactly if it **holds** settings (`TextGauge.Settings.Holds`), which says of each
key what may stand there, and then those are the settings that are read. Otherwise the first of its
offences is reported. Neither depends on the order in which keys and tables are written, so two
documents that **reorder** one another (`TextGauge.Toml.Value.Reorders`) have the same outcome.
`TextGauge.Settings.ofFileText_of_parse?` says all of this of every text that is a document.
-/

namespace TextGauge

namespace Settings

open Toml

/-! ### The settings that a file holds -/

/-- The operands that the key `operands` leads to. -/
inductive HoldsOperands : Option Value → Option Int32 → Option Int32 → Prop
  | absent : HoldsOperands none none none
  /-- A table with no other keys than `a` and `b`, both integers of 32 bits if they are there. -/
  | table {entries : Entries} {a b : Option Int32} : (∀ entry ∈ entries, entry.1 ∈ ["a", "b"]) →
    entries.lookup "a" = a.map (fun n => .integer n.toInt) →
    entries.lookup "b" = b.map (fun n => .integer n.toInt) →
    HoldsOperands (some (.table entries)) a b
  /-- An array that begins with two integers of 32 bits. -/
  | array {a b : Int32} {rest : List Value} :
    HoldsOperands (some (.array (.integer a.toInt :: .integer b.toInt :: rest))) (some a) (some b)

/-- The text that the key of a table with a single text leads to. -/
inductive HoldsText (key : String) : Option Value → Option String → Prop
  | absent : HoldsText key none none
  /-- A table with no other key, which leads to a string if it is there. -/
  | table {entries : Entries} {text : Option String} : (∀ entry ∈ entries, entry.1 = key) →
    entries.lookup key = text.map .string → HoldsText key (some (.table entries)) text
  /-- An array that begins with a string. -/
  | array {text : String} {rest : List Value} :
    HoldsText key (some (.array (.string text :: rest))) (some text)

/-- **The settings that a file holds**, given by the entries of its table. -/
structure Holds (entries : Entries) (s : Settings) : Prop where
  known : ∀ entry ∈ entries, entry.1 ∈ ["operands", "input", "logging"]
  operands : HoldsOperands (entries.lookup "operands") s.a s.b
  input : HoldsText "text" (entries.lookup "input") s.text
  logging : HoldsText "level" (entries.lookup "logging") s.level

/-! ### What is read is held -/

/-- What the entries of the table `operands` that have been read give. -/
structure HasOperands (s : Settings) (entries : Entries) (s' : Settings) : Prop where
  known : ∀ entry ∈ entries, entry.1 ∈ ["a", "b"]
  a : entries.lookup "a" = s'.a.map fun n => .integer n.toInt
  b : entries.lookup "b" = s'.b.map fun n => .integer n.toInt
  text : s'.text = s.text
  level : s'.level = s.level

theorem hasOperands_nil {s : Settings} (ha : s.a = none) (hb : s.b = none) :
    HasOperands s [] s where
  known _ h := absurd h List.not_mem_nil
  a := by rw [ha]; rfl
  b := by rw [hb]; rfl
  text := rfl
  level := rfl

/-- **One entry more.** -/
theorem HasOperands.add {s s₁ s' : Settings} {entries : Entries} {entry : String × Value}
    (h : HasOperands s entries s₁) (hkey : entry.1 ∉ entries.map Prod.fst)
    (hadd : s₁.addOperand entry = .ok s') : HasOperands s (entries ++ [entry]) s' := by
  obtain ⟨key, v⟩ := entry
  rw [addOperand] at hadd
  have hknown : key ∈ ["a", "b"] → ∀ entry ∈ entries ++ [(key, v)], entry.1 ∈ ["a", "b"] :=
    fun hmem => List.forall_mem_append.mpr ⟨h.known, List.forall_mem_singleton.mpr hmem⟩
  split_ifs at hadd with ha hb
  · obtain ⟨n, hn, rfl⟩ := map_eq_ok_iff.mp hadd
    obtain rfl := Value.toInt32_eq_ok_iff.mp hn
    obtain rfl : key = "a" := ha
    refine ⟨hknown (by decide), ?_, ?_, h.text, h.level⟩
    · rw [lookup_append_self hkey]
      rfl
    · rw [lookup_append_of_ne (by decide)]
      exact h.b
  · obtain ⟨n, hn, rfl⟩ := map_eq_ok_iff.mp hadd
    obtain rfl := Value.toInt32_eq_ok_iff.mp hn
    obtain rfl : key = "b" := hb
    refine ⟨hknown (by decide), ?_, ?_, h.text, h.level⟩
    · rw [lookup_append_of_ne (by decide)]
      exact h.a
    · rw [lookup_append_self hkey]
      rfl

/-- What the entries of a table with a single text that have been read give. -/
structure HasText (key : String) (entries : Entries) (text : Option String) : Prop where
  known : ∀ entry ∈ entries, entry.1 = key
  text : entries.lookup key = text.map .string

theorem hasText_nil (key : String) : HasText key [] none where
  known _ h := absurd h List.not_mem_nil
  text := rfl

/-- **Operands that are read are held.** -/
theorem holdsOperands_of_addOperands {s s' : Settings} {v : Value} (hv : v.Distinct)
    (ha : s.a = none) (hb : s.b = none) (h : s.addOperands v = .ok s') :
    HoldsOperands (some v) s'.a s'.b ∧ s'.text = s.text ∧ s'.level = s.level := by
  cases hv with
  | scalar hscalar =>
    rw [addOperands_of_isScalar s hscalar] at h
    cases h
  | @array vs _ =>
    rcases vs with _ | ⟨x, _ | ⟨y, rest⟩⟩
    · cases h
    · obtain ⟨_, -, hshort⟩ := bind_eq_ok_iff.mp h
      cases hshort
    · obtain ⟨a, hx, h⟩ := bind_eq_ok_iff.mp h
      obtain ⟨b, hy, h⟩ := bind_eq_ok_iff.mp h
      obtain rfl := Except.ok.inj h
      obtain rfl := Value.toInt32_eq_ok_iff.mp hx
      obtain rfl := Value.toInt32_eq_ok_iff.mp hy
      exact ⟨.array, rfl, rfl⟩
  | @table entries hnodup _ =>
    have hread : HasOperands s (sorted entries) s' :=
      foldlM_sorted_ok hnodup (hasOperands_nil ha hb)
        (fun done entry _ s₁ s₂ hdone hkey hadd => hdone.add hkey hadd) h
    refine ⟨.table (fun entry hentry => hread.known entry (mem_sorted.mpr hentry)) ?_ ?_,
      hread.text, hread.level⟩
    · rw [← lookup_sorted hnodup]
      exact hread.a
    · rw [← lookup_sorted hnodup]
      exact hread.b

/-- **A text that is read is held.** -/
theorem holdsText_of_onlyText {record : Record} {key : String} {v : Value} {text : Option String}
    (hv : v.Distinct) (h : onlyText record key v = .ok text) : HoldsText key (some v) text := by
  cases hv with
  | scalar hscalar =>
    rw [onlyText_of_isScalar record key hscalar] at h
    cases h
  | @array vs _ =>
    cases vs with
    | nil => cases h
    | cons x rest =>
      obtain ⟨s, hx, rfl⟩ := map_eq_ok_iff.mp h
      obtain rfl := Value.toText_eq_ok_iff.mp hx
      exact .array
  | @table entries hnodup _ =>
    have hread : HasText key (sorted entries) text := by
      refine foldlM_sorted_ok hnodup (hasText_nil key) ?_ h
      intro done entry _ s₁ s₂ hdone hkey hadd
      split_ifs at hadd with hname
      obtain ⟨s, hs, rfl⟩ := map_eq_ok_iff.mp hadd
      obtain ⟨name, v⟩ := entry
      obtain rfl : name = key := hname
      obtain rfl := Value.toText_eq_ok_iff.mp hs
      exact ⟨List.forall_mem_append.mpr ⟨hdone.known, List.forall_mem_singleton.mpr rfl⟩,
        lookup_append_self hkey⟩
    refine .table (fun entry hentry => hread.known entry (mem_sorted.mpr hentry)) ?_
    rw [← lookup_sorted hnodup]
    exact hread.text

theorem holds_nil : Holds [] {} where
  known _ h := absurd h List.not_mem_nil
  operands := .absent
  input := .absent
  logging := .absent

/-- **One table more.** -/
theorem Holds.add {entries : Entries} {entry : String × Value} {s s' : Settings}
    (h : Holds entries s) (hkey : entry.1 ∉ entries.map Prod.fst) (hv : entry.2.Distinct)
    (hadd : s.addTable entry = .ok s') : Holds (entries ++ [entry]) s' := by
  obtain ⟨key, v⟩ := entry
  have hknown : key ∈ ["operands", "input", "logging"] →
      ∀ entry ∈ entries ++ [(key, v)], entry.1 ∈ ["operands", "input", "logging"] :=
    fun hmem => List.forall_mem_append.mpr ⟨h.known, List.forall_mem_singleton.mpr hmem⟩
  have hnone : entries.lookup key = none := lookup_eq_none_iff_not_mem.mpr hkey
  have hoperands := h.operands
  have hinput := h.input
  have hlogging := h.logging
  rw [addTable] at hadd
  split_ifs at hadd with hname hname hname
  · obtain rfl : key = "operands" := hname
    rw [hnone] at hoperands
    generalize ha : s.a = a at hoperands
    generalize hb : s.b = b at hoperands
    cases hoperands
    obtain ⟨hread, htext, hlevel⟩ := holdsOperands_of_addOperands hv ha hb hadd
    refine ⟨hknown (by decide), ?_, ?_, ?_⟩
    · rw [lookup_append_self hkey]
      exact hread
    · rw [lookup_append_of_ne (by decide), htext]
      exact hinput
    · rw [lookup_append_of_ne (by decide), hlevel]
      exact hlogging
  · obtain rfl : key = "input" := hname
    obtain ⟨text, htext, rfl⟩ := map_eq_ok_iff.mp hadd
    refine ⟨hknown (by decide), ?_, ?_, ?_⟩
    · rw [lookup_append_of_ne (by decide)]
      exact hoperands
    · rw [lookup_append_self hkey]
      exact holdsText_of_onlyText hv htext
    · rw [lookup_append_of_ne (by decide)]
      exact hlogging
  · obtain rfl : key = "logging" := hname
    obtain ⟨level, hlevel, rfl⟩ := map_eq_ok_iff.mp hadd
    refine ⟨hknown (by decide), ?_, ?_, ?_⟩
    · rw [lookup_append_of_ne (by decide)]
      exact hoperands
    · rw [lookup_append_of_ne (by decide)]
      exact hinput
    · rw [lookup_append_self hkey]
      exact holdsText_of_onlyText hv hlevel

/-- **Settings that are read are held.** -/
theorem holds_of_ofTable {entries : Entries} (hdistinct : (Value.table entries).Distinct)
    {s : Settings} (h : ofTable entries = .ok s) : Holds entries s := by
  obtain ⟨hnodup, hentries⟩ := Value.distinct_table_iff.mp hdistinct
  have hread : Holds (sorted entries) s :=
    foldlM_sorted_ok hnodup holds_nil (fun done entry hentry s₁ s₂ hdone hkey hadd =>
      hdone.add hkey (hentries entry hentry) hadd) h
  constructor
  · intro entry hentry
    exact hread.known entry (mem_sorted.mpr hentry)
  · rw [← lookup_sorted hnodup]
    exact hread.operands
  · rw [← lookup_sorted hnodup]
    exact hread.input
  · rw [← lookup_sorted hnodup]
    exact hread.logging

/-! ### What is held is read -/

theorem integer_toInt_injective : Function.Injective fun n : Int32 => Value.integer n.toInt := by
  intro n n' h
  exact Int32.toInt_inj.mp (Value.integer.inj h)

theorem string_injective : Function.Injective Value.string :=
  fun _ _ => Value.string.inj

theorem HoldsOperands.unique {v : Option Value} {a b a' b' : Option Int32}
    (h : HoldsOperands v a b) (h' : HoldsOperands v a' b') : a = a' ∧ b = b' := by
  cases h with
  | absent =>
    cases h'
    exact ⟨rfl, rfl⟩
  | table _ ha hb =>
    cases h' with
    | table _ ha' hb' =>
      exact ⟨Option.map_injective integer_toInt_injective (ha.symm.trans ha'),
        Option.map_injective integer_toInt_injective (hb.symm.trans hb')⟩
  | array =>
    generalize hvs : (some (Value.array _) : Option Value) = v at h'
    cases h' with
    | absent => cases hvs
    | table => cases hvs
    | array =>
      simp only [Option.some.injEq, Value.array.injEq, List.cons.injEq, Value.integer.injEq,
        Int32.toInt_inj] at hvs
      exact ⟨congrArg some hvs.1, congrArg some hvs.2.1⟩

theorem HoldsText.unique {key : String} {v : Option Value} {text text' : Option String}
    (h : HoldsText key v text) (h' : HoldsText key v text') : text = text' := by
  cases h with
  | absent =>
    cases h'
    rfl
  | table _ htext =>
    cases h' with
    | table _ htext' => exact Option.map_injective string_injective (htext.symm.trans htext')
  | array =>
    cases h'
    rfl

/-- A file holds one selection of settings at most. -/
theorem Holds.unique {entries : Entries} {s s' : Settings} (h : Holds entries s)
    (h' : Holds entries s') : s = s' := by
  obtain ⟨ha, hb⟩ := h.operands.unique h'.operands
  have htext := h.input.unique h'.input
  have hlevel := h.logging.unique h'.logging
  obtain ⟨a, b, text, level⟩ := s
  obtain ⟨a', b', text', level'⟩ := s'
  simp only [mk.injEq]
  exact ⟨ha, hb, htext, hlevel⟩

/-- Operands that are held offend nowhere. -/
theorem HoldsOperands.not_offends {v : Value} {a b : Option Int32} (h : HoldsOperands (some v) a b)
    (hv : v.Distinct) (place : Place) (m : Mismatch) : ¬Table.operands.Offends v place m := by
  cases h with
  | table hknown ha hb =>
    obtain ⟨hnodup, -⟩ := Value.distinct_table_iff.mp hv
    refine Table.not_offends_table (t := .operands) (fun entry hmem => ?_) place m
    have hkey := hknown entry hmem
    refine ⟨hkey, ?_⟩
    obtain ⟨key, v⟩ := entry
    simp only [List.mem_cons, List.not_mem_nil, or_false] at hkey
    rcases hkey with rfl | rfl
    · exact exists_of_lookup_eq_map hnodup ha hmem
    · exact exists_of_lookup_eq_map hnodup hb hmem
  | @array a b rest =>
    refine Table.not_offends_array (fun i hi => ?_) place m
    have hi' : i < 2 := hi
    obtain rfl | rfl : i = 0 ∨ i = 1 := by omega
    · exact ⟨_, rfl, a, rfl⟩
    · exact ⟨_, rfl, b, rfl⟩

/-- A text that is held offends nowhere. -/
theorem HoldsText.not_offends {t : Table} (hwanted : t.wanted = .string) {key : String}
    (hfields : t.record.fields = [key]) {v : Value} {text : Option String}
    (h : HoldsText key (some v) text) (hv : v.Distinct) (place : Place) (m : Mismatch) :
    ¬t.Offends v place m := by
  cases h with
  | table hknown htext =>
    obtain ⟨hnodup, -⟩ := Value.distinct_table_iff.mp hv
    refine Table.not_offends_table (fun entry hmem => ?_) place m
    have hkey := hknown entry hmem
    obtain ⟨name, v⟩ := entry
    obtain rfl : name = key := hkey
    rw [hfields, hwanted]
    exact ⟨List.mem_singleton_self name, exists_of_lookup_eq_map hnodup htext hmem⟩
  | @array text rest =>
    refine Table.not_offends_array (fun i hi => ?_) place m
    rw [hfields] at hi
    obtain rfl : i = 0 := Nat.lt_one_iff.mp hi
    rw [hwanted]
    exact ⟨_, rfl, text, rfl⟩

/-- **A file that holds settings offends nowhere.** -/
theorem Holds.not_offends {entries : Entries} (hdistinct : (Value.table entries).Distinct)
    {s : Settings} (h : Holds entries s) (place : Place) (m : Mismatch) :
    ¬Offends entries place m := by
  obtain ⟨hnodup, hentries⟩ := Value.distinct_table_iff.mp hdistinct
  intro hoffends
  cases hoffends with
  | unknown hmem hkey => exact hkey (h.known _ hmem)
  | @table t v place m hmem hoffends =>
    have hv := hentries _ hmem
    have hlookup := (lookup_eq_some_iff_mem hnodup).mpr hmem
    cases t with
    | operands =>
      have hoperands := h.operands
      rw [show entries.lookup "operands" = some v from hlookup] at hoperands
      exact hoperands.not_offends hv place m hoffends
    | input =>
      have hinput := h.input
      rw [show entries.lookup "input" = some v from hlookup] at hinput
      exact hinput.not_offends rfl rfl hv place m hoffends
    | logging =>
      have hlogging := h.logging
      rw [show entries.lookup "logging" = some v from hlookup] at hlogging
      exact hlogging.not_offends rfl rfl hv place m hoffends

/-- **The settings that are read are those that the file holds.** -/
theorem ofTable_eq_ok_iff {entries : Entries} (hdistinct : (Value.table entries).Distinct)
    {s : Settings} : ofTable entries = .ok s ↔ Holds entries s := by
  refine ⟨holds_of_ofTable hdistinct, fun h => ?_⟩
  -- nothing offends, so something is read, and it cannot be anything else
  cases hread : ofTable entries with
  | ok s' => rw [h.unique (holds_of_ofTable hdistinct hread)]
  | error m =>
    obtain ⟨place, hfirst⟩ := ((judges_ofTable hdistinct).error_iff m).mp hread
    exact absurd hfirst.offends (h.not_offends hdistinct place m)

/-! ### The order in which a file is written -/

theorem addOperand_eq_of_reorders (s : Settings) (key : String) {v w : Value} (h : v.Reorders w) :
    s.addOperand (key, v) = s.addOperand (key, w) := by
  rw [addOperand, addOperand, h.toInt32_eq]

/-- Operands do not depend on the order of their entries. -/
theorem addOperands_eq_of_reorders (s : Settings) {v w : Value} (hv : v.Distinct)
    (h : v.Reorders w) : s.addOperands v = s.addOperands w := by
  cases h with
  | refl => rfl
  | array elements helements =>
    rcases elements with _ | ⟨x, _ | ⟨y, rest⟩⟩
    · rfl
    · have hx := (helements x (by simp)).toInt32_eq
      simp only [List.map_cons, List.map_nil, addOperands, hx]
    · have hx := (helements x (by simp)).toInt32_eq
      have hy := (helements y (by simp)).toInt32_eq
      simp only [List.map_cons, addOperands, hx, hy]
  | table rows hrows hperm hperm' =>
    obtain ⟨hnodup, -⟩ := Value.distinct_table_iff.mp hv
    exact foldlM_sorted_eq hnodup hperm hperm'
      (fun row hrow s => addOperand_eq_of_reorders s row.1 (hrows row hrow)) s

/-- A text does not depend on the order of the entries of its table. -/
theorem onlyText_eq_of_reorders (record : Record) (key : String) {v w : Value} (hv : v.Distinct)
    (h : v.Reorders w) : onlyText record key v = onlyText record key w := by
  cases h with
  | refl => rfl
  | array elements helements =>
    cases elements with
    | nil => rfl
    | cons x rest =>
      have hx := (helements x (by simp)).toText_eq
      simp only [List.map_cons, onlyText, hx]
  | table rows hrows hperm hperm' =>
    obtain ⟨hnodup, -⟩ := Value.distinct_table_iff.mp hv
    refine foldlM_sorted_eq hnodup hperm hperm' (fun row hrow _ => ?_) none
    rw [(hrows row hrow).toText_eq]

theorem addTable_eq_of_reorders (s : Settings) (key : String) {v w : Value} (hv : v.Distinct)
    (h : v.Reorders w) : s.addTable (key, v) = s.addTable (key, w) := by
  simp only [addTable, addOperands_eq_of_reorders s hv h, onlyText_eq_of_reorders _ _ hv h]

/-- **The outcome does not depend on the order of tables and keys.** -/
theorem ofTable_eq_of_reorders {entries entries' : Entries}
    (hdistinct : (Value.table entries).Distinct)
    (h : (Value.table entries).Reorders (.table entries')) :
    ofTable entries = ofTable entries' := by
  obtain ⟨hnodup, hentries⟩ := Value.distinct_table_iff.mp hdistinct
  cases h with
  | refl => rfl
  | table rows hrows hperm hperm' =>
    refine foldlM_sorted_eq hnodup hperm hperm' (fun row hrow s => ?_) ({} : Settings)
    have hv : row.2.1.Distinct :=
      hentries (row.1, row.2.1) (hperm.mem_iff.mpr (List.mem_map_of_mem hrow))
    exact addTable_eq_of_reorders s row.1 hv (hrows row hrow)

/-! ### Files -/

theorem ofToml_of_parse? {document : String} {entries : Entries}
    (hparse : Toml.parse? document = some entries) :
    ofToml document = (ofTable entries).mapError fun m => .settings (.shape m) := by
  rw [ofToml, hparse]

/-- **A settings file is accepted exactly if it holds settings.** If the text, with its placeholders
replaced, is a TOML document, then the settings that are read are those that its table holds, each
value as it is written; if it holds none, the first of its offences is the fault, in the order of
the bytes of keys and depth first. Another file whose table is the same in another order, at
whatever depth, has the same outcome. -/
theorem ofFileText_of_parse? {lookup : String → Option String} {content : String}
    {entries : Entries}
    (hparse : Toml.parse? (Placeholder.substitute lookup content) = some entries) :
    (∀ s, ofFileText lookup content = .ok s ↔ Holds entries s) ∧
      (∀ fault, ofFileText lookup content = .error fault ↔
        ∃ place m, First (Offends entries) place m ∧ fault = .settings (.shape m)) ∧
      ∀ lookup' content' entries',
        Toml.parse? (Placeholder.substitute lookup' content') = some entries' →
        (Value.table entries).Reorders (.table entries') →
        ofFileText lookup' content' = ofFileText lookup content := by
  have hdistinct : (Value.table entries).Distinct := distinct_of_parse? hparse
  refine ⟨fun s => ?_, fun fault => ?_, fun lookup' content' entries' hparse' hreorders => ?_⟩
  · rw [ofFileText, ofToml_of_parse? hparse, mapError_eq_ok_iff, ofTable_eq_ok_iff hdistinct]
  · rw [ofFileText, ofToml_of_parse? hparse, mapError_eq_error_iff]
    constructor
    · rintro ⟨m, hm, rfl⟩
      obtain ⟨place, hfirst⟩ := ((judges_ofTable hdistinct).error_iff m).mp hm
      exact ⟨place, m, hfirst, rfl⟩
    · rintro ⟨place, m, hfirst, rfl⟩
      exact ⟨m, ((judges_ofTable hdistinct).error_iff m).mpr ⟨place, hfirst⟩, rfl⟩
  · rw [ofFileText, ofFileText, ofToml_of_parse? hparse, ofToml_of_parse? hparse',
      ofTable_eq_of_reorders hdistinct hreorders]

/-- Two offences, of which the first one is written last, and the same file the other way round. -/
theorem ofFileText_of_parse?_reversed :
    let content := "[operands]\na = \"x\"\n[logging]\ntext = 1\n"
    let content' := "[logging]\ntext = 1\n[operands]\na = \"x\"\n"
    let entries : Entries :=
      [("operands", .table [("a", .string "x")]), ("logging", .table [("text", .integer 1)])]
    Toml.parse? (Placeholder.substitute (Environment.text? []) content) = some entries ∧
      ofFileText (Environment.text? []) content =
        .error (.settings (.shape (.unknown "text" loggingRecord))) ∧
      ofFileText (Environment.text? []) content' = ofFileText (Environment.text? []) content := by
  intro content content' entries
  -- both files are written documents, whose pieces are known
  have hparse : ∀ layout : Layout, (∀ block ∈ layout, block.Named) →
      (∀ block ∈ layout, block.entries ≠ []) →
      (∀ block ∈ layout, (block.entries.map Prod.fst).Nodup) →
      Toml.parse? (Placeholder.substitute (Environment.text? []) (layout.text false)) =
        tableOf? (layout.flatMap Block.pieces) := by
    intro layout hnamed hfilled hkeys
    rw [Placeholder.substitute_eq_self fun name _ => rfl]
    exact Layout.parse?_text_eq hnamed hfilled hkeys false
  have hoperands : (Block.header "operands" [("a", .string "x")]).Named :=
    ⟨isName_of_mem (by decide), List.forall_mem_singleton.mpr (isName_of_mem (by decide))⟩
  have hlogging : (Block.header "logging" [("text", .integer 1)]).Named :=
    ⟨isName_of_mem (by decide), List.forall_mem_singleton.mpr (isName_of_mem (by decide))⟩
  have hread : Toml.parse? (Placeholder.substitute (Environment.text? []) content) =
      some entries :=
    hparse [.header "operands" [("a", .string "x")], .header "logging" [("text", .integer 1)]]
      (by simp [hoperands, hlogging]) (by decide) (by decide)
  have hread' : Toml.parse? (Placeholder.substitute (Environment.text? []) content') =
      some entries.reverse :=
    hparse [.header "logging" [("text", .integer 1)], .header "operands" [("a", .string "x")]]
      (by simp [hoperands, hlogging]) (by decide) (by decide)
  obtain ⟨-, herror, hreordered⟩ := ofFileText_of_parse? hread
  refine ⟨hread, (herror _).mpr ⟨[.key "logging", .key "text"], _, ⟨?_, ?_⟩, rfl⟩,
    hreordered _ content' _ hread' ?_⟩
  · have hmem : (Table.logging.name, .table [("text", .integer 1)]) ∈ entries :=
      List.mem_cons_of_mem _ List.mem_cons_self
    exact .table hmem (.unknown List.mem_cons_self (by decide))
  · intro place m hoffends
    cases hoffends with
    | unknown hmem hkey =>
      simp only [entries, List.mem_cons, Prod.mk.injEq, List.not_mem_nil, or_false] at hmem
      rcases hmem with ⟨rfl, -⟩ | ⟨rfl, -⟩
      · exact absurd (by decide) hkey
      · exact absurd (by decide) hkey
    | @table t v place m hmem hoffends =>
      cases t with
      | operands => exact .inr (.rel (.key (by decide)))
      | input => simp [entries, Table.name] at hmem
      | logging =>
        obtain rfl : v = .table [("text", .integer 1)] := by
          simpa [entries, Table.name] using hmem
        obtain ⟨entry, hentry, rest, rfl, rfl, -⟩ := Table.offends_table_iff.mp hoffends
        rw [List.mem_singleton.mp hentry]
        exact .inl rfl
  · exact .table [("operands", _, _), ("logging", _, _)] (by simp [Value.Reorders.refl]) .rfl
      (.swap _ _ _)

end Settings

end TextGauge
