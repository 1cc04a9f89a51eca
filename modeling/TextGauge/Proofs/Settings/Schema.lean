import TextGauge.Proofs.Decimal
import TextGauge.Proofs.Toml.Sorted

/-!
# What offends in a settings file

The **offences** of a file are all places of its table at which it is not as a settings file should
be, each with what is wrong there (`TextGauge.Settings.Offends`): a key that is not known at the
root or in one of the three tables, a value that is not what is wanted, an array that is too short,
and anything else where a table is wanted. They are said place by place, without regard to the
others.

Reading settings from the table of a document judges the file by them
(`TextGauge.Settings.judges_ofTable`): it fails exactly if there is an offence, and reports the
first one. What is needed of the document for that is only that no table in it has a key twice.
-/

namespace TextGauge

namespace Toml

/-! ### Values -/

/-- A value that is what is wanted as it stands; nothing is converted. -/
def Value.Fits : Wanted → Value → Prop
  | .int32, v => ∃ n : Int32, v = .integer n.toInt
  | .string, v => ∃ s, v = .string s
  | _, _ => False

/-- What is wrong with a value that is not what is wanted. An integer that fits in 64 bits, signed
or unsigned, is out of the range of 32. -/
def Value.objection (wanted : Wanted) : Value → Mismatch
  | .integer n =>
    if wanted = .int32 ∧ -Int.pow 2 63 ≤ n ∧ n < Int.pow 2 64 then .range n .int32
    else (Value.integer n).mismatch wanted
  | v => v.mismatch wanted

theorem Value.toInt32_eq_ok_iff {v : Value} {n : Int32} :
    v.toInt32 = .ok n ↔ v = .integer n.toInt := by
  constructor
  · intro h
    unfold toInt32 at h
    split at h
    · split at h
      · rename_i hint
        obtain rfl := Except.ok.inj h
        rw [Decimal.int32?_eq_some_iff.mp hint]
      · split_ifs at h
    · cases h
  · rintro rfl
    simp [toInt32]

theorem Value.objection_of_ne_integer {v : Value} (h : ∀ n, v ≠ .integer n) (wanted : Wanted) :
    v.objection wanted = v.mismatch wanted := by
  unfold objection
  split
  · exact absurd rfl (h _)
  · rfl

theorem Value.toInt32_eq_error_iff {v : Value} {m : Mismatch} :
    v.toInt32 = .error m ↔ ¬v.Fits .int32 ∧ m = v.objection .int32 := by
  have hfits : v.Fits .int32 ↔ ∃ n, v.toInt32 = .ok n :=
    exists_congr fun n => toInt32_eq_ok_iff.symm
  have hobjection : ∀ m', v.toInt32 = .error m' → m' = v.objection .int32 := by
    intro m' h
    unfold toInt32 at h
    split at h
    · split at h
      · cases h
      · split_ifs at h with hword
        · rw [objection, if_pos ⟨rfl, hword⟩]
          exact (Except.error.inj h).symm
        · rw [objection, if_neg fun hboth => hword hboth.2]
          exact (Except.error.inj h).symm
    · rename_i hinteger
      rw [objection_of_ne_integer hinteger]
      exact (Except.error.inj h).symm
  rw [hfits]
  cases hread : v.toInt32 with
  | ok n => simp
  | error m' => simp [hobjection m' hread, eq_comm]

theorem Value.toText_eq_ok_iff {v : Value} {s : String} : v.toText = .ok s ↔ v = .string s := by
  constructor
  · intro h
    unfold toText at h
    split at h
    · rw [Except.ok.inj h]
    · cases h
  · rintro rfl
    rfl

theorem Value.toText_eq_error_iff {v : Value} {m : Mismatch} :
    v.toText = .error m ↔ ¬v.Fits .string ∧ m = v.objection .string := by
  have hobjection : v.objection .string = v.mismatch .string := by
    unfold objection
    split
    · exact if_neg fun h => absurd h.1 (by decide)
    · rfl
  unfold toText Fits
  split
  · simp
  · rename_i hstring
    rw [hobjection]
    constructor
    · intro h
      exact ⟨fun ⟨s, hs⟩ => hstring s hs, (Except.error.inj h).symm⟩
    · rintro ⟨-, rfl⟩
      rfl

end Toml

namespace Settings

open Toml

/-! ### Offences -/

/-- The tables of a settings file. -/
inductive Table
  | operands
  | input
  | logging

namespace Table

/-- The key that leads to a table. -/
def name : Table → String
  | operands => "operands"
  | input => "input"
  | logging => "logging"

/-- The shape of a table. -/
def record : Table → Record
  | operands => operandsRecord
  | input => inputRecord
  | logging => loggingRecord

/-- What the values of a table have to be. -/
def wanted : Table → Wanted
  | operands => .int32
  | input => .string
  | logging => .string

/-- **The offences of a value** that the key of a table leads to. -/
inductive Offends (t : Table) : Value → Place → Mismatch → Prop
  /-- A value that is not what is wanted. -/
  | value {entries : Entries} {key : String} {v : Value} : (key, v) ∈ entries →
    key ∈ t.record.fields → ¬v.Fits t.wanted →
    Offends t (.table entries) [.key key] (v.objection t.wanted)
  /-- A key that is not known. -/
  | unknown {entries : Entries} {key : String} {v : Value} : (key, v) ∈ entries →
    key ∉ t.record.fields → Offends t (.table entries) [.key key] (.unknown key t.record)
  /-- An element of an array that stands for the table; what lies behind the fields counts for
  nothing. -/
  | element {vs : List Value} {i : ℕ} {v : Value} : vs[i]? = some v → i < t.record.fields.length →
    ¬v.Fits t.wanted → Offends t (.array vs) [.index i] (v.objection t.wanted)
  /-- An element that is missing from such an array. -/
  | short {vs : List Value} : vs.length < t.record.fields.length →
    Offends t (.array vs) [.index vs.length] (.short vs.length t.record)
  /-- A value that is neither a table nor an array. -/
  | kind {v : Value} : v.IsScalar → Offends t v [] (v.noTable t.record)

end Table

/-- **The offences of a file**, given by the entries of its table. -/
inductive Offends (entries : Entries) : Place → Mismatch → Prop
  /-- A key that is not known. -/
  | unknown {key : String} {v : Value} : (key, v) ∈ entries → key ∉ fileRecord.fields →
    Offends entries [.key key] (.unknown key fileRecord)
  /-- An offence in one of the tables. -/
  | table {t : Table} {v : Value} {place : Place} {m : Mismatch} : (t.name, v) ∈ entries →
    t.Offends v place m → Offends entries (.key t.name :: place) m

/-! ### Reading judges by the offences -/

/-- What an entry of a table is refused for. -/
def Table.Refuses (t : Table) (entry : String × Value) (m : Mismatch) : Prop :=
  (entry.1 ∈ t.record.fields ∧ ¬entry.2.Fits t.wanted ∧ m = entry.2.objection t.wanted) ∨
    (entry.1 ∉ t.record.fields ∧ m = .unknown entry.1 t.record)

theorem addOperand_eq_error_iff {s : Settings} {entry : String × Value} {m : Mismatch} :
    s.addOperand entry = .error m ↔ Table.operands.Refuses entry m := by
  have hfields : Table.operands.record.fields = ["a", "b"] := rfl
  rw [Table.Refuses, hfields, addOperand]
  split_ifs with ha hb
  · rw [map_eq_error_iff, Value.toInt32_eq_error_iff, ha]
    simp [Table.wanted]
  · rw [map_eq_error_iff, Value.toInt32_eq_error_iff, hb]
    simp [Table.wanted]
  · simp [ha, hb, Table.record, eq_comm]

/-- An entry of a table with one key, which is a text. -/
theorem onlyText_step_eq_error_iff {t : Table} (hwanted : t.wanted = .string) {key : String}
    (hfields : t.record.fields = [key]) {entry : String × Value} {m : Mismatch} :
    (if entry.1 = key then entry.2.toText.map some else .error (.unknown entry.1 t.record)) =
      .error m ↔ t.Refuses entry m := by
  rw [Table.Refuses, hfields, hwanted]
  split_ifs with hkey
  · rw [map_eq_error_iff, Value.toText_eq_error_iff, hkey]
    simp
  · simp [hkey, eq_comm]

/-- The offences of a table are those of its entries. -/
theorem Table.offends_table_iff {t : Table} {entries : Entries} {place : Place} {m : Mismatch} :
    t.Offends (.table entries) place m ↔
      ∃ entry ∈ entries, ∃ rest, place = .key entry.1 :: rest ∧ rest = [] ∧ t.Refuses entry m := by
  constructor
  · intro h
    cases h with
    | value hmem hkey hfits => exact ⟨_, hmem, [], rfl, rfl, .inl ⟨hkey, hfits, rfl⟩⟩
    | unknown hmem hkey => exact ⟨_, hmem, [], rfl, rfl, .inr ⟨hkey, rfl⟩⟩
    | kind hscalar => exact hscalar.elim
  · rintro ⟨⟨key, v⟩, hmem, rest, rfl, rfl, ⟨hkey, hfits, rfl⟩ | ⟨hkey, rfl⟩⟩
    · exact .value hmem hkey hfits
    · exact .unknown hmem hkey

/-- A table offends nowhere if its keys are known and each value is what is wanted. -/
theorem Table.not_offends_table {t : Table} {entries : Entries}
    (h : ∀ entry ∈ entries, entry.1 ∈ t.record.fields ∧ entry.2.Fits t.wanted) (place : Place)
    (m : Mismatch) : ¬t.Offends (.table entries) place m := by
  intro hoffends
  obtain ⟨entry, hmem, -, -, -, ⟨-, hfits, -⟩ | ⟨hkey, -⟩⟩ := Table.offends_table_iff.mp hoffends
  · exact hfits (h entry hmem).2
  · exact hkey (h entry hmem).1

/-- A scalar offends as a whole. -/
theorem Table.offends_scalar_iff {t : Table} {v : Value} (hscalar : v.IsScalar) {place : Place}
    {m : Mismatch} : t.Offends v place m ↔ place = [] ∧ m = v.noTable t.record := by
  constructor
  · intro h
    cases h with
    | value => exact hscalar.elim
    | unknown => exact hscalar.elim
    | element => exact hscalar.elim
    | short => exact hscalar.elim
    | kind => exact ⟨rfl, rfl⟩
  · rintro ⟨rfl, rfl⟩
    exact .kind hscalar

/-- What an array is refused for at an index that a field stands for. -/
def Table.RefusesElement (t : Table) (vs : List Value) (i : ℕ) (m : Mismatch) : Prop :=
  (∃ v, vs[i]? = some v ∧ ¬v.Fits t.wanted ∧ m = v.objection t.wanted) ∨
    (vs.length = i ∧ m = .short i t.record)

/-- The offences of an array are those of the elements that fields stand for. -/
theorem Table.offends_array_iff {t : Table} {vs : List Value} {place : Place} {m : Mismatch} :
    t.Offends (.array vs) place m ↔
      ∃ i < t.record.fields.length, place = [.index i] ∧ t.RefusesElement vs i m := by
  constructor
  · intro h
    cases h with
    | element hget hi hfits => exact ⟨_, hi, rfl, .inl ⟨_, hget, hfits, rfl⟩⟩
    | short hlt => exact ⟨_, hlt, rfl, .inr ⟨rfl, rfl⟩⟩
    | kind hscalar => exact hscalar.elim
  · rintro ⟨i, hi, rfl, ⟨v, hget, hfits, rfl⟩ | ⟨rfl, rfl⟩⟩
    · exact .element hget hi hfits
    · exact .short hi

/-- An array offends nowhere if there is an element for each field, and it is what is wanted. -/
theorem Table.not_offends_array {t : Table} {vs : List Value}
    (h : ∀ i < t.record.fields.length, ∃ v, vs[i]? = some v ∧ v.Fits t.wanted) (place : Place)
    (m : Mismatch) : ¬t.Offends (.array vs) place m := by
  intro hoffends
  obtain ⟨i, hi, -, hrefuses⟩ := Table.offends_array_iff.mp hoffends
  obtain ⟨v, hv, hfits⟩ := h i hi
  rcases hrefuses with ⟨w, hw, hnot, -⟩ | ⟨rfl, -⟩
  · rw [hv] at hw
    obtain rfl := Option.some.inj hw
    exact hnot hfits
  · rw [List.getElem?_eq_none (Nat.le_refl _)] at hv
    cases hv

/-- The value of a field of an array that stands for a table. -/
def Table.element {α : Type} (t : Table) (convert : Value → Except Mismatch α) (vs : List Value)
    (i : ℕ) : Except Mismatch α :=
  match vs[i]? with
  | none => .error (.short i t.record)
  | some v => convert v

/-- A conversion that refuses what is not wanted in a table. -/
def Table.Converts {α : Type} (t : Table) (convert : Value → Except Mismatch α) : Prop :=
  ∀ v m, convert v = .error m ↔ ¬v.Fits t.wanted ∧ m = v.objection t.wanted

theorem converts_toInt32 : Table.operands.Converts Value.toInt32 :=
  fun _ _ => Value.toInt32_eq_error_iff

theorem converts_toText {t : Table} (hwanted : t.wanted = .string) : t.Converts Value.toText := by
  intro v m
  rw [hwanted]
  exact Value.toText_eq_error_iff

/-- An element is judged at its index, if no element is missing before it. -/
theorem Table.judges_element {t : Table} {α : Type} {convert : Value → Except Mismatch α}
    (hconvert : t.Converts convert) {vs : List Value} {i : ℕ} (hi : i ≤ vs.length) :
    Judges (t.element convert vs i) fun place m =>
      ∃ rest, place = .index i :: rest ∧ rest = [] ∧ t.RefusesElement vs i m := by
  refine ((judges_here _).congr fun place m => and_congr_right fun _ => ?_).behind (.index i)
  rw [Table.element, Table.RefusesElement]
  rcases hget : vs[i]? with _ | v
  · have hlength : vs.length = i := Nat.le_antisymm (List.getElem?_eq_none_iff.mp hget) hi
    simp [hlength, eq_comm]
  · have hlength : vs.length ≠ i := by
      rintro rfl
      simp at hget
    simp [hconvert v m, hlength]

theorem addOperands_of_isScalar (s : Settings) {v : Value} (h : v.IsScalar) :
    s.addOperands v = .error (v.noTable operandsRecord) := by
  cases v with
  | array => exact h.elim
  | table => exact h.elim
  | _ => rfl

theorem onlyText_of_isScalar (record : Record) (key : String) {v : Value} (h : v.IsScalar) :
    onlyText record key v = .error (v.noTable record) := by
  cases v with
  | array => exact h.elim
  | table => exact h.elim
  | _ => rfl

theorem addOperands_array (s : Settings) (vs : List Value) :
    s.addOperands (.array vs) =
      (Table.operands.element Value.toInt32 vs 0 >>= fun a =>
        Table.operands.element Value.toInt32 vs 1 >>= fun b =>
          .ok { s with a := some a, b := some b }) := by
  rcases vs with _ | ⟨x, _ | ⟨y, rest⟩⟩
  · rfl
  · rfl
  · rfl

theorem onlyText_array (t : Table) (key : String) (vs : List Value) :
    onlyText t.record key (.array vs) = (t.element Value.toText vs 0).map some := by
  cases vs with
  | nil => rfl
  | cons x rest => rfl

/-! ### Reading one table -/

/-- **Operands are judged by their offences.** -/
theorem judges_addOperands (s : Settings) {v : Value} (hv : v.Distinct) :
    Judges (s.addOperands v) (Table.operands.Offends v) := by
  cases hv with
  | scalar hscalar =>
    rw [addOperands_of_isScalar s hscalar]
    refine (judges_here _).congr fun place m => ?_
    rw [Table.offends_scalar_iff hscalar, Except.error.injEq, eq_comm (b := m)]
    rfl
  | @array vs _ =>
    have hsecond : ∀ a, Table.operands.element Value.toInt32 vs 0 = .ok a → 1 ≤ vs.length := by
      intro a ha
      cases vs with
      | nil => cases ha
      | cons x rest => exact Nat.succ_le_succ (Nat.zero_le _)
    rw [addOperands_array]
    refine ((Table.judges_element converts_toInt32 (Nat.zero_le _)).bind (fun a ha =>
      (Table.judges_element converts_toInt32 (hsecond a ha)).bind (fun b _ => judges_ok _)
        ?_) ?_).congr ?_
    · rintro _ m _ m' - hfalse
      exact hfalse.elim
    · rintro _ m _ m' ⟨_, rfl, -⟩ (⟨_, rfl, -⟩ | hfalse)
      · exact .rel (.index Nat.zero_lt_one)
      · exact hfalse.elim
    · intro place m
      rw [Table.offends_array_iff]
      constructor
      · rintro (⟨_, rfl, rfl, h⟩ | ⟨_, rfl, rfl, h⟩ | hfalse)
        · exact ⟨0, by decide, rfl, h⟩
        · exact ⟨1, by decide, rfl, h⟩
        · exact hfalse.elim
      · rintro ⟨i, hi, rfl, h⟩
        have hi' : i < 2 := hi
        obtain rfl | rfl : i = 0 ∨ i = 1 := by omega
        · exact .inl ⟨[], rfl, rfl, h⟩
        · exact .inr (.inl ⟨[], rfl, rfl, h⟩)
  | table hnodup =>
    have hentry : ∀ s : Settings, ∀ entry, Judges (s.addOperand entry) fun place m =>
        place = [] ∧ Table.operands.Refuses entry m := fun s entry =>
      (judges_here _).congr fun place m => and_congr_right fun _ => addOperand_eq_error_iff
    exact (judges_sorted hnodup (fun entry _ s => hentry s entry) s).congr fun place m =>
      Table.offends_table_iff.symm

/-- **A table with one text is judged by its offences.** -/
theorem judges_onlyText {t : Table} (hwanted : t.wanted = .string) {key : String}
    (hfields : t.record.fields = [key]) {v : Value} (hv : v.Distinct) :
    Judges (onlyText t.record key v) (t.Offends v) := by
  cases hv with
  | scalar hscalar =>
    rw [onlyText_of_isScalar t.record key hscalar]
    refine (judges_here _).congr fun place m => ?_
    rw [Table.offends_scalar_iff hscalar, Except.error.injEq, eq_comm (b := m)]
  | @array vs _ =>
    have hconvert := converts_toText hwanted
    rw [onlyText_array]
    refine ((Table.judges_element hconvert (Nat.zero_le _)).map some).congr fun place m => ?_
    rw [Table.offends_array_iff, hfields]
    constructor
    · rintro ⟨_, rfl, rfl, h⟩
      exact ⟨0, Nat.zero_lt_one, rfl, h⟩
    · rintro ⟨i, hi, rfl, h⟩
      obtain rfl : i = 0 := Nat.lt_one_iff.mp hi
      exact ⟨[], rfl, rfl, h⟩
  | table hnodup =>
    have hentry : ∀ entry : String × Value, Judges
        (if entry.1 = key then entry.2.toText.map some else .error (.unknown entry.1 t.record))
        fun place m => place = [] ∧ t.Refuses entry m := fun entry =>
      (judges_here _).congr fun place m => and_congr_right fun _ =>
        onlyText_step_eq_error_iff hwanted hfields
    exact (judges_sorted hnodup (fun entry _ _ => hentry entry) none).congr fun place m =>
      Table.offends_table_iff.symm

/-! ### Reading the file -/

theorem Table.name_mem_fields (t : Table) : t.name ∈ fileRecord.fields := by
  cases t <;> decide

theorem Table.exists_name_eq {key : String} (h : key ∈ fileRecord.fields) :
    ∃ t : Table, t.name = key := by
  simp only [fileRecord, List.mem_cons, List.not_mem_nil, or_false] at h
  rcases h with rfl | rfl | rfl
  · exact ⟨.operands, rfl⟩
  · exact ⟨.input, rfl⟩
  · exact ⟨.logging, rfl⟩

theorem Table.name_injective {t t' : Table} (h : t.name = t'.name) : t = t' := by
  cases t <;> cases t' <;> simp [name] at h ⊢

/-- What the key of a table leads to is judged by the offences of the table. -/
theorem judges_addTable_name (s : Settings) (t : Table) {v : Value} (hv : v.Distinct) :
    Judges (s.addTable (t.name, v)) (t.Offends v) := by
  cases t with
  | operands => exact judges_addOperands s hv
  | input =>
    have hone : Table.input.record.fields = ["text"] := rfl
    exact (judges_onlyText rfl hone hv).map _
  | logging =>
    have hone : Table.logging.record.fields = ["level"] := rfl
    exact (judges_onlyText rfl hone hv).map _

/-- A key that is not known is refused. -/
theorem addTable_of_not_mem (s : Settings) {entry : String × Value}
    (h : entry.1 ∉ fileRecord.fields) :
    s.addTable entry = .error (.unknown entry.1 fileRecord) := by
  simp only [fileRecord, List.mem_cons, List.not_mem_nil, or_false, not_or] at h
  rw [addTable, if_neg h.1, if_neg h.2.1, if_neg h.2.2]

/-- What an entry of a file is refused for, at a place behind its key. -/
def RefusesEntry (entry : String × Value) (place : Place) (m : Mismatch) : Prop :=
  (∃ t : Table, t.name = entry.1 ∧ t.Offends entry.2 place m) ∨
    (entry.1 ∉ fileRecord.fields ∧ place = [] ∧ m = .unknown entry.1 fileRecord)

theorem judges_addTable (s : Settings) {entry : String × Value} (hv : entry.2.Distinct) :
    Judges (s.addTable entry) (RefusesEntry entry) := by
  obtain ⟨key, v⟩ := entry
  by_cases hkey : key ∈ fileRecord.fields
  · obtain ⟨t, rfl⟩ := Table.exists_name_eq hkey
    refine (judges_addTable_name s t hv).congr fun place m => ⟨fun h => .inl ⟨t, rfl, h⟩, ?_⟩
    rintro (⟨t', hname, h⟩ | ⟨hnot, -⟩)
    · rwa [Table.name_injective hname] at h
    · exact absurd t.name_mem_fields hnot
  · rw [addTable_of_not_mem s hkey]
    refine (judges_here _).congr fun place m => ⟨?_, ?_⟩
    · rintro ⟨rfl, hm⟩
      exact .inr ⟨hkey, rfl, (Except.error.inj hm).symm⟩
    · rintro (⟨t, rfl, -⟩ | ⟨-, rfl, rfl⟩)
      · exact absurd t.name_mem_fields hkey
      · exact ⟨rfl, rfl⟩

/-- **Settings are read exactly from a file without offences**, and otherwise the first one is
reported. -/
theorem judges_ofTable {entries : Entries} (h : (Value.table entries).Distinct) :
    Judges (ofTable entries) (Offends entries) := by
  obtain ⟨hnodup, hentries⟩ := Value.distinct_table_iff.mp h
  have hadd : ∀ entry ∈ entries, ∀ s : Settings, Judges (s.addTable entry) (RefusesEntry entry) :=
    fun entry hentry s => judges_addTable s (hentries entry hentry)
  refine (judges_sorted hnodup hadd {}).congr fun place m => ?_
  constructor
  · rintro ⟨⟨key, v⟩, hmem, place, rfl, ⟨t, rfl, hoffends⟩ | ⟨hkey, rfl, rfl⟩⟩
    · exact .table hmem hoffends
    · exact .unknown hmem hkey
  · intro hoffends
    cases hoffends with
    | unknown hmem hkey => exact ⟨_, hmem, [], rfl, .inr ⟨hkey, rfl, rfl⟩⟩
    | table hmem hoffends => exact ⟨_, hmem, _, rfl, .inl ⟨_, rfl, hoffends⟩⟩

end Settings

end TextGauge
