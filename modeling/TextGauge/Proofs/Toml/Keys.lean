import Mathlib.Data.Int.Notation
import Mathlib.Data.List.Nodup
import Mathlib.Data.Nat.Init
import Mathlib.Tactic.SplitIfs
import TextGauge.Proofs.Lookup
import TextGauge.Proofs.Reader
import TextGauge.Proofs.Toml.Building
import TextGauge.Toml.Document

/-!
# Keys are distinct

No table of a document has a key twice, at whatever depth (`TextGauge.Toml.distinct_of_parse?`).
A piece adds a key only where it leads nowhere yet and otherwise replaces what a key leads to, so
the tables under construction have distinct keys after every piece; and an inline table is built
from its lines in the same way.
-/

namespace TextGauge.Toml

/-! ### Scalars -/

/-- A value that holds no others. -/
def Value.IsScalar : Value → Prop
  | .array _ | .table _ => False
  | _ => True

namespace Scalar

theorem isScalar_integerOf (cs : List Char) : (integerOf cs).IsScalar := by
  rw [integerOf]
  split <;> trivial

theorem isScalar_of_radixInteger {base : ℕ} {cs : List Char} {v : Value}
    (h : radixInteger base cs = some v) : v.IsScalar := by
  rw [radixInteger] at h
  split_ifs at h
  · obtain rfl := Option.some.inj h
    trivial
  · obtain ⟨ds, -, rfl⟩ := Option.map_eq_some_iff.mp h
    trivial

theorem isScalar_of_decimalInteger {cs body : List Char} {v : Value}
    (h : decimalInteger cs body = some v) : v.IsScalar := by
  rw [decimalInteger] at h
  split_ifs at h
  obtain ⟨ds, -, rfl⟩ := Option.map_eq_some_iff.mp h
  exact isScalar_integerOf ds

theorem isScalar_floatOf (negative : Bool) (whole fraction : List Char) (exponent : ℤ) :
    (floatOf negative whole fraction exponent).IsScalar := by
  rw [floatOf]
  split <;> trivial

theorem isScalar_of_float {cs body : List Char} {v : Value} (h : float cs body = some v) :
    v.IsScalar := by
  rw [float] at h
  obtain ⟨⟨whole, rest⟩, -, h⟩ := Option.bind_eq_some_iff.mp h
  by_cases hzero : whole.head? = some '0' ∧ (onlyDigits whole).length > 1
  · simp [hzero] at h
  · simp only [if_neg hzero] at h
    obtain ⟨⟨fraction, rest⟩, -, h⟩ := Option.bind_eq_some_iff.mp h
    obtain ⟨⟨⟨negative, exponent⟩, rest⟩, -, h⟩ := Option.bind_eq_some_iff.mp h
    by_cases hrest : rest.isEmpty
    · simp only [hrest, not_true_eq_false, if_false] at h
      obtain ⟨_, -, h⟩ := Option.bind_eq_some_iff.mp h
      obtain rfl := Option.some.inj h
      exact isScalar_floatOf ..
    · simp [hrest] at h

theorem isScalar_of_decimal {cs body : List Char} {v : Value} (h : decimal cs body = some v) :
    v.IsScalar := by
  unfold decimal at h
  split at h
  · exact isScalar_of_decimalInteger h
  · split_ifs at h
    · exact isScalar_of_float h
    · exact isScalar_of_decimalInteger h

theorem isScalar_of_number {cs : List Char} {v : Value} (h : number cs = some v) :
    v.IsScalar := by
  unfold number at h
  split at h
  split_ifs at h
  · obtain rfl := Option.some.inj h
    trivial
  · obtain rfl := Option.some.inj h
    trivial
  · split at h
    · exact isScalar_of_radixInteger h
    · exact isScalar_of_radixInteger h
    · exact isScalar_of_radixInteger h
    · exact isScalar_of_decimal h

/-- **What is read as a scalar is one.** -/
theorem isScalar_of_read {cs rest : List Char} {v : Value} (h : read cs = some (v, rest)) :
    v.IsScalar := by
  rw [read] at h
  obtain ⟨w, hvalue, heq⟩ := Option.map_eq_some_iff.mp h
  obtain ⟨rfl, -⟩ := Prod.mk.inj heq
  rw [value?] at hvalue
  split_ifs at hvalue
  · obtain rfl := Option.some.inj hvalue
    trivial
  · obtain rfl := Option.some.inj hvalue
    trivial
  · obtain rfl := Option.some.inj hvalue
    trivial
  · exact isScalar_of_number hvalue

end Scalar

/-! ### Distinct keys -/

/-- A value in which no table has a key twice. -/
inductive Value.Distinct : Value → Prop
  | scalar {v : Value} : v.IsScalar → Distinct v
  | array {vs : List Value} : (∀ v ∈ vs, Distinct v) → Distinct (.array vs)
  | table {entries : Entries} : (entries.map Prod.fst).Nodup →
    (∀ entry ∈ entries, Distinct entry.2) → Distinct (.table entries)

theorem Value.distinct_table_iff {entries : Entries} : (Value.table entries).Distinct ↔
    (entries.map Prod.fst).Nodup ∧ ∀ entry ∈ entries, entry.2.Distinct := by
  constructor
  · intro h
    cases h with
    | scalar hscalar => exact hscalar.elim
    | table hnodup hentries => exact ⟨hnodup, hentries⟩
  · rintro ⟨hnodup, hentries⟩
    exact .table hnodup hentries

namespace Node

/-- A node under construction in which no table has a key twice. -/
inductive Distinct : Node → Prop
  | value {v : Value} : v.Distinct → Distinct (.value v)
  | table {origin : Origin} {entries : List (String × Node)} : (entries.map Prod.fst).Nodup →
    (∀ entry ∈ entries, Distinct entry.2) → Distinct (.table origin entries)
  | tables {finished : List Value} {entries : List (String × Node)} :
    (∀ v ∈ finished, v.Distinct) → (entries.map Prod.fst).Nodup →
    (∀ entry ∈ entries, Distinct entry.2) → Distinct (.tables finished entries)

/-- Entries under construction whose keys are distinct, and so are those of the tables in them. -/
structure Tidy (entries : List (String × Node)) : Prop where
  nodup : (entries.map Prod.fst).Nodup
  distinct : ∀ entry ∈ entries, entry.2.Distinct

variable {entries : List (String × Node)} {key : String} {node : Node}

theorem tidy_nil : Tidy [] where
  nodup := List.nodup_nil
  distinct _ h := absurd h List.not_mem_nil

theorem Tidy.distinct_of_lookup (h : Tidy entries) (hlookup : entries.lookup key = some node) :
    node.Distinct :=
  h.distinct (key, node) (mem_of_lookup hlookup)

/-- A key that leads nowhere yet may be added. -/
theorem Tidy.append (h : Tidy entries) (hkey : entries.lookup key = none) (hnode : node.Distinct) :
    Tidy (entries ++ [(key, node)]) where
  nodup := by
    rw [List.map_append, List.nodup_append]
    refine ⟨h.nodup, List.nodup_singleton key, ?_⟩
    rintro other hother _ hmem rfl
    obtain rfl := List.mem_singleton.mp hmem
    exact lookup_eq_none_iff_not_mem.mp hkey hother
  distinct := List.forall_mem_append.mpr ⟨h.distinct, List.forall_mem_singleton.mpr hnode⟩

/-- What a key leads to may be replaced. -/
theorem Tidy.replace (h : Tidy entries) (hnode : node.Distinct) :
    Tidy (Node.replace key node entries) where
  nodup := by
    have hkeys : (Node.replace key node entries).map Prod.fst = entries.map Prod.fst := by
      rw [Node.replace, List.map_map]
      refine List.map_congr_left fun entry _ => ?_
      by_cases he : entry.1 = key
      · simp [he]
      · simp [he]
    rw [hkeys]
    exact h.nodup
  distinct entry hentry := by
    obtain ⟨old, hold, rfl⟩ := List.mem_map.mp hentry
    by_cases he : old.1 = key
    · rw [if_pos he]
      exact hnode
    · rw [if_neg he]
      exact h.distinct old hold

theorem Tidy.table (h : Tidy entries) (origin : Origin) : (Node.table origin entries).Distinct :=
  .table h.nodup h.distinct

/-! ### Finished values -/

theorem distinct_table_toEntries (hnodup : (entries.map Prod.fst).Nodup)
    (h : ∀ entry ∈ entries, entry.2.toValue.Distinct) :
    (Value.table (toEntries entries)).Distinct := by
  rw [toEntries_eq_map]
  refine .table ?_ fun entry hentry => ?_
  · rw [List.map_map]
    exact hnodup
  · obtain ⟨old, hold, rfl⟩ := List.mem_map.mp hentry
    exact h old hold

/-- **What a node amounts to** has distinct keys if the node has. -/
theorem Distinct.toValue (h : node.Distinct) : node.toValue.Distinct := by
  induction h with
  | value hv => exact hv
  | table hnodup _ ih => exact distinct_table_toEntries hnodup ih
  | tables hfinished hnodup _ ih =>
    refine .array (List.forall_mem_append.mpr ⟨hfinished, List.forall_mem_singleton.mpr ?_⟩)
    exact distinct_table_toEntries hnodup ih

theorem Tidy.toEntries (h : Tidy entries) : (Value.table (toEntries entries)).Distinct :=
  distinct_table_toEntries h.nodup fun entry hentry => (h.distinct entry hentry).toValue

/-! ### Changes -/

/-- A change that leaves distinct keys distinct. -/
def Keeps (change : Change) : Prop :=
  ∀ here {entries entries'}, Tidy entries → change here entries = some entries' → Tidy entries'

/-- **Changing the table at the end of a way** leaves distinct keys distinct, if the change does. -/
theorem keeps_along {change : Change} (hchange : Keeps change) (origin : Origin)
    (way : List String) : Keeps (along origin change way) := by
  induction way with
  | nil => exact hchange
  | cons key way ih =>
    intro here entries entries' h hsome
    rw [along] at hsome
    split at hsome
    · rename_i hlookup
      obtain ⟨inner, hinner, rfl⟩ := Option.map_eq_some_iff.mp hsome
      exact h.append hlookup ((ih origin tidy_nil hinner).table origin)
    · rename_i there inner hlookup
      cases h.distinct_of_lookup hlookup with
      | table hnodup hdistinct =>
        split_ifs at hsome
        obtain ⟨inner', hinner, rfl⟩ := Option.map_eq_some_iff.mp hsome
        exact h.replace ((ih there ⟨hnodup, hdistinct⟩ hinner).table there)
    · rename_i finished inner hlookup
      cases h.distinct_of_lookup hlookup with
      | tables hfinished hnodup hdistinct =>
        obtain ⟨inner', hinner, rfl⟩ := Option.map_eq_some_iff.mp hsome
        have htidy := ih .header ⟨hnodup, hdistinct⟩ hinner
        exact h.replace (.tables hfinished htidy.nodup htidy.distinct)
    · exact absurd hsome (by simp)

theorem keeps_openTable (key : String) : Keeps (openTable key) := by
  intro here entries entries' h hsome
  rw [openTable] at hsome
  split at hsome
  · rename_i hlookup
    obtain rfl := Option.some.inj hsome
    exact h.append hlookup (tidy_nil.table .header)
  · rename_i inner hlookup
    obtain rfl := Option.some.inj hsome
    cases h.distinct_of_lookup hlookup with
    | table hnodup hdistinct => exact h.replace (.table hnodup hdistinct)
  · exact absurd hsome (by simp)

theorem keeps_openElement (key : String) : Keeps (openElement key) := by
  intro here entries entries' h hsome
  rw [openElement] at hsome
  split at hsome
  · rename_i hlookup
    obtain rfl := Option.some.inj hsome
    exact h.append hlookup (.tables (by simp) tidy_nil.nodup tidy_nil.distinct)
  · rename_i finished inner hlookup
    obtain rfl := Option.some.inj hsome
    cases h.distinct_of_lookup hlookup with
    | tables hfinished hnodup hdistinct =>
      have htidy : Tidy inner := ⟨hnodup, hdistinct⟩
      have hall : ∀ v ∈ finished ++ [.table (toEntries inner)], v.Distinct :=
        List.forall_mem_append.mpr ⟨hfinished, List.forall_mem_singleton.mpr htidy.toEntries⟩
      exact h.replace (.tables hall tidy_nil.nodup tidy_nil.distinct)
  · exact absurd hsome (by simp)

theorem keeps_set (key : String) {v : Value} (hv : v.Distinct) : Keeps (set key v) := by
  intro here entries entries' h hsome
  rw [set] at hsome
  split at hsome
  · rename_i hlookup
    obtain rfl := Option.some.inj hsome
    exact h.append hlookup (.value hv)
  · exact absurd hsome (by simp)

theorem keeps_setDotted (way : List String) (key : String) {v : Value} (hv : v.Distinct) :
    Keeps (setDotted way key v) := by
  rw [setDotted]
  split_ifs
  · exact keeps_set key hv
  · refine keeps_along (fun here entries entries' h hsome => ?_) .dotted way
    rw [setInDotted] at hsome
    split_ifs at hsome
    exact keeps_set key hv here h hsome

end Node

/-! ### Pieces -/

/-- A piece whose value, if it has one, has distinct keys. -/
def Piece.Distinct : Piece → Prop
  | .line _ v => v.Distinct
  | _ => True

/-- **A piece leaves distinct keys distinct.** -/
theorem tidy_of_add {draft draft' : Draft} {p : Piece} (h : Node.Tidy draft.entries)
    (hp : p.Distinct) (hadd : draft.add p = some draft') : Node.Tidy draft'.entries := by
  cases p with
  | header path =>
    obtain ⟨entries, hentries, rfl⟩ := Option.map_eq_some_iff.mp hadd
    exact Node.keeps_along (Node.keeps_openTable path.last) .passage path.way .header h hentries
  | elementHeader path =>
    obtain ⟨entries, hentries, rfl⟩ := Option.map_eq_some_iff.mp hadd
    exact Node.keeps_along (Node.keeps_openElement path.last) .passage path.way .header h hentries
  | line path v =>
    obtain ⟨entries, hentries, rfl⟩ := Option.map_eq_some_iff.mp hadd
    exact Node.keeps_along (Node.keeps_setDotted path.way path.last hp) .passage draft.current
      .header h hentries

theorem tidy_of_foldlM {ps : List Piece} (hps : ∀ p ∈ ps, p.Distinct) {draft draft' : Draft}
    (h : Node.Tidy draft.entries) (hfold : ps.foldlM Draft.add draft = some draft') :
    Node.Tidy draft'.entries := by
  induction ps generalizing draft with
  | nil =>
    obtain rfl := Option.some.inj hfold
    exact h
  | cons p ps ih =>
    rw [List.foldlM_cons] at hfold
    obtain ⟨next, hadd, hrest⟩ := Option.bind_eq_some_iff.mp hfold
    exact ih (fun q hq => hps q (List.mem_cons_of_mem p hq))
      (tidy_of_add h (hps p List.mem_cons_self) hadd) hrest

/-- **The table that pieces amount to** has distinct keys. -/
theorem distinct_of_tableOf? {ps : List Piece} (hps : ∀ p ∈ ps, p.Distinct) {entries : Entries}
    (h : tableOf? ps = some entries) : (Value.table entries).Distinct := by
  obtain ⟨draft, hfold, rfl⟩ := Option.map_eq_some_iff.mp h
  exact (tidy_of_foldlM hps Node.tidy_nil hfold).toEntries

/-! ### Values and documents -/

/-- The value of a line has distinct keys if every value that can be read has. -/
theorem distinct_of_lineWith {gap : List Char → Option (List Char)} {value : Reader Value}
    (hvalue : ∀ cs v rest, value cs = some (v, rest) → v.Distinct) {cs rest : List Char}
    {line : Path × Value} (h : lineWith gap value cs = some (line, rest)) : line.2.Distinct := by
  rw [lineWith] at h
  obtain ⟨⟨p, cs₁⟩, -, h⟩ := Option.bind_eq_some_iff.mp h
  obtain ⟨cs₂, -, h⟩ := Option.bind_eq_some_iff.mp h
  split at h
  · obtain ⟨cs₃, -, h⟩ := Option.bind_eq_some_iff.mp h
    obtain ⟨⟨v, cs₄⟩, hv, h⟩ := Option.bind_eq_some_iff.mp h
    obtain ⟨rfl, -⟩ := Prod.mk.inj (Option.some.inj h)
    exact hvalue cs₃ v cs₄ hv
  · exact absurd h (by simp)

/-- **A value that is read has distinct keys.** -/
theorem distinct_of_valueTo (depth : ℕ) (cs : List Char) (v : Value) (rest : List Char)
    (h : valueTo depth cs = some (v, rest)) : v.Distinct := by
  -- on the levels that are left, as the reader goes
  induction depth using Nat.strong_induction_on generalizing cs v rest with
  | _ depth ih =>
  rw [valueTo.eq_def] at h
  split at h
  · obtain ⟨⟨vs, rest'⟩, hvs, heq⟩ := Option.map_eq_some_iff.mp h
    obtain ⟨rfl, -⟩ := Prod.mk.inj heq
    exact .array (Reader.forall_of_elements (ih _ (Nat.lt_succ_self _)) hvs)
  · obtain ⟨⟨lines, rest'⟩, hlines, h⟩ := Option.bind_eq_some_iff.mp h
    obtain ⟨v', hv', heq⟩ := Option.map_eq_some_iff.mp h
    obtain ⟨rfl, -⟩ := Prod.mk.inj heq
    obtain ⟨entries, hentries, rfl⟩ := Option.map_eq_some_iff.mp hv'
    have hdistinct : ∀ line ∈ lines, line.2.Distinct :=
      Reader.forall_of_elements
        (fun cs line rest => distinct_of_lineWith (ih _ (Nat.lt_succ_self _))) hlines
    refine distinct_of_tableOf? (fun p hp => ?_) hentries
    obtain ⟨line, hline, rfl⟩ := List.mem_map.mp hp
    exact hdistinct line hline
  · obtain ⟨⟨s, rest'⟩, -, heq⟩ := Option.map_eq_some_iff.mp h
    obtain ⟨rfl, -⟩ := Prod.mk.inj heq
    exact .scalar trivial
  · obtain ⟨⟨s, rest'⟩, -, heq⟩ := Option.map_eq_some_iff.mp h
    obtain ⟨rfl, -⟩ := Prod.mk.inj heq
    exact .scalar trivial
  · exact .scalar (Scalar.isScalar_of_read h)

theorem distinct_of_piece {cs rest : List Char} {p : Piece} (h : piece cs = some (p, rest)) :
    p.Distinct := by
  rw [piece.eq_def] at h
  split at h
  · obtain ⟨⟨path, cs₁⟩, -, h⟩ := Option.bind_eq_some_iff.mp h
    obtain ⟨⟨_, cs₂⟩, -, h⟩ := Option.bind_eq_some_iff.mp h
    obtain ⟨rfl, -⟩ := Prod.mk.inj (Option.some.inj h)
    trivial
  · obtain ⟨⟨path, cs₁⟩, -, h⟩ := Option.bind_eq_some_iff.mp h
    obtain ⟨⟨_, cs₂⟩, -, h⟩ := Option.bind_eq_some_iff.mp h
    obtain ⟨rfl, -⟩ := Prod.mk.inj (Option.some.inj h)
    trivial
  · obtain ⟨⟨line, cs₁⟩, hline, heq⟩ := Option.map_eq_some_iff.mp h
    obtain ⟨rfl, -⟩ := Prod.mk.inj heq
    exact distinct_of_lineWith (distinct_of_valueTo deepest) hline

theorem distinct_of_piecesTo {limit : ℕ} {cs : List Char} {ps : List Piece}
    (h : piecesTo limit cs = some ps) : ∀ p ∈ ps, p.Distinct := by
  induction limit generalizing cs ps with
  | zero => exact absurd h (by simp [piecesTo])
  | succ limit ih =>
    rw [piecesTo] at h
    obtain ⟨cs₁, -, h⟩ := Option.bind_eq_some_iff.mp h
    split at h
    · obtain rfl := Option.some.inj h
      simp
    · obtain ⟨⟨p, cs₂⟩, hp, h⟩ := Option.bind_eq_some_iff.mp h
      obtain ⟨cs₃, -, h⟩ := Option.bind_eq_some_iff.mp h
      obtain ⟨qs, hqs, h⟩ := Option.bind_eq_some_iff.mp h
      obtain rfl := Option.some.inj h
      intro q hq
      rcases List.mem_cons.mp hq with rfl | hq
      · exact distinct_of_piece hp
      · exact ih hqs q hq

/-- **No table of a document has a key twice.** -/
theorem distinct_of_parse? {document : String} {entries : Entries}
    (h : parse? document = some entries) : (Value.table entries).Distinct := by
  obtain ⟨ps, hps, htable⟩ := Option.bind_eq_some_iff.mp h
  exact distinct_of_tableOf? (distinct_of_piecesTo hps) htable

end TextGauge.Toml
