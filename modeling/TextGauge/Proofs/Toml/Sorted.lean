import Mathlib.Data.List.Induction
import TextGauge.Proofs.Lookup
import TextGauge.Proofs.Toml.Keys
import TextGauge.Proofs.Toml.Place
import TextGauge.Proofs.Utf8.Order
import TextGauge.Settings.FromToml

/-!
# Sorted entries

Tables are read with their entries sorted by the keys, which puts them in the order of the bytes of
the keys (`TextGauge.Toml.pairwise_sorted`). Where keys are distinct this undoes every reordering
(`TextGauge.Toml.sorted_eq_of_perm`). So a loop over sorted entries judges what lies behind the
keys, the first one first; what it keeps from entry to entry holds of all entries; and it has the
same outcome for two tables that **reorder** one another (`TextGauge.Toml.Value.Reorders`), at
whatever depth they do so.
-/

namespace TextGauge.Toml

theorem mem_sorted {entries : Entries} {entry : String × Value} :
    entry ∈ sorted entries ↔ entry ∈ entries :=
  List.mem_mergeSort

/-- **Sorted entries are in the order of the bytes of their keys**, if these are distinct. -/
theorem pairwise_sorted {entries : Entries} (hnodup : (entries.map Prod.fst).Nodup) :
    (sorted entries).Pairwise fun x y => Step.Before (.key x.1) (.key y.1) := by
  have hle : (sorted entries).Pairwise fun x y => decide (x.1 ≤ y.1) = true :=
    List.pairwise_mergeSort (fun x y z hxy hyz => by
      simp only [decide_eq_true_eq] at hxy hyz ⊢
      exact String.le_trans hxy hyz) (fun x y => by
      simpa using String.le_total x.1 y.1) entries
  have hne : (sorted entries).Pairwise fun x y => x.1 ≠ y.1 := by
    have hkeys : ((sorted entries).map Prod.fst).Nodup :=
      ((List.mergeSort_perm entries _).map Prod.fst).nodup_iff.mpr hnodup
    exact List.pairwise_map.mp hkeys
  refine (hle.and hne).imp ?_
  rintro x y ⟨hxy, hxy'⟩
  exact .key (Utf8.encode_lt_encode_iff.mpr (lt_of_le_of_ne (of_decide_eq_true hxy) hxy'))

/-- Sorting changes no look-up. -/
theorem lookup_sorted {entries : Entries} (hnodup : (entries.map Prod.fst).Nodup) (key : String) :
    (sorted entries).lookup key = entries.lookup key :=
  (lookup_eq_of_perm hnodup (List.mergeSort_perm entries _).symm).symm

/-- **Sorting undoes every reordering**, where keys are distinct. -/
theorem sorted_eq_of_perm {entries entries' : Entries} (hnodup : (entries.map Prod.fst).Nodup)
    (h : entries.Perm entries') : sorted entries = sorted entries' := by
  have hperm : (sorted entries).Perm (sorted entries') :=
    (List.mergeSort_perm entries _).trans (h.trans (List.mergeSort_perm entries' _).symm)
  have hnodup' : (entries'.map Prod.fst).Nodup := (h.map Prod.fst).nodup_iff.mp hnodup
  refine hperm.eq_of_pairwise (fun x y _ _ hxy hyx => ?_) (pairwise_sorted hnodup)
    (pairwise_sorted hnodup')
  exact absurd hyx hxy.asymm

/-- The rows of a table, sorted, are its sorted entries. -/
theorem sorted_eq_map {α : Type} (side : α → Value) {rows : List (String × α)} {entries : Entries}
    (hnodup : (entries.map Prod.fst).Nodup)
    (h : entries.Perm (rows.map fun row => (row.1, side row.2))) :
    sorted entries =
      (rows.mergeSort fun x y => decide (x.1 ≤ y.1)).map fun row => (row.1, side row.2) := by
  rw [sorted_eq_of_perm hnodup h, sorted, List.map_mergeSort]
  intro x _ y _
  rfl

/-! ### Loops -/

section Loop

variable {σ : Type} {next : σ → String × Value → Except Mismatch σ}

/-- A loop over the sorted entries of a table judges what lies behind its keys. -/
theorem judges_sorted {R : String × Value → Place → Mismatch → Prop} {entries : Entries}
    (hnodup : (entries.map Prod.fst).Nodup)
    (h : ∀ entry ∈ entries, ∀ s, Judges (next s entry) (R entry)) (s : σ) :
    Judges ((sorted entries).foldlM next s) fun place m =>
      ∃ entry ∈ entries, ∃ rest, place = .key entry.1 :: rest ∧ R entry rest m := by
  refine (judges_foldlM (fun entry hentry => h entry (mem_sorted.mp hentry))
    (pairwise_sorted hnodup) s).congr fun place m => ?_
  simp only [mem_sorted]

/-- **A loop over sorted entries** with distinct keys establishes what each further entry keeps. -/
theorem foldlM_sorted_ok {Inv : Entries → σ → Prop} {entries : Entries}
    (hnodup : (entries.map Prod.fst).Nodup) {s s' : σ} (hstart : Inv [] s)
    (hnext : ∀ done, ∀ entry ∈ entries, ∀ s₁ s₂, Inv done s₁ → entry.1 ∉ done.map Prod.fst →
      next s₁ entry = .ok s₂ → Inv (done ++ [entry]) s₂)
    (h : (sorted entries).foldlM next s = .ok s') : Inv (sorted entries) s' := by
  have hkeys : ((sorted entries).map Prod.fst).Nodup :=
    ((List.mergeSort_perm entries _).map Prod.fst).nodup_iff.mpr hnodup
  have hmem : ∀ entry ∈ sorted entries, entry ∈ entries := fun entry => mem_sorted.mp
  generalize sorted entries = l at hkeys hmem h ⊢
  -- from the front, since the invariant is about what has been read
  induction l using List.reverseRecOn generalizing s' with
  | nil =>
    obtain rfl := Except.ok.inj h
    exact hstart
  | append_singleton done entry ih =>
    rw [List.map_append, List.nodup_append] at hkeys
    rw [List.foldlM_append] at h
    obtain ⟨s₁, hs₁, hlast⟩ := bind_eq_ok_iff.mp h
    rw [List.foldlM_cons] at hlast
    obtain ⟨s₂, hs₂, hrest⟩ := bind_eq_ok_iff.mp hlast
    obtain rfl := Except.ok.inj hrest
    have hdone : Inv done s₁ :=
      ih hkeys.1 (fun entry hentry => hmem entry (List.mem_append_left _ hentry)) hs₁
    exact hnext done entry (hmem entry (by simp)) s₁ s₂ hdone
      (fun hkey => hkeys.2.2 entry.1 hkey entry.1 (by simp) rfl) hs₂

/-- A loop over sorted entries has the same outcome on either side, if each of its steps has. -/
theorem foldlM_sorted_eq {rows : List (String × Value × Value)} {entries entries' : Entries}
    (hnodup : (entries.map Prod.fst).Nodup)
    (h : entries.Perm (rows.map fun row => (row.1, row.2.1)))
    (h' : entries'.Perm (rows.map fun row => (row.1, row.2.2)))
    (hnext : ∀ row ∈ rows, ∀ s, next s (row.1, row.2.1) = next s (row.1, row.2.2)) (s : σ) :
    (sorted entries).foldlM next s = (sorted entries').foldlM next s := by
  have hnodup' : (entries'.map Prod.fst).Nodup := by
    have hrows := (h.map Prod.fst).nodup_iff.mp hnodup
    refine (h'.map Prod.fst).nodup_iff.mpr ?_
    rw [List.map_map] at hrows ⊢
    exact hrows
  have hsorted : ∀ row ∈ rows.mergeSort fun x y => decide (x.1 ≤ y.1), ∀ s,
      next s (row.1, row.2.1) = next s (row.1, row.2.2) := fun row hrow =>
    hnext row (List.mem_mergeSort.mp hrow)
  rw [sorted_eq_map Prod.fst hnodup h, sorted_eq_map Prod.snd hnodup' h',
    List.foldlM_map, List.foldlM_map]
  generalize rows.mergeSort (fun x y => decide (x.1 ≤ y.1)) = l at hsorted
  induction l generalizing s with
  | nil => rfl
  | cons row l ih =>
    rw [List.foldlM_cons, List.foldlM_cons, hsorted row List.mem_cons_self s]
    exact congrArg _ (funext fun s' => ih s' fun other hother =>
      hsorted other (List.mem_cons_of_mem row hother))

end Loop

/-! ### Reordered values -/

/-- **The same value in another order**: the entries of each table of it may be listed in another
order. The rows of a table are its keys, each with what it leads to on either side. -/
inductive Value.Reorders : Value → Value → Prop
  | refl (v : Value) : Reorders v v
  | array (elements : List (Value × Value)) : (∀ element ∈ elements, Reorders element.1 element.2) →
    Reorders (.array (elements.map Prod.fst)) (.array (elements.map Prod.snd))
  | table (rows : List (String × Value × Value)) {entries entries' : Entries} :
    (∀ row ∈ rows, Reorders row.2.1 row.2.2) →
    entries.Perm (rows.map fun row => (row.1, row.2.1)) →
    entries'.Perm (rows.map fun row => (row.1, row.2.2)) →
    Reorders (.table entries) (.table entries')

theorem Value.Reorders.toInt32_eq {v w : Value} (h : v.Reorders w) : v.toInt32 = w.toInt32 := by
  cases h <;> rfl

theorem Value.Reorders.toText_eq {v w : Value} (h : v.Reorders w) : v.toText = w.toText := by
  cases h <;> rfl

end TextGauge.Toml
