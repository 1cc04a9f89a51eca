import Mathlib.Data.List.Nodup

/-!
# Look-up by distinct keys

In a list of entries with distinct keys a key leads to at most one value, so look-up is membership
(`TextGauge.lookup_eq_some_iff_mem`) and the order of the entries does not matter to it
(`TextGauge.lookup_eq_of_perm`).
-/

namespace TextGauge

variable {α : Type} {entries entries' : List (String × α)} {key : String} {x : α}

theorem lookup_eq_none_iff_not_mem {κ : Type} [BEq κ] [LawfulBEq κ] {entries : List (κ × α)}
    {key : κ} : entries.lookup key = none ↔ key ∉ entries.map Prod.fst := by
  rw [List.lookup_eq_none_iff]
  constructor
  · intro h hmem
    obtain ⟨entry, hentry, rfl⟩ := List.mem_map.mp hmem
    simpa using h entry hentry
  · intro h entry hentry
    rw [bne_iff_ne]
    rintro rfl
    exact h (List.mem_map_of_mem hentry)

theorem mem_of_lookup (h : entries.lookup key = some x) : (key, x) ∈ entries := by
  obtain ⟨before, after, rfl, -⟩ := List.lookup_eq_some_iff.mp h
  exact List.mem_append_right before List.mem_cons_self

/-- The value behind a key is that of its only entry. -/
theorem eq_of_mem_of_nodup (hnodup : (entries.map Prod.fst).Nodup) {y : α}
    (hx : (key, x) ∈ entries) (hy : (key, y) ∈ entries) : x = y :=
  congrArg Prod.snd (List.inj_on_of_nodup_map hnodup hx hy rfl)

/-- **Look-up is membership**, where keys are distinct. -/
theorem lookup_eq_some_iff_mem (hnodup : (entries.map Prod.fst).Nodup) :
    entries.lookup key = some x ↔ (key, x) ∈ entries := by
  refine ⟨mem_of_lookup, fun hmem => ?_⟩
  rcases hlookup : entries.lookup key with _ | y
  · exact absurd (List.mem_map_of_mem hmem) (lookup_eq_none_iff_not_mem.mp hlookup)
  · rw [eq_of_mem_of_nodup hnodup hmem (mem_of_lookup hlookup)]

/-- A value behind a key that is looked up is what is found there. -/
theorem exists_of_lookup_eq_map (hnodup : (entries.map Prod.fst).Nodup) {β : Type} {f : β → α}
    {y : Option β} (h : entries.lookup key = y.map f) (hmem : (key, x) ∈ entries) :
    ∃ z, x = f z := by
  rw [(lookup_eq_some_iff_mem hnodup).mpr hmem, eq_comm, Option.map_eq_some_iff] at h
  obtain ⟨z, -, hz⟩ := h
  exact ⟨z, hz.symm⟩

/-- **Look-up does not depend on the order of the entries**, where keys are distinct. -/
theorem lookup_eq_of_perm (hnodup : (entries.map Prod.fst).Nodup) (h : entries.Perm entries') :
    entries.lookup key = entries'.lookup key := by
  refine Option.ext fun x => ?_
  rw [lookup_eq_some_iff_mem hnodup, lookup_eq_some_iff_mem ((h.map Prod.fst).nodup_iff.mp hnodup)]
  exact h.mem_iff

/-- A further entry leads its key to its value, if the key led nowhere before. -/
theorem lookup_append_self (h : key ∉ entries.map Prod.fst) :
    (entries ++ [(key, x)]).lookup key = some x := by
  rw [List.lookup_append, lookup_eq_none_iff_not_mem.mpr h]
  simp

/-- A further entry leads no other key anywhere. -/
theorem lookup_append_of_ne {other : String} (h : other ≠ key) :
    (entries ++ [(key, x)]).lookup other = entries.lookup other := by
  have hne : (other == key) = false := beq_false_of_ne h
  rw [List.lookup_append, List.lookup_cons, hne]
  simp

end TextGauge
