import Mathlib.Logic.Function.Basic
import TextGauge.Toml.Table

/-!
# Building the table of a document

What the entries of a table under construction lead to is a partial function of the key
(`TextGauge.Toml.Node.Lists`): adding a key and replacing what a key leads to are updates of it.
For each way in which a piece adds to a table there is one lemma that says which update it is;
lines that follow one another under a header, or that are not under any, add up to the list of
their keys and values.
-/

namespace TextGauge.Toml

namespace Node

/-! ### Entries as a function of the key -/

/-- **Entries as a function**: they lead each key to the node that `f` says. -/
structure Lists (entries : List (String × Node)) (f : String → Option Node) : Prop where
  sound : ∀ entry ∈ entries, f entry.1 = some entry.2
  complete : ∀ key, (f key).isSome → ∃ entry ∈ entries, entry.1 = key

variable {entries : List (String × Node)} {f : String → Option Node} {key : String} {node : Node}

theorem lists_nil : Lists [] fun _ => none where
  sound _ h := absurd h List.not_mem_nil
  complete _ h := absurd h (by decide)

theorem Lists.lookup (h : Lists entries f) (key : String) : entries.lookup key = f key := by
  -- look-up stops at the first entry with the key, and all of these agree with `f`
  rcases hlookup : entries.lookup key with _ | node
  · rcases hf : f key with _ | node
    · rfl
    · obtain ⟨entry, hmem, hkey⟩ := h.complete key (by rw [hf]; rfl)
      have hne := List.lookup_eq_none_iff.mp hlookup entry hmem
      rw [hkey] at hne
      simp at hne
  · obtain ⟨before, after, rfl, -⟩ := List.lookup_eq_some_iff.mp hlookup
    exact (h.sound (key, node) (by simp)).symm

/-- **Adding a key** that leads nowhere yet. -/
theorem Lists.append (h : Lists entries f) (hkey : f key = none) :
    Lists (entries ++ [(key, node)]) (Function.update f key (some node)) where
  sound entry hmem := by
    rcases List.mem_append.mp hmem with hmem | hmem
    · have hne : entry.1 ≠ key := by
        intro he
        have hsome := h.sound entry hmem
        rw [he, hkey] at hsome
        exact absurd hsome (by simp)
      rw [Function.update_of_ne hne, h.sound entry hmem]
    · obtain rfl := List.mem_singleton.mp hmem
      exact Function.update_self ..
  complete other hother := by
    by_cases he : other = key
    · exact ⟨(key, node), by simp, he.symm⟩
    · rw [Function.update_of_ne he] at hother
      obtain ⟨entry, hmem, hentry⟩ := h.complete other hother
      exact ⟨entry, List.mem_append_left _ hmem, hentry⟩

/-- **Replacing** what a key leads to. -/
theorem Lists.replace (h : Lists entries f) (hkey : (f key).isSome) :
    Lists (Node.replace key node entries) (Function.update f key (some node)) where
  sound entry hmem := by
    obtain ⟨old, hold, rfl⟩ := List.mem_map.mp hmem
    by_cases he : old.1 = key
    · rw [if_pos he]
      exact Function.update_self ..
    · rw [if_neg he, Function.update_of_ne he, h.sound old hold]
  complete other hother := by
    have hsome : (f other).isSome := by
      by_cases he : other = key
      · rw [he]
        exact hkey
      · rwa [Function.update_of_ne he] at hother
    obtain ⟨entry, hmem, rfl⟩ := h.complete other hsome
    refine ⟨_, List.mem_map_of_mem hmem, ?_⟩
    by_cases he : entry.1 = key
    · rw [if_pos he, he]
    · rw [if_neg he]

/-! ### Finished values -/

/-- Entries whose nodes are finished values. -/
def leaves (entries : Entries) : List (String × Node) :=
  entries.map fun (key, v) => (key, value v)

@[simp] theorem leaves_append (l₁ l₂ : Entries) : leaves (l₁ ++ l₂) = leaves l₁ ++ leaves l₂ :=
  List.map_append

@[simp] theorem toEntries_leaves (entries : Entries) : toEntries (leaves entries) = entries := by
  induction entries with
  | nil => rfl
  | cons entry entries ih =>
    rw [leaves, List.map_cons, toEntries, toValue]
    rw [leaves] at ih
    rw [ih]

/-- The values of entries are those of their nodes. -/
theorem toEntries_eq_map (entries : List (String × Node)) :
    toEntries entries = entries.map fun entry => (entry.1, entry.2.toValue) := by
  induction entries with
  | nil => rfl
  | cons entry entries ih => rw [toEntries, ih, List.map_cons]

theorem lookup_leaves_eq_none {entries : Entries} (h : key ∉ entries.map Prod.fst) :
    (leaves entries).lookup key = none := by
  rw [List.lookup_eq_none_iff]
  intro entry hmem
  obtain ⟨old, hold, rfl⟩ := List.mem_map.mp hmem
  have hne : key ≠ old.1 := fun he => h (by rw [he]; exact List.mem_map_of_mem hold)
  simpa using hne

end Node

open Node (Lists leaves)

/-! ### What one piece adds -/

section Add

variable {entries inner : List (String × Node)} {name key : String} {v : Value}

theorem add_header (h : entries.lookup name = none) (current : List String) :
    Draft.add ⟨entries, current⟩ (.header ⟨[], name⟩) =
      some ⟨entries ++ [(name, .table .header [])], [name]⟩ := by
  simp [Draft.add, Node.along, Node.openTable, h, Path.toWay]

theorem add_line (h : entries.lookup key = none) :
    Draft.add ⟨entries, []⟩ (.line ⟨[], key⟩ v) = some ⟨entries ++ [(key, .value v)], []⟩ := by
  simp [Draft.add, Node.along, Node.setDotted, Node.set, h]

theorem add_line_header (h : entries.lookup name = some (.table .header inner))
    (hkey : inner.lookup key = none) :
    Draft.add ⟨entries, [name]⟩ (.line ⟨[], key⟩ v) =
      some ⟨Node.replace name (.table .header (inner ++ [(key, .value v)])) entries, [name]⟩ := by
  simp [Draft.add, Node.along, Node.setDotted, Node.set, h, hkey]

/-- The first dotted key of a table makes the table. -/
theorem add_dotted_first (h : entries.lookup name = none) :
    Draft.add ⟨entries, []⟩ (.line ⟨[name], key⟩ v) =
      some ⟨entries ++ [(name, .table .dotted [(key, .value v)])], []⟩ := by
  simp [Draft.add, Node.along, Node.setDotted, Node.setInDotted, Node.set, h]

/-- A further dotted key adds to the table that the first one made. -/
theorem add_dotted_further (h : entries.lookup name = some (.table .dotted inner))
    (hkey : inner.lookup key = none) :
    Draft.add ⟨entries, []⟩ (.line ⟨[name], key⟩ v) =
      some ⟨Node.replace name (.table .dotted (inner ++ [(key, .value v)])) entries, []⟩ := by
  simp [Draft.add, Node.along, Node.setDotted, Node.setInDotted, Node.set, h, hkey]

end Add

/-! ### What lines add up to -/

/-- Lines `key = value`. -/
def lines (entries : Entries) : List Piece :=
  entries.map fun (key, v) => .line ⟨[], key⟩ v

/-- **Lines that are not under a header** add up to their keys and values. -/
theorem foldlM_lines {done entries : Entries} (h : ((done ++ entries).map Prod.fst).Nodup) :
    (lines entries).foldlM Draft.add ⟨leaves done, []⟩ = some ⟨leaves (done ++ entries), []⟩ := by
  -- `done` are the lines before, and the key of the next one is none of theirs
  induction entries generalizing done with
  | nil => simp [lines]
  | cons entry entries ih =>
    obtain ⟨key, v⟩ := entry
    have hkey : key ∉ done.map Prod.fst := by
      rw [List.map_append, List.nodup_append] at h
      exact fun hmem => h.2.2 key hmem key (by simp) rfl
    have hrest : (lines entries).foldlM Draft.add ⟨leaves (done ++ [(key, v)]), []⟩ =
        some ⟨leaves (done ++ [(key, v)] ++ entries), []⟩ := ih (by simpa using h)
    rw [List.append_assoc, List.singleton_append] at hrest
    rw [lines, List.map_cons, List.foldlM_cons, add_line (Node.lookup_leaves_eq_none hkey)]
    simpa [lines, leaves] using hrest

/-- Such lines alone are the table of their keys and values. -/
theorem tableOf?_lines {entries : Entries} (h : (entries.map Prod.fst).Nodup) :
    tableOf? (lines entries) = some entries := by
  have hfold : (lines entries).foldlM Draft.add ⟨[], []⟩ = some ⟨leaves entries, []⟩ :=
    @foldlM_lines [] entries h
  rw [tableOf?, hfold, Option.map_some, Node.toEntries_leaves]

/-- **Lines under a header** add up to their keys and values, in the table of the header. -/
theorem foldlM_lines_header {f : String → Option Node} {drafted : List (String × Node)}
    {name : String} {done entries : Entries}
    (hlists : Lists drafted (Function.update f name (some (.table .header (leaves done)))))
    (h : ((done ++ entries).map Prod.fst).Nodup) :
    ∃ drafted', (lines entries).foldlM Draft.add ⟨drafted, [name]⟩ = some ⟨drafted', [name]⟩ ∧
      Lists drafted'
        (Function.update f name (some (.table .header (leaves (done ++ entries))))) := by
  -- as without a header, but each line replaces the table that the one before has left
  induction entries generalizing drafted done with
  | nil => exact ⟨drafted, rfl, by simpa using hlists⟩
  | cons entry entries ih =>
    obtain ⟨key, v⟩ := entry
    have hkey : key ∉ done.map Prod.fst := by
      rw [List.map_append, List.nodup_append] at h
      exact fun hmem => h.2.2 key hmem key (by simp) rfl
    have htable : drafted.lookup name = some (.table .header (leaves done)) := by
      rw [hlists.lookup, Function.update_self]
    have hnext : Lists
        (Node.replace name (.table .header (leaves done ++ [(key, .value v)])) drafted)
        (Function.update f name (some (.table .header (leaves (done ++ [(key, v)]))))) := by
      rw [Node.leaves_append,
        ← Function.update_idem (a := name) (some (Node.table .header (leaves done))) _ f]
      exact hlists.replace (by rw [Function.update_self]; rfl)
    obtain ⟨drafted', hfold, hlists'⟩ := ih hnext (by simpa using h)
    refine ⟨drafted', ?_, by simpa using hlists'⟩
    rw [lines, List.map_cons, List.foldlM_cons,
      add_line_header htable (Node.lookup_leaves_eq_none hkey)]
    exact hfold

end TextGauge.Toml
