import TextGauge.Proofs.Toml.Building
import TextGauge.Proofs.Toml.Lines
import TextGauge.Settings.ToToml

/-!
# The table of a written document

A document that is written from a layout stands for a table that leads the name of each table of
the layout to the entries that its blocks have for it, in their order
(`TextGauge.Settings.Layout.parse?_text`). The blocks may alternate between tables; what they have
to agree on is collected in `TextGauge.Settings.Layout.Consistent`.

The proof goes block by block. The state of the reader is tied to the blocks that are read by
`TextGauge.Settings.Layout.Drafted`: each key leads to what the blocks of that table make together,
and while no block has had a header, lines go to the table of the whole document.
-/

namespace TextGauge.Settings

open Toml

/-- The entries of a table as a document holds them. -/
def values (entries : List (String × Literal)) : Entries :=
  entries.map fun (key, literal) => (key, literal.value)

@[simp] theorem values_append (l₁ l₂ : List (String × Literal)) :
    values (l₁ ++ l₂) = values l₁ ++ values l₂ :=
  List.map_append

@[simp] theorem keys_values (entries : List (String × Literal)) :
    (values entries).map Prod.fst = entries.map Prod.fst := by
  simp [values]

/-! ### Lines of a block -/

namespace Block

/-- The pieces of a document that a block is read as. -/
def pieces : Block → List Piece
  | header table entries => .header ⟨[], table⟩ :: Toml.lines (values entries)
  | dotted table key literal => [.line ⟨[table], key⟩ literal.value]
  | inline table entries => [.line ⟨[], table⟩ (.table (values entries))]

/-- Whether the names of a block can be written as keys without quotes. -/
structure Named (block : Block) : Prop where
  table : IsName block.table
  keys : ∀ entry ∈ block.entries, IsName entry.1

end Block

theorem Literal.exists_text_eq_cons (capital : Bool) (literal : Literal) :
    ∃ c cs, literal.text capital = c :: cs ∧ isSolid c := by
  cases literal with
  | integer n =>
    obtain ⟨c, cs, hcons, hc⟩ := Decimal.exists_ofInt_eq_cons n.toInt
    refine ⟨c, cs, hcons, isSolid_of_isBare ?_⟩
    rcases hc with rfl | hdigit
    · decide
    · simp [isBare, Char.isAlphanum, hdigit]
  | string s => exact ⟨'"', _, rfl, by decide⟩

/-- A written entry is read as its key and its value. -/
theorem lineWith_entryText {gap : List Char → Option (List Char)} (hgap : SkipsBlanks gap)
    (capital : Bool) (depth : ℕ) {name : List Char} {p : Path} (literal : Literal)
    (hname : ∀ cs, path (name ++ ' ' :: '=' :: cs) = some (p, '=' :: cs)) {rest : List Char}
    (hrest : Follows rest) :
    lineWith gap (valueTo depth) (entryText capital name literal ++ rest) =
      some ((p, literal.value), rest) :=
  lineWith_append hgap hname
    ⟨literal.exists_text_eq_cons capital, literal.valueTo_text capital depth hrest⟩

theorem exists_entryText_eq_cons {name : String} (h : IsName name) (capital : Bool)
    (after : List Char) (literal : Literal) :
    ∃ c cs, entryText capital (name.toList ++ after) literal = c :: cs ∧ isBare c := by
  obtain ⟨c, cs, hcons, hc⟩ := h.exists_eq_cons
  exact ⟨c, _, by rw [entryText, hcons, List.cons_append, List.cons_append, List.cons_append], hc⟩

/-- An entry on a line of its own. -/
theorem lineOf_entryText {name : String} (h : IsName name) (capital : Bool) {after : List Char}
    {p : Path} (literal : Literal)
    (hname : ∀ cs, path (name.toList ++ after ++ ' ' :: '=' :: cs) = some (p, '=' :: cs)) :
    LineOf (entryText capital (name.toList ++ after) literal) (.line p literal.value) := by
  obtain ⟨c, cs, hcons, hc⟩ := exists_entryText_eq_cons h capital after literal
  have hread := fun rest => lineWith_entryText skipsBlanks_skipBlank capital deepest literal hname
    (follows_lineEnd rest)
  rw [hcons] at hread ⊢
  exact lineOf_line hc hread

/-- The entries of a table are read as its lines. -/
theorem forall₂_lineOf_entries {entries : List (String × Literal)}
    (h : ∀ entry ∈ entries, IsName entry.1) (capital : Bool) :
    List.Forall₂ LineOf
      (entries.map fun (key, literal) => entryText capital key.toList literal)
      (Toml.lines (values entries)) := by
  induction entries with
  | nil => exact .nil
  | cons entry entries ih =>
    have hkey : IsName entry.1 := h entry List.mem_cons_self
    have hline : LineOf (entryText capital (entry.1.toList ++ []) entry.2)
        (.line ⟨[], entry.1⟩ entry.2.value) :=
      lineOf_entryText hkey capital entry.2 (by simpa using path_name hkey)
    rw [List.append_nil] at hline
    exact .cons hline (ih fun other hmem => h other (List.mem_cons_of_mem entry hmem))

/-- **An inline table** is read as the table of its entries. -/
theorem valueTo_inline {entries : List (String × Literal)} (hne : entries ≠ [])
    (h : ∀ entry ∈ entries, IsName entry.1) (hkeys : (entries.map Prod.fst).Nodup)
    (capital : Bool) (depth : ℕ) (rest : List Char) :
    valueTo (depth + 1) ('{' :: ' ' ::
        (List.intercalate [',', ' ']
          (entries.map fun (key, literal) => entryText capital key.toList literal)
          ++ ' ' :: '}' :: rest)) =
      some (.table (values entries), rest) := by
  have hread : ∀ entry ∈ entries, Reader.Element '}' (fun c => isBare c) Follows
      (lineWith (skipGap false) (valueTo depth)) (entryText capital entry.1.toList entry.2)
        (⟨[], entry.1⟩, entry.2.value) := by
    intro entry hmem
    refine ⟨?_, fun rest hrest => ?_⟩
    · obtain ⟨c, cs, hcons, hc⟩ := exists_entryText_eq_cons (h entry hmem) capital [] entry.2
      rw [List.append_nil] at hcons
      refine ⟨c, cs, hcons, hc, ?_⟩
      rintro rfl
      exact absurd hc (by decide)
    · exact lineWith_entryText skipsBlanks_skipGap capital depth entry.2
        (path_name (h entry hmem)) hrest
  have hlist := Reader.bracketed_intercalate layout_brace follows_comma follows_brace hne hread
    true rest
  rw [← append_intercalate hne, List.singleton_append, List.singleton_append, List.singleton_append,
    List.cons_append] at hlist
  have htable : inlineTable (entries.map fun entry => (⟨[], entry.1⟩, entry.2.value)) =
      some (.table (values entries)) := by
    have hlines : tableOf? (Toml.lines (values entries)) = some (values entries) :=
      tableOf?_lines (by rwa [keys_values])
    rw [Toml.lines, values, List.map_map] at hlines
    rw [inlineTable, List.map_map]
    exact congrArg (Option.map Value.table) hlines
  rw [valueTo, hlist, Option.bind_some]
  simp only [htable, Option.map_some]

/-- **The lines of a block are read as its pieces.** -/
theorem Block.forall₂_lineOf {block : Block} (h : block.Named) (hne : block.entries ≠ [])
    (hkeys : (block.entries.map Prod.fst).Nodup) (capital : Bool) :
    List.Forall₂ LineOf (block.lines capital) block.pieces := by
  cases block with
  | header table entries =>
    exact .cons (lineOf_header h.table) (forall₂_lineOf_entries h.keys capital)
  | dotted table key literal =>
    have hkey : IsName key := h.keys (key, literal) List.mem_cons_self
    exact .cons (lineOf_entryText h.table capital literal (path_point h.table hkey)) .nil
  | inline table entries =>
    have htable : IsName table := h.table
    have hvalue : ∀ rest, valueTo deepest ('{' :: ' ' :: (List.intercalate [',', ' ']
        (entries.map fun (key, literal) => entryText capital key.toList literal)
          ++ ' ' :: '}' :: rest)) = some (.table (values entries), rest) :=
      valueTo_inline hne h.keys hkeys capital 79
    have hreads : ∀ rest, ReadsAs (valueTo deepest) ('{' :: ' ' :: (List.intercalate [',', ' ']
        (entries.map fun (key, literal) => entryText capital key.toList literal) ++ [' ', '}']))
        (.table (values entries)) rest :=
      fun rest => ⟨⟨'{', _, rfl, by decide⟩, by simpa using hvalue rest⟩
    have hread := fun rest =>
      lineWith_append skipsBlanks_skipBlank (path_name htable) (hreads ('\n' :: rest))
    obtain ⟨c, cs, hcons, hc⟩ := htable.exists_eq_cons
    have hlines : Block.lines capital (.inline table entries) =
        [c :: (cs ++ [' ', '=', ' ', '{', ' '] ++ List.intercalate [',', ' ']
          (entries.map fun (key, literal) => entryText capital key.toList literal)
            ++ [' ', '}'])] := by
      simp [Block.lines, hcons]
    rw [hlines]
    exact .cons (lineOf_line hc fun rest => by simpa [hcons] using hread rest) .nil

/-- **The lines of a layout are read as the pieces of its blocks.** -/
theorem Layout.forall₂_lineOf {layout : Layout} (h : ∀ block ∈ layout, block.Named)
    (hne : ∀ block ∈ layout, block.entries ≠ [])
    (hkeys : ∀ block ∈ layout, (block.entries.map Prod.fst).Nodup) (capital : Bool) :
    List.Forall₂ LineOf (layout.flatMap (Block.lines capital)) (layout.flatMap Block.pieces) := by
  induction layout with
  | nil => exact .nil
  | cons block layout ih =>
    rw [List.flatMap_cons, List.flatMap_cons]
    refine List.rel_append (Block.forall₂_lineOf (h block List.mem_cons_self)
      (hne block List.mem_cons_self) (hkeys block List.mem_cons_self) capital) (ih ?_ ?_ ?_)
    · exact fun other hmem => h other (List.mem_cons_of_mem block hmem)
    · exact fun other hmem => hne other (List.mem_cons_of_mem block hmem)
    · exact fun other hmem => hkeys other (List.mem_cons_of_mem block hmem)

/-! ### What the blocks of a table make -/

/-- The node that a block of this kind makes of entries. -/
def Block.node (block : Block) (entries : List (String × Literal)) : Node :=
  match block with
  | header .. => .table .header (Node.leaves (values entries))
  | dotted .. => .table .dotted (Node.leaves (values entries))
  | inline .. => .value (.table (values entries))

/-- **The three styles make the same value.** -/
theorem Block.toValue_node (block : Block) (entries : List (String × Literal)) :
    (block.node entries).toValue = .table (values entries) := by
  cases block with
  | header | dotted => rw [node, Node.toValue, Node.toEntries_leaves]
  | inline => rfl

namespace Layout

/-- The entries that the blocks of a table have, in their order. -/
def entriesAt (layout : Layout) (table : String) : List (String × Literal) :=
  (layout.filter fun block => block.table = table).flatMap Block.entries

/-- What the name of a table leads to. The first of its blocks says of which kind it is. -/
def nodeAt (layout : Layout) (table : String) : Option Node :=
  (layout.find? fun block => block.table = table).map fun block =>
    block.node (layout.entriesAt table)

theorem entriesAt_append (l₁ l₂ : Layout) (table : String) :
    entriesAt (l₁ ++ l₂) table = l₁.entriesAt table ++ entriesAt l₂ table := by
  rw [entriesAt, List.filter_append, List.flatMap_append]
  rfl

theorem entriesAt_singleton (block : Block) : entriesAt [block] block.table = block.entries := by
  simp [entriesAt]

theorem entriesAt_singleton_of_ne {block : Block} {table : String} (h : block.table ≠ table) :
    entriesAt [block] table = [] := by
  simp [entriesAt, h]

variable {layout : Layout} {block : Block}

/-- A further block leaves the other tables as they are. -/
theorem nodeAt_append_of_ne {table : String} (h : block.table ≠ table) :
    nodeAt (layout ++ [block]) table = layout.nodeAt table := by
  rw [nodeAt, entriesAt_append, entriesAt_singleton_of_ne h, List.append_nil, List.find?_append]
  simp [nodeAt, h]

/-- The first block of a table. -/
theorem nodeAt_append_first (h : ∀ other ∈ layout, other.table ≠ block.table) :
    nodeAt (layout ++ [block]) =
      Function.update layout.nodeAt block.table (some (block.node block.entries)) := by
  funext table
  by_cases he : table = block.table
  · subst he
    have hnone : layout.find? (fun other => other.table = block.table) = none := by
      simpa using h
    have hentries : layout.entriesAt block.table = [] := by
      rw [entriesAt, List.filter_eq_nil_iff.mpr (by simpa using h), List.flatMap_nil]
    rw [Function.update_self, nodeAt, entriesAt_append, hentries, entriesAt_singleton,
      List.find?_append, hnone]
    simp
  · rw [Function.update_of_ne he, nodeAt_append_of_ne (Ne.symm he)]

/-- A further block of a table. -/
theorem nodeAt_append_further {first : Block}
    (h : layout.find? (fun other => other.table = block.table) = some first) :
    nodeAt (layout ++ [block]) = Function.update layout.nodeAt block.table
      (some (first.node (layout.entriesAt block.table ++ block.entries))) := by
  funext table
  by_cases he : table = block.table
  · subst he
    rw [Function.update_self, nodeAt, entriesAt_append, entriesAt_singleton, List.find?_append, h]
    rfl
  · rw [Function.update_of_ne he, nodeAt_append_of_ne (Ne.symm he)]

theorem nodeAt_eq_none (h : ∀ other ∈ layout, other.table ≠ block.table) :
    layout.nodeAt block.table = none := by
  simpa [nodeAt] using h

/-! ### Block by block -/

/-- What the blocks of a layout have to agree on: no table has a key twice, a table has one block
unless its blocks are dotted keys, and none without a header follows one with a header. -/
structure Consistent (layout : Layout) : Prop where
  keys : ∀ table, ((layout.entriesAt table).map Prod.fst).Nodup
  apart : layout.Pairwise fun x y => x.table = y.table → x.isDotted ∧ y.isDotted
  headersLast : layout.Pairwise fun x y => x.isHeader → y.isHeader

theorem Consistent.of_append {l₁ l₂ : Layout} (h : Consistent (l₁ ++ l₂)) : Consistent l₁ where
  keys table := by
    have hkeys := h.keys table
    rw [entriesAt_append, List.map_append] at hkeys
    exact (List.nodup_append.mp hkeys).1
  apart := (List.pairwise_append.mp h.apart).1
  headersLast := (List.pairwise_append.mp h.headersLast).1

/-- **The state of the reader** behind the blocks of a layout. -/
structure Drafted (layout : Layout) (draft : Draft) : Prop where
  lists : Node.Lists draft.entries layout.nodeAt
  current : (∀ block ∈ layout, block.isHeader = false) → draft.current = []

theorem drafted_nil : Drafted [] ⟨[], []⟩ where
  lists := Node.lists_nil
  current _ := rfl

/-- A block that is the first one of its table. -/
theorem Drafted.first {draft : Draft} (h : Drafted layout draft)
    (hconsistent : Consistent (layout ++ [block]))
    (hfirst : ∀ other ∈ layout, other.table ≠ block.table)
    (hcurrent : block.isHeader = false → draft.current = []) :
    ∃ draft', block.pieces.foldlM Draft.add draft = some draft' ∧
      Drafted (layout ++ [block]) draft' := by
  obtain ⟨entries, current⟩ := draft
  have hnone : layout.nodeAt block.table = none := nodeAt_eq_none hfirst
  have hlookup : entries.lookup block.table = none := by rw [h.lists.lookup, hnone]
  have hnode := nodeAt_append_first hfirst
  have hkeys : (block.entries.map Prod.fst).Nodup := by
    have hkeys := hconsistent.keys block.table
    rw [entriesAt_append, entriesAt_singleton, List.map_append] at hkeys
    exact (List.nodup_append.mp hkeys).2.1
  cases block with
  | header table pairs =>
    -- the header makes an empty table, and the lines under it fill that
    replace hlookup : entries.lookup table = none := hlookup
    obtain ⟨drafted, hfold, hlists⟩ :=
      @foldlM_lines_header layout.nodeAt _ table [] (values pairs)
        (h.lists.append hnone) (by rw [List.nil_append, keys_values]; exact hkeys)
    refine ⟨⟨drafted, [table]⟩, ?_, ?_, fun hall => ?_⟩
    · rw [Block.pieces, List.foldlM_cons, add_header hlookup]
      exact hfold
    · rw [hnode]
      exact hlists
    · exact absurd (hall (.header table pairs) (by simp)) (by simp [Block.isHeader])
  | dotted table key literal =>
    obtain rfl : current = [] := hcurrent rfl
    replace hlookup : entries.lookup table = none := hlookup
    have hadd : (Block.dotted table key literal).pieces.foldlM Draft.add ⟨entries, []⟩ =
        some ⟨entries ++ [(table, .table .dotted [(key, .value literal.value)])], []⟩ := by
      rw [Block.pieces, List.foldlM_cons, add_dotted_first hlookup]
      rfl
    refine ⟨_, hadd, ?_, fun _ => rfl⟩
    rw [hnode]
    exact h.lists.append hnone
  | inline table pairs =>
    obtain rfl : current = [] := hcurrent rfl
    replace hlookup : entries.lookup table = none := hlookup
    have hadd : (Block.inline table pairs).pieces.foldlM Draft.add ⟨entries, []⟩ =
        some ⟨entries ++ [(table, .value (.table (values pairs)))], []⟩ := by
      rw [Block.pieces, List.foldlM_cons, add_line hlookup]
      rfl
    refine ⟨_, hadd, ?_, fun _ => rfl⟩
    rw [hnode]
    exact h.lists.append hnone

/-- A further dotted key of a table. -/
theorem Drafted.further {draft : Draft} (h : Drafted layout draft)
    (hconsistent : Consistent (layout ++ [block])) {first : Block}
    (hfirst : layout.find? (fun other => other.table = block.table) = some first)
    (hcurrent : block.isHeader = false → draft.current = []) :
    ∃ draft', block.pieces.foldlM Draft.add draft = some draft' ∧
      Drafted (layout ++ [block]) draft' := by
  obtain ⟨entries, current⟩ := draft
  have hmem : first ∈ layout := List.mem_of_find?_eq_some hfirst
  have htable : first.table = block.table := by simpa using List.find?_some hfirst
  -- two blocks of one table are dotted keys, both of them
  have hdotted : first.isDotted ∧ block.isDotted :=
    (List.pairwise_append.mp hconsistent.apart).2.2 first hmem block (by simp) htable
  have hsome : layout.nodeAt block.table = some (first.node (layout.entriesAt block.table)) := by
    rw [nodeAt, hfirst, Option.map_some]
  have hnode := nodeAt_append_further hfirst
  have hkeys := hconsistent.keys block.table
  rw [entriesAt_append, entriesAt_singleton] at hkeys
  cases block with
  | header | inline => exact absurd hdotted.2 (by simp [Block.isDotted])
  | dotted table key literal =>
    cases first with
    | header | inline => exact absurd hdotted.1 (by simp [Block.isDotted])
    | dotted =>
      obtain rfl : current = [] := hcurrent rfl
      replace hsome : layout.nodeAt table =
          some (.table .dotted (Node.leaves (values (layout.entriesAt table)))) := hsome
      have hlookup := h.lists.lookup table
      rw [hsome] at hlookup
      have hkey : key ∉ (values (layout.entriesAt table)).map Prod.fst := by
        rw [List.map_append, List.nodup_append] at hkeys
        rw [keys_values]
        exact fun hmem => hkeys.2.2 key hmem key List.mem_cons_self rfl
      have hadd : (Block.dotted table key literal).pieces.foldlM Draft.add ⟨entries, []⟩ =
          some ⟨Node.replace table (.table .dotted (Node.leaves (values (layout.entriesAt table))
            ++ [(key, .value literal.value)])) entries, []⟩ := by
        rw [Block.pieces, List.foldlM_cons,
          add_dotted_further hlookup (Node.lookup_leaves_eq_none hkey)]
        rfl
      refine ⟨_, hadd, ?_, fun _ => rfl⟩
      rw [hnode, Block.node, values_append, Node.leaves_append]
      exact h.lists.replace (by rw [hsome]; rfl)

/-- **A further block**, whichever it is. -/
theorem Drafted.next {draft : Draft} (h : Drafted layout draft)
    (hconsistent : Consistent (layout ++ [block])) :
    ∃ draft', block.pieces.foldlM Draft.add draft = some draft' ∧
      Drafted (layout ++ [block]) draft' := by
  -- before a block without header there is none with one
  have hcurrent : block.isHeader = false → draft.current = [] := by
    intro hblock
    refine h.current fun other hother => ?_
    have hlast := (List.pairwise_append.mp hconsistent.headersLast).2.2 other hother block (by simp)
    by_contra hheader
    rw [hlast (by simpa using hheader)] at hblock
    exact absurd hblock (by decide)
  rcases hfind : layout.find? (fun other => other.table = block.table) with _ | first
  · exact h.first hconsistent (by simpa using hfind) hcurrent
  · exact h.further hconsistent hfind hcurrent

/-- **All blocks.** -/
theorem Drafted.all {draft : Draft} (h : Drafted layout draft) {rest : Layout}
    (hconsistent : Consistent (layout ++ rest)) :
    ∃ draft', (rest.flatMap Block.pieces).foldlM Draft.add draft = some draft' ∧
      Drafted (layout ++ rest) draft' := by
  -- the blocks pass from `rest` to `layout` one by one
  induction rest generalizing layout draft with
  | nil => exact ⟨draft, rfl, by rwa [List.append_nil]⟩
  | cons block rest ih =>
    rw [List.append_cons] at hconsistent ⊢
    obtain ⟨next, hnext, hdrafted⟩ := h.next hconsistent.of_append
    obtain ⟨last, hlast, hdrafted⟩ := ih hdrafted hconsistent
    refine ⟨last, ?_, hdrafted⟩
    rw [List.flatMap_cons, List.foldlM_append, hnext]
    exact hlast

/-! ### The document -/

theorem entriesAt_ne_nil_iff (hfilled : ∀ block ∈ layout, block.entries ≠ []) (table : String) :
    layout.entriesAt table ≠ [] ↔ ∃ block ∈ layout, block.table = table := by
  have hnil : layout.entriesAt table = [] ↔ ∀ block ∈ layout, block.table ≠ table := by
    rw [entriesAt, List.flatMap_eq_nil_iff]
    constructor
    · intro h block hmem he
      exact hfilled block hmem (h block (List.mem_filter.mpr ⟨hmem, by simpa using he⟩))
    · intro h block hmem
      obtain ⟨hmem, he⟩ := List.mem_filter.mp hmem
      exact absurd (by simpa using he) (h block hmem)
  rw [ne_eq, hnil]
  push Not
  rfl

/-- Whether entries lead the name of each table of a layout to the entries that its blocks have for
it, and nothing else to anything. -/
structure Tables (layout : Layout) (tables : Entries) : Prop where
  sound : ∀ entry ∈ tables, layout.entriesAt entry.1 ≠ [] ∧
    entry.2 = .table (values (layout.entriesAt entry.1))
  complete : ∀ table, layout.entriesAt table ≠ [] → ∃ entry ∈ tables, entry.1 = table

theorem Drafted.tables {draft : Draft} (h : Drafted layout draft)
    (hfilled : ∀ block ∈ layout, block.entries ≠ []) :
    layout.Tables (Node.toEntries draft.entries) where
  sound entry hmem := by
    rw [Node.toEntries_eq_map] at hmem
    obtain ⟨⟨table, node⟩, hentry, rfl⟩ := List.mem_map.mp hmem
    have hnode : layout.nodeAt table = some node := h.lists.sound _ hentry
    rw [nodeAt, Option.map_eq_some_iff] at hnode
    obtain ⟨first, hfirst, hvalue⟩ := hnode
    constructor
    · rw [entriesAt_ne_nil_iff hfilled]
      exact ⟨first, List.mem_of_find?_eq_some hfirst, by simpa using List.find?_some hfirst⟩
    · rw [← hvalue]
      exact first.toValue_node _
  complete table hne := by
    obtain ⟨block, hmem, rfl⟩ := (entriesAt_ne_nil_iff hfilled table).mp hne
    have hsome : (layout.nodeAt block.table).isSome := by
      rw [nodeAt, Option.isSome_map, List.find?_isSome]
      exact ⟨block, hmem, by simp⟩
    obtain ⟨entry, hentry, hkey⟩ := h.lists.complete _ hsome
    rw [Node.toEntries_eq_map]
    exact ⟨_, List.mem_map_of_mem hentry, hkey⟩

/-- A written document is parsed as the pieces of its blocks. -/
theorem parse?_text_eq (hnamed : ∀ block ∈ layout, block.Named)
    (hfilled : ∀ block ∈ layout, block.entries ≠ [])
    (hkeys : ∀ block ∈ layout, (block.entries.map Prod.fst).Nodup) (capital : Bool) :
    Toml.parse? (layout.text capital) = tableOf? (layout.flatMap Block.pieces) := by
  rw [Toml.parse?, text, String.toList_ofList,
    pieces_lines (forall₂_lineOf hnamed hfilled hkeys capital), Option.bind_some]

/-- **A written document is read as the tables of its layout.** -/
theorem parse?_text (hnamed : ∀ block ∈ layout, block.Named)
    (hfilled : ∀ block ∈ layout, block.entries ≠ []) (hconsistent : Consistent layout)
    (capital : Bool) :
    ∃ tables, Toml.parse? (layout.text capital) = some tables ∧ layout.Tables tables := by
  have hkeys : ∀ block ∈ layout, (block.entries.map Prod.fst).Nodup := by
    intro block hmem
    have hsublist : block.entries.Sublist (layout.entriesAt block.table) := by
      rw [entriesAt, List.flatMap_def]
      exact List.sublist_flatten_of_mem
        (List.mem_map_of_mem (List.mem_filter.mpr ⟨hmem, by simp⟩))
    exact (hconsistent.keys block.table).sublist (hsublist.map Prod.fst)
  obtain ⟨draft, hfold, hdrafted⟩ := drafted_nil.all hconsistent
  refine ⟨Node.toEntries draft.entries, ?_, hdrafted.tables hfilled⟩
  rw [parse?_text_eq hnamed hfilled hkeys, tableOf?, hfold, Option.map_some]

end Layout

end TextGauge.Settings
