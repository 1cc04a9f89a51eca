import TextGauge.Proofs.CommandLine.Items
import TextGauge.Proofs.Except

/-!
# What a command line that is filled item by item records

A command line **records** items (`TextGauge.CommandLine.Records`) if it says what each of them
says, sets nothing that none of them sets, and no two of them set the same. An item that can be set
adds itself to what is recorded (`TextGauge.CommandLine.Records.setItem`): it was not set before,
its value is one that may be set, and nothing else changes.
-/

namespace TextGauge.CommandLine

/-! ### Values that can be set -/

theorem textOf_eq_ok_iff {value : Bytes} {s : String} :
    textOf value = .ok s ↔ value = Utf8.encode s := by
  constructor
  · intro h
    rw [textOf] at h
    rcases hread : Utf8.decode? value with _ | t
    · rw [hread] at h
      exact absurd h (by simp)
    · rw [hread] at h
      obtain rfl : t = s := Except.ok.inj h
      exact (Utf8.decode?_eq_some_iff.mp hread).symm
  · rintro rfl
    exact textOf_encode s

/-- **What is taken for an integer of 32 bits** is a way to write it. -/
theorem isNumeral_of_int32Of {value : Bytes} {n : Int32} (h : int32Of value = .ok n) :
    IsNumeral n value := by
  rw [int32Of, bind_eq_ok_iff] at h
  obtain ⟨s, hs, hn⟩ := h
  obtain rfl := textOf_eq_ok_iff.mp hs
  rcases hread : (Decimal.int? s.toList).bind Decimal.int32? with _ | m
  · rw [hread] at hn
    exact absurd hn (by simp)
  · rw [hread] at hn
    obtain rfl : m = n := Except.ok.inj hn
    obtain ⟨k, hk, hm⟩ := Option.bind_eq_some_iff.mp hread
    obtain rfl := Decimal.int32?_eq_some_iff.mp hm
    exact ⟨s.toList, Decimal.spells_of_int? hk, by rw [String.ofList_toList]⟩

/-! ### One item more -/

variable {line line' : CommandLine} {item : Item}

/-- Whether a name is set can be seen on the command line cut down to it. -/
theorem sets_only (line : CommandLine) (name : Name) :
    sets (line.only [name]) name = sets line name := by
  rcases name with opt | flag
  · cases opt <;> rfl
  · cases flag <;> rfl

/-- So can what is said under a name. -/
theorem says_only (line : CommandLine) (item : Item) :
    Says (line.only [item.name]) item ↔ Says line item := by
  rcases item with ⟨opt, value⟩ | flag
  · cases opt <;> exact Iff.rfl
  · cases flag <;> exact Iff.rfl

/-- **What setting an item can do**: one rule for each option and flag, with what its value has to
be. -/
inductive ItemSets (line : CommandLine) : Item → CommandLine → Prop
  | text (s : String) : ¬line.has .text →
    ItemSets line (.option .text (Utf8.encode s))
      { line with settings := { line.settings with text := some s } }
  | level (s : String) : ¬line.has .level →
    ItemSets line (.option .level (Utf8.encode s))
      { line with settings := { line.settings with level := some s } }
  | a {value : Bytes} {n : Int32} : ¬line.has .a → IsNumeral n value →
    ItemSets line (.option .a value) { line with settings := { line.settings with a := some n } }
  | b {value : Bytes} {n : Int32} : ¬line.has .b → IsNumeral n value →
    ItemSets line (.option .b value) { line with settings := { line.settings with b := some n } }
  | config {value : Bytes} : ¬line.has .config → value ≠ [] →
    ItemSets line (.option .config value) { line with config := some value }
  | json : ¬line.json → ItemSets line (.flag .json) { line with json := true }
  | verbose : ¬line.verbose → ItemSets line (.flag .verbose) { line with verbose := true }

/-- **Nothing else can be set.** -/
theorem itemSets_of_setItem (h : line.setItem item = .ok line') : ItemSets line item line' := by
  rcases item with ⟨opt, value⟩ | flag
  · rw [setItem, setOption.eq_def] at h
    by_cases hfresh : line.has opt
    · rw [if_pos hfresh] at h
      exact absurd h (by simp)
    · rw [if_neg hfresh] at h
      cases opt with
      | text =>
        obtain ⟨s, hs, rfl⟩ := map_eq_ok_iff.mp h
        obtain rfl := textOf_eq_ok_iff.mp hs
        exact .text s hfresh
      | level =>
        obtain ⟨s, hs, rfl⟩ := map_eq_ok_iff.mp h
        obtain rfl := textOf_eq_ok_iff.mp hs
        exact .level s hfresh
      | a =>
        obtain ⟨n, hn, rfl⟩ := map_eq_ok_iff.mp h
        exact .a hfresh (isNumeral_of_int32Of hn)
      | b =>
        obtain ⟨n, hn, rfl⟩ := map_eq_ok_iff.mp h
        exact .b hfresh (isNumeral_of_int32Of hn)
      | config =>
        simp only at h
        split_ifs at h with hempty
        obtain rfl := Except.ok.inj h
        exact .config hfresh (by simpa using hempty)
  · cases flag with
    | json =>
      rw [setItem, setFlag] at h
      split_ifs at h with hfresh
      obtain rfl := Except.ok.inj h
      exact .json hfresh
    | verbose =>
      rw [setItem, setFlag] at h
      split_ifs at h with hfresh
      obtain rfl := Except.ok.inj h
      exact .verbose hfresh
    | help | version => exact absurd h (by simp [setItem, setFlag])

/-- An item that is set was not set before. -/
theorem ItemSets.fresh (h : ItemSets line item line') : ¬sets line item.name := by
  cases h with
  | text _ hfresh | level _ hfresh | a hfresh | b hfresh | config hfresh | json hfresh
  | verbose hfresh => exact hfresh

/-- The command line says it now. -/
theorem ItemSets.said (h : ItemSets line item line') : Says line' item := by
  cases h with
  | text s | level s => exact ⟨s, rfl, rfl⟩
  | @a value n _ hn | @b value n _ hn => exact ⟨n, rfl, hn⟩
  | config | json | verbose => rfl

/-- **All other names are left as they are.** -/
theorem ItemSets.only_eq (h : ItemSets line item line') {name : Name} (hname : name ≠ item.name) :
    line'.only [name] = line.only [name] := by
  have hne : item.name ≠ name := Ne.symm hname
  cases h with
  | _ => simp_all [only, Item.name]

/-- No item gives the settings file an empty path. -/
theorem ItemSets.config_ne (h : ItemSets line item line') (hpath : line.config ≠ some []) :
    line'.config ≠ some [] := by
  cases h with
  | config _ hne => simpa using hne
  | _ => exact hpath

/-! ### All items -/

/-- **A command line records items**: it says what each of them says, no two of them set the same,
and it sets nothing else. A path that it records is not empty. -/
structure Records (line : CommandLine) (items : List Item) : Prop where
  sound : ∀ item ∈ items, Says line item
  once : (items.map Item.name).Nodup
  all : ∀ name, sets line name → name ∈ items.map Item.name
  path : line.config ≠ some []

/-- The empty command line records nothing. -/
theorem records_nil : Records {} [] where
  sound _ h := absurd h List.not_mem_nil
  once := List.nodup_nil
  all name h := by
    rcases name with opt | flag
    · cases opt <;> exact absurd h (by decide)
    · cases flag <;> exact absurd h (by decide)
  path := by decide

/-- What a command line says it also sets. -/
theorem sets_of_says (h : Says line item) : sets line item.name := by
  rcases item with ⟨opt, value⟩ | flag
  · cases opt with
    | text | level =>
      obtain ⟨s, hs, -⟩ := h
      simp [sets, has, Item.name, hs]
    | a | b =>
      obtain ⟨n, hn, -⟩ := h
      simp [sets, has, Item.name, hn]
    | config =>
      have hconfig : line.config = some value := h
      simp [sets, has, Item.name, hconfig]
  · exact h

/-- **An item that can be set is recorded** behind the others. -/
theorem Records.setItem {items : List Item} (h : Records line items)
    (hset : line.setItem item = .ok line') : Records line' (items ++ [item]) := by
  have hstep : ItemSets line item line' := itemSets_of_setItem hset
  -- a name that is recorded is set, so it is not that of the new item
  have hother : ∀ other ∈ items, other.name ≠ item.name := by
    intro other hmem he
    exact hstep.fresh (he ▸ sets_of_says (h.sound other hmem))
  refine ⟨?_, ?_, ?_, hstep.config_ne h.path⟩
  · intro other hmem
    rcases List.mem_append.mp hmem with hmem | hmem
    · rw [← says_only, hstep.only_eq (hother other hmem), says_only]
      exact h.sound other hmem
    · obtain rfl := List.mem_singleton.mp hmem
      exact hstep.said
  · rw [List.map_append, List.nodup_append]
    refine ⟨h.once, List.nodup_singleton _, ?_⟩
    intro name hname name' hname'
    obtain ⟨other, hmem, rfl⟩ := List.mem_map.mp hname
    obtain rfl := List.mem_singleton.mp hname'
    exact hother other hmem
  · intro name hname
    rw [List.map_append, List.mem_append]
    by_cases he : name = item.name
    · exact .inr (List.mem_singleton.mpr he)
    · rw [← sets_only, hstep.only_eq he, sets_only] at hname
      exact .inl (h.all name hname)

end TextGauge.CommandLine
