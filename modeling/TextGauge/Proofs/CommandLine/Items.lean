import Mathlib.Data.List.Nodup
import TextGauge.CommandLine.Spelling
import TextGauge.Proofs.Decimal
import TextGauge.Proofs.Utf8

/-!
# Setting options and flags one by one

A scan of arguments fills an empty command line item by item. If the items say of a command line
what is so, the command line that is being filled is at each point the one they speak of, **cut
down** to the names that have been met (`TextGauge.CommandLine.only`), and no item can fail as
long as no name comes back (`TextGauge.CommandLine.setItem_only`). Once all names that it sets
have been met, it is complete (`TextGauge.CommandLine.only_of_sets`).
-/

namespace TextGauge.CommandLine

/-! ### Values of options -/

@[simp] theorem textOf_encode (s : String) : textOf (Utf8.encode s) = .ok s := by
  rw [textOf, Utf8.decode?_encode, Option.elim_some]

theorem int32Of_of_isNumeral {n : Int32} {value : Bytes} (h : IsNumeral n value) :
    int32Of value = .ok n := by
  obtain ⟨cs, hcs, rfl⟩ := h
  have hread : (Decimal.int? cs).bind Decimal.int32? = some n := by
    rw [Decimal.int?_of_spells hcs, Option.bind_some, Decimal.int32?_toInt]
  rw [int32Of, textOf_encode]
  change ((Decimal.int? (String.ofList cs).toList).bind Decimal.int32?).elim _ _ = _
  rw [String.toList_ofList, hread, Option.elim_some]

/-! ### Command lines cut down -/

/-- Sets what an item says. -/
def setItem (line : CommandLine) : Item → Except Stop CommandLine
  | .option opt value => line.setOption opt value
  | .flag flag => line.setFlag flag

/-- **A command line cut down to some names**: what it sets under these, and nothing else. -/
def only (line : CommandLine) (names : List Name) : CommandLine where
  settings :=
    { a := if Name.option .a ∈ names then line.settings.a else none
      b := if Name.option .b ∈ names then line.settings.b else none
      text := if Name.option .text ∈ names then line.settings.text else none
      level := if Name.option .level ∈ names then line.settings.level else none }
  config := if Name.option .config ∈ names then line.config else none
  json := if Name.flag .json ∈ names then line.json else false
  verbose := if Name.flag .verbose ∈ names then line.verbose else false

@[simp] theorem only_nil (line : CommandLine) : line.only [] = {} := by
  simp [only]

/-- **An item that says what is so can be set**, under a name that has not been met. -/
theorem setItem_only {line : CommandLine} {names : List Name} {item : Item}
    (hso : line.Says item) (hpath : line.config ≠ some []) (hnew : item.name ∉ names) :
    (line.only names).setItem item = .ok (line.only (item.name :: names)) := by
  rcases item with ⟨opt, value⟩ | flag
  · cases opt with
    | text =>
      obtain ⟨s, hs, rfl⟩ := hso
      simp_all [setItem, setOption, has, only, Item.name, Except.map]
    | level =>
      obtain ⟨s, hs, rfl⟩ := hso
      simp_all [setItem, setOption, has, only, Item.name, Except.map]
    | a =>
      obtain ⟨n, hn, hvalue⟩ := hso
      simp_all [setItem, setOption, has, only, Item.name, Except.map, int32Of_of_isNumeral hvalue]
    | b =>
      obtain ⟨n, hn, hvalue⟩ := hso
      simp_all [setItem, setOption, has, only, Item.name, Except.map, int32Of_of_isNumeral hvalue]
    | config =>
      have hvalue : line.config = some value := hso
      have hne : value ≠ [] := fun he => hpath (he ▸ hvalue)
      simp_all [setItem, setOption, has, only, Item.name]
  · cases flag with
    | json =>
      have hflag : line.json = true := hso
      simp_all [setItem, setFlag, only, Item.name]
    | verbose =>
      have hflag : line.verbose = true := hso
      simp_all [setItem, setFlag, only, Item.name]
    | help => exact absurd hso Bool.false_ne_true
    | version => exact absurd hso Bool.false_ne_true

/-- Items that say what is so can be set one after the other, as long as no name comes back. -/
theorem foldlM_setItem_only {line : CommandLine} {items : List Item} {names : List Name}
    (hso : ∀ item ∈ items, line.Says item) (hpath : line.config ≠ some [])
    (hnew : ((items.map Item.name).reverse ++ names).Nodup) :
    items.foldlM setItem (line.only names) =
      .ok (line.only ((items.map Item.name).reverse ++ names)) := by
  -- the names that have been met are `names`, the last one first
  induction items generalizing names with
  | nil => rfl
  | cons item items ih =>
    have hrest : ((items.map Item.name).reverse ++ item.name :: names).Nodup := by
      simpa using hnew
    have hitem : item.name ∉ names := by
      have h := (List.nodup_append.mp hrest).2.1
      exact (List.nodup_cons.mp h).1
    have hset := setItem_only (hso item List.mem_cons_self) hpath hitem
    have htail := ih (fun item' hmem => hso item' (List.mem_cons_of_mem item hmem)) hrest
    rw [List.foldlM_cons, hset]
    change items.foldlM setItem (line.only (item.name :: names)) = _
    rw [htail]
    simp

/-- **A command line is complete** once all names that it sets have been met. -/
theorem only_of_sets {line : CommandLine} {names : List Name}
    (h : ∀ name, line.sets name → name ∈ names) : line.only names = line := by
  obtain ⟨⟨a, b, text, level⟩, config, json, verbose⟩ := line
  have ha := h (.option .a)
  have hb := h (.option .b)
  have htext := h (.option .text)
  have hlevel := h (.option .level)
  have hconfig := h (.option .config)
  have hjson := h (.flag .json)
  have hverbose := h (.flag .verbose)
  simp only [sets, has, Option.isSome_iff_ne_none] at ha hb htext hlevel hconfig hjson hverbose
  simp only [only, CommandLine.mk.injEq, Settings.mk.injEq]
  grind

end TextGauge.CommandLine
