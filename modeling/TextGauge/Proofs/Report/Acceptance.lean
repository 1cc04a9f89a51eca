import TextGauge.Proofs.Lookup
import TextGauge.Proofs.Report.Refusals

/-!
# Which JSON values are reports

A JSON value is read as a report exactly if it **holds** one (`TextGauge.Report.Holds`): an object
with a member for each field, among whatever other members and in whatever order, or the array of
the seven values in the order of the record. Every value has to be what is wanted as it stands.

Any other value **fails** for one reason (`TextGauge.Report.Fails`). Values that are bad come first
in the order of the bytes of their names, and only an object without any can fail for a field that
is missing, the first one in the order of the record. Both are said of the value alone, field by
field, and `TextGauge.Report.ofJson_contract` says that they are all there is to the reader.
-/

namespace TextGauge

namespace Report

open Json

/-! ### The report that a value holds -/

/-- **The report that a JSON value holds.** -/
inductive Holds : Json → Report → Prop
  /-- An object with these members, among others; of members with one name the first counts. -/
  | object {members : List (String × Json)} {r : Report} :
    (∀ f : Field, members.lookup f.name = some (f.value r)) → r.length < Nat.pow 2 64 →
    r.vowels < Nat.pow 2 64 → Holds (.object members) r
  /-- The array of the values. -/
  | array {r : Report} : r.length < Nat.pow 2 64 → r.vowels < Nat.pow 2 64 →
    Holds (.array [.integer r.a.toInt, .integer r.b.toInt, .integer r.sum.toInt,
      .integer r.difference.toInt, .string r.text, .integer r.length, .integer r.vowels]) r

/-- **Why a JSON value holds no report.** -/
inductive Fails : Json → Mismatch → Prop
  /-- The value of a field is bad, and that of none whose name comes before it. -/
  | bad {members : List (String × Json)} {f : Field} {x : Json} :
    members.lookup f.name = some x → ¬x.Fits f.wanted →
    (∀ (g : Field) (y : Json), Utf8.encode g.name < Utf8.encode f.name →
      members.lookup g.name = some y → y.Fits g.wanted) →
    Fails (.object members) (x.objection f.wanted)
  /-- No value is bad, but a field is missing, and none before it in the record is. -/
  | missing {members : List (String × Json)} {before after : List Field} {f : Field} :
    (∀ (g : Field) (y : Json), members.lookup g.name = some y → y.Fits g.wanted) →
    Field.all = before ++ f :: after → members.lookup f.name = none →
    (∀ g ∈ before, members.lookup g.name ≠ none) → Fails (.object members) (.missing f.name)
  /-- An element of an array is bad, and none before it. -/
  | element {xs : List Json} {before after : List (Field × Json)} {f : Field} {x : Json} :
    Field.all.zip xs = before ++ (f, x) :: after → ¬x.Fits f.wanted →
    (∀ p ∈ before, p.2.Fits p.1.wanted) → Fails (.array xs) (x.objection f.wanted)
  /-- No element of an array is bad, but there are too few. -/
  | short {xs : List Json} : (∀ p ∈ Field.all.zip xs, p.2.Fits p.1.wanted) →
    xs.length < Field.all.length → Fails (.array xs) (.short xs.length record)
  /-- None of the elements that stand for fields is bad, but there are too many. -/
  | long {xs : List Json} : (∀ p ∈ Field.all.zip xs, p.2.Fits p.1.wanted) →
    Field.all.length < xs.length → Fails (.array xs) (.long xs.length)
  /-- The value is neither an object nor an array. -/
  | kind {x : Json} : (∀ members, x ≠ .object members) → (∀ xs, x ≠ .array xs) →
    Fails x (.kind x.found (.record record))

/-! ### The reader against the rules -/

/-- The first field with a property, in the order of the bytes of names. -/
theorem findSome?_sorted_eq_some_iff {g : Field → Option Mismatch} {m : Mismatch} :
    Field.sorted.findSome? g = some m ↔
      ∃ f, g f = some m ∧ ∀ f', Utf8.encode f'.name < Utf8.encode f.name → g f' = none := by
  rw [List.findSome?_eq_some_iff]
  constructor
  · rintro ⟨before, f, after, hsplit, hf, hbefore⟩
    refine ⟨f, hf, fun f' hlt => ?_⟩
    have hpairwise := Field.pairwise_sorted
    have hmem := Field.mem_sorted f'
    rw [hsplit] at hpairwise hmem
    rcases List.mem_append.mp hmem with hmem | hmem
    · exact hbefore f' hmem
    · rcases List.mem_cons.mp hmem with rfl | hmem
      · exact absurd hlt (List.lt_irrefl _)
      · have hgt := (List.pairwise_cons.mp (List.pairwise_append.mp hpairwise).2.1).1 f' hmem
        exact absurd hlt (List.lt_asymm hgt)
  · rintro ⟨f, hf, hbefore⟩
    obtain ⟨before, after, hsplit⟩ := List.append_of_mem (Field.mem_sorted f)
    refine ⟨before, f, after, hsplit, hf, fun f' hmem => hbefore f' ?_⟩
    have hpairwise := Field.pairwise_sorted
    rw [hsplit] at hpairwise
    exact (List.pairwise_append.mp hpairwise).2.2 f' hmem f List.mem_cons_self

/-- No value of an object is bad. -/
theorem findSome?_bad?_eq_none_iff {members : List (String × Json)} :
    Field.sorted.findSome? (Field.bad? members) = none ↔
      ∀ (f : Field) (x : Json), members.lookup f.name = some x → x.Fits f.wanted := by
  rw [List.findSome?_eq_none_iff]
  exact ⟨fun h f => Field.bad?_eq_none_iff.mp (h f (Field.mem_sorted f)),
    fun h f _ => Field.bad?_eq_none_iff.mpr (h f)⟩

/-- **An object fails** for what it is refused for. -/
theorem refusal_ofJson_object_eq_some_iff {members : List (String × Json)} {m : Mismatch} :
    refusal (ofJson (.object members)) = some m ↔ Fails (.object members) m := by
  rw [refusal_ofJson_object, Option.or_eq_some_iff, findSome?_sorted_eq_some_iff,
    findSome?_bad?_eq_none_iff, List.findSome?_eq_some_iff]
  constructor
  · rintro (⟨f, hf, hbefore⟩ | ⟨hfits, before, f, after, hsplit, hf, hbefore⟩)
    · obtain ⟨x, hlookup, hbad, rfl⟩ := Field.bad?_eq_some_iff.mp hf
      exact .bad hlookup hbad fun g y hlt => Field.bad?_eq_none_iff.mp (hbefore g hlt) y
    · obtain ⟨hlookup, rfl⟩ := Field.missing?_eq_some_iff.mp hf
      exact .missing hfits hsplit hlookup fun g hg => Field.missing?_eq_none_iff.mp (hbefore g hg)
  · intro h
    cases h with
    | bad hlookup hbad hbefore =>
      refine .inl ⟨_, Field.bad?_eq_some_iff.mpr ⟨_, hlookup, hbad, rfl⟩, fun g hlt => ?_⟩
      exact Field.bad?_eq_none_iff.mpr fun y => hbefore g y hlt
    | missing hfits hsplit hlookup hbefore =>
      refine .inr ⟨hfits, _, _, _, hsplit, Field.missing?_eq_some_iff.mpr ⟨hlookup, rfl⟩, ?_⟩
      exact fun g hg => Field.missing?_eq_none_iff.mpr (hbefore g hg)
    | kind hobject => exact absurd rfl (hobject members)

/-- No element of an array is bad. -/
theorem findSome?_zip_eq_none_iff {xs : List Json} :
    (Field.all.zip xs).findSome? (fun p => p.1.refusal? p.2) = none ↔
      ∀ p ∈ Field.all.zip xs, p.2.Fits p.1.wanted := by
  rw [List.findSome?_eq_none_iff]
  exact forall₂_congr fun p _ => Field.refusal?_eq_none_iff

/-- **An array fails** for what it is refused for. -/
theorem refusal_ofJson_array_eq_some_iff {xs : List Json} {m : Mismatch} :
    refusal (ofJson (.array xs)) = some m ↔ Fails (.array xs) m := by
  rw [refusal_ofJson_array, Option.or_eq_some_iff, findSome?_zip_eq_none_iff,
    List.findSome?_eq_some_iff]
  constructor
  · rintro (⟨before, ⟨f, x⟩, after, hsplit, hf, hbefore⟩ | ⟨hfits, hlength⟩)
    · obtain ⟨hbad, rfl⟩ := Field.refusal?_eq_some_iff.mp hf
      exact .element hsplit hbad fun p hp => Field.refusal?_eq_none_iff.mp (hbefore p hp)
    · rw [lengthRefusal?] at hlength
      split_ifs at hlength with hshort hlong
      · obtain rfl := Option.some.inj hlength
        exact .short hfits hshort
      · obtain rfl := Option.some.inj hlength
        exact .long hfits hlong
  · intro h
    cases h with
    | element hsplit hbad hbefore =>
      refine .inl ⟨_, _, _, hsplit, Field.refusal?_eq_some_iff.mpr ⟨hbad, rfl⟩, fun p hp => ?_⟩
      exact Field.refusal?_eq_none_iff.mpr (hbefore p hp)
    | short hfits hshort => exact .inr ⟨hfits, if_pos hshort⟩
    | long hfits hlong =>
      refine .inr ⟨hfits, ?_⟩
      rw [lengthRefusal?, if_neg (Nat.lt_asymm hlong), if_pos hlong]
    | kind _ harray => exact absurd rfl (harray xs)

theorem fails_iff_of_ne {x : Json} (hobject : ∀ members, x ≠ .object members)
    (harray : ∀ xs, x ≠ .array xs) {m : Mismatch} :
    Fails x m ↔ m = .kind x.found (.record record) := by
  constructor
  · intro h
    cases h with
    | kind => rfl
    | bad | missing => exact absurd rfl (hobject _)
    | element | short | long => exact absurd rfl (harray _)
  · rintro rfl
    exact .kind hobject harray

/-- **What a value is refused for** is why it holds no report. -/
theorem ofJson_eq_error_iff {x : Json} {m : Mismatch} : ofJson x = .error m ↔ Fails x m := by
  cases x with
  | object members => exact refusal_eq_some_iff.symm.trans refusal_ofJson_object_eq_some_iff
  | array xs => exact refusal_eq_some_iff.symm.trans refusal_ofJson_array_eq_some_iff
  | _ =>
    rw [fails_iff_of_ne (by simp) (by simp), ofJson, Except.error.injEq, eq_comm]
    all_goals simp

/-! ### What is read -/

theorem next_eq_ok {α : Type} {shape : Record} {read : ℕ} {convert : Json → Except Mismatch α}
    {x : Json} {a : α} (h : convert x = .ok a) {rest : List Json} :
    next shape read convert (x :: rest) = .ok (a, rest) := by
  rw [next, h]
  rfl

/-- **A report that is held is read.** -/
theorem ofJson_of_holds {x : Json} {r : Report} (h : Holds x r) : ofJson x = .ok r := by
  cases h with
  | @object members _ hmembers hlength hvowels =>
    have ha : members.lookup "a" = some (.integer r.a.toInt) := hmembers .a
    have hb : members.lookup "b" = some (.integer r.b.toInt) := hmembers .b
    have hsum : members.lookup "sum" = some (.integer r.sum.toInt) := hmembers .sum
    have hdifference : members.lookup "difference" = some (.integer r.difference.toInt) :=
      hmembers .difference
    have htext : members.lookup "text" = some (.string r.text) := hmembers .text
    have hlength' : members.lookup "length" = some (.integer r.length) := hmembers .length
    have hvowels' : members.lookup "vowels" = some (.integer r.vowels) := hmembers .vowels
    rw [ofJson, field?_eq_ok ha (toInt32_toInt r.a), field?_eq_ok hb (toInt32_toInt r.b),
      field?_eq_ok hdifference (toInt32_toInt r.difference),
      field?_eq_ok hlength' (toSize_natCast hlength), field?_eq_ok hsum (toInt32_toInt r.sum),
      field?_eq_ok htext (toText_string r.text), field?_eq_ok hvowels' (toSize_natCast hvowels)]
    rfl
  | array hlength hvowels =>
    rw [ofJson]
    refine bind_eq_ok_iff.mpr ⟨_, next_eq_ok (toInt32_toInt _), ?_⟩
    refine bind_eq_ok_iff.mpr ⟨_, next_eq_ok (toInt32_toInt _), ?_⟩
    refine bind_eq_ok_iff.mpr ⟨_, next_eq_ok (toInt32_toInt _), ?_⟩
    refine bind_eq_ok_iff.mpr ⟨_, next_eq_ok (toInt32_toInt _), ?_⟩
    refine bind_eq_ok_iff.mpr ⟨_, next_eq_ok (toText_string _), ?_⟩
    refine bind_eq_ok_iff.mpr ⟨_, next_eq_ok (toSize_natCast hlength), ?_⟩
    exact bind_eq_ok_iff.mpr ⟨_, next_eq_ok (toSize_natCast hvowels), rfl⟩

/-- An object with a good value for each field holds a report. -/
theorem exists_holds_object {members : List (String × Json)}
    (h : ∀ f : Field, ∃ x, members.lookup f.name = some x ∧ x.Fits f.wanted) :
    ∃ r, Holds (.object members) r := by
  obtain ⟨_, ha, a, rfl⟩ := h .a
  obtain ⟨_, hb, b, rfl⟩ := h .b
  obtain ⟨_, hsum, sum, rfl⟩ := h .sum
  obtain ⟨_, hdifference, difference, rfl⟩ := h .difference
  obtain ⟨_, htext, text, rfl⟩ := h .text
  obtain ⟨_, hlength, length, hlengthlt, rfl⟩ := h .length
  obtain ⟨_, hvowels, vowels, hvowelslt, rfl⟩ := h .vowels
  refine ⟨⟨a, b, sum, difference, text, length, vowels⟩, .object (fun f => ?_) hlengthlt hvowelslt⟩
  cases f with
  | a => exact ha
  | b => exact hb
  | sum => exact hsum
  | difference => exact hdifference
  | text => exact htext
  | length => exact hlength
  | vowels => exact hvowels

/-- An array of a good value for each field holds a report. -/
theorem exists_holds_array {xs : List Json} (hcount : xs.length = Field.all.length)
    (h : ∀ p ∈ Field.all.zip xs, p.2.Fits p.1.wanted) : ∃ r, Holds (.array xs) r := by
  match xs, hcount with
  | [x₀, x₁, x₂, x₃, x₄, x₅, x₆], _ =>
    simp only [Field.all, List.zip_cons_cons, List.zip_nil_left, List.forall_mem_cons] at h
    obtain ⟨⟨a, rfl⟩, ⟨b, rfl⟩, ⟨sum, rfl⟩, ⟨difference, rfl⟩, ⟨text, rfl⟩, ⟨length, hlength, rfl⟩,
      ⟨vowels, hvowels, rfl⟩, -⟩ := h
    let r : Report := ⟨a, b, sum, difference, text, length, vowels⟩
    exact ⟨r, .array (r := r) hlength hvowels⟩

/-- **A value that is not refused holds a report.** -/
theorem exists_holds {x : Json} (h : refusal (ofJson x) = none) : ∃ r, Holds x r := by
  cases x with
  | object members =>
    rw [refusal_ofJson_object, Option.or_eq_none_iff, findSome?_bad?_eq_none_iff,
      List.findSome?_eq_none_iff] at h
    refine exists_holds_object fun f => ?_
    obtain ⟨x, hx⟩ := Option.ne_none_iff_exists'.mp
      (Field.missing?_eq_none_iff.mp (h.2 f (Field.mem_all f)))
    exact ⟨x, hx, h.1 f x hx⟩
  | array xs =>
    rw [refusal_ofJson_array, Option.or_eq_none_iff, findSome?_zip_eq_none_iff, lengthRefusal?] at h
    obtain ⟨hfits, hcount⟩ := h
    split_ifs at hcount with hshort hlong
    exact exists_holds_array (Nat.le_antisymm (Nat.le_of_not_lt hlong) (Nat.le_of_not_lt hshort))
      hfits
  | _ => cases h

/-- **What is read is the report that the value holds.** -/
theorem ofJson_eq_ok_iff {x : Json} {r : Report} : ofJson x = .ok r ↔ Holds x r := by
  refine ⟨fun h => ?_, ofJson_of_holds⟩
  -- the value holds some report, which is then the one that is read
  obtain ⟨r', hr'⟩ := exists_holds (x := x) (by rw [h]; rfl)
  obtain rfl : r = r' := Except.ok.inj (h.symm.trans (ofJson_of_holds hr'))
  exact hr'

/-! ### Members that do not matter -/

/-- **Only what the names of fields lead to matters.** -/
theorem ofJson_object_congr {members members' : List (String × Json)}
    (h : ∀ f : Field, members.lookup f.name = members'.lookup f.name) :
    ofJson (.object members) = ofJson (.object members') := by
  have hfield : ∀ {α : Type} (f : Field) (convert : Json → Except Mismatch α),
      field? members convert f.name = field? members' convert f.name := by
    intro α f convert
    rw [field?, field?, h f]
  have ha := hfield .a toInt32
  have hb := hfield .b toInt32
  have hsum := hfield .sum toInt32
  have hdifference := hfield .difference toInt32
  have htext := hfield .text toText
  have hlength := hfield .length toSize
  have hvowels := hfield .vowels toSize
  simp only [Field.name] at ha hb hsum hdifference htext hlength hvowels
  rw [ofJson, ofJson, ha, hb, hsum, hdifference, htext, hlength, hvowels]

theorem lookup_filter {members : List (String × Json)} {names : List String} {name : String}
    (h : name ∈ names) :
    (members.filter fun m => m.1 ∈ names).lookup name = members.lookup name := by
  induction members with
  | nil => rfl
  | cons m members ih =>
    obtain ⟨name', x⟩ := m
    rw [List.filter_cons, List.lookup_cons]
    by_cases hname : name = name'
    · subst hname
      rw [if_pos (decide_eq_true h), List.lookup_cons, beq_self_eq_true]
    · rw [beq_false_of_ne hname]
      split_ifs
      · rw [List.lookup_cons, beq_false_of_ne hname, ih]
      · exact ih

/-- The object and the array of the same values hold the same report, if any. -/
theorem holds_object_iff_holds_array {members : List (String × Json)} {values : Field → Json}
    (h : ∀ f : Field, members.lookup f.name = some (values f)) {r : Report} :
    Holds (.object members) r ↔ Holds (.array (Field.all.map values)) r := by
  constructor
  · intro hholds
    cases hholds with
    | object hmembers hlength hvowels =>
      have hvalues : values = Field.value r := by
        funext f
        exact Option.some.inj ((h f).symm.trans (hmembers f))
      rw [hvalues]
      exact .array hlength hvowels
  · intro hholds
    generalize hxs : Field.all.map values = xs at hholds
    cases hholds with
    | array hlength hvowels =>
      simp only [Field.all, List.map_cons, List.map_nil, List.cons.injEq, and_true] at hxs
      obtain ⟨ha, hb, hsum, hdifference, htext, hlength', hvowels'⟩ := hxs
      refine .object (fun f => (h f).trans (congrArg some ?_)) hlength hvowels
      cases f with
      | a => exact ha
      | b => exact hb
      | sum => exact hsum
      | difference => exact hdifference
      | text => exact htext
      | length => exact hlength'
      | vowels => exact hvowels'

/-- **The reader of reports.** It reads exactly the values that hold a report, and from these the
report that they hold; any other value is refused for the one reason for which it fails. Members
that name no field do not matter, nor does the order of the members, and it makes no difference
whether the values stand in an object or in an array. -/
theorem ofJson_contract :
    (∀ x r, ofJson x = .ok r ↔ Holds x r) ∧ (∀ x m, ofJson x = .error m ↔ Fails x m) ∧
      (∀ members : List (String × Json),
        ofJson (.object (members.filter fun m => m.1 ∈ record.fields)) =
          ofJson (.object members)) ∧
      (∀ members members' : List (String × Json), (members.map Prod.fst).Nodup →
        members.Perm members' → ofJson (.object members') = ofJson (.object members)) ∧
      ∀ (members : List (String × Json)) (values : Field → Json) (r : Report),
        (∀ f : Field, members.lookup f.name = some (values f)) →
        (ofJson (.object members) = .ok r ↔ ofJson (.array (Field.all.map values)) = .ok r) := by
  refine ⟨fun x r => ofJson_eq_ok_iff, fun x m => ofJson_eq_error_iff, fun members => ?_, ?_, ?_⟩
  · refine ofJson_object_congr fun f => lookup_filter ?_
    rw [← Field.map_name_all]
    exact List.mem_map_of_mem (Field.mem_all f)
  · intro members members' hnodup hperm
    exact ofJson_object_congr fun f => (lookup_eq_of_perm hnodup hperm).symm
  · intro members values r hvalues
    rw [ofJson_eq_ok_iff, ofJson_eq_ok_iff, holds_object_iff_holds_array hvalues]

/-- The report at the limits as an object with its members in the reverse order and one more. -/
theorem ofJson_contract_reversed :
    let members := ("note", Json.null) :: Field.all.reverse.map fun f => (f.name, f.value atLimits)
    ((members.map Prod.fst).Nodup ∧ members.Perm members.reverse ∧
      ∀ f : Field, members.lookup f.name = some (f.value atLimits)) ∧
    ofJson (.object members) = .ok atLimits ∧
    ofJson (.object members.reverse) = ofJson (.object members) ∧
    (ofJson (.object members) = .ok atLimits ↔
      ofJson (.array (Field.all.map fun f => f.value atLimits)) = .ok atLimits) := by
  intro members
  have hnodup : (members.map Prod.fst).Nodup := by decide
  have hperm : members.Perm members.reverse := members.reverse_perm.symm
  have hlookup : ∀ f : Field, members.lookup f.name = some (f.value atLimits) := by
    intro f
    cases f <;> rfl
  obtain ⟨hok, -, -, horder, hshapes⟩ := ofJson_contract
  exact ⟨⟨hnodup, hperm, hlookup⟩, (hok _ _).mpr (.object hlookup (by decide) (by decide)),
    horder members members.reverse hnodup hperm, hshapes members _ atLimits hlookup⟩

/-- Of two bad values the one whose name comes first counts, not the first one of the record. -/
example : ofJson (.object [("sum", .string "13"), ("length", .null), ("b", .integer 3)]) =
    .error (.kind .null .size) :=
  rfl

end Report

end TextGauge
