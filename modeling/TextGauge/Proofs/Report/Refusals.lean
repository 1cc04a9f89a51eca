import TextGauge.Proofs.Report.Values
import TextGauge.Proofs.Utf8

/-!
# What the reader of reports refuses

The reader of reports fails for the first thing that is wrong with a value. Of an object these
things are, in this order, the values that do not fit, by the bytes of their names, and the fields
that are missing, by their order in the record (`TextGauge.Report.refusal_ofJson_object`); of an
array the elements that do not fit, from the left, and its length
(`TextGauge.Report.refusal_ofJson_array`).
-/

namespace TextGauge

namespace Report

open Json

/-! ### Fields -/

/-- The fields of a report. -/
inductive Field
  | a
  | b
  | sum
  | difference
  | text
  | length
  | vowels
  deriving DecidableEq, Repr

namespace Field

/-- All fields, in the order of the record. -/
def all : List Field := [a, b, sum, difference, text, length, vowels]

/-- All fields, in the order of the bytes of their names. -/
def sorted : List Field := [a, b, difference, length, sum, text, vowels]

/-- The name of a field. -/
def name : Field → String
  | a => "a"
  | b => "b"
  | sum => "sum"
  | difference => "difference"
  | text => "text"
  | length => "length"
  | vowels => "vowels"

/-- What the value of a field has to be. -/
def wanted : Field → Wanted
  | a | b | sum | difference => .int32
  | text => .string
  | length | vowels => .size

/-- The value of a field of a report. -/
def value (r : Report) : Field → Json
  | a => .integer r.a.toInt
  | b => .integer r.b.toInt
  | sum => .integer r.sum.toInt
  | difference => .integer r.difference.toInt
  | text => .string r.text
  | length => .integer r.length
  | vowels => .integer r.vowels

theorem map_name_all : all.map name = record.fields :=
  rfl

theorem mem_all (f : Field) : f ∈ all := by
  cases f <;> decide

theorem mem_sorted (f : Field) : f ∈ sorted := by
  cases f <;> decide

theorem pairwise_sorted :
    sorted.Pairwise fun f g => Utf8.encode f.name < Utf8.encode g.name := by
  decide

end Field

/-! ### What is wrong with a field -/

/-- What the value of a field is refused for. -/
def Field.refusal? : Field → Json → Option Mismatch
  | a | b | sum | difference => fun x => refusal (toInt32 x)
  | text => fun x => refusal (toText x)
  | length | vowels => fun x => refusal (toSize x)

theorem Field.refusal?_eq_some_iff {f : Field} {x : Json} {m : Mismatch} :
    f.refusal? x = some m ↔ ¬x.Fits f.wanted ∧ m = x.objection f.wanted := by
  cases f with
  | a | b | sum | difference => exact takes_toInt32.refusal_eq_some_iff
  | text => exact takes_toText.refusal_eq_some_iff
  | length | vowels => exact takes_toSize.refusal_eq_some_iff

theorem Field.refusal?_eq_none_iff {f : Field} {x : Json} :
    f.refusal? x = none ↔ x.Fits f.wanted := by
  rw [Option.eq_none_iff_forall_ne_some]
  constructor
  · intro h
    by_contra hfits
    exact h _ (Field.refusal?_eq_some_iff.mpr ⟨hfits, rfl⟩)
  · intro hfits m hm
    exact (Field.refusal?_eq_some_iff.mp hm).1 hfits

/-- What the value of a field is refused for, if the object has one. -/
def Field.bad? (members : List (String × Json)) (f : Field) : Option Mismatch :=
  (members.lookup f.name).bind f.refusal?

/-- What an object without a field is refused for. -/
def Field.missing? (members : List (String × Json)) (f : Field) : Option Mismatch :=
  if members.lookup f.name = none then some (.missing f.name) else none

theorem Field.bad?_eq_some_iff {members : List (String × Json)} {f : Field} {m : Mismatch} :
    f.bad? members = some m ↔
      ∃ x, members.lookup f.name = some x ∧ ¬x.Fits f.wanted ∧ m = x.objection f.wanted := by
  rw [bad?, Option.bind_eq_some_iff]
  exact exists_congr fun x => and_congr_right fun _ => refusal?_eq_some_iff

theorem Field.bad?_eq_none_iff {members : List (String × Json)} {f : Field} :
    f.bad? members = none ↔ ∀ x, members.lookup f.name = some x → x.Fits f.wanted := by
  rw [bad?, Option.bind_eq_none_iff]
  exact forall₂_congr fun x _ => refusal?_eq_none_iff

theorem Field.missing?_eq_some_iff {members : List (String × Json)} {f : Field} {m : Mismatch} :
    f.missing? members = some m ↔ members.lookup f.name = none ∧ m = .missing f.name := by
  rw [missing?]
  split_ifs with h
  · simp [h, eq_comm]
  · simp [h]

theorem Field.missing?_eq_none_iff {members : List (String × Json)} {f : Field} :
    f.missing? members = none ↔ members.lookup f.name ≠ none := by
  rw [missing?]
  split_ifs with h <;> simp [h]

/-! ### The reader -/

theorem findSome?_cons_or {α β : Type} (g : α → Option β) (a : α) (l : List α) :
    (a :: l).findSome? g = (g a).or (l.findSome? g) := by
  rw [List.findSome?_cons]
  cases g a <;> rfl

theorem refusal_field? {α : Type} {convert : Json → Except Mismatch α} {f : Field}
    (hconvert : ∀ x, refusal (convert x) = f.refusal? x) (members : List (String × Json)) :
    refusal (field? members convert f.name) = f.bad? members := by
  rw [field?, Field.bad?]
  cases members.lookup f.name with
  | none => rfl
  | some x => exact (refusal_map (convert x) some).trans (hconvert x)

theorem refusal_required {α : Type} {convert : Json → Except Mismatch α} {f : Field}
    {members : List (String × Json)} {value : Option α}
    (h : field? members convert f.name = .ok value) :
    refusal (required f.name value) = f.missing? members := by
  rw [field?] at h
  rw [Field.missing?]
  rcases hlookup : members.lookup f.name with _ | x
  · rw [hlookup] at h
    obtain rfl := Except.ok.inj h
    rfl
  · rw [hlookup] at h
    obtain ⟨a, -, rfl⟩ := map_eq_ok_iff.mp h
    rfl

/-- **An object is refused** for the first of its values that are bad, or else for the first of
the fields that are missing. -/
theorem refusal_ofJson_object (members : List (String × Json)) :
    refusal (ofJson (.object members)) =
      (Field.sorted.findSome? (Field.bad? members)).or
        (Field.all.findSome? (Field.missing? members)) := by
  simp only [Field.sorted, Field.all, findSome?_cons_or, List.findSome?_nil, Option.or_assoc,
    Option.none_or]
  rw [ofJson]
  -- the values in the order in which they are looked at, then the fields in that of the record
  refine refusal_bind (refusal_field? (f := .a) (fun _ => rfl) members) fun a ha => ?_
  refine refusal_bind (refusal_field? (f := .b) (fun _ => rfl) members) fun b hb => ?_
  refine refusal_bind (refusal_field? (f := .difference) (fun _ => rfl) members)
    fun difference hdifference => ?_
  refine refusal_bind (refusal_field? (f := .length) (fun _ => rfl) members)
    fun length hlength => ?_
  refine refusal_bind (refusal_field? (f := .sum) (fun _ => rfl) members) fun sum hsum => ?_
  refine refusal_bind (refusal_field? (f := .text) (fun _ => rfl) members) fun text htext => ?_
  refine refusal_bind (refusal_field? (f := .vowels) (fun _ => rfl) members)
    fun vowels hvowels => ?_
  refine refusal_bind (refusal_required (f := .a) ha) fun _ _ => ?_
  refine refusal_bind (refusal_required (f := .b) hb) fun _ _ => ?_
  refine refusal_bind (refusal_required (f := .sum) hsum) fun _ _ => ?_
  refine refusal_bind (refusal_required (f := .difference) hdifference) fun _ _ => ?_
  refine refusal_bind (refusal_required (f := .text) htext) fun _ _ => ?_
  refine refusal_bind (refusal_required (f := .length) hlength) fun _ _ => ?_
  exact refusal_bind (refusal_required (f := .vowels) hvowels) fun _ _ => rfl

/-- What an array is refused for that is as long as this. -/
def lengthRefusal? (length : ℕ) : Option Mismatch :=
  if length < Field.all.length then some (.short length record)
  else if Field.all.length < length then some (.long length)
  else none

/-- What an array is refused for of which `read` elements are read and these are left, where these
fields are left. -/
def elementsRefusal? (read : ℕ) : List Field → List Json → Option Mismatch
  | [], [] => none
  | [], rest => some (.long (read + rest.length))
  | _ :: _, [] => some (.short read record)
  | f :: fields, x :: rest => (f.refusal? x).or (elementsRefusal? (read + 1) fields rest)

/-- One element more. -/
theorem refusal_next_bind {α β : Type} {convert : Json → Except Mismatch α} {f : Field}
    (hconvert : ∀ x, refusal (convert x) = f.refusal? x) {read : ℕ} {fields : List Field}
    {further : α × List Json → Except Mismatch β}
    (h : ∀ a rest, refusal (further (a, rest)) = elementsRefusal? (read + 1) fields rest)
    (xs : List Json) :
    refusal (next record read convert xs >>= further) = elementsRefusal? read (f :: fields) xs := by
  cases xs with
  | nil => rfl
  | cons x rest =>
    rw [elementsRefusal?]
    refine refusal_bind ((refusal_map (convert x) _).trans (hconvert x)) fun p hp => ?_
    obtain ⟨a, -, rfl⟩ := map_eq_ok_iff.mp hp
    exact h a rest

theorem refusal_finish {α : Type} (read : ℕ) (value : α) (xs : List Json) :
    refusal (finish read value xs) = elementsRefusal? read [] xs := by
  cases xs <;> rfl

/-- Elements are refused for the first one that is bad, or else for their number. -/
theorem elementsRefusal?_eq (read : ℕ) (fields : List Field) (xs : List Json)
    (h : read + fields.length = Field.all.length) :
    elementsRefusal? read fields xs =
      ((fields.zip xs).findSome? fun p => p.1.refusal? p.2).or
        (lengthRefusal? (read + xs.length)) := by
  induction fields generalizing read xs with
  | nil =>
    obtain rfl : read = Field.all.length := h
    cases xs with
    | nil => rfl
    | cons x rest =>
      rw [elementsRefusal?, lengthRefusal?, if_neg (by omega), if_pos (by simp)]
      · rfl
      · exact fun heq => List.cons_ne_nil x rest heq
  | cons f fields ih =>
    rw [List.length_cons] at h
    cases xs with
    | nil =>
      rw [elementsRefusal?, lengthRefusal?, List.length_nil, Nat.add_zero, if_pos (by omega)]
      rfl
    | cons x rest =>
      rw [elementsRefusal?, ih (read + 1) rest (by omega), List.zip_cons_cons, findSome?_cons_or,
        Option.or_assoc, List.length_cons, Nat.add_right_comm, Nat.add_assoc]

/-- **An array is refused** for the first of its elements that are bad, or else for its length. -/
theorem refusal_ofJson_array (xs : List Json) :
    refusal (ofJson (.array xs)) =
      ((Field.all.zip xs).findSome? fun p => p.1.refusal? p.2).or (lengthRefusal? xs.length) := by
  have helements := elementsRefusal?_eq 0 Field.all xs rfl
  rw [Nat.zero_add] at helements
  rw [ofJson, ← helements]
  refine refusal_next_bind (f := .a) (fun _ => rfl) (fun a xs => ?_) xs
  refine refusal_next_bind (f := .b) (fun _ => rfl) (fun b xs => ?_) xs
  refine refusal_next_bind (f := .sum) (fun _ => rfl) (fun sum xs => ?_) xs
  refine refusal_next_bind (f := .difference) (fun _ => rfl) (fun difference xs => ?_) xs
  refine refusal_next_bind (f := .text) (fun _ => rfl) (fun text xs => ?_) xs
  refine refusal_next_bind (f := .length) (fun _ => rfl) (fun length xs => ?_) xs
  exact refusal_next_bind (f := .vowels) (fun _ => rfl) (fun vowels xs => refusal_finish 7 _ xs) xs

end Report

end TextGauge
