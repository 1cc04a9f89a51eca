import Mathlib.Data.Nat.Init
import Mathlib.Tactic.SplitIfs
import TextGauge.Decimal.Integer

/-!
# Reading integers

The reader of signed digits takes every spelling of an integer for that integer
(`TextGauge.Decimal.int?_of_spells`) and nothing else for one (`TextGauge.Decimal.spells_of_int?`),
and the text that is written for an integer is one of its spellings
(`TextGauge.Decimal.spells_ofInt`). An integer of 32 bits fits in 32 bits
(`TextGauge.Decimal.int32?_eq_some_iff`).
-/

namespace TextGauge.Decimal

/-! ### Spellings -/

theorem nat?_of_isDigit {digits : List Char} (hne : digits ≠ []) (h : ∀ c ∈ digits, c.isDigit) :
    nat? digits = some (value digits) := by
  rw [nat?, if_pos ⟨hne, List.all_eq_true.mpr h⟩]

/-- A run of digits has no sign in front. -/
theorem int?_of_isDigit {digits : List Char} (hne : digits ≠ []) (h : ∀ c ∈ digits, c.isDigit) :
    int? digits = some (value digits) := by
  unfold int?
  split
  · exact absurd (h '+' List.mem_cons_self) (by decide)
  · exact absurd (h '-' List.mem_cons_self) (by decide)
  · rw [nat?_of_isDigit hne h]
    rfl

/-- **Every spelling of an integer is read as that integer.** -/
theorem int?_of_spells {cs : List Char} {n : ℤ} (h : Spells cs n) : int? cs = some n := by
  cases h with
  | plain hne hdigits => exact int?_of_isDigit hne hdigits
  | plus hne hdigits => simp [int?, nat?_of_isDigit hne hdigits]
  | minus hne hdigits => simp [int?, nat?_of_isDigit hne hdigits]

theorem eq_value_of_nat? {digits : List Char} {n : ℕ} (h : nat? digits = some n) :
    digits ≠ [] ∧ (∀ c ∈ digits, c.isDigit) ∧ value digits = n := by
  rw [nat?] at h
  split_ifs at h with hdigits
  exact ⟨hdigits.1, List.all_eq_true.mp hdigits.2, Option.some.inj h⟩

/-- **What is read as an integer spells it.** -/
theorem spells_of_int? {cs : List Char} {n : ℤ} (h : int? cs = some n) : Spells cs n := by
  unfold int? at h
  split at h
  · obtain ⟨m, hm, rfl⟩ := Option.map_eq_some_iff.mp h
    obtain ⟨hne, hdigits, rfl⟩ := eq_value_of_nat? hm
    exact .plus hne hdigits
  · obtain ⟨m, hm, rfl⟩ := Option.map_eq_some_iff.mp h
    obtain ⟨hne, hdigits, rfl⟩ := eq_value_of_nat? hm
    exact .minus hne hdigits
  · obtain ⟨m, hm, rfl⟩ := Option.map_eq_some_iff.mp h
    obtain ⟨hne, hdigits, rfl⟩ := eq_value_of_nat? hm
    exact .plain hne hdigits

/-! ### Written integers -/

theorem ofNat_ne_nil (n : ℕ) : ofNat n ≠ [] :=
  Nat.toDigits_ne_nil

theorem isDigit_of_mem_ofNat {n : ℕ} {c : Char} (h : c ∈ ofNat n) : c.isDigit :=
  Nat.isDigit_of_mem_toDigits (by decide) (by decide) h

theorem value_ofNat (n : ℕ) : value (ofNat n) = n :=
  Nat.ofDigitChars_ten_toDigits

/-- A positive number is written without leading zero. -/
theorem head?_ofNat_ne_zero {n : ℕ} (h : 0 < n) : (ofNat n).head? ≠ some '0' := by
  induction n using Nat.strong_induction_on with
  | _ n ih =>
    rcases Nat.lt_or_ge n 10 with hlt | hge
    · rw [ofNat, Nat.toDigits_of_lt_base hlt]
      simpa using Nat.pos_iff_ne_zero.mp h
    · have hhead : (ofNat (n / 10)).head? ≠ some '0' := ih (n / 10) (by omega) (by omega)
      rw [ofNat, Nat.toDigits_of_base_le (by decide) hge]
      rcases hdigits : ofNat (n / 10) with _ | ⟨c, cs⟩
      · exact absurd hdigits (ofNat_ne_nil (n / 10))
      · rw [hdigits] at hhead
        rw [← ofNat, hdigits]
        exact hhead

/-- A written natural number has no leading zero. -/
theorem length_ofNat_of_head? {n : ℕ} (h : (ofNat n).head? = some '0') : (ofNat n).length = 1 := by
  rcases Nat.eq_zero_or_pos n with rfl | hpos
  · rfl
  · exact absurd h (head?_ofNat_ne_zero hpos)

theorem ofInt_ne_nil (n : ℤ) : ofInt n ≠ [] := by
  cases n with
  | ofNat n => exact ofNat_ne_nil n
  | negSucc n => exact List.cons_ne_nil _ _

/-- The text of an integer has digits in it, and a minus sign perhaps. -/
theorem mem_ofInt {n : ℤ} {c : Char} (h : c ∈ ofInt n) : c = '-' ∨ c.isDigit := by
  cases n with
  | ofNat n => exact .inr (isDigit_of_mem_ofNat h)
  | negSucc n =>
    rcases List.mem_cons.mp h with rfl | h
    · exact .inl rfl
    · exact .inr (isDigit_of_mem_ofNat h)

/-- The text of an integer begins with a digit or a minus sign. -/
theorem exists_ofInt_eq_cons (n : ℤ) : ∃ c cs, ofInt n = c :: cs ∧ (c = '-' ∨ c.isDigit) := by
  rcases hcons : ofInt n with _ | ⟨c, cs⟩
  · exact absurd hcons (ofInt_ne_nil n)
  · exact ⟨c, cs, rfl, mem_ofInt (by rw [hcons]; exact List.mem_cons_self)⟩

/-- **The text of an integer spells it.** -/
theorem spells_ofInt (n : ℤ) : Spells (ofInt n) n := by
  cases n with
  | ofNat n =>
    have h := Spells.plain (ofNat_ne_nil n) fun c => isDigit_of_mem_ofNat
    rwa [value_ofNat] at h
  | negSucc n =>
    have h := Spells.minus (ofNat_ne_nil (n + 1)) fun c => isDigit_of_mem_ofNat
    rwa [value_ofNat] at h

/-! ### 32 bits -/

@[simp] theorem int32?_toInt (n : Int32) : int32? n.toInt = some n := by
  rw [int32?, if_pos ⟨n.le_toInt, n.toInt_lt⟩, Int32.ofInt_toInt]

/-- An integer that fits is that of its 32 bits. -/
theorem int32?_eq_some_iff {n : ℤ} {m : Int32} : int32? n = some m ↔ n = m.toInt := by
  constructor
  · intro h
    rw [int32?] at h
    split_ifs at h with hbounds
    rw [← Option.some.inj h, Int32.toInt_ofInt_of_le hbounds.1 hbounds.2]
  · rintro rfl
    exact int32?_toInt m

end TextGauge.Decimal
