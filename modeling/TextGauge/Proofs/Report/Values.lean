import TextGauge.Proofs.Report

/-!
# Values of fields

A field of a record wants an integer of 32 bits, a size or a text. A JSON value either **fits** as
it stands (`TextGauge.Json.Fits`) or there is one thing wrong with it (`TextGauge.Json.objection`),
and this is what the three conversions go by (`TextGauge.Json.Takes.refusal_eq_some_iff`).
-/

namespace TextGauge

namespace Json

/-! ### What is wanted -/

/-- A value that is what is wanted as it stands; nothing is converted. So a float is no integer,
even if it is whole. -/
def Fits : Wanted → Json → Prop
  | .int32, x => ∃ n : Int32, x = .integer n.toInt
  | .size, x => ∃ n : ℕ, n < Nat.pow 2 64 ∧ x = .integer n
  | .string, x => ∃ s, x = .string s
  | .record _, _ => False

/-- What is wrong with a value that is not what is wanted. Where an integer is wanted, an integer
can only be out of range. -/
def objection (wanted : Wanted) : Json → Mismatch
  | .integer n =>
    if wanted = .int32 ∨ wanted = .size then .range n wanted else .kind (.integer n) wanted
  | x => .kind x.found wanted

/-! ### Conversions -/

theorem toInt32_eq_ok_iff {x : Json} {n : Int32} : toInt32 x = .ok n ↔ x = .integer n.toInt := by
  refine ⟨fun h => ?_, ?_⟩
  · cases x with
    | integer m =>
      rw [toInt32] at h
      rcases hm : Decimal.int32? m with _ | n'
      · rw [hm] at h
        cases h
      · rw [hm] at h
        obtain rfl := Except.ok.inj h
        rw [Decimal.int32?_eq_some_iff.mp hm]
    | _ => cases h
  · rintro rfl
    exact toInt32_toInt n

theorem toSize_eq_ok_iff {x : Json} {n : ℕ} :
    toSize x = .ok n ↔ n < Nat.pow 2 64 ∧ x = .integer n := by
  refine ⟨fun h => ?_, ?_⟩
  · cases x with
    | integer m =>
      rw [toSize] at h
      split_ifs at h with hbounds
      obtain ⟨k, rfl⟩ := Int.eq_ofNat_of_zero_le hbounds.1
      obtain rfl : k = n := Except.ok.inj h
      exact ⟨Int.ofNat_lt.mp hbounds.2, rfl⟩
    | _ => cases h
  · rintro ⟨hn, rfl⟩
    exact toSize_natCast hn

theorem toText_eq_ok_iff {x : Json} {s : String} : toText x = .ok s ↔ x = .string s := by
  refine ⟨fun h => ?_, ?_⟩
  · cases x with
    | string s' => rw [Except.ok.inj h]
    | _ => cases h
  · rintro rfl
    exact toText_string s

/-- **A conversion takes what is wanted** as it stands, and objects to everything else. -/
structure Takes {α : Type} (wanted : Wanted) (convert : Json → Except Mismatch α) : Prop where
  fits_iff : ∀ x : Json, x.Fits wanted ↔ ∃ a, convert x = .ok a
  eq_objection : ∀ x m, convert x = .error m → m = x.objection wanted

theorem takes_toInt32 : Takes .int32 toInt32 where
  fits_iff x := exists_congr fun n => toInt32_eq_ok_iff.symm
  eq_objection x m h := by
    cases x with
    | integer n =>
      rw [toInt32] at h
      rcases hn : Decimal.int32? n with _ | n'
      · rw [hn] at h
        exact (Except.error.inj h).symm
      · rw [hn] at h
        cases h
    | _ => exact (Except.error.inj h).symm

theorem takes_toSize : Takes .size toSize where
  fits_iff x := exists_congr fun n => toSize_eq_ok_iff.symm
  eq_objection x m h := by
    cases x with
    | integer n =>
      rw [toSize] at h
      split_ifs at h
      exact (Except.error.inj h).symm
    | _ => exact (Except.error.inj h).symm

theorem takes_toText : Takes .string toText where
  fits_iff x := exists_congr fun s => toText_eq_ok_iff.symm
  eq_objection x m h := by
    cases x with
    | string s => cases h
    | _ => exact (Except.error.inj h).symm

/-- A conversion is refused exactly where the value does not fit. -/
theorem Takes.refusal_eq_some_iff {α : Type} {wanted : Wanted} {convert : Json → Except Mismatch α}
    (h : Takes wanted convert) {x : Json} {m : Mismatch} :
    refusal (convert x) = some m ↔ ¬x.Fits wanted ∧ m = x.objection wanted := by
  rw [TextGauge.refusal_eq_some_iff, h.fits_iff]
  constructor
  · intro hm
    refine ⟨?_, h.eq_objection x m hm⟩
    rintro ⟨a, ha⟩
    rw [ha] at hm
    cases hm
  · rintro ⟨hfits, rfl⟩
    rcases hx : convert x with m | a
    · rw [h.eq_objection x m hx]
    · exact absurd ⟨a, hx⟩ hfits

end Json

end TextGauge
