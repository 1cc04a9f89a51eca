import TextGauge.Proofs.Except
import TextGauge.Proofs.Json.RoundTrip
import TextGauge.Report.FromJson

/-!
# Reading reports back

Whatever a report says, the JSON text of it is nine lines, one for each field and two for the
brackets, and is read as a JSON value that holds the same report
(`TextGauge.Report.ofJson_parse?_write`). Only the ends of its lines are below the space, since
what is below the space in the report is escaped.
-/

namespace TextGauge

namespace Json

/-! ### Fields -/

theorem isWord_toInt (n : Int32) : IsWord n.toInt := by
  have hlow := n.le_toInt
  have hhigh := n.toInt_lt
  rw [isWord_iff]
  omega

theorem isWord_natCast {n : ℕ} (h : n < Nat.pow 2 64) : IsWord n := by
  have hbound : n < 18446744073709551616 := h
  rw [isWord_iff]
  omega

@[simp] theorem toInt32_toInt (n : Int32) : toInt32 (.integer n.toInt) = .ok n := by
  rw [toInt32, Decimal.int32?_toInt]
  rfl

theorem toSize_natCast {n : ℕ} (h : n < Nat.pow 2 64) : toSize (.integer n) = .ok n := by
  have hbounds : (0 : ℤ) ≤ n ∧ (n : ℤ) < Int.pow 2 64 :=
    ⟨Int.natCast_nonneg n, (isWord_natCast h).2⟩
  rw [toSize, if_pos hbounds, Int.toNat_natCast]

theorem toText_string (s : String) : toText (.string s) = .ok s :=
  rfl

theorem field?_eq_ok {α : Type} {members : List (String × Json)} {name : String} {x : Json}
    {convert : Json → Except Mismatch α} {value : α} (hlookup : members.lookup name = some x)
    (hvalue : convert x = .ok value) : field? members convert name = .ok (some value) := by
  rw [field?, hlookup]
  simp only [hvalue]
  rfl

end Json

namespace Report

open Json

/-- The JSON value of a report can be read back. -/
theorem readable_toJson {r : Report} (hlength : r.length < Nat.pow 2 64)
    (hvowels : r.vowels < Nat.pow 2 64) :
    Readable deepest r.toJson := by
  refine ⟨by simp, ?_⟩
  intro m hm
  simp only [List.mem_cons, List.not_mem_nil, or_false] at hm
  rcases hm with rfl | rfl | rfl | rfl | rfl | rfl | rfl
  · exact isWord_toInt r.a
  · exact isWord_toInt r.b
  · exact isWord_toInt r.sum
  · exact isWord_toInt r.difference
  · trivial
  · exact isWord_natCast hlength
  · exact isWord_natCast hvowels

/-- **The JSON value of a report holds that report.** -/
theorem ofJson_toJson {r : Report} (hlength : r.length < Nat.pow 2 64)
    (hvowels : r.vowels < Nat.pow 2 64) : ofJson r.toJson = .ok r := by
  -- each field is looked up by its name, so the order in which they are written does not matter
  rw [toJson, ofJson, field?_eq_ok rfl (toInt32_toInt r.a), field?_eq_ok rfl (toInt32_toInt r.b),
    field?_eq_ok rfl (toInt32_toInt r.difference), field?_eq_ok rfl (toSize_natCast hlength),
    field?_eq_ok rfl (toInt32_toInt r.sum), field?_eq_ok rfl (toText_string r.text),
    field?_eq_ok rfl (toSize_natCast hvowels)]
  rfl

/-- The JSON text of a report is nine lines. -/
theorem lined_write_toJson (r : Report) : Lined 9 r.toJson.write.toList := by
  refine lined_write_object rfl fun m hm => ?_
  simp only [List.mem_cons, List.not_mem_nil, or_false] at hm
  rcases hm with rfl | rfl | rfl | rfl | rfl | rfl | rfl <;> rw [writeAt]
  case inr.inr.inr.inr.inl => exact isLine_quote r.text
  all_goals exact isLine_ofInt _

/-- **A report survives being written**: its JSON text is read as a value, that value holds the
report, and the text is nine lines with no character below the space but the newlines between
them, whatever its own text is. -/
theorem ofJson_parse?_write {r : Report} (hlength : r.length < Nat.pow 2 64)
    (hvowels : r.vowels < Nat.pow 2 64) :
    (∃ value, Json.parse? r.toJson.write = some value ∧ ofJson value = .ok r) ∧
      Lined 9 r.toJson.write.toList :=
  ⟨⟨r.toJson, parse?_write (readable_toJson hlength hvowels), ofJson_toJson hlength hvowels⟩,
    lined_write_toJson r⟩

/-- A report at the limits, whose text has all that is escaped and much that looks as if it were. -/
def atLimits : Report :=
  ⟨Int32.minValue, Int32.maxValue, -1, 0, "\x00\x1f\n\r\t\"\\u0022\x7f\u2028/𝄞", Nat.pow 2 64 - 1,
    0⟩

theorem ofJson_parse?_write_at_limits :
    (atLimits.length < Nat.pow 2 64 ∧ atLimits.vowels < Nat.pow 2 64) ∧
      (∃ value, Json.parse? atLimits.toJson.write = some value ∧ ofJson value = .ok atLimits) ∧
        Lined 9 atLimits.toJson.write.toList :=
  ⟨⟨by decide, by decide⟩, ofJson_parse?_write (by decide) (by decide)⟩

end Report

end TextGauge
