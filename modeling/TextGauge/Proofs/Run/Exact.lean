import TextGauge.Proofs.Run

/-!
# What a run gives

A run ends in one of two ways (`TextGauge.run_cases`): both results fit in 32 bits and it reports
them, or one of them does not and the run ends with the fault that says which one. There is never a
choice between two faults (`TextGauge.fits_add_or_fits_sub`). A sum and a difference add up to twice
the one operand and are apart by twice the other, so if both were out of range, on the same side or
on different ones, an operand would be so, too. It does not matter, then, which of the two is
computed first.

A report that a run gives can be checked against its operands: each operation undoes the other.
-/

namespace TextGauge

/-! ### Operations -/

namespace Operation

variable {operation : Operation} {a b : Int32}

/-- **An operation fails** for its own result only, and names itself and its operands. -/
theorem run_eq_error_iff {f : Fault} :
    operation.run a b = .error f ↔
      f = .overflow operation a b ∧ ¬Fits (operation.apply a.toInt b.toInt) := by
  by_cases hfits : Fits (operation.apply a.toInt b.toInt)
  · obtain ⟨n, hn⟩ := hfits.exists_toInt_eq
    rw [run_eq_ok hn]
    exact iff_of_false nofun fun h => h.2 hfits
  · rw [run_eq_error hfits, Except.error.injEq]
    exact ⟨fun h => ⟨h.symm, hfits⟩, fun h => h.1.symm⟩

end Operation

theorem fits_iff {n : ℤ} : Fits n ↔ -2147483648 ≤ n ∧ n < 2147483648 :=
  Iff.rfl

instance : DecidablePred Fits := fun _ => inferInstanceAs (Decidable (_ ∧ _))

theorem fits_toInt (n : Int32) : Fits n.toInt :=
  ⟨n.le_toInt, n.toInt_lt⟩

/-- **The sum and the difference** of two integers of 32 bits are not both out of range. -/
theorem fits_add_or_fits_sub (a b : Int32) :
    Fits (a.toInt + b.toInt) ∨ Fits (a.toInt - b.toInt) := by
  have ha := fits_iff.mp (fits_toInt a)
  have hb := fits_iff.mp (fits_toInt b)
  rw [fits_iff, fits_iff]
  omega

/-! ### The ways a run can go -/

/-- The report of a run with these results. -/
def Report.ofResults (operands : Operands) (text : String) (sum difference : Int32) : Report where
  a := operands.a
  b := operands.b
  sum
  difference
  text
  length := Text.length (Utf8.encode text)
  vowels := Text.vowelCount (Utf8.encode text)

section Run

variable {operands : Operands} {text : String}

/-- **The ways a run can go.** It has both results, tells three events and reports; or it lacks one
of them, and ends with that one after the first event. -/
theorem run_cases (operands : Operands) (text : String) :
    (∃ sum difference, add operands.a operands.b = .ok sum ∧
      subtract operands.a operands.b = .ok difference ∧
      run operands text =
        ⟨[.computing operands.a operands.b, .analyzing text,
            .complete sum difference (Text.length (Utf8.encode text))
              (Text.vowelCount (Utf8.encode text))],
          .ok (.ofResults operands text sum difference)⟩) ∨
    ∃ operation : Operation, ¬Fits (operation.apply operands.a.toInt operands.b.toInt) ∧
      run operands text =
        ⟨[.computing operands.a operands.b],
          .error (.overflow operation operands.a operands.b)⟩ := by
  rcases hadd : add operands.a operands.b with f | sum
  · obtain ⟨rfl, hfits⟩ := Operation.run_eq_error_iff.mp hadd
    refine .inr ⟨.addition, hfits, ?_⟩
    rw [run, hadd]
  · rcases hsubtract : subtract operands.a operands.b with f | difference
    · obtain ⟨rfl, hfits⟩ := Operation.run_eq_error_iff.mp hsubtract
      refine .inr ⟨.subtraction, hfits, ?_⟩
      rw [run, hadd, hsubtract]
    · refine .inl ⟨sum, difference, rfl, rfl, ?_⟩
      rw [run, hadd, hsubtract]
      rfl

/-- What a run reports if the difference is computed first. -/
def reportDifferenceFirst (operands : Operands) (text : String) : Except Fault Report := do
  let difference ← subtract operands.a operands.b
  let sum ← add operands.a operands.b
  return .ofResults operands text sum difference

/-- **The order of the two operations** makes no difference, not even to a fault. -/
theorem result_run_eq_reportDifferenceFirst (operands : Operands) (text : String) :
    (run operands text).result = reportDifferenceFirst operands text := by
  rw [reportDifferenceFirst]
  rcases run_cases operands text with
    ⟨sum, difference, hadd, hsubtract, hrun⟩ | ⟨operation, hfits, hrun⟩
  · rw [hrun, hadd, hsubtract]
    rfl
  · rw [hrun]
    cases operation with
    | addition =>
      have hadd : add operands.a operands.b = .error (.overflow .addition operands.a operands.b) :=
        Operation.run_eq_error hfits
      obtain ⟨difference, hdifference⟩ :=
        ((fits_add_or_fits_sub operands.a operands.b).resolve_left hfits).exists_toInt_eq
      have hsubtract : subtract operands.a operands.b = .ok difference :=
        Operation.run_eq_ok hdifference
      rw [hsubtract, ok_bind, hadd, error_bind]
    | subtraction =>
      have hsubtract :
          subtract operands.a operands.b = .error (.overflow .subtraction operands.a operands.b) :=
        Operation.run_eq_error hfits
      rw [hsubtract, error_bind]

/-- **A run reports** exactly if both results fit. -/
theorem exists_result_run_eq_ok_iff :
    (∃ r, (run operands text).result = .ok r) ↔
      Fits (operands.a.toInt + operands.b.toInt) ∧ Fits (operands.a.toInt - operands.b.toInt) := by
  constructor
  · rintro ⟨r, hr⟩
    have hmeasures := measures_of_run hr
    rw [← hmeasures.sum, ← hmeasures.difference]
    exact ⟨fits_toInt r.sum, fits_toInt r.difference⟩
  · rintro ⟨hsum, hdifference⟩
    obtain ⟨sum, hsum⟩ := hsum.exists_toInt_eq
    obtain ⟨difference, hdifference⟩ := hdifference.exists_toInt_eq
    exact ⟨_, run_eq_ok hsum hdifference text⟩

/-- **A run fails** exactly for an operation that does not fit. -/
theorem result_run_eq_error_iff {f : Fault} :
    (run operands text).result = .error f ↔
      ∃ operation : Operation, f = .overflow operation operands.a operands.b ∧
        ¬Fits (operation.apply operands.a.toInt operands.b.toInt) := by
  constructor
  · intro h
    rcases run_cases operands text with ⟨sum, difference, -, -, hrun⟩ | ⟨operation, hfits, hrun⟩
    · rw [hrun] at h
      cases h
    · rw [hrun] at h
      exact ⟨operation, (Except.error.inj h).symm, hfits⟩
  · rintro ⟨operation, rfl, hfits⟩
    cases operation with
    | addition => exact run_eq_error_addition hfits text
    | subtraction =>
      have hsum := (fits_add_or_fits_sub operands.a operands.b).resolve_right hfits
      exact run_eq_error_subtraction hsum hfits text

theorem events_run_of_ok {r : Report} (h : (run operands text).result = .ok r) :
    (run operands text).events =
      [.computing operands.a operands.b, .analyzing text,
        .complete r.sum r.difference r.length r.vowels] := by
  rcases run_cases operands text with ⟨sum, difference, -, -, hrun⟩ | ⟨operation, -, hrun⟩
  · rw [hrun] at h ⊢
    rw [← Except.ok.inj h]
    rfl
  · rw [hrun] at h
    cases h

theorem events_run_of_error {f : Fault} (h : (run operands text).result = .error f) :
    (run operands text).events = [.computing operands.a operands.b] := by
  rcases run_cases operands text with ⟨sum, difference, -, -, hrun⟩ | ⟨operation, -, hrun⟩
  · rw [hrun] at h
    cases h
  · rw [hrun]

/-- **What a run reports can be undone**: taking an operand off the sum, or putting it back onto the
difference, gives the other operand. -/
theorem Report.Measures.undo {r : Report} (h : r.Measures operands text) :
    subtract r.sum operands.b = .ok operands.a ∧ add r.difference operands.b = .ok operands.a := by
  refine ⟨Operation.run_eq_ok ?_, Operation.run_eq_ok ?_⟩
  · rw [Operation.apply, h.sum]
    omega
  · rw [Operation.apply, h.difference]
    omega

end Run

/-- **A run is exact, and its fault has one reading.** It reports exactly if the sum and the
difference of its operands fit in 32 bits. The report then says what it has to of the operands and
the text, three events lead to it, either operation undoes the other, and the results add up to
twice the first operand and are apart by twice the second. Otherwise the run ends with an operation
that does not fit and its operands, after one event. The two operations never both fail, so the
result is the same in the other order. -/
theorem run_exact_and_unambiguous (operands : Operands) (text : String) :
    ((∃ r, (run operands text).result = .ok r) ↔
      Fits (operands.a.toInt + operands.b.toInt) ∧ Fits (operands.a.toInt - operands.b.toInt)) ∧
    (∀ r, (run operands text).result = .ok r →
      r.Measures operands text ∧
      (run operands text).events =
        [.computing operands.a operands.b, .analyzing text,
          .complete r.sum r.difference r.length r.vowels] ∧
      subtract r.sum operands.b = .ok operands.a ∧ add r.difference operands.b = .ok operands.a ∧
      r.sum.toInt + r.difference.toInt = 2 * operands.a.toInt ∧
      r.sum.toInt - r.difference.toInt = 2 * operands.b.toInt) ∧
    (∀ f, (run operands text).result = .error f ↔
      ∃ operation : Operation, f = .overflow operation operands.a operands.b ∧
        ¬Fits (operation.apply operands.a.toInt operands.b.toInt)) ∧
    (∀ f, (run operands text).result = .error f →
      (run operands text).events = [.computing operands.a operands.b]) ∧
    (Fits (operands.a.toInt + operands.b.toInt) ∨ Fits (operands.a.toInt - operands.b.toInt)) ∧
    (run operands text).result = reportDifferenceFirst operands text := by
  refine ⟨exists_result_run_eq_ok_iff, fun r hr => ?_, fun f => result_run_eq_error_iff,
    fun f => events_run_of_error, fits_add_or_fits_sub operands.a operands.b,
    result_run_eq_reportDifferenceFirst operands text⟩
  have hmeasures := measures_of_run hr
  obtain ⟨hsubtract, hadd⟩ := hmeasures.undo
  refine ⟨hmeasures, events_run_of_ok hr, hsubtract, hadd, ?_, ?_⟩
  · rw [hmeasures.sum, hmeasures.difference]
    omega
  · rw [hmeasures.sum, hmeasures.difference]
    omega

/-- A difference that is just in range, and one that is just out of it. -/
theorem run_exact_and_unambiguous_least :
    let largest : Int32 := 2147483647
    let least : Int32 := -2147483648
    (∃ r, (run ⟨-1, largest⟩ "ä").result = .ok r ∧ r.Measures ⟨-1, largest⟩ "ä" ∧
      r.difference = least ∧ add r.difference largest = .ok (-1)) ∧
    ¬Fits (Operation.apply .subtraction (0 : Int32).toInt least.toInt) ∧
    (run ⟨0, least⟩ "").result = .error (.overflow .subtraction 0 least) ∧
    (run ⟨0, least⟩ "").events = [.computing 0 least] := by
  intro largest least
  obtain ⟨hiff, hok, -⟩ := run_exact_and_unambiguous ⟨-1, largest⟩ "ä"
  obtain ⟨-, -, herror, hevents, -⟩ := run_exact_and_unambiguous ⟨0, least⟩ ""
  obtain ⟨r, hr⟩ := hiff.mpr ⟨by decide, by decide⟩
  obtain ⟨hmeasures, -, -, hadd, -⟩ := hok r hr
  have hleast : r.difference = least := Int32.toInt_inj.mp hmeasures.difference
  have hfits : ¬Fits (Operation.apply .subtraction (0 : Int32).toInt least.toInt) := by decide
  have hfault := (herror _).mpr ⟨.subtraction, rfl, hfits⟩
  exact ⟨⟨r, hr, hmeasures, hleast, hadd⟩, hfits, hfault, hevents _ hfault⟩

end TextGauge
