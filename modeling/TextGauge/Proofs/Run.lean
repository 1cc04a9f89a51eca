import TextGauge.Proofs.Decimal
import TextGauge.Proofs.Except
import TextGauge.Proofs.Text.Measure
import TextGauge.Run

/-!
# Checks and arithmetic

A run goes through if its text has no zero character, its log level is one of those there are, and
the sum and the difference of its operands fit in 32 bits. Each of the four has two lemmas here:
what is the result where it holds, and what is the fault where it does not. What a run reports is a
property of its operands and its text (`TextGauge.Report.Measures`).
-/

namespace TextGauge

/-! ### Arithmetic -/

/-- Whether an integer fits in 32 signed bits. -/
def Fits (n : ℤ) : Prop :=
  -Int.pow 2 31 ≤ n ∧ n < Int.pow 2 31

namespace Operation

variable {operation : Operation} {a b : Int32}

/-- **A result that fits** is the exact one. -/
theorem run_eq_ok {n : Int32} (h : n.toInt = operation.apply a.toInt b.toInt) :
    operation.run a b = .ok n := by
  rw [run, ← h, Decimal.int32?_toInt]

theorem run_eq_error (h : ¬Fits (operation.apply a.toInt b.toInt)) :
    operation.run a b = .error (.overflow operation a b) := by
  have hnone : Decimal.int32? (operation.apply a.toInt b.toInt) = none := if_neg h
  rw [run, hnone]

end Operation

/-- What fits in 32 bits is an integer of 32 bits. -/
theorem Fits.exists_toInt_eq {n : ℤ} (h : Fits n) : ∃ m : Int32, m.toInt = n :=
  ⟨Int32.ofInt n, Int32.toInt_ofInt_of_le h.1 h.2⟩

/-! ### Checks -/

/-- A text without zero character is allowed. -/
theorem checkText_eq_ok {text : String} (h : '\x00' ∉ text.toList) (name : String) :
    checkText name text = .ok () := by
  rw [checkText, Text.nulOffset?_eq_none_iff.mpr h]

/-- **A text with a zero character** is refused for the first one. -/
theorem checkText_eq_error {text : String} {before after : List Char}
    (hsplit : text.toList = before ++ '\x00' :: after) (hbefore : '\x00' ∉ before) (name : String) :
    checkText name text =
      .error (.value name (Text.Echo.bare text) (.nulAt (String.ofList before).utf8ByteSize)) := by
  rw [checkText, Text.nulOffset?_encode hsplit hbefore]

/-- The words for log levels. -/
def levelWords : List String := ["error", "warn", "info", "debug", "trace"]

/-- A text in lower case, as far as it is ASCII. -/
def lowered (s : String) : String :=
  String.ofList (s.toList.map Char.toLower)

/-- **A log level is called** by its word in any ASCII case. -/
theorem isSome_called?_iff {s : String} : (Level.called? s).isSome ↔ lowered s ∈ levelWords := by
  have hwords : levelWords = Level.all.map Level.word := rfl
  rw [Level.called?, List.find?_isSome, hwords, List.mem_map]
  simp only [decide_eq_true_eq, lowered, String.ext_iff, String.toList_ofList]

theorem checkLevel_eq_ok {level : String} (h : lowered level ∈ levelWords) (name : String) :
    checkLevel name level = .ok () := by
  rw [checkLevel, if_pos (isSome_called?_iff.mpr h)]

theorem checkLevel_eq_error {level : String} (h : lowered level ∉ levelWords) (name : String) :
    checkLevel name level = .error (.value name level .unknownLevel) := by
  rw [checkLevel, if_neg (fun hcalled => h (isSome_called?_iff.mp hcalled))]

/-! ### Runs -/

variable {a b : Int32}

/-- **A run whose results fit** reports them, and the measures of the text. -/
theorem run_eq_ok {sum difference : Int32}
    (hsum : sum.toInt = a.toInt + b.toInt)
    (hdifference : difference.toInt = a.toInt - b.toInt) (text : String) :
    (run ⟨a, b⟩ text).result = .ok
      { a
        b
        sum
        difference
        text
        length := text.utf8ByteSize
        vowels := text.toList.countP fun c => c ∈ Text.vowels } := by
  have hadd : add a b = .ok sum := Operation.run_eq_ok hsum
  have hsubtract : subtract a b = .ok difference := Operation.run_eq_ok hdifference
  rw [run, hadd, hsubtract]
  simp only [Text.length_encode, Text.vowelCount_encode]

/-- A sum that does not fit ends a run, whatever the difference is. -/
theorem run_eq_error_addition (h : ¬Fits (a.toInt + b.toInt)) (text : String) :
    (run ⟨a, b⟩ text).result = .error (.overflow .addition a b) := by
  have hadd : add a b = .error (.overflow .addition a b) := Operation.run_eq_error h
  rw [run, hadd]

/-- A difference that does not fit ends a run whose sum fits. -/
theorem run_eq_error_subtraction (hsum : Fits (a.toInt + b.toInt)) (h : ¬Fits (a.toInt - b.toInt))
    (text : String) :
    (run ⟨a, b⟩ text).result = .error (.overflow .subtraction a b) := by
  obtain ⟨sum, hsum⟩ := hsum.exists_toInt_eq
  have hadd : add a b = .ok sum := Operation.run_eq_ok hsum
  have hsubtract : subtract a b = .error (.overflow .subtraction a b) := Operation.run_eq_error h
  rw [run, hadd, hsubtract]

/-! ### Reports of runs -/

/-- **What a report says of operands and a text**, if it is that of a run on them. -/
structure Report.Measures (r : Report) (operands : Operands) (input : String) : Prop where
  a : r.a = operands.a
  b : r.b = operands.b
  sum : r.sum.toInt = operands.a.toInt + operands.b.toInt
  difference : r.difference.toInt = operands.a.toInt - operands.b.toInt
  text : r.text = input
  length : r.length = input.utf8ByteSize
  vowels : r.vowels = input.toList.countP fun c => c ∈ Text.vowels

/-- An operation that succeeds gives the exact result. -/
theorem Operation.toInt_of_run {operation : Operation} {n : Int32}
    (h : operation.run a b = .ok n) : n.toInt = operation.apply a.toInt b.toInt := by
  rw [run] at h
  split at h
  · rename_i m hm
    obtain rfl := Except.ok.inj h
    exact (Decimal.int32?_eq_some_iff.mp hm).symm
  · cases h

/-- **A run that succeeds** reports on its operands and its text. -/
theorem measures_of_run {operands : Operands} {text : String} {r : Report}
    (h : (run operands text).result = .ok r) : r.Measures operands text := by
  rw [run] at h
  rcases hadd : add operands.a operands.b with f | sum
  · rw [hadd] at h
    cases h
  · rcases hsubtract : subtract operands.a operands.b with f | difference
    · rw [hadd, hsubtract] at h
      cases h
    · rw [hadd, hsubtract] at h
      obtain rfl := Except.ok.inj h
      exact
        { a := rfl
          b := rfl
          sum := Operation.toInt_of_run hadd
          difference := Operation.toInt_of_run hsubtract
          text := rfl
          length := Text.length_encode text
          vowels := Text.vowelCount_encode text }

namespace Report

variable {r r' : Report} {operands : Operands} {text text' : String}

/-- There are no more vowels in a text than bytes. -/
theorem Measures.vowels_le (h : r.Measures operands text) : r.vowels ≤ text.utf8ByteSize := by
  rw [h.vowels, ← Text.vowelCount_encode, ← Text.length_encode]
  exact List.countP_le_length

theorem Measures.length_eq (h : r.Measures operands text) : r.length = r.text.utf8ByteSize := by
  rw [h.length, h.text]

/-- **The results** are told by the operands. -/
theorem Measures.results_eq (h : r.Measures operands text) (h' : r'.Measures operands text') :
    r.sum = r'.sum ∧ r.difference = r'.difference :=
  ⟨Int32.toInt_inj.mp (h.sum.trans h'.sum.symm),
    Int32.toInt_inj.mp (h.difference.trans h'.difference.symm)⟩

/-- **A report of a run** is told by the operands and the text. -/
theorem Measures.eq (h : r.Measures operands text) (h' : r'.Measures operands text) : r = r' := by
  obtain ⟨hsum, hdifference⟩ := h.results_eq h'
  obtain ⟨ha, hb, -, -, htext, hlength, hvowels⟩ := h
  obtain ⟨ha', hb', -, -, htext', hlength', hvowels'⟩ := h'
  rw [Report.mk.injEq, ha, hb, htext, hlength, hvowels, ha', hb', htext', hlength', hvowels']
  exact ⟨rfl, rfl, hsum, hdifference, rfl, rfl, rfl⟩

end Report

end TextGauge
