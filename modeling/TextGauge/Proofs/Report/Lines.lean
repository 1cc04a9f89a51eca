import Mathlib.Order.Monotone.Basic
import TextGauge.Proofs.Run
import TextGauge.Proofs.Span

/-!
# The lines of a report tell it

The text stands in the lines of a report as it is, and it may have line ends in it and look like
lines of its own. Still the four lines of the report of a run tell the whole report
(`TextGauge.Report.eq_of_join_lines_eq`). Three facts make up for the missing quotes:

* the operands come first, and a blank ends a number (`TextGauge.Decimal.ofInt_append_inj`);
* the vowels come last, and a blank begins a number too (`TextGauge.Decimal.append_ofNat_inj`);
* between the two copies of the text its length is printed, and a longer text has no shorter length
  (`TextGauge.eq_of_append_between_append`).
-/

namespace TextGauge

/-! ### Where a number begins and ends -/

namespace Decimal

theorem ofInt_injective : Function.Injective ofInt := by
  intro m n h
  have hm := int?_of_spells (spells_ofInt m)
  rw [h, int?_of_spells (spells_ofInt n)] at hm
  exact (Option.some.inj hm).symm

theorem ofNat_injective : Function.Injective ofNat := by
  intro m n h
  rw [← value_ofNat m, h, value_ofNat]

/-- **A blank ends a number.** -/
theorem ofInt_append_inj {m n : ℤ} {l l' : List Char}
    (h : ofInt m ++ ' ' :: l = ofInt n ++ ' ' :: l') : m = n ∧ l = l' := by
  have hmem : ∀ n : ℤ, ∀ c ∈ ofInt n, c != ' ' := by
    intro n c hc
    rcases mem_ofInt hc with rfl | hdigit
    · rfl
    · rw [bne_iff_ne]
      rintro rfl
      exact absurd hdigit (by decide)
  obtain ⟨hnumber, hrest⟩ := append_cons_inj (hmem m) (hmem n) rfl h
  exact ⟨ofInt_injective hnumber, hrest⟩

/-- **A blank begins a number.** -/
theorem append_ofNat_inj {m n : ℕ} {l l' : List Char}
    (h : l ++ ' ' :: ofNat m = l' ++ ' ' :: ofNat n) : l = l' ∧ m = n := by
  have hmem : ∀ n : ℕ, ∀ c ∈ (ofNat n).reverse, c.isDigit := by
    intro n c hc
    exact isDigit_of_mem_ofNat (List.mem_reverse.mp hc)
  -- read from the end the number comes first
  have hreverse :
      (ofNat m).reverse ++ ' ' :: l.reverse = (ofNat n).reverse ++ ' ' :: l'.reverse := by
    simpa using congrArg List.reverse h
  obtain ⟨hnumber, hrest⟩ := append_cons_inj (hmem m) (hmem n) rfl hreverse
  exact ⟨List.reverse_injective hrest, ofNat_injective (List.reverse_injective hnumber)⟩

/-- A greater number has no fewer digits. -/
theorem length_ofNat_mono : Monotone fun n => (ofNat n).length := by
  intro m n hle
  have hpos : 0 < (ofNat n).length := List.length_pos_iff.mpr (ofNat_ne_nil n)
  have hlt : n < 10 ^ (ofNat n).length :=
    (Nat.length_toDigits_le_iff (by decide) hpos).mp le_rfl
  exact (Nat.length_toDigits_le_iff (by decide) hpos).mpr (hle.trans_lt hlt)

end Decimal

/-! ### Where a text ends -/

/-- **What is written twice** with its length in between, or with anything in between that is not
shorter for a greater length, is told by that. -/
theorem eq_of_append_between_append {α : Type} {between : ℕ → List α}
    (hmono : Monotone fun n => (between n).length) {l l' : List α}
    (h : l ++ between l.length ++ l = l' ++ between l'.length ++ l') : l = l' := by
  have hsize : 2 * l.length + (between l.length).length =
      2 * l'.length + (between l'.length).length := by
    have hlength := congrArg List.length h
    simp only [List.length_append] at hlength
    omega
  have hlength : l.length = l'.length := by
    rcases Nat.lt_trichotomy l.length l'.length with hlt | heq | hgt
    · have hle : (between l.length).length ≤ (between l'.length).length := hmono hlt.le
      omega
    · exact heq
    · have hle : (between l'.length).length ≤ (between l.length).length := hmono hgt.le
      omega
  rw [List.append_assoc, List.append_assoc] at h
  exact (List.append_inj h hlength).1

namespace Report

variable {r r' : Report}

/-- The lines before the first copy of the text. -/
def opening (r : Report) : String :=
  r.sumLine ++ ("\n" ++ (r.differenceLine ++ ("\n" ++ "String Length: ")))

/-- What stands between the two copies of a text of a length. -/
def between (length : ℕ) : String :=
  " = " ++ (Decimal.text length ++ ("\n" ++ "Vowel Count: "))

/-- The lines from the first copy of the text to the second one. -/
def told (r : Report) : String :=
  r.text ++ (between r.length ++ r.text)

theorem join_lines (r : Report) :
    String.join (r.lines.map (· ++ "\n")) =
      r.opening ++ (r.told ++ (" = " ++ (Decimal.text r.vowels ++ "\n"))) := by
  -- not by the equations of these definitions, which Lean is slow to make
  delta lines opening told between lengthLine vowelsLine
  simp only [List.map_cons, List.map_nil, String.join_cons, String.join_nil, String.append_empty,
    String.append_assoc]

/-- The lines begin with the operands, and a blank follows each of them. -/
theorem exists_toList_opening (r : Report) (s : String) :
    ∃ rest, (r.opening ++ s).toList = "Addition: ".toList ++ (Decimal.ofInt r.a.toInt ++
      ' ' :: ("+ ".toList ++ (Decimal.ofInt r.b.toInt ++ ' ' :: rest))) := by
  have hplus : " + ".toList = ' ' :: "+ ".toList := rfl
  have hequal : " = ".toList = ' ' :: "= ".toList := rfl
  delta opening sumLine
  simp only [String.toList_append, Decimal.text, String.toList_ofList, List.append_assoc, hplus,
    hequal, List.cons_append]
  exact ⟨_, rfl⟩

/-- **The operands** are told by the beginning of the lines. -/
theorem operands_eq_of_opening {s s' : String} (h : r.opening ++ s = r'.opening ++ s') :
    r.a = r'.a ∧ r.b = r'.b := by
  obtain ⟨rest, hr⟩ := r.exists_toList_opening s
  obtain ⟨rest', hr'⟩ := r'.exists_toList_opening s'
  rw [h, hr'] at hr
  obtain ⟨ha, hr⟩ := Decimal.ofInt_append_inj (List.append_cancel_left hr)
  obtain ⟨hb, -⟩ := Decimal.ofInt_append_inj (List.append_cancel_left hr)
  exact ⟨(Int32.toInt_inj.mp ha).symm, (Int32.toInt_inj.mp hb).symm⟩

/-- **The vowels** are told by the end of the lines, and so is what is before them. -/
theorem told_eq_and_vowels_eq
    (h : r.told ++ (" = " ++ (Decimal.text r.vowels ++ "\n")) =
      r'.told ++ (" = " ++ (Decimal.text r'.vowels ++ "\n"))) :
    r.told = r'.told ∧ r.vowels = r'.vowels := by
  have hlist : ∀ r : Report, (r.told ++ (" = " ++ (Decimal.text r.vowels ++ "\n"))).toList =
      ((r.told ++ " =").toList ++ ' ' :: Decimal.ofNat r.vowels) ++ ['\n'] := by
    intro r
    have hequal : " = ".toList = " =".toList ++ [' '] := rfl
    have hend : "\n".toList = ['\n'] := rfl
    simp [Decimal.text, Decimal.ofInt, hequal, hend]
  have hlists := congrArg String.toList h
  rw [hlist r, hlist r'] at hlists
  obtain ⟨htold, hvowels⟩ := Decimal.append_ofNat_inj (List.append_cancel_right hlists)
  exact ⟨(String.append_left_inj _).mp (String.toList_inj.mp htold), hvowels⟩

theorem length_encode_between_mono :
    Monotone fun n => (Utf8.encode (between n)).length := by
  have hlength : ∀ n, (Utf8.encode (between n)).length =
      (Utf8.encode " = ").length + ((Decimal.ofNat n).length +
        (Utf8.encode ("\n" ++ "Vowel Count: ")).length) := by
    intro n
    have htext : Utf8.encode (Decimal.text n) =
        (Decimal.ofNat n).map fun c => UInt8.ofNat c.toNat :=
      Utf8.encode_ofList_of_isDigit fun c => Decimal.isDigit_of_mem_ofNat
    rw [between, Utf8.encode_append " = ", Utf8.encode_append (Decimal.text n), htext,
      List.length_append, List.length_append, List.length_map]
  intro m n hle
  have hdigits : (Decimal.ofNat m).length ≤ (Decimal.ofNat n).length :=
    Decimal.length_ofNat_mono hle
  simp only [hlength]
  omega

/-- **The text** is told by its two copies, and its length between them. -/
theorem text_eq_of_told (hlength : r.length = r.text.utf8ByteSize)
    (hlength' : r'.length = r'.text.utf8ByteSize) (h : r.told = r'.told) : r.text = r'.text := by
  have hbytes := congrArg Utf8.encode h
  simp only [told, Utf8.encode_append, hlength, hlength', ← Text.length_encode] at hbytes
  rw [← List.append_assoc, ← List.append_assoc] at hbytes
  exact Utf8.encode_injective (eq_of_append_between_append length_encode_between_mono hbytes)

/-! ### Reports of runs -/

section Runs

variable {operands : Operands} {text text' : String}

theorem Measures.opening_eq (h : r.Measures operands text) (h' : r'.Measures operands text') :
    r.opening = r'.opening := by
  obtain ⟨hsum, hdifference⟩ := h.results_eq h'
  delta opening sumLine differenceLine
  rw [h.a, h.b, h'.a, h'.b, hsum, hdifference]

/-- **The lines tell the report.** Two runs that end in a report and of which the lines, each with
its line end, are the same characters started from the same operands and the same text, whatever
line ends and numbers the texts have in them. -/
theorem eq_of_join_lines_eq {operands' : Operands} (h : (run operands text).result = .ok r)
    (h' : (run operands' text').result = .ok r')
    (hlines : String.join (r.lines.map (· ++ "\n")) = String.join (r'.lines.map (· ++ "\n"))) :
    operands = operands' ∧ text = text' ∧ r = r' := by
  have hr := measures_of_run h
  have hr' := measures_of_run h'
  rw [join_lines r, join_lines r'] at hlines
  obtain ⟨ha, hb⟩ := operands_eq_of_opening hlines
  obtain rfl : operands = operands' := by
    rw [Operands.mk.injEq, ← hr.a, ← hr.b, ← hr'.a, ← hr'.b]
    exact ⟨ha, hb⟩
  -- the results are those of the operands, so the lines agree up to the text
  rw [hr.opening_eq hr'] at hlines
  obtain ⟨htold, -⟩ := told_eq_and_vowels_eq ((String.append_right_inj _).mp hlines)
  obtain rfl : text = text' := by
    rw [← hr.text, ← hr'.text]
    exact text_eq_of_told hr.length_eq hr'.length_eq htold
  exact ⟨rfl, rfl, hr.eq hr'⟩

end Runs

/-- A text that looks like the end of one line and the beginning of another one, spelled in two
ways. -/
theorem eq_of_join_lines_eq_forged :
    let text := "x = 1\nVowel Count: y = 2"
    let text' := "\n".intercalate ["x = 1", "Vowel Count: y = 2"]
    let r : Report := ⟨1, 2, 3, -1, text, 24, 4⟩
    let r' : Report := ⟨1, 2, 3, -1, text', 24, 4⟩
    ((run ⟨1, 2⟩ text).result = .ok r ∧ (run ⟨1, 2⟩ text').result = .ok r' ∧
      String.join (r.lines.map (· ++ "\n")) = String.join (r'.lines.map (· ++ "\n"))) ∧
    (⟨1, 2⟩ : Operands) = ⟨1, 2⟩ ∧ text = text' ∧ r = r' := by
  intro text text' r r'
  have h : (run ⟨1, 2⟩ text).result = .ok r := by decide +kernel
  have h' : (run ⟨1, 2⟩ text').result = .ok r' := by decide +kernel
  have hlines : String.join (r.lines.map (· ++ "\n")) = String.join (r'.lines.map (· ++ "\n")) := by
    decide +kernel
  exact ⟨⟨h, h', hlines⟩, eq_of_join_lines_eq h h' hlines⟩

end Report

end TextGauge
