import TextGauge.Json.Parser
import TextGauge.Json.Printer
import TextGauge.Proofs.Decimal
import TextGauge.Proofs.Reader
import TextGauge.Proofs.Span

/-!
# Reading written strings and numbers

A written string is read as the string, whatever stands behind it (`TextGauge.Json.string?_quote`),
and a written integer as the integer (`TextGauge.Json.number?_ofInt`), if it fits in 64 bits, signed
or unsigned, and what stands behind it cannot go on with it. Neither is written with a character
below the space (`TextGauge.Json.BelowSpace`): in a string each of them is escaped.
-/

namespace TextGauge.Json

open Reader (prepend)

/-! ### Strings -/

/-- The digits that are written for a byte are read back. -/
theorem hexValue?_digitChar : ∀ n < 16, Reader.hexValue? (Nat.digitChar n) = some n := by
  decide

/-- What is not escaped stands for itself. -/
theorem stringBody_plain {c : Char} (hbelow : ¬c.toNat < 0x20) (hquote : c ≠ '"')
    (hback : c ≠ '\\') (rest : List Char) :
    stringBody none (c :: rest) = prepend [c] (stringBody none rest) := by
  rw [stringBody]
  · exact if_neg (not_or.mpr ⟨hbelow, hback⟩)
  -- the branches in front of it are for a quotation mark and for backslashes
  · exact hquote
  · exact fun _ _ _ _ _ h => absurd h hback
  · exact fun _ _ h => absurd h hback

/-- A character below the space is read from its number. -/
theorem stringBody_numbered {c : Char} (hbelow : c.toNat < 0x20) (rest : List Char) :
    stringBody none ('\\' :: 'u' :: '0' :: '0' :: Nat.digitChar (c.toNat / 16) ::
      Nat.digitChar (c.toNat % 16) :: rest) = prepend [c] (stringBody none rest) := by
  have hhigh := hexValue?_digitChar (c.toNat / 16) (by omega)
  have hlow := hexValue?_digitChar (c.toNat % 16) (by omega)
  -- it is no half of a surrogate pair
  rw [stringBody, Reader.hexOnto_byte hhigh hlow, Option.bind_some, if_neg (by omega),
    if_neg (by omega), Char.ofNat_toNat]

/-- **One character of a string**: what is written for it is read as it. -/
theorem stringBody_escape (c : Char) (rest : List Char) :
    stringBody none (escape c ++ rest) = prepend [c] (stringBody none rest) := by
  unfold escape
  split_ifs with hquote hback hbackspace htab hline hfeed hreturn hbelow
  case pos | pos | pos | pos | pos | pos | pos => subst c; simp [stringBody, unescape?]
  · exact stringBody_numbered hbelow rest
  · exact stringBody_plain hbelow hquote hback rest

theorem stringBody_flatMap_escape (cs rest : List Char) :
    stringBody none (cs.flatMap escape ++ '"' :: rest) = some (cs, rest) := by
  induction cs with
  | nil => simp [stringBody]
  | cons c cs ih =>
    rw [List.flatMap_cons, List.append_assoc, stringBody_escape, ih]
    rfl

/-- **A written string is read as the string.** -/
theorem string?_quote (s : String) (rest : List Char) :
    string? (quote s ++ rest) = some (s, rest) := by
  rw [quote, List.cons_append, List.append_assoc, List.singleton_append, string?,
    stringBody_flatMap_escape, Option.map_some, String.ofList_toList]

/-- Whether a character is below the space: U+0000 to U+001F, which JSON has none of in a string. -/
def BelowSpace (c : Char) : Prop :=
  c.toNat < 0x20

instance : DecidablePred BelowSpace := fun c => inferInstanceAs (Decidable (c.toNat < 0x20))

theorem not_belowSpace_digitChar : ∀ n < 16, ¬BelowSpace (Nat.digitChar n) := by
  decide

/-- A character is written without one below the space, be it one itself. -/
theorem not_belowSpace_of_mem_escape {c d : Char} (h : d ∈ escape c) : ¬BelowSpace d := by
  intro hd
  unfold escape at h
  split_ifs at h with hquote hback hbackspace htab hline hfeed hreturn hbelow
  case pos | pos | pos | pos | pos | pos | pos =>
    simp only [List.mem_cons, List.not_mem_nil, or_false] at h
    rcases h with rfl | rfl <;> exact absurd hd (by decide)
  · simp only [List.mem_cons, List.not_mem_nil, or_false] at h
    rcases h with rfl | rfl | rfl | rfl | rfl | rfl
    case inr.inr.inr.inr.inl => exact not_belowSpace_digitChar _ (by omega) hd
    case inr.inr.inr.inr.inr => exact not_belowSpace_digitChar _ (by omega) hd
    all_goals exact absurd hd (by decide)
  · rw [List.mem_singleton.mp h] at hd
    exact hbelow hd

/-- **A written string has no character below the space in it**, whatever the string is. -/
theorem not_belowSpace_of_mem_quote {s : String} {c : Char} (h : c ∈ quote s) : ¬BelowSpace c := by
  rw [quote, List.mem_cons, List.mem_append, List.mem_flatMap, List.mem_singleton] at h
  rcases h with rfl | ⟨d, -, hc⟩ | rfl
  · decide
  · exact not_belowSpace_of_mem_escape hc
  · decide

/-! ### Numbers -/

/-- What may follow a number: nothing that goes on with it. -/
def EndsNumber (rest : List Char) : Prop :=
  ∀ c cs, rest = c :: cs → c.isDigit = false ∧ c ≠ '.' ∧ c ≠ 'e' ∧ c ≠ 'E'

theorem endsNumber_nil : EndsNumber [] := by
  rintro c cs hcons
  cases hcons

theorem endsNumber_comma (rest : List Char) : EndsNumber (',' :: rest) := by
  rintro c cs hcons
  obtain ⟨rfl, -⟩ := List.cons.inj hcons
  decide

theorem endsNumber_line (depth : ℕ) (rest : List Char) : EndsNumber (line depth ++ rest) := by
  rintro c cs hcons
  obtain ⟨rfl, -⟩ := List.cons.inj hcons
  decide

/-- Digits are read up to what ends the number. -/
theorem digits_append {ds rest : List Char} (hne : ds ≠ []) (hdigits : ∀ c ∈ ds, c.isDigit)
    (hrest : EndsNumber rest) : digits (ds ++ rest) = some (ds, rest) := by
  have htake : (ds ++ rest).takeWhile Char.isDigit = ds ∧
      (ds ++ rest).dropWhile Char.isDigit = rest := by
    rcases rest with _ | ⟨c, cs⟩
    · rw [List.append_nil]
      exact ⟨List.takeWhile_eq_self_iff.mpr hdigits, List.dropWhile_eq_nil_iff.mpr hdigits⟩
    · have hc : c.isDigit = false := (hrest c cs rfl).1
      exact ⟨takeWhile_append_cons hdigits hc cs, dropWhile_append_cons hdigits hc cs⟩
  simp only [digits, htake.1, htake.2]
  rw [if_neg]
  rwa [List.isEmpty_iff]

/-- What ends a number is no point with digits. -/
theorem fractionDigits_of_endsNumber {rest : List Char} (hrest : EndsNumber rest) :
    fractionDigits rest = some (none, rest) := by
  unfold fractionDigits
  split
  · exact absurd rfl (hrest _ _ rfl).2.1
  · rfl

/-- What ends a number is no exponent. -/
theorem exponentDigits_of_endsNumber {rest : List Char} (hrest : EndsNumber rest) :
    exponentDigits rest = some (none, rest) := by
  rcases rest with _ | ⟨c, cs⟩
  · rfl
  · obtain ⟨-, -, hsmall, hcapital⟩ := hrest c cs rfl
    have hmark : ¬(c = 'e' ∨ c = 'E') := by
      rintro (he | he)
      · exact hsmall he
      · exact hcapital he
    rw [exponentDigits.eq_def]
    simp only
    rw [if_neg hmark]

/-- The digits of a natural number, which has no leading zero. -/
theorem wholeDigits_ofNat (n : ℕ) {rest : List Char} (hrest : EndsNumber rest) :
    wholeDigits (Decimal.ofNat n ++ rest) = some (Decimal.ofNat n, rest) := by
  rw [wholeDigits, digits_append (Decimal.ofNat_ne_nil n) (fun c => Decimal.isDigit_of_mem_ofNat)
    hrest, Option.bind_some]
  simp only
  rw [if_neg]
  rintro ⟨hhead, hlength⟩
  rw [Decimal.length_ofNat_of_head? hhead] at hlength
  exact absurd hlength (by decide)

/-- A significand takes all digits of a number that fits in it. -/
theorem absorb_of_le {cs : List Char} {significand taken : ℕ}
    (h : Nat.ofDigitChars 10 cs significand ≤ maxSignificand) :
    absorb significand taken cs = (Nat.ofDigitChars 10 cs significand, taken + cs.length) := by
  -- what it has taken at any time is at most the whole number
  induction cs generalizing significand taken with
  | nil => rfl
  | cons c cs ih =>
    rw [Nat.ofDigitChars_cons, Nat.mul_comm] at h
    have hle : significand * 10 + (c.toNat - '0'.toNat) ≤ maxSignificand := by
      rw [Nat.ofDigitChars_eq_ofDigitChars_zero] at h
      have hpos : 0 < 10 ^ cs.length := Nat.pow_pos (by decide)
      exact (Nat.le_mul_of_pos_left _ hpos).trans ((Nat.le_add_right _ _).trans h)
    rw [absorb, if_pos hle, ih h, Nat.ofDigitChars_cons, Nat.mul_comm, List.length_cons]
    simp only [Prod.mk.injEq, true_and]
    omega

theorem absorb_ofNat {n : ℕ} (h : n ≤ maxSignificand) :
    absorb 0 0 (Decimal.ofNat n) = (n, (Decimal.ofNat n).length) := by
  have hvalue : Nat.ofDigitChars 10 (Decimal.ofNat n) 0 = n := Decimal.value_ofNat n
  rw [absorb_of_le (by rwa [hvalue]), hvalue, Nat.zero_add]

/-- The integers that fit in 64 bits, signed or unsigned. -/
def IsWord (n : ℤ) : Prop :=
  -Int.pow 2 63 ≤ n ∧ n < Int.pow 2 64

theorem isWord_iff {n : ℤ} : IsWord n ↔ -9223372036854775808 ≤ n ∧ n < 18446744073709551616 :=
  Iff.rfl

/-- The value of a natural number that is written without sign. -/
theorem value?_ofNat {n : ℕ} (h : n < Nat.pow 2 64) :
    (⟨false, Decimal.ofNat n, none, none⟩ : Numeral).value? = some (.integer n) := by
  have hmax : n ≤ maxSignificand := Nat.le_sub_one_of_lt h
  simp [Numeral.value?, absorb_ofNat hmax]

/-- The value of a natural number that is written with a minus sign. -/
theorem value?_minus_ofNat {n : ℕ} (hpos : 0 < n) (h : n ≤ Nat.pow 2 63) :
    (⟨true, Decimal.ofNat n, none, none⟩ : Numeral).value? = some (.integer (-n)) := by
  have hmax : n ≤ maxSignificand := h.trans (by decide)
  simp [Numeral.value?, absorb_ofNat hmax, hpos, h]

/-- A written natural number, with a minus sign in front or without, is read as the value of its
digits. -/
theorem number?_ofNat (n : ℕ) {rest : List Char} (hrest : EndsNumber rest) :
    number? (Decimal.ofNat n ++ rest) =
        (Numeral.value? ⟨false, Decimal.ofNat n, none, none⟩).map (·, rest) ∧
      number? ('-' :: (Decimal.ofNat n ++ rest)) =
        (Numeral.value? ⟨true, Decimal.ofNat n, none, none⟩).map (·, rest) := by
  have hwhole := wholeDigits_ofNat n hrest
  have hfraction := fractionDigits_of_endsNumber hrest
  have hexponent := exponentDigits_of_endsNumber hrest
  constructor
  · -- a digit comes first, and that is no minus sign
    have hsign : ∀ cs, Decimal.ofNat n ++ rest ≠ '-' :: cs := by
      intro cs hcons
      rcases hdigits : Decimal.ofNat n with _ | ⟨c, ds⟩
      · exact Decimal.ofNat_ne_nil n hdigits
      · have hc : c.isDigit := Decimal.isDigit_of_mem_ofNat (by
          rw [hdigits]
          exact List.mem_cons_self)
        rw [hdigits, List.cons_append] at hcons
        rw [(List.cons.inj hcons).1] at hc
        exact absurd hc (by decide)
    unfold number?
    split
    rename_i negative cs heq
    split at heq
    · rename_i hcons
      exact absurd hcons (hsign _)
    · obtain ⟨rfl, rfl⟩ := Prod.mk.inj heq
      simp only [hwhole, hfraction, hexponent, Option.bind_eq_bind, Option.bind_some]
      exact Option.map_eq_bind.symm
  · simp only [number?, hwhole, hfraction, hexponent, Option.bind_eq_bind, Option.bind_some]
    exact Option.map_eq_bind.symm

/-- **A written integer is read as the integer**, up to what ends it. -/
theorem number?_ofInt {n : ℤ} (h : IsWord n) {rest : List Char} (hrest : EndsNumber rest) :
    number? (Decimal.ofInt n ++ rest) = some (.integer n, rest) := by
  obtain ⟨hlow, hhigh⟩ := isWord_iff.mp h
  cases n with
  | ofNat n =>
    have hbound : n < 18446744073709551616 := by
      rw [Int.ofNat_eq_natCast] at hhigh
      omega
    rw [Decimal.ofInt, (number?_ofNat n hrest).1, value?_ofNat hbound]
    rfl
  | negSucc n =>
    have hbound : n + 1 ≤ 9223372036854775808 := by
      rw [Int.negSucc_eq] at hlow
      omega
    rw [Decimal.ofInt, List.cons_append, (number?_ofNat (n + 1) hrest).2,
      value?_minus_ofNat (Nat.succ_pos n) hbound]
    rfl

/-- A written integer has no character below the space in it. -/
theorem not_belowSpace_of_mem_ofInt {n : ℤ} {c : Char} (h : c ∈ Decimal.ofInt n) :
    ¬BelowSpace c := by
  rcases Decimal.mem_ofInt h with rfl | hdigit
  · decide
  · intro hbelow
    simp only [Char.isDigit, Bool.and_eq_true, decide_eq_true_eq] at hdigit
    have hlow : '0'.toNat ≤ c.toNat := hdigit.1
    exact absurd (hlow.trans_lt hbelow) (by decide)

end TextGauge.Json
