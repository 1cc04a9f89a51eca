import Mathlib.Tactic.Common
import TextGauge.Proofs.Decimal
import TextGauge.Proofs.Reader
import TextGauge.Proofs.Span
import TextGauge.Settings.ToToml

/-!
# Reading written values

The text of a value is read as that value, up to what follows it
(`TextGauge.Settings.Literal.valueTo_text`). For a string this is an induction on its characters:
each is escaped or is a plain one, and neither can be taken for the closing quote or for the start
of three quotes. For an integer it is a matter of what a run of digits is not: neither a word, nor
a moment, nor a float, nor a number with a radix mark.
-/

namespace TextGauge.Toml

open Settings (hexDigit escape)

/-! ### Strings -/

namespace Quoted

/-- A hexadecimal digit is read back in either case. -/
theorem hexValue?_hexDigit : ∀ (capital : Bool), ∀ n < 16,
    Reader.hexValue? (hexDigit capital n) = some n := by
  decide

/-- The four digits of a control character number it. -/
theorem numbered?_hexDigit (capital : Bool) {c : Char} (h : c.toNat < 0x100) :
    numbered? ['0', '0', hexDigit capital (c.toNat / 16), hexDigit capital (c.toNat % 16)] =
      some c := by
  have hhigh := hexValue?_hexDigit capital (c.toNat / 16) (by omega)
  have hlow := hexValue?_hexDigit capital (c.toNat % 16) (by omega)
  have hvalid : c.toNat.isValidChar := c.valid
  simp [numbered?, Reader.hexOnto_byte hhigh hlow, charOf?, hvalid, Char.ofNat_toNat]

theorem basic_plain {c : Char} (hplain : isPlain c) (hquote : c ≠ '"') (hback : c ≠ '\\')
    (rest : List Char) : basic (c :: rest) = Reader.prepend [c] (basic rest) := by
  rw [basic.eq_def]
  split <;> simp_all

/-- **One character of a string**: what is written for it is read as it. -/
theorem basic_escape (capital : Bool) (c : Char) (rest : List Char) :
    basic (escape capital c ++ rest) = Reader.prepend [c] (basic rest) := by
  unfold escape
  split_ifs with hback hcontrol
  · rcases hback with rfl | rfl <;> simp [basic, unescape?]
  · have hread := numbered?_hexDigit capital (c := c) (by omega)
    simp [basic, hread]
  · have hplain : isPlain c := by
      simp only [isPlain, Bool.or_eq_true, Bool.and_eq_true, decide_eq_true_eq]
      right
      omega
    exact basic_plain hplain (fun he => hback (.inl he)) (fun he => hback (.inr he)) rest

/-- **A written string is read as the string.** -/
theorem basic_flatMap_escape (capital : Bool) (cs rest : List Char) :
    basic (cs.flatMap (escape capital) ++ '"' :: rest) = some (cs, rest) := by
  induction cs with
  | nil => simp [basic]
  | cons c cs ih =>
    rw [List.flatMap_cons, List.append_assoc, basic_escape, ih]
    rfl

/-- No character is written with a quote in front. -/
theorem exists_escape_eq_cons (capital : Bool) (c : Char) :
    ∃ d ds, escape capital c = d :: ds ∧ d ≠ '"' := by
  unfold escape
  split_ifs with hback hcontrol
  · exact ⟨'\\', _, rfl, by decide⟩
  · exact ⟨'\\', _, rfl, by decide⟩
  · exact ⟨c, [], rfl, fun he => hback (.inl he)⟩

/-- A string that does not begin with a quote, and that no quote follows, is not one between three
quotes. -/
theorem read_eq_readLine {body rest : List Char} (hbody : body.head? ≠ some '"')
    (hrest : rest.head? ≠ some '"') :
    read ('"' :: (body ++ '"' :: rest)) = readLine ('"' :: (body ++ '"' :: rest)) := by
  unfold read
  split
  · rename_i tail hcons
    -- for three quotes one would have to follow an empty string, or to begin one that is not
    exfalso
    rcases body with _ | ⟨c, body⟩
    · simp only [List.nil_append, List.cons.injEq, true_and] at hcons
      exact hrest (by rw [hcons, List.head?_cons])
    · simp only [List.cons_append, List.cons.injEq, true_and] at hcons
      exact hbody (by rw [hcons.1, List.head?_cons])
  · rename_i hcons
    simp at hcons
  · rfl

theorem read_flatMap_escape (capital : Bool) (cs : List Char) {rest : List Char}
    (hrest : rest.head? ≠ some '"') :
    read ('"' :: (cs.flatMap (escape capital) ++ '"' :: rest)) = some (String.ofList cs, rest) := by
  have hbody : (cs.flatMap (escape capital)).head? ≠ some '"' := by
    rcases cs with _ | ⟨c, cs⟩
    · simp
    · obtain ⟨d, ds, hescape, hd⟩ := exists_escape_eq_cons capital c
      rw [List.flatMap_cons, hescape, List.cons_append, List.head?_cons, ne_eq, Option.some_inj]
      exact hd
  rw [read_eq_readLine hbody hrest, readLine, basic_flatMap_escape, Option.map_some]

/-- **A character that stands for itself** between double quotes: no quote, no backslash, and no
control character but the tabulator. -/
def StandsForItself (c : Char) : Prop :=
  c ≠ '"' ∧ c ≠ '\\' ∧ (c = '\t' ∨ 0x20 ≤ c.toNat) ∧ c.toNat ≠ 0x7F

theorem StandsForItself.isPlain {c : Char} (h : StandsForItself c) : isPlain c := by
  simp only [Quoted.isPlain, Bool.or_eq_true, Bool.and_eq_true, decide_eq_true_eq]
  exact h.2.2.1.imp_right fun hle => ⟨hle, h.2.2.2⟩

/-- **Characters that stand for themselves** are read as they are. -/
theorem basic_append {cs : List Char} (h : ∀ c ∈ cs, StandsForItself c) (rest : List Char) :
    basic (cs ++ '"' :: rest) = some (cs, rest) := by
  induction cs with
  | nil => simp [basic]
  | cons c cs ih =>
    obtain ⟨hc, hcs⟩ := List.forall_mem_cons.mp h
    rw [List.cons_append, basic_plain hc.isPlain hc.1 hc.2.1, ih hcs]
    rfl

theorem read_append {cs rest : List Char} (h : ∀ c ∈ cs, StandsForItself c)
    (hrest : rest.head? ≠ some '"') :
    read ('"' :: (cs ++ '"' :: rest)) = some (String.ofList cs, rest) := by
  have hbody : cs.head? ≠ some '"' := fun hhead => (h _ (List.mem_of_head? hhead)).1 rfl
  rw [read_eq_readLine hbody hrest, readLine, basic_append h, Option.map_some]

end Quoted

/-! ### What digits are not -/

/-- A mark is not found where digits are. -/
theorem word_of_isDigit {mark : Char} (hmark : mark.isDigit = false) {cs : List Char}
    (h : ∀ c ∈ cs, c.isDigit) : Reader.word [mark] cs = none := by
  rcases cs with _ | ⟨c, cs⟩
  · rfl
  · have hne : c ≠ mark := by
      rintro rfl
      rw [h c List.mem_cons_self] at hmark
      exact absurd hmark (by decide)
    rw [Reader.word, if_neg hne]

/-- Digits do not begin with anything else. -/
theorem ne_cons_of_isDigit {cs : List Char} (h : ∀ c ∈ cs, c.isDigit) {other : Char}
    (hother : other.isDigit = false) (rest : List Char) : cs ≠ other :: rest := by
  rintro rfl
  rw [h other List.mem_cons_self] at hother
  exact absurd hother (by decide)

namespace Moment

/-- What is left behind digits that are read. -/
theorem mem_of_digits {n x : ℕ} {cs rest : List Char} (h : digits n cs = some (x, rest)) {c : Char}
    (hc : c ∈ rest) : c ∈ cs := by
  simp only [digits] at h
  split_ifs at h
  simp only [Option.some.injEq, Prod.mk.injEq] at h
  rw [← h.2] at hc
  exact List.mem_of_mem_drop hc

theorem digits_minus (n : ℕ) (cs : List Char) : digits (n + 1) ('-' :: cs) = none := by
  simp only [digits]
  rw [if_neg]
  simp

theorem time_of_isDigit {cs : List Char} (h : ∀ c ∈ cs, c.isDigit) : time cs = none := by
  rcases hread : digits 2 cs with _ | ⟨x, rest⟩
  · simp [time, digitsIn, hread]
  · have hword : Reader.word [':'] rest = none :=
      word_of_isDigit (by decide) fun c hc => h c (mem_of_digits hread hc)
    simp [time, digitsIn, hread, hword]

theorem date_of_isDigit {cs : List Char} (h : ∀ c ∈ cs, c.isDigit) : date cs = none := by
  rcases hread : digits 4 cs with _ | ⟨x, rest⟩
  · simp [date, hread]
  · have hword : Reader.word ['-'] rest = none :=
      word_of_isDigit (by decide) fun c hc => h c (mem_of_digits hread hc)
    simp [date, hread, hword]

/-- **A run of digits is no moment**, with a minus sign in front or without. -/
theorem isMoment_of_isDigit {cs : List Char} (h : ∀ c ∈ cs, c.isDigit) :
    isMoment cs = false ∧ isMoment ('-' :: cs) = false := by
  constructor
  · simp [isMoment, reads, time_of_isDigit h, date_of_isDigit h]
  · simp [isMoment, reads, time, date, digitsIn, digits_minus]

end Moment

/-! ### Integers -/

namespace Scalar

/-- What ends a scalar: no word of it follows, and no blanks belong to it. -/
def Ends (rest : List Char) : Prop :=
  wordsFrom [] rest = ([], rest)

/-- A word goes on up to what ends it. -/
theorem extent_append {word rest : List Char} (hne : word ≠ [])
    (hword : ∀ c ∈ word, isMark c = false) (hrest : Ends rest) :
    extent (word ++ rest) = (word, rest) := by
  have hwords : wordsFrom [] (word ++ rest) = (word, rest) := by
    clear hne
    -- none of its characters is a blank or a mark
    induction word with
    | nil => exact hrest
    | cons c word ih =>
      have hc : isMark c = false := hword c List.mem_cons_self
      have hblank : ¬(c = ' ' ∨ c = '\t') := by
        rintro (rfl | rfl) <;> simp [isMark] at hc
      rw [List.cons_append, wordsFrom, if_neg hblank, if_neg (by simp [hc]),
        ih fun c' hmem => hword c' (List.mem_cons_of_mem c hmem)]
      rfl
  rcases word with _ | ⟨c, word⟩
  · exact absurd rfl hne
  · have hc : isMark c = false := hword c List.mem_cons_self
    rw [← hwords, List.cons_append, extent, if_neg (by simp [hc])]

/-- Digits, with a sign in front or without, are read as an integer. -/
theorem decimal_of_isDigit {cs body : List Char} (hcs : '_' ∉ cs) (hne : body ≠ [])
    (hbody : ∀ c ∈ body, c.isDigit) (hzero : body.head? = some '0' → body.length = 1) :
    decimal cs body = some (integerOf cs) := by
  have hdrop : body.dropWhile Char.isDigit = [] := List.dropWhile_eq_nil_iff.mpr hbody
  have hleading : ¬(body.isEmpty ∨ (body.head? = some '0' ∧ body.length > 1)) := by
    rintro (hempty | ⟨hhead, hlength⟩)
    · exact hne (List.isEmpty_iff.mp hempty)
    · rw [hzero hhead] at hlength
      exact absurd hlength (by decide)
  have hungrouped : ungrouped? isHexDigit cs = some cs := by
    rw [ungrouped?, List.splitOn_eq_singleton hcs]
  rw [decimal, hdrop]
  simp only
  rw [decimalInteger, if_neg hleading, hungrouped, Option.map_some]

/-- **The text of an integer stands for it.** -/
theorem value?_ofInt (n : ℤ) : value? (Decimal.ofInt n) = some (.integer n) := by
  have hvalue : integerOf (Decimal.ofInt n) = .integer n := by
    rw [integerOf, Decimal.int?_of_spells (Decimal.spells_ofInt n)]
  cases n with
  | ofNat n =>
    rw [Decimal.ofInt] at hvalue ⊢
    have hdigits : ∀ c ∈ Decimal.ofNat n, c.isDigit := fun c => Decimal.isDigit_of_mem_ofNat
    have hne : ∀ c, c.isDigit = false → ∀ rest, Decimal.ofNat n ≠ c :: rest :=
      fun c => ne_cons_of_isDigit hdigits
    have hunder : '_' ∉ Decimal.ofNat n := fun hmem => absurd (hdigits '_' hmem) (by decide)
    have hradix : ∀ mark ds, mark.isDigit = false → Decimal.ofNat n ≠ '0' :: mark :: ds := by
      intro mark ds hmark he
      exact ne_cons_of_isDigit (fun c hc => hdigits c (by rw [he]; exact List.mem_cons_of_mem _ hc))
        hmark ds rfl
    have hsign : splitSign (Decimal.ofNat n) = (false, Decimal.ofNat n) := by
      unfold splitSign
      split
      · rename_i heq
        exact absurd heq (hne _ (by decide) _)
      · rename_i heq
        exact absurd heq (hne _ (by decide) _)
      · rfl
    -- no word, no moment, and no radix mark behind a zero: so it is a decimal
    rw [value?, if_neg (hne _ (by decide) _), if_neg (hne _ (by decide) _),
      (Moment.isMoment_of_isDigit hdigits).1, if_neg (by decide), number, hsign]
    simp only
    rw [if_neg (hne _ (by decide) _), if_neg (hne _ (by decide) _)]
    split
    · rename_i heq
      exact absurd heq (hradix _ _ (by decide))
    · rename_i heq
      exact absurd heq (hradix _ _ (by decide))
    · rename_i heq
      exact absurd heq (hradix _ _ (by decide))
    · rw [decimal_of_isDigit hunder (Decimal.ofNat_ne_nil n) hdigits
        Decimal.length_ofNat_of_head?, hvalue]
  | negSucc n =>
    rw [Decimal.ofInt] at hvalue ⊢
    have hdigits : ∀ c ∈ Decimal.ofNat (n + 1), c.isDigit := fun c => Decimal.isDigit_of_mem_ofNat
    have hne : ∀ c, c.isDigit = false → ∀ rest, Decimal.ofNat (n + 1) ≠ c :: rest :=
      fun c => ne_cons_of_isDigit hdigits
    have hunder : '_' ∉ '-' :: Decimal.ofNat (n + 1) := by
      rw [List.mem_cons, not_or]
      exact ⟨by decide, fun hmem => absurd (hdigits '_' hmem) (by decide)⟩
    rw [value?, if_neg (by simp), if_neg (by simp),
      (Moment.isMoment_of_isDigit hdigits).2, if_neg (by decide), number]
    simp only [splitSign]
    rw [if_neg (hne _ (by decide) _), if_neg (hne _ (by decide) _),
      decimal_of_isDigit hunder (Decimal.ofNat_ne_nil _) hdigits Decimal.length_ofNat_of_head?,
      hvalue]
    simp

theorem isMark_of_mem_ofInt {n : ℤ} {c : Char} (h : c ∈ Decimal.ofInt n) : isMark c = false := by
  rcases Decimal.mem_ofInt h with rfl | hdigit
  · decide
  · rw [← Bool.not_eq_true]
    intro hmark
    simp only [isMark, Bool.or_eq_true, beq_iff_eq] at hmark
    rcases hmark with
      (((((((((rfl | rfl) | rfl) | rfl) | rfl) | rfl) | rfl) | rfl) | rfl) | rfl) | rfl
    all_goals exact absurd hdigit (by decide)

/-- **A written integer is read as the integer**, up to what ends it. -/
theorem read_ofInt (n : ℤ) {rest : List Char} (hrest : Ends rest) :
    read (Decimal.ofInt n ++ rest) = some (.integer n, rest) := by
  rw [read, extent_append (Decimal.ofInt_ne_nil n) (fun c => isMark_of_mem_ofInt) hrest]
  simp [value?_ofInt]

end Scalar

/-! ### Values -/

/-- What may follow a value in a document that is written: it ends a scalar, and is no quote. -/
structure Follows (rest : List Char) : Prop where
  ends : Scalar.Ends rest
  noQuote : rest.head? ≠ some '"'

theorem follows_lineEnd (rest : List Char) : Follows ('\n' :: rest) :=
  ⟨rfl, by simp⟩

theorem follows_comma (rest : List Char) : Follows (',' :: rest) :=
  ⟨rfl, by simp⟩

theorem follows_brace (rest : List Char) : Follows (' ' :: '}' :: rest) :=
  ⟨rfl, by simp⟩

theorem valueTo_quote (depth : ℕ) (cs : List Char) :
    valueTo depth ('"' :: cs) =
      (Quoted.read ('"' :: cs)).map fun (s, rest) => (.string s, rest) := by
  cases depth <;> rfl

/-- What begins with neither a bracket nor a quote is a scalar. -/
theorem valueTo_scalar {c : Char} (h : c ∉ ['[', '{', '"', '\'']) (depth : ℕ) (cs : List Char) :
    valueTo depth (c :: cs) = Scalar.read (c :: cs) := by
  rw [valueTo.eq_def]
  split <;> simp_all

/-- What begins as an integer does is a scalar. -/
theorem valueTo_sign_or_digit {c : Char} (h : c = '-' ∨ c.isDigit) (depth : ℕ) (cs : List Char) :
    valueTo depth (c :: cs) = Scalar.read (c :: cs) := by
  refine valueTo_scalar (fun hmem => ?_) depth cs
  simp only [List.mem_cons, List.not_mem_nil, or_false] at hmem
  rcases hmem with rfl | rfl | rfl | rfl <;> exact absurd h (by decide)

end TextGauge.Toml

namespace TextGauge.Settings.Literal

open Toml

/-- The value that a text of a document stands for. -/
def value : Literal → Value
  | integer n => .integer n.toInt
  | string s => .string s

/-- **A written value is read as that value**, up to what follows it. -/
theorem valueTo_text (capital : Bool) (depth : ℕ) (literal : Literal) {rest : List Char}
    (hrest : Follows rest) :
    valueTo depth (literal.text capital ++ rest) = some (literal.value, rest) := by
  cases literal with
  | integer n =>
    obtain ⟨c, cs, hcons, hc⟩ := Decimal.exists_ofInt_eq_cons n.toInt
    have hread := Scalar.read_ofInt n.toInt hrest.ends
    rw [hcons] at hread
    rw [text, hcons, List.cons_append, valueTo_sign_or_digit hc]
    exact hread
  | string s =>
    have hread := Quoted.read_flatMap_escape capital s.toList hrest.noQuote
    rw [text, List.cons_append, List.append_assoc, List.singleton_append, valueTo_quote, hread]
    simp [value]

end TextGauge.Settings.Literal
