import Mathlib.Algebra.BigOperators.Group.List.Basic
import Mathlib.Algebra.GroupWithZero.Nat
import TextGauge.Proofs.Text.Measure

/-!
# Bytes that count, and characters

A text is measured byte by byte, although what is asked for are characters. Its vowels come out
right: a character counts once if it is a vowel in either case, and not with any of its bytes if it
has several. Its length is the sum of the sizes of its characters, so it is their number exactly in
a text of ASCII characters (`TextGauge.Text.measures_count_characters`).

A vowel *in either case* is a vowel in lower case once it is put in lower case itself, and this can
be asked of a byte as well as of a character. The list of ten that bytes are looked up in is an
answer to both questions (`TextGauge.Text.isVowel_iff`, `TextGauge.Text.mem_vowels_iff`).
-/

namespace TextGauge.Text

/-! ### Vowels in either case -/

/-- The vowels in lower case. -/
def lowerVowels : List Char :=
  ['a', 'e', 'i', 'o', 'u']

/-- A byte in lower case, as far as it is the code of an ASCII letter. -/
def lowerByte (b : UInt8) : UInt8 :=
  if 0x41 ≤ b ∧ b ≤ 0x5A then b + 0x20 else b

/-- Whether a byte is in lower case the code of a vowel. -/
def IsVowelByte (b : UInt8) : Prop :=
  lowerByte b ∈ lowerVowels.map fun c => UInt8.ofNat c.toNat

instance : DecidablePred IsVowelByte := fun _ => inferInstanceAs (Decidable (_ ∈ _))

/-- Whether a character is in lower case a vowel. -/
def IsVowelChar (c : Char) : Prop :=
  c.toLower ∈ lowerVowels

instance : DecidablePred IsVowelChar := fun _ => inferInstanceAs (Decidable (_ ∈ _))

theorem isVowel_ofNat_iff : ∀ n < 0x100, isVowel (UInt8.ofNat n) ↔ IsVowelByte (UInt8.ofNat n) := by
  decide +kernel

/-- **The bytes that count** are those that are in lower case the code of a vowel. -/
theorem isVowel_iff (b : UInt8) : isVowel b ↔ IsVowelByte b := by
  have h := isVowel_ofNat_iff b.toNat b.toNat_lt
  rwa [UInt8.ofNat_toNat] at h

theorem mem_vowels_ofNat_iff :
    ∀ n < 0x80, Char.ofNat n ∈ vowels ↔ IsVowelChar (Char.ofNat n) := by
  decide +kernel

/-- What is not ASCII is its own lower case. -/
theorem toLower_of_le {c : Char} (h : 0x80 ≤ c.toNat) : c.toLower = c := by
  refine dif_neg fun hrange => ?_
  have hle : c.toNat ≤ 90 := UInt32.le_iff_toNat_le.mp hrange.2
  omega

/-- **The vowels** are those characters that are in lower case a vowel. -/
theorem mem_vowels_iff (c : Char) : c ∈ vowels ↔ IsVowelChar c := by
  rcases Nat.lt_or_ge c.toNat 0x80 with hlt | hge
  · have h := mem_vowels_ofNat_iff c.toNat hlt
    rwa [Char.ofNat_toNat] at h
  · have hlower : ∀ d ∈ lowerVowels, d.toNat < 0x80 := by simp [lowerVowels]
    refine iff_of_false (fun hmem => ?_) fun hmem => ?_
    · exact absurd (lt_of_mem_vowels c hmem) (Nat.not_lt.mpr hge)
    · rw [IsVowelChar, toLower_of_le hge] at hmem
      exact absurd (hlower c hmem) (Nat.not_lt.mpr hge)

theorem vowelCount_eq (bytes : Bytes) :
    vowelCount bytes = bytes.countP fun b => IsVowelByte b :=
  List.countP_congr fun b _ => (isVowel_iff b).trans decide_eq_true_iff.symm

theorem vowelCount_encode_eq (s : String) :
    vowelCount (Utf8.encode s) = s.toList.countP fun c => IsVowelChar c := by
  rw [vowelCount_encode]
  simp only [mem_vowels_iff]

/-! ### Characters of several bytes -/

section Size

variable {c : Char}

theorem utf8Size_eq_one_iff : c.utf8Size = 1 ↔ c.toNat < 0x80 :=
  Char.utf8Size_eq_one_iff.trans (UInt32.le_iff_toNat_le.trans Nat.lt_succ_iff.symm)

/-- A character of several bytes is no vowel. -/
theorem not_mem_vowels_of_utf8Size (h : 1 < c.utf8Size) : c ∉ vowels := fun hmem =>
  Nat.ne_of_gt h (utf8Size_eq_one_iff.mpr (lt_of_mem_vowels c hmem))

/-- **No byte of a character of several bytes counts.** -/
theorem not_isVowel_of_utf8Size (h : 1 < c.utf8Size) {b : UInt8}
    (hb : b ∈ String.utf8EncodeChar c) : ¬isVowel b := by
  have hcount := vowelCount_utf8EncodeChar c
  rw [if_neg (not_mem_vowels_of_utf8Size h)] at hcount
  exact List.countP_eq_zero.mp hcount b hb

/-- A character of several bytes may as well be left out of a text, as far as vowels go. -/
theorem vowelCount_encode_of_utf8Size (h : 1 < c.utf8Size) {s : String} {before after : List Char}
    (hsplit : s.toList = before ++ c :: after) :
    vowelCount (Utf8.encode s) = vowelCount (Utf8.encode (String.ofList (before ++ after))) := by
  rw [vowelCount_encode, vowelCount_encode, hsplit, String.toList_ofList, List.countP_append,
    List.countP_append, List.countP_cons_of_neg]
  simpa using not_mem_vowels_of_utf8Size h

end Size

/-! ### Lengths -/

/-- **The length of a text** is the sum of the sizes of its characters. -/
theorem length_encode_eq_sum (s : String) :
    length (Utf8.encode s) = (s.toList.map Char.utf8Size).sum := by
  rw [length, Utf8.encode, List.length_flatMap]
  simp only [String.length_utf8EncodeChar]

theorem length_le_sum_utf8Size (cs : List Char) : cs.length ≤ (cs.map Char.utf8Size).sum := by
  rw [← List.length_map Char.utf8Size]
  refine List.length_le_sum_of_one_le _ fun n hn => ?_
  obtain ⟨c, -, rfl⟩ := List.mem_map.mp hn
  exact c.utf8Size_pos

/-- Characters have their number as the sum of their sizes only if each of them has size one. -/
theorem sum_utf8Size_eq_length_iff {cs : List Char} :
    (cs.map Char.utf8Size).sum = cs.length ↔ ∀ c ∈ cs, c.toNat < 0x80 := by
  induction cs with
  | nil => simp
  | cons c cs ih =>
    have hc := c.utf8Size_pos
    have hcs := length_le_sum_utf8Size cs
    rw [List.map_cons, List.sum_cons, List.length_cons, List.forall_mem_cons, ← ih,
      ← utf8Size_eq_one_iff]
    omega

/-- **Counting bytes is counting characters.** The vowels of a byte sequence are the bytes that are
in lower case the code of a vowel. Those of a text are the characters that are in lower case a
vowel, so there are no more of them than characters; no byte of a character of several bytes counts,
and the vowels are the same without it. The length of a text is the sum of the sizes of its
characters, so not below their number, and equal to it exactly if all of them are ASCII. -/
theorem measures_count_characters :
    (∀ bytes : Bytes, vowelCount bytes = bytes.countP fun b => IsVowelByte b) ∧
    (∀ s : String,
      vowelCount (Utf8.encode s) = (s.toList.countP fun c => IsVowelChar c) ∧
      vowelCount (Utf8.encode s) ≤ s.length ∧
      length (Utf8.encode s) = (s.toList.map Char.utf8Size).sum ∧
      s.length ≤ length (Utf8.encode s) ∧
      (length (Utf8.encode s) = s.length ↔ ∀ c ∈ s.toList, c.toNat < 0x80)) ∧
    (∀ c : Char, 1 < c.utf8Size →
      (∀ b ∈ String.utf8EncodeChar c, ¬isVowel b) ∧
      ∀ (s : String) (before after : List Char), s.toList = before ++ c :: after →
        vowelCount (Utf8.encode s) =
          vowelCount (Utf8.encode (String.ofList (before ++ after)))) := by
  refine ⟨vowelCount_eq, fun s => ⟨vowelCount_encode_eq s, ?_, length_encode_eq_sum s, ?_, ?_⟩,
    fun c hc => ⟨fun b => not_isVowel_of_utf8Size hc, fun s before after =>
      vowelCount_encode_of_utf8Size hc⟩⟩
  · rw [vowelCount_encode_eq, ← String.length_toList]
    exact List.countP_le_length
  · rw [length_encode_eq_sum, ← String.length_toList]
    exact length_le_sum_utf8Size s.toList
  · rw [length_encode_eq_sum, ← String.length_toList]
    exact sum_utf8Size_eq_length_iff

/-- A letter of two bytes between vowels in either case, and one of four bytes behind them. -/
theorem measures_count_characters_accented :
    let s := "aÉE😀"
    s.toList = ['a'] ++ 'É' :: ['E', '😀'] ∧ 1 < 'É'.utf8Size ∧
    vowelCount (Utf8.encode s) = (s.toList.countP fun c => IsVowelChar c) ∧
    (∀ b ∈ String.utf8EncodeChar 'É', ¬isVowel b) ∧
    vowelCount (Utf8.encode s) =
      vowelCount (Utf8.encode (String.ofList (['a'] ++ ['E', '😀']))) ∧
    vowelCount (Utf8.encode s) = 2 ∧ s.length = 4 ∧
    length (Utf8.encode s) = (s.toList.map Char.utf8Size).sum ∧ length (Utf8.encode s) = 8 := by
  intro s
  obtain ⟨-, htexts, hseveral⟩ := measures_count_characters
  have hsplit : s.toList = ['a'] ++ 'É' :: ['E', '😀'] := by decide +kernel
  have hsize : 1 < 'É'.utf8Size := by decide
  obtain ⟨hbytes, hdrop⟩ := hseveral 'É' hsize
  exact ⟨hsplit, hsize, (htexts s).1, hbytes, hdrop s _ _ hsplit, by decide +kernel,
    by decide +kernel, (htexts s).2.2.1, by decide +kernel⟩

end TextGauge.Text
