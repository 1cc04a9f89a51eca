import TextGauge.Proofs.Utf8
import TextGauge.Text.Measure

/-!
# What is measured on the bytes of a text

A text is measured on its bytes, and what comes out is a property of its characters: the number of
bytes is the size of the text (`TextGauge.Text.length_encode`), the vowels are its vowels
(`TextGauge.Text.vowelCount_encode`), and the first zero byte stands where its first zero character
does (`TextGauge.Text.nulOffset?_encode`). All three are due to bytes of a character outside ASCII
being none of ASCII.
-/

namespace TextGauge

namespace Utf8

theorem encode_ofList_append (l₁ l₂ : List Char) :
    encode (String.ofList (l₁ ++ l₂)) = encode (String.ofList l₁) ++ encode (String.ofList l₂) := by
  simp [encode]

theorem encode_append (s t : String) : encode (s ++ t) = encode s ++ encode t := by
  simp [encode]

/-- The byte of an ASCII character stands only in the code of that character. -/
theorem ofNat_mem_utf8EncodeChar_iff {c d : Char} (hd : d.toNat < 0x80) :
    UInt8.ofNat d.toNat ∈ String.utf8EncodeChar c ↔ c = d := by
  have hbyte : ∀ n < 0x80, (UInt8.ofNat n).toNat = n := fun n hn =>
    UInt8.toNat_ofNat_of_lt' (Nat.lt_trans hn (by decide))
  constructor
  · intro h
    rcases Nat.lt_or_ge c.toNat 0x80 with hlt | hge
    · rw [utf8EncodeChar_of_lt hlt, List.mem_singleton] at h
      have hnat := congrArg UInt8.toNat h
      rw [hbyte _ hd, hbyte _ hlt] at hnat
      exact Char.toNat_inj.mp hnat.symm
    · have hle := le_of_mem_utf8EncodeChar hge h
      rw [hbyte _ hd] at hle
      omega
  · rintro rfl
    rw [utf8EncodeChar_of_lt hd, List.mem_singleton]

theorem ofNat_mem_encode_iff {s : String} {d : Char} (hd : d.toNat < 0x80) :
    UInt8.ofNat d.toNat ∈ encode s ↔ d ∈ s.toList := by
  rw [encode, List.mem_flatMap]
  constructor
  · rintro ⟨c, hc, hbyte⟩
    rwa [(ofNat_mem_utf8EncodeChar_iff hd).mp hbyte] at hc
  · exact fun h => ⟨d, h, (ofNat_mem_utf8EncodeChar_iff hd).mpr rfl⟩

theorem zero_mem_encode_iff {s : String} : (0 : UInt8) ∈ encode s ↔ '\x00' ∈ s.toList :=
  ofNat_mem_encode_iff (d := '\x00') (by decide)

/-- The zero character is one byte, which parts the bytes before it from those behind it. -/
theorem encode_eq_append_zero {s : String} {before after : List Char}
    (hsplit : s.toList = before ++ '\x00' :: after) :
    encode s = encode (String.ofList before) ++ 0 :: encode (String.ofList after) := by
  have hzero : encode (String.ofList ('\x00' :: after)) = 0 :: encode (String.ofList after) := by
    rw [encode_ofList_cons, utf8EncodeChar_of_lt (by decide)]
    rfl
  rw [← String.ofList_toList (s := s), hsplit, encode_ofList_append, hzero]

end Utf8

namespace Text

/-- **The length of a text** is the number of its bytes. -/
theorem length_encode (s : String) : length (Utf8.encode s) = s.utf8ByteSize := by
  rw [← String.size_toByteArray, ← String.utf8Encode_toList, List.utf8Encode]
  simp [length, Utf8.encode]

/-! ### Vowels -/

theorem isVowel_ofNat :
    ∀ n < 0x100, isVowel (UInt8.ofNat n) = (vowels.map Char.toNat).contains n := by
  decide +kernel

theorem lt_of_mem_vowels : ∀ c ∈ vowels, c.toNat < 0x80 := by
  simp [vowels]

/-- One character counts as one vowel or as none. -/
theorem vowelCount_utf8EncodeChar (c : Char) :
    vowelCount (String.utf8EncodeChar c) = if c ∈ vowels then 1 else 0 := by
  rcases Nat.lt_or_ge c.toNat 0x80 with hlt | hge
  · have hmem : c.toNat ∈ vowels.map Char.toNat ↔ c ∈ vowels :=
      List.mem_map_of_injective fun _ _ => Char.toNat_inj.mp
    rw [Utf8.utf8EncodeChar_of_lt hlt, vowelCount, List.countP_singleton,
      isVowel_ofNat _ (by omega)]
    simp only [List.contains_iff_mem, hmem]
  · have hnone : ∀ b ∈ String.utf8EncodeChar c, ¬isVowel b := by
      intro b hb hvowel
      have hle := Utf8.le_of_mem_utf8EncodeChar hge hb
      rw [← UInt8.ofNat_toNat (x := b), isVowel_ofNat _ b.toNat_lt, List.contains_iff_mem] at hvowel
      obtain ⟨vowel, hmem, heq⟩ := List.mem_map.mp hvowel
      have hlt := lt_of_mem_vowels vowel hmem
      omega
    rw [vowelCount, List.countP_eq_zero.mpr hnone, if_neg]
    exact fun hmem => absurd (lt_of_mem_vowels c hmem) (by omega)

/-- **The vowels of a text** are those of its characters. -/
theorem vowelCount_encode (s : String) :
    vowelCount (Utf8.encode s) = s.toList.countP fun c => c ∈ vowels := by
  rw [Utf8.encode]
  induction s.toList with
  | nil => rfl
  | cons c cs ih =>
    rw [List.flatMap_cons, vowelCount, List.countP_append, ← vowelCount, ← vowelCount, ih,
      vowelCount_utf8EncodeChar, List.countP_cons]
    simp [Nat.add_comm]

/-! ### Zero bytes -/

theorem hasNul_eq_false_iff {bytes : Bytes} : hasNul bytes = false ↔ 0 ∉ bytes := by
  rw [hasNul, ← Bool.not_eq_true, List.contains_iff_mem]

/-- Nothing is found where no byte is zero. -/
theorem nulOffset?_eq_none_iff_not_mem {bytes : Bytes} : nulOffset? bytes = none ↔ 0 ∉ bytes := by
  rw [nulOffset?, List.findIdx?_eq_none_iff]
  constructor
  · intro h hmem
    exact absurd (h 0 hmem) (by decide)
  · intro h b hb
    rw [beq_eq_false_iff_ne]
    rintro rfl
    exact h hb

/-- A zero byte is found behind bytes that are none. -/
theorem nulOffset?_append_zero {before : Bytes} (h : 0 ∉ before) (rest : Bytes) :
    nulOffset? (before ++ 0 :: rest) = some (length before) := by
  have hnone := nulOffset?_eq_none_iff_not_mem.mpr h
  rw [nulOffset?] at hnone ⊢
  rw [List.findIdx?_append, hnone]
  simp [length, List.findIdx?_cons]

theorem nulOffset?_eq_none_iff {s : String} :
    nulOffset? (Utf8.encode s) = none ↔ '\x00' ∉ s.toList := by
  rw [nulOffset?_eq_none_iff_not_mem, Utf8.zero_mem_encode_iff]

/-- **The first zero byte** stands behind the bytes of what is before the first zero character. -/
theorem nulOffset?_encode {s : String} {before after : List Char}
    (hsplit : s.toList = before ++ '\x00' :: after) (hbefore : '\x00' ∉ before) :
    nulOffset? (Utf8.encode s) = some (String.ofList before).utf8ByteSize := by
  have hnone : 0 ∉ Utf8.encode (String.ofList before) := by
    rwa [Utf8.zero_mem_encode_iff, String.toList_ofList]
  rw [Utf8.encode_eq_append_zero hsplit, nulOffset?_append_zero hnone, length_encode]

end Text

end TextGauge
