import Mathlib.Data.String.Basic
import TextGauge.Proofs.Utf8

/-!
# The order of bytes

Texts are in the order of their bytes exactly if they are in the order of their characters
(`TextGauge.Utf8.encode_lt_encode_iff`): the bytes of a greater character are greater at the first
place where they differ, whatever follows, since more bytes begin with a greater one and those of
one length carry the value from its highest bits down.
-/

namespace TextGauge.Utf8

/-- **The bytes of a greater character are greater**, whatever follows. -/
theorem utf8EncodeChar_append_lt {c d : Char} (h : c < d) (rest rest' : Bytes) :
    String.utf8EncodeChar c ++ rest < String.utf8EncodeChar d ++ rest' := by
  have hc := toNat_lt_or_lt c
  have hd := toNat_lt_or_lt d
  have hlt : c.toNat < d.toNat := h
  have hvalc : c.val.toNat = c.toNat := rfl
  have hvald : d.val.toNat = d.toNat := rfl
  rw [String.utf8EncodeChar, String.utf8EncodeChar, hvalc, hvald]
  generalize c.toNat = v at hc hlt ⊢
  generalize d.toNat = w at hd hlt ⊢
  have hbyte : ∀ n : ℕ, n < 0x100 → (UInt8.ofNat n).toNat = n := fun n hn =>
    UInt8.toNat_ofNat_of_lt' hn
  -- the bytes carry six bits each
  have htwo : ∀ n : ℕ, n / 4096 = n / 64 / 64 := fun n => (Nat.div_div_eq_div_mul n 64 64).symm
  have hthree : ∀ n : ℕ, n / 262144 = n / 64 / 64 / 64 := by
    intro n
    rw [Nat.div_div_eq_div_mul, Nat.div_div_eq_div_mul]
  -- one case for each two lengths, and in it the first byte that differs
  split_ifs <;>
    simp (disch := omega) only [List.cons_append, List.nil_append, List.cons_lt_cons_iff,
      UInt8.lt_iff_toNat_lt, ← UInt8.toNat_inj, hbyte, htwo, hthree] <;>
    omega

/-- No character is without bytes. -/
theorem exists_utf8EncodeChar_eq_cons (c : Char) : ∃ b bs, String.utf8EncodeChar c = b :: bs := by
  rw [String.utf8EncodeChar]
  split_ifs
  all_goals exact ⟨_, _, rfl⟩

theorem lt_of_append_left {bytes : Bytes} {rest rest' : Bytes} (h : rest < rest') :
    bytes ++ rest < bytes ++ rest' := by
  induction bytes with
  | nil => exact h
  | cons b bytes ih => exact List.cons_lt_cons_iff.mpr (.inr ⟨rfl, ih⟩)

theorem encode_ofList_lt {cs ds : List Char} (h : cs < ds) :
    encode (String.ofList cs) < encode (String.ofList ds) := by
  induction List.lex_lt.mpr h with
  | @nil d ds =>
    obtain ⟨b, bs, hcons⟩ := exists_utf8EncodeChar_eq_cons d
    rw [encode_ofList_nil, encode_ofList_cons, hcons]
    exact List.nil_lt_cons _ _
  | @rel c cs d ds hlt =>
    rw [encode_ofList_cons, encode_ofList_cons]
    exact utf8EncodeChar_append_lt hlt _ _
  | @cons c cs ds hlt ih =>
    rw [encode_ofList_cons, encode_ofList_cons]
    exact lt_of_append_left (ih (List.lex_lt.mp hlt))

/-- **The order of texts is that of their bytes.** -/
theorem encode_lt_encode_iff {s t : String} : encode s < encode t ↔ s < t := by
  have hmono : ∀ {s t : String}, s < t → encode s < encode t := by
    intro s t h
    have hbytes := encode_ofList_lt (String.lt_iff_toList_lt.mp h)
    rwa [String.ofList_toList, String.ofList_toList] at hbytes
  refine ⟨fun h => ?_, hmono⟩
  -- otherwise the texts are the same, or in the other order and so are the bytes
  rcases lt_trichotomy s t with hlt | rfl | hgt
  · exact hlt
  · exact absurd h (List.lt_irrefl _)
  · exact absurd h (List.lt_asymm (hmono hgt))

end TextGauge.Utf8
