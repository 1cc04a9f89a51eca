import Mathlib.Data.List.Basic
import TextGauge.Utf8

/-!
# Reading what was encoded

The byte machine reads the bytes of a character as that character, whatever follows them
(`TextGauge.Utf8.readFrom_utf8EncodeChar_append`), so a text that is encoded decodes to itself
(`TextGauge.Utf8.decode?_encode`). Conversely, what the machine reads without ill-formed run is made
of the bytes of characters, so nothing else decodes (`TextGauge.Utf8.decode?_eq_some_iff`).

The bounds on a second byte are where the work lies: they keep out overlong forms, surrogates and
values that are too large, and a character of the corresponding length has none of these.

In between stands what is special about ASCII. A character below U+0080 is one byte, and of any
other character every byte is above that, so a byte below U+0080 always stands for itself.
-/

namespace TextGauge.Utf8

/-! ### One byte -/

theorem readFrom_cons (state : State) (b : UInt8) (rest : Bytes) :
    readFrom state (b :: rest) = (step state b).1 ++ readFrom (step state b).2 rest := by
  cases state <;> rfl

/-- A byte above all others of ASCII, which carries six bits of a character. -/
theorem step_inside {low high : UInt8} {value t : ℕ} (ht : t < 64) (more : ℕ)
    (hlow : low.toNat ≤ t + 0x80) (hhigh : t + 0x80 ≤ high.toNat) :
    step (.inside more low high value) (UInt8.ofNat (t + 0x80)) =
      match more with
      | 0 => ([some (Char.ofNat (value * 64 + t))], .boundary)
      | more + 1 => ([], .inside more 0x80 0xBF (value * 64 + t)) := by
  have hnat : (UInt8.ofNat (t + 0x80)).toNat = t + 0x80 := by
    rw [UInt8.toNat_ofNat']
    omega
  have hbounds : low ≤ UInt8.ofNat (t + 0x80) ∧ UInt8.ofNat (t + 0x80) ≤ high := by
    rw [UInt8.le_iff_toNat_le, UInt8.le_iff_toNat_le, hnat]
    exact ⟨hlow, hhigh⟩
  have hmod : (t + 0x80) % 64 = t := by omega
  cases more <;> simp only [step, if_pos hbounds, hnat, hmod]

/-- The first byte of a character of two bytes. -/
theorem first_of_two : ∀ n < 32, 2 ≤ n →
    first (UInt8.ofNat (n + 0xC0)) = ([], .inside 0 0x80 0xBF n) := by
  decide

/-- The first byte of a character of three bytes: the second one keeps out overlong forms and
surrogates. -/
theorem first_of_three : ∀ n < 16, first (UInt8.ofNat (n + 0xE0)) =
    ([], .inside 1 (if n = 0 then 0xA0 else 0x80) (if n = 13 then 0x9F else 0xBF) n) := by
  decide

/-- The first byte of a character of four bytes: the second one keeps out overlong forms and
values above the largest one. -/
theorem first_of_four : ∀ n < 5, first (UInt8.ofNat (n + 0xF0)) =
    ([], .inside 2 (if n = 0 then 0x90 else 0x80) (if n = 4 then 0x8F else 0xBF) n) := by
  decide

/-! ### One character -/

/-- The values that characters have: none is a surrogate, and none is above U+10FFFF. -/
theorem toNat_lt_or_lt (c : Char) : c.toNat < 0xD800 ∨ (0xDFFF < c.toNat ∧ c.toNat < 0x110000) :=
  c.valid

theorem readFrom_ascii {c : Char} (h : c.toNat < 0x80) (rest : Bytes) :
    readFrom .boundary (UInt8.ofNat c.toNat :: rest) = some c :: readFrom .boundary rest := by
  have hnat : (UInt8.ofNat c.toNat).toNat = c.toNat := by
    rw [UInt8.toNat_ofNat']
    omega
  have hle : UInt8.ofNat c.toNat ≤ 0x7F := by
    rw [UInt8.le_iff_toNat_le, hnat]
    exact Nat.lt_succ_iff.mp h
  rw [readFrom_cons, step, first, if_pos hle, hnat, Char.ofNat_toNat]
  rfl

/-- **The machine reads the bytes of a character as that character**, whatever follows. -/
theorem readFrom_utf8EncodeChar_append (c : Char) (rest : Bytes) :
    readFrom .boundary (String.utf8EncodeChar c ++ rest) = some c :: readFrom .boundary rest := by
  have hvalid := toNat_lt_or_lt c
  obtain ⟨v, hv⟩ : ∃ v, c.toNat = v := ⟨_, rfl⟩
  have hval : c.val.toNat = v := hv
  have hchar : Char.ofNat v = c := by rw [← hv, Char.ofNat_toNat]
  rw [hv] at hvalid
  rw [String.utf8EncodeChar, hval]
  split_ifs with h1 h2 h3
  · rw [← hv]
    exact readFrom_ascii (by omega) rest
  · have hn : v / 64 % 0x20 = v / 64 := by omega
    rw [hn, List.cons_append, List.cons_append, List.nil_append, readFrom_cons, step,
      first_of_two _ (by omega) (by omega), List.nil_append, readFrom_cons,
      step_inside (by omega) 0 (by simp) (by simp; omega)]
    have hsum : v / 64 * 64 + v % 64 = v := by omega
    simp only [hsum, hchar]
    rfl
  · have hn : v / 4096 % 0x10 = v / 4096 := by omega
    have hlow : (if v / 4096 = 0 then 0xA0 else 0x80 : UInt8).toNat ≤ v / 64 % 64 + 0x80 := by
      split_ifs
      · simp
        omega
      · simp
    have hhigh : v / 64 % 64 + 0x80 ≤ (if v / 4096 = 13 then 0x9F else 0xBF : UInt8).toNat := by
      split_ifs <;> simp <;> omega
    rw [hn, List.cons_append, List.cons_append, List.cons_append, List.nil_append,
      readFrom_cons, step, first_of_three _ (by omega), List.nil_append, readFrom_cons,
      step_inside (by omega) 1 hlow hhigh]
    simp only [List.nil_append]
    rw [readFrom_cons, step_inside (by omega) 0 (by simp) (by simp; omega)]
    have hsum : (v / 4096 * 64 + v / 64 % 64) * 64 + v % 64 = v := by omega
    simp only [hsum, hchar]
    rfl
  · have hn : v / 262144 % 0x08 = v / 262144 := by omega
    have hlow : (if v / 262144 = 0 then 0x90 else 0x80 : UInt8).toNat ≤ v / 4096 % 64 + 0x80 := by
      split_ifs
      · simp
        omega
      · simp
    have hhigh : v / 4096 % 64 + 0x80 ≤ (if v / 262144 = 4 then 0x8F else 0xBF : UInt8).toNat := by
      split_ifs <;> simp <;> omega
    rw [hn, List.cons_append, List.cons_append, List.cons_append, List.cons_append,
      List.nil_append, readFrom_cons, step, first_of_four _ (by omega), List.nil_append,
      readFrom_cons, step_inside (by omega) 2 hlow hhigh]
    simp only [List.nil_append]
    rw [readFrom_cons, step_inside (by omega) 1 (by simp) (by simp; omega)]
    simp only [List.nil_append]
    rw [readFrom_cons, step_inside (by omega) 0 (by simp) (by simp; omega)]
    have hsum : ((v / 262144 * 64 + v / 4096 % 64) * 64 + v / 64 % 64) * 64 + v % 64 = v := by
      omega
    simp only [hsum, hchar]
    rfl

/-! ### Texts -/

@[simp] theorem encode_ofList_nil : encode (String.ofList []) = [] := by
  simp [encode]

theorem encode_ofList_cons (c : Char) (cs : List Char) :
    encode (String.ofList (c :: cs)) = String.utf8EncodeChar c ++ encode (String.ofList cs) := by
  simp [encode]

/-- The bytes of a text are read as its characters, whatever follows. -/
theorem read_encode_append (s : String) (rest : Bytes) :
    read (encode s ++ rest) = s.toList.map some ++ read rest := by
  obtain ⟨cs, rfl⟩ : ∃ cs, s = String.ofList cs := ⟨s.toList, by simp⟩
  rw [String.toList_ofList]
  induction cs with
  | nil => rw [encode_ofList_nil, List.nil_append, List.map_nil, List.nil_append]
  | cons c cs ih =>
    rw [encode_ofList_cons, List.append_assoc, read, readFrom_utf8EncodeChar_append, List.map_cons,
      List.cons_append, ← ih, read]

/-- Reading the bytes of a text gives its characters. -/
theorem read_encode (s : String) : read (encode s) = s.toList.map some := by
  have hread := read_encode_append s []
  have hnil : read [] = [] := rfl
  rwa [List.append_nil, hnil, List.append_nil] at hread

theorem mapM_id_eq_some_iff {l : List (Option Char)} {cs : List Char} :
    l.mapM id = some cs ↔ l = cs.map some := by
  induction l generalizing cs with
  | nil => cases cs <;> simp
  | cons x l ih =>
    rcases x with _ | c <;> rcases cs with _ | ⟨d, cs⟩ <;>
      simp [← ih, Option.bind_eq_some_iff, and_comm]

/-- **A text that is encoded decodes to itself.** -/
@[simp] theorem decode?_encode (s : String) : decode? (encode s) = some s := by
  rw [decode?, read_encode, mapM_id_eq_some_iff.mpr rfl, Option.map_some, String.ofList_toList]

theorem encode_injective : Function.Injective encode := by
  intro s t h
  rw [← Option.some.injEq, ← decode?_encode s, h, decode?_encode]

/-! ### ASCII -/

theorem utf8EncodeChar_of_lt {c : Char} (h : c.toNat < 0x80) :
    String.utf8EncodeChar c = [UInt8.ofNat c.toNat] := by
  have hval : c.val.toNat ≤ 0x7F := Nat.lt_succ_iff.mp h
  rw [String.utf8EncodeChar, if_pos hval]
  rfl

/-- The bytes of a character that is not ASCII are not ASCII either. -/
theorem le_of_mem_utf8EncodeChar {c : Char} (h : 0x80 ≤ c.toNat) {b : UInt8}
    (hb : b ∈ String.utf8EncodeChar c) : 0x80 ≤ b.toNat := by
  have hvalid := toNat_lt_or_lt c
  obtain ⟨v, hv⟩ : ∃ v, c.toNat = v := ⟨_, rfl⟩
  have hval : c.val.toNat = v := hv
  rw [hv] at h hvalid
  rw [String.utf8EncodeChar, hval, if_neg (by omega)] at hb
  split_ifs at hb
  all_goals
    simp only [List.mem_cons, List.not_mem_nil, or_false] at hb
    rcases hb with rfl | rfl | rfl | rfl
  all_goals
    rw [UInt8.toNat_ofNat']
    omega

/-- The bytes of a text of ASCII characters are their codes. -/
theorem encode_ofList_of_ascii {cs : List Char} (h : ∀ c ∈ cs, c.toNat < 0x80) :
    encode (String.ofList cs) = cs.map fun c => UInt8.ofNat c.toNat := by
  induction cs with
  | nil => exact encode_ofList_nil
  | cons c cs ih =>
    have hc : c.toNat < 0x80 := h c List.mem_cons_self
    have hcs := ih fun c' hmem => h c' (List.mem_cons_of_mem c hmem)
    rw [encode_ofList_cons, utf8EncodeChar_of_lt hc, hcs, List.map_cons, List.singleton_append]

/-- Digits are ASCII. -/
theorem encode_ofList_of_isDigit {digits : List Char} (h : ∀ c ∈ digits, c.isDigit) :
    encode (String.ofList digits) = digits.map fun c => UInt8.ofNat c.toNat := by
  refine encode_ofList_of_ascii fun c hc => ?_
  have hbounds : 48 ≤ c.toNat ∧ c.toNat ≤ 57 := by
    simpa [Char.isDigit, UInt32.le_iff_toNat_le] using h c hc
  omega

/-! ### What the machine reads -/

/-- A byte that starts a character tells how many bytes it has. -/
theorem of_none_not_mem_first : ∀ k < 0x100, none ∉ (first (UInt8.ofNat k)).1 →
    k < 0x80 ∨ (0xC2 ≤ k ∧ k < 0xE0) ∨ (0xE0 ≤ k ∧ k < 0xF0) ∨ (0xF0 ≤ k ∧ k < 0xF5) := by
  decide +kernel

/-- A character that is open goes on with a byte between the bounds. -/
theorem exists_of_inside {more : ℕ} {low high : UInt8} {value : ℕ} {bytes : Bytes}
    (h : none ∉ readFrom (.inside more low high value) bytes) (hlow : 0x80 ≤ low.toNat)
    (hhigh : high.toNat ≤ 0xBF) :
    ∃ t rest, t < 64 ∧ low.toNat ≤ t + 0x80 ∧ t + 0x80 ≤ high.toNat ∧
      bytes = UInt8.ofNat (t + 0x80) :: rest ∧
      none ∉ readFrom (step (.inside more low high value) (UInt8.ofNat (t + 0x80))).2 rest := by
  rcases bytes with _ | ⟨b, rest⟩
  · exact absurd List.mem_cons_self h
  · rw [readFrom_cons, List.mem_append, not_or] at h
    have hbounds : low ≤ b ∧ b ≤ high := by
      by_contra hnot
      refine h.1 ?_
      rw [step.eq_def]
      simp only [if_neg hnot, List.mem_cons_self]
    rw [UInt8.le_iff_toNat_le, UInt8.le_iff_toNat_le] at hbounds
    have hsum : b.toNat - 0x80 + 0x80 = b.toNat := by omega
    refine ⟨b.toNat - 0x80, rest, by omega, by omega, by omega, ?_, ?_⟩
    · rw [hsum, UInt8.ofNat_toNat]
    · rw [hsum, UInt8.ofNat_toNat]
      exact h.2

theorem val_ofNat {v : ℕ} (h : v < 0xD800 ∨ (0xDFFF < v ∧ v < 0x110000)) :
    (Char.ofNat v).val.toNat = v := by
  rw [Char.ofNat, dif_pos h]
  rfl

/-- The character of two bytes. -/
theorem utf8EncodeChar_two {n t : ℕ} (hn : n < 32) (hn' : 2 ≤ n) (ht : t < 64) :
    String.utf8EncodeChar (Char.ofNat (n * 64 + t)) =
      [UInt8.ofNat (n + 0xC0), UInt8.ofNat (t + 0x80)] := by
  rw [String.utf8EncodeChar, val_ofNat (by omega), if_neg (by omega), if_pos (by omega)]
  have hfirst : (n * 64 + t) / 64 % 0x20 = n := by omega
  have hsecond : (n * 64 + t) % 0x40 = t := by omega
  rw [hfirst, hsecond]

/-- The character of three bytes. -/
theorem utf8EncodeChar_three {n s t : ℕ} (hn : n < 16) (hs : s < 64) (ht : t < 64)
    (hlow : n = 0 → 0x20 ≤ s) (hhigh : n = 13 → s < 0x20) :
    String.utf8EncodeChar (Char.ofNat ((n * 64 + s) * 64 + t)) =
      [UInt8.ofNat (n + 0xE0), UInt8.ofNat (s + 0x80), UInt8.ofNat (t + 0x80)] := by
  rw [String.utf8EncodeChar, val_ofNat (by omega), if_neg (by omega), if_neg (by omega),
    if_pos (by omega)]
  have hfirst : ((n * 64 + s) * 64 + t) / 4096 % 0x10 = n := by omega
  have hsecond : ((n * 64 + s) * 64 + t) / 64 % 0x40 = s := by omega
  have hthird : ((n * 64 + s) * 64 + t) % 0x40 = t := by omega
  rw [hfirst, hsecond, hthird]

/-- The character of four bytes. -/
theorem utf8EncodeChar_four {n r s t : ℕ} (hn : n < 5) (hr : r < 64) (hs : s < 64) (ht : t < 64)
    (hlow : n = 0 → 0x10 ≤ r) (hhigh : n = 4 → r < 0x10) :
    String.utf8EncodeChar (Char.ofNat (((n * 64 + r) * 64 + s) * 64 + t)) =
      [UInt8.ofNat (n + 0xF0), UInt8.ofNat (r + 0x80), UInt8.ofNat (s + 0x80),
        UInt8.ofNat (t + 0x80)] := by
  rw [String.utf8EncodeChar, val_ofNat (by omega), if_neg (by omega), if_neg (by omega),
    if_neg (by omega)]
  have hfirst : (((n * 64 + r) * 64 + s) * 64 + t) / 262144 % 0x08 = n := by omega
  have hsecond : (((n * 64 + r) * 64 + s) * 64 + t) / 4096 % 0x40 = r := by omega
  have hthird : (((n * 64 + r) * 64 + s) * 64 + t) / 64 % 0x40 = s := by omega
  have hfourth : (((n * 64 + r) * 64 + s) * 64 + t) % 0x40 = t := by omega
  rw [hfirst, hsecond, hthird, hfourth]

/-- **What has no ill-formed run begins with a character.** -/
theorem exists_eq_utf8EncodeChar_append {b : UInt8} {bytes : Bytes}
    (h : none ∉ readFrom .boundary (b :: bytes)) :
    ∃ c rest, b :: bytes = String.utf8EncodeChar c ++ rest := by
  obtain ⟨k, hk, rfl⟩ : ∃ k < 0x100, b = UInt8.ofNat k :=
    ⟨b.toNat, b.toNat_lt, UInt8.ofNat_toNat.symm⟩
  rw [readFrom_cons, List.mem_append, not_or] at h
  obtain ⟨hfirst, hrest⟩ := h
  -- one case for each number of bytes, which the first one tells
  rcases of_none_not_mem_first k hk hfirst with hlt | ⟨hge, hlt⟩ | ⟨hge, hlt⟩ | ⟨hge, hlt⟩
  · refine ⟨Char.ofNat k, bytes, ?_⟩
    have hnat : (Char.ofNat k).toNat = k := val_ofNat (by omega)
    rw [utf8EncodeChar_of_lt (by omega), hnat, List.singleton_append]
  · obtain ⟨n, rfl⟩ : ∃ n, k = n + 0xC0 := ⟨k - 0xC0, by omega⟩
    rw [step, first_of_two n (by omega) (by omega)] at hrest
    obtain ⟨t, rest, ht, -, -, rfl, -⟩ := exists_of_inside hrest (by decide) (by decide)
    refine ⟨Char.ofNat (n * 64 + t), rest, ?_⟩
    rw [utf8EncodeChar_two (by omega) (by omega) ht]
    rfl
  · obtain ⟨n, rfl⟩ : ∃ n, k = n + 0xE0 := ⟨k - 0xE0, by omega⟩
    rw [step, first_of_three n (by omega)] at hrest
    obtain ⟨s, rest₂, hs, hlow, hhigh, rfl, hrest₂⟩ := exists_of_inside hrest
      (by split_ifs <;> decide) (by split_ifs <;> decide)
    rw [step_inside hs 1 hlow hhigh] at hrest₂
    obtain ⟨t, rest₃, ht, -, -, rfl, -⟩ := exists_of_inside hrest₂ (by decide) (by decide)
    refine ⟨Char.ofNat ((n * 64 + s) * 64 + t), rest₃, ?_⟩
    rw [utf8EncodeChar_three (by omega) hs ht]
    · rfl
    · rintro rfl
      simpa using hlow
    · rintro rfl
      simp at hhigh
      omega
  · obtain ⟨n, rfl⟩ : ∃ n, k = n + 0xF0 := ⟨k - 0xF0, by omega⟩
    rw [step, first_of_four n (by omega)] at hrest
    obtain ⟨r, rest₂, hr, hlow, hhigh, rfl, hrest₂⟩ := exists_of_inside hrest
      (by split_ifs <;> decide) (by split_ifs <;> decide)
    rw [step_inside hr 2 hlow hhigh] at hrest₂
    obtain ⟨s, rest₃, hs, -, -, rfl, hrest₃⟩ := exists_of_inside hrest₂ (by decide) (by decide)
    rw [step_inside hs 1 (by simp) (by simp; omega)] at hrest₃
    obtain ⟨t, rest₄, ht, -, -, rfl, -⟩ := exists_of_inside hrest₃ (by decide) (by decide)
    refine ⟨Char.ofNat (((n * 64 + r) * 64 + s) * 64 + t), rest₄, ?_⟩
    rw [utf8EncodeChar_four (by omega) hr hs ht]
    · rfl
    · rintro rfl
      simpa using hlow
    · rintro rfl
      simp at hhigh
      omega

/-- **What has no ill-formed run is the bytes of the characters that are read.** -/
theorem flatMap_utf8EncodeChar_of_readFrom {bytes : Bytes} {cs : List Char}
    (h : readFrom .boundary bytes = cs.map some) : cs.flatMap String.utf8EncodeChar = bytes := by
  induction cs generalizing bytes with
  | nil =>
    rcases bytes with _ | ⟨b, bytes⟩
    · rfl
    · have hnone : none ∉ readFrom .boundary (b :: bytes) := by simp [h]
      obtain ⟨c, rest, heq⟩ := exists_eq_utf8EncodeChar_append hnone
      rw [heq, readFrom_utf8EncodeChar_append] at h
      exact absurd h (by simp)
  | cons c cs ih =>
    rcases bytes with _ | ⟨b, bytes⟩
    · exact absurd h (by simp [readFrom])
    · have hnone : none ∉ readFrom .boundary (b :: bytes) := by simp [h]
      obtain ⟨c', rest, heq⟩ := exists_eq_utf8EncodeChar_append hnone
      rw [heq, readFrom_utf8EncodeChar_append, List.map_cons, List.cons.injEq, Option.some_inj] at h
      obtain ⟨rfl, hrest⟩ := h
      rw [List.flatMap_cons, ih hrest, heq]

/-- **A sequence decodes to a text exactly if it encodes that text.** -/
theorem decode?_eq_some_iff {bytes : Bytes} {s : String} :
    decode? bytes = some s ↔ encode s = bytes := by
  constructor
  · intro h
    rw [decode?, Option.map_eq_some_iff] at h
    obtain ⟨cs, hread, rfl⟩ := h
    rw [encode, String.toList_ofList]
    exact flatMap_utf8EncodeChar_of_readFrom (mapM_id_eq_some_iff.mp hread)
  · rintro rfl
    exact decode?_encode s

theorem decode?_eq_none_iff {bytes : Bytes} : decode? bytes = none ↔ ∀ s, encode s ≠ bytes := by
  rw [Option.eq_none_iff_forall_ne_some]
  exact forall_congr' fun s => not_congr decode?_eq_some_iff

end TextGauge.Utf8
