import Mathlib.Data.Nat.Init
import Mathlib.Tactic.Common
import TextGauge.Text.Echo

/-!
# Echoes lose nothing and stay on a line

The two forms of an echo have in common what matters (`TextGauge.Text.Echo.Echoes`): there is no
control character in them, so an echo neither ends the line that it stands in nor steers a terminal,
and the text can be read back from them, so no two texts have the same echo.

Both properties are those of a single character, of which there are three sorts
(`TextGauge.Text.Echo.escape_cases`): it is escaped by a name, by its number, or stands for itself.
Two things have to be right for this, whichever characters the tables of Unicode list besides:

* **A control character** never stands for itself: those without a name are not printed.
* **A backslash** never stands for itself either, so whatever begins with one is an escape, and a
  text that looks like an escape, or stands behind one, is not taken for a part of it.
-/

namespace TextGauge

/-! ### Control characters -/

namespace Unicode

/-- A control character: one of the general category Cc. -/
def IsControl (c : Char) : Prop :=
  c.toNat < 0x20 ∨ (0x7F ≤ c.toNat ∧ c.toNat < 0xA0)

instance : DecidablePred IsControl := fun _ => inferInstanceAs (Decidable (_ ∨ _))

theorem Ranges.contains_of_mem {ranges : Ranges} {low high n : ℕ} (h : (low, high) ∈ ranges)
    (hlow : low ≤ n) (hhigh : n ≤ high) : ranges.contains n := by
  rw [Ranges.contains, List.any_eq_true]
  exact ⟨(low, high), h, Bool.and_eq_true_iff.mpr ⟨decide_eq_true hlow, decide_eq_true hhigh⟩⟩

/-- The control characters are in the first two ranges of those that are not printed. -/
theorem isUnprintable_of_isControl {c : Char} (h : IsControl c) : isUnprintable c := by
  rcases h with hlt | ⟨hge, hlt⟩
  · exact Ranges.contains_of_mem (.head _) (Nat.zero_le _) (Nat.le_of_lt_succ hlt)
  · exact Ranges.contains_of_mem (.tail _ (.head _)) hge (Nat.le_of_lt hlt)

/-- Without control characters, so a single line. -/
def ControlFree (cs : List Char) : Prop :=
  ∀ c ∈ cs, ¬IsControl c

instance : DecidablePred ControlFree := fun cs => List.decidableBAll (fun c => ¬IsControl c) cs

section ControlFree

variable {cs ds : List Char} {c : Char}

theorem controlFree_nil : ControlFree [] := nofun

theorem controlFree_cons_iff : ControlFree (c :: cs) ↔ ¬IsControl c ∧ ControlFree cs :=
  List.forall_mem_cons

theorem controlFree_append_iff : ControlFree (cs ++ ds) ↔ ControlFree cs ∧ ControlFree ds :=
  List.forall_mem_append

theorem ControlFree.flatMap {α : Type} {xs : List α} {f : α → List Char}
    (h : ∀ x, ControlFree (f x)) : ControlFree (xs.flatMap f) := by
  intro c hc
  obtain ⟨x, -, hc⟩ := List.mem_flatMap.mp hc
  exact h x c hc

end ControlFree

theorem not_isControl_digitChar : ∀ n < 16, ¬IsControl (Nat.digitChar n) := by
  decide

/-- Digits are no control characters. -/
theorem controlFree_toDigits {base : ℕ} (h : 1 < base) (hbase : base ≤ 16) (n : ℕ) :
    ControlFree (Nat.toDigits base n) := by
  induction n using Nat.strong_induction_on with
  | _ n ih =>
    rcases Nat.lt_or_ge n base with hlt | hge
    · rw [Nat.toDigits_of_lt_base hlt, controlFree_cons_iff]
      exact ⟨not_isControl_digitChar n (by omega), controlFree_nil⟩
    · rw [Nat.toDigits_of_base_le h hge, controlFree_append_iff, controlFree_cons_iff]
      have hmod : n % base < base := Nat.mod_lt n (by omega)
      exact ⟨ih (n / base) (Nat.div_lt_self (by omega) h),
        not_isControl_digitChar (n % base) (by omega), controlFree_nil⟩

end Unicode

namespace Text.Echo

open Unicode (IsControl ControlFree)

/-! ### One character -/

/-- **The ways a character is echoed**: by a name that stands for it, by its number, or as itself.
Neither a control character nor a backslash is echoed as itself. -/
theorem escape_cases (apostrophe extenders : Bool) (c : Char) :
    (∃ name, named? name = some c ∧ ¬IsControl name ∧
      escape apostrophe extenders c = ['\\', name]) ∨
    escape apostrophe extenders c = numbered c ∨
    (c ≠ '\\' ∧ ¬IsControl c ∧ escape apostrophe extenders c = [c]) := by
  rcases hname : nameOf? c with _ | name
  · rw [escape, hname]
    simp only
    split_ifs with hself hnumber
    · refine .inl ⟨c, ?_, ?_, rfl⟩
      · rcases hself with rfl | rfl | ⟨rfl, -⟩ <;> rfl
      · rcases hself with rfl | rfl | ⟨rfl, -⟩ <;> decide
    · exact .inr (.inl rfl)
    · refine .inr (.inr ⟨fun hback => hself (.inl hback), fun hcontrol => ?_, rfl⟩)
      exact hnumber (.inl (Unicode.isUnprintable_of_isControl hcontrol))
  · refine .inl ⟨name, ?_, ?_, by rw [escape, hname]⟩
    all_goals
      rw [nameOf?] at hname
      split_ifs at hname <;> cases hname <;> subst c <;> decide

theorem controlFree_numbered (c : Char) : ControlFree (numbered c) := by
  rw [numbered, Unicode.controlFree_cons_iff, Unicode.controlFree_cons_iff,
    Unicode.controlFree_cons_iff, Unicode.controlFree_append_iff]
  exact ⟨by decide, by decide, by decide, Unicode.controlFree_toDigits (by decide) (by decide) _,
    by decide⟩

/-- **A character is echoed without control characters**, be it one itself. -/
theorem controlFree_escape (apostrophe extenders : Bool) (c : Char) :
    ControlFree (escape apostrophe extenders c) := by
  rcases escape_cases apostrophe extenders c with ⟨name, -, hname, heq⟩ | heq | ⟨-, hc, heq⟩
  · rw [heq, Unicode.controlFree_cons_iff, Unicode.controlFree_cons_iff]
    exact ⟨by decide, hname, Unicode.controlFree_nil⟩
  · rw [heq]
    exact controlFree_numbered c
  · rw [heq, Unicode.controlFree_cons_iff]
    exact ⟨hc, Unicode.controlFree_nil⟩

/-! ### Reading one character back -/

/-- A digit is read as its value, and none closes the braces that it stands in. -/
theorem hexValue?_digitChar :
    ∀ n < 16, hexValue? (Nat.digitChar n) = some n ∧ Nat.digitChar n ≠ '}' := by
  decide

theorem unescapeFrom_number_digitChar {n : ℕ} (h : n < 16) (value : ℕ) (rest : List Char) :
    unescapeFrom (.number value) (Nat.digitChar n :: rest) =
      unescapeFrom (.number (value * 16 + n)) rest := by
  obtain ⟨hvalue, hne⟩ := hexValue?_digitChar n h
  rw [unescapeFrom, if_neg hne, hvalue, Option.bind_some]

/-- The digits of a number are read as that number, whatever stands behind them. -/
theorem unescapeFrom_number_toDigits (n : ℕ) (rest : List Char) :
    unescapeFrom (.number 0) (Nat.toDigits 16 n ++ rest) = unescapeFrom (.number n) rest := by
  -- the last digit is the first one taken off the number, so it goes to what stands behind
  induction n using Nat.strong_induction_on generalizing rest with
  | _ n ih =>
    rcases Nat.lt_or_ge n 16 with hlt | hge
    · rw [Nat.toDigits_of_lt_base hlt, List.singleton_append, unescapeFrom_number_digitChar hlt,
        Nat.zero_mul, Nat.zero_add]
    · have hsum : n / 16 * 16 + n % 16 = n := by omega
      rw [Nat.toDigits_of_base_le (by decide) hge, List.append_assoc, List.singleton_append,
        ih (n / 16) (by omega), unescapeFrom_number_digitChar (Nat.mod_lt n (by decide)), hsum]

theorem unescapeFrom_numbered_append (c : Char) (rest : List Char) :
    unescapeFrom .between (numbered c ++ rest) =
      (unescapeFrom .between rest).map (c :: ·) := by
  have hnumber : numbered c ++ rest =
      '\\' :: 'u' :: '{' :: (Nat.toDigits 16 c.toNat ++ '}' :: rest) := by
    simp [numbered]
  rw [hnumber, unescapeFrom, if_pos rfl, unescapeFrom, if_pos rfl, unescapeFrom, if_pos rfl,
    unescapeFrom_number_toDigits, unescapeFrom, if_pos rfl, Char.ofNat_toNat]

theorem unescapeFrom_named {name c : Char} (h : named? name = some c) (rest : List Char) :
    unescapeFrom .between ('\\' :: name :: rest) = (unescapeFrom .between rest).map (c :: ·) := by
  have hne : name ≠ 'u' := by
    rintro rfl
    cases h
  rw [unescapeFrom, if_pos rfl, unescapeFrom, if_neg hne, h, Option.bind_some]

/-- **One character of an echo**: what stands for it is read as it, whatever follows. -/
theorem unescapeFrom_escape_append (apostrophe extenders : Bool) (c : Char) (rest : List Char) :
    unescapeFrom .between (escape apostrophe extenders c ++ rest) =
      (unescapeFrom .between rest).map (c :: ·) := by
  rcases escape_cases apostrophe extenders c with ⟨name, hname, -, heq⟩ | heq | ⟨hback, -, heq⟩
  · rw [heq]
    exact unescapeFrom_named hname rest
  · rw [heq]
    exact unescapeFrom_numbered_append c rest
  · rw [heq, List.singleton_append, unescapeFrom, if_neg hback]

theorem unescape_flatMap_escape (apostrophe extenders : Bool) (cs : List Char) :
    unescape (cs.flatMap (escape apostrophe extenders)) = some cs := by
  induction cs with
  | nil => rfl
  | cons c cs ih =>
    rw [unescape] at ih ⊢
    rw [List.flatMap_cons, unescapeFrom_escape_append, ih, Option.map_some]

/-! ### Texts -/

/-- **An echo of a text**, in either form: no control character is in it, and the text can be read
back from it. -/
structure Echoes (cs : List Char) (s : String) : Prop where
  controlFree : ControlFree cs
  unescape_eq : unescape cs = some s.toList

/-- **Two texts never have the same echo**, not even in different forms. -/
theorem Echoes.unique {cs : List Char} {s t : String} (h : Echoes cs s) (h' : Echoes cs t) :
    s = t :=
  String.toList_inj.mp (Option.some.inj (h.unescape_eq.symm.trans h'.unescape_eq))

theorem echoes_quotedBody (s : String) : Echoes (quotedBody s.toList) s where
  controlFree := .flatMap fun c => controlFree_escape false true c
  unescape_eq := unescape_flatMap_escape false true s.toList

theorem echoes_bareBody (s : String) : Echoes (bareBody s.toList) s where
  controlFree := by
    rcases s.toList with _ | ⟨c, cs⟩
    · exact Unicode.controlFree_nil
    · exact Unicode.controlFree_append_iff.mpr
        ⟨controlFree_escape true true c, .flatMap fun d => controlFree_escape true false d⟩
  unescape_eq := by
    rcases s.toList with _ | ⟨c, cs⟩
    · rfl
    · have hrest := unescape_flatMap_escape true false cs
      rw [unescape] at hrest ⊢
      rw [bareBody, unescapeFrom_escape_append, hrest, Option.map_some]

end Text.Echo

end TextGauge
