import Mathlib.Tactic.Common
import TextGauge.Reader

/-!
# Reading bracketed lists

A list that is written with a comma between its elements is read back
(`TextGauge.Reader.bracketed_intercalate`), provided each element is read up to the comma or to the
end of the list behind it. A `Layout` says what that takes of the blanks: some may stand in front of
an element and some in front of the closing bracket, and the reader passes over them.
-/

namespace TextGauge

/-- As many elements as there are fit in the text. -/
theorem length_le_length_intercalate {α : Type} {text : α → List Char} {xs : List α}
    (h : ∀ x ∈ xs, text x ≠ []) (sep : List Char) :
    xs.length ≤ (List.intercalate sep (xs.map text)).length := by
  induction xs with
  | nil => exact Nat.zero_le _
  | cons x xs ih =>
    have hx : 0 < (text x).length := List.length_pos_iff.mpr (h x List.mem_cons_self)
    have hxs := ih fun y hy => h y (List.mem_cons_of_mem x hy)
    rcases xs with _ | ⟨y, ys⟩
    · rw [List.map_singleton, List.intercalate_singleton]
      exact hx
    · rw [List.map_cons] at hxs
      rw [List.map_cons, List.map_cons, List.intercalate_cons_cons, List.length_append,
        List.length_append, List.length_cons]
      omega

/-- What stands in front of each element may as well stand behind each separator. -/
theorem append_intercalate {α : Type} {text : α → List Char} {xs : List α} (hne : xs ≠ [])
    (lead sep : List Char) :
    lead ++ List.intercalate (sep ++ lead) (xs.map text) =
      List.intercalate sep (xs.map fun x => lead ++ text x) := by
  induction xs with
  | nil => exact absurd rfl hne
  | cons x xs ih =>
    rcases xs with _ | ⟨y, ys⟩
    · rw [List.map_singleton, List.map_singleton, List.intercalate_singleton,
        List.intercalate_singleton]
    · have hrest := ih (List.cons_ne_nil y ys)
      rw [List.map_cons, List.map_cons] at hrest
      rw [List.map_cons, List.map_cons, List.map_cons, List.map_cons, List.intercalate_cons_cons,
        List.intercalate_cons_cons, ← hrest]
      simp only [List.append_assoc]

namespace Reader

/-- Four hexadecimal digits of which the first two are zero number a byte. -/
theorem hexOnto_byte {high low : Char} {n : ℕ} (hhigh : hexValue? high = some (n / 16))
    (hlow : hexValue? low = some (n % 16)) : hexOnto 0 ['0', '0', high, low] = some n := by
  have hzero : hexValue? '0' = some 0 := by decide
  have hsum : n / 16 * 16 + n % 16 = n := by omega
  simp [hexOnto, hzero, hhigh, hlow, hsum]

/-! ### Lists -/

variable {α β : Type}

/-- What holds of every element that can be read holds of all elements of a list. -/
theorem forall_of_elements {close : Char} {blank : List Char → Option (List Char)}
    {element : Reader α} {P : α → Prop} (h : ∀ cs x rest, element cs = some (x, rest) → P x)
    {trailing : Bool} {limit : ℕ} {mayClose : Bool} {cs : List Char} {xs : List α}
    {rest : List Char}
    (hread : elements close blank element trailing limit mayClose cs = some (xs, rest)) :
    ∀ x ∈ xs, P x := by
  induction limit generalizing mayClose cs xs rest with
  | zero => exact absurd hread (by simp [elements])
  | succ limit ih =>
    rw [elements] at hread
    obtain ⟨cs₁, -, hread⟩ := Option.bind_eq_some_iff.mp hread
    split_ifs at hread with hclose
    · obtain ⟨rfl, -⟩ := Prod.mk.inj (Option.some.inj hread)
      simp
    · obtain ⟨⟨x, cs₂⟩, hx, hread⟩ := Option.bind_eq_some_iff.mp hread
      obtain ⟨cs₃, -, hread⟩ := Option.bind_eq_some_iff.mp hread
      rcases cs₃ with _ | ⟨c, cs₃⟩
      · exact absurd hread (by simp)
      · by_cases hend : c = close
        · simp only [if_pos hend] at hread
          obtain ⟨rfl, -⟩ := Prod.mk.inj (Option.some.inj hread)
          intro y hy
          rw [List.mem_singleton.mp hy]
          exact h cs₁ x cs₂ hx
        · by_cases hcomma : c = ','
          · subst hcomma
            simp only [if_neg hend, ne_eq, not_true_eq_false, if_false] at hread
            obtain ⟨⟨ys, rest'⟩, hys, hread⟩ := Option.bind_eq_some_iff.mp hread
            obtain ⟨rfl, -⟩ := Prod.mk.inj (Option.some.inj hread)
            intro y hy
            rcases List.mem_cons.mp hy with rfl | hy
            · exact h cs₁ y cs₂ hx
            · exact ih hys y hy
          · simp [if_neg hend, hcomma] at hread

/-- The blanks of a written list: what stands in front of each element, `lead`, and in front of
the closing bracket, `tail`, is passed over, and no comma is. -/
structure Layout (close : Char) (blank : List Char → Option (List Char)) (solid : Char → Prop)
    (lead tail : List Char) : Prop where
  close_ne_comma : close ≠ ','
  before : ∀ {c : Char}, solid c → ∀ cs, blank (lead ++ c :: cs) = some (c :: cs)
  comma : ∀ cs, blank (',' :: cs) = some (',' :: cs)
  close : ∀ cs, blank (tail ++ close :: cs) = some (close :: cs)

/-- The text of an element: it begins neither as a blank nor as the end of the list, and it is
read up to what may follow it. -/
structure Element (close : Char) (solid : Char → Prop) (follows : List Char → Prop)
    (element : Reader β) (text : List Char) (value : β) : Prop where
  begins : ∃ c cs, text = c :: cs ∧ solid c ∧ c ≠ close
  read : ∀ rest, follows rest → element (text ++ rest) = some (value, rest)

variable {close : Char} {blank : List Char → Option (List Char)} {solid : Char → Prop}
  {lead tail : List Char} {follows : List Char → Prop} {element : Reader β} {text : α → List Char}
  {value : α → β}

/-- **The elements of a written list are read back**, after the opening bracket or a comma. -/
theorem elements_intercalate (hlayout : Layout close blank solid lead tail)
    (hcomma : ∀ cs, follows (',' :: cs)) (hclose : ∀ cs, follows (tail ++ close :: cs))
    {xs : List α} (hne : xs ≠ [])
    (hread : ∀ x ∈ xs, Element close solid follows element (text x) (value x)) (trailing : Bool)
    {limit : ℕ} (hlimit : xs.length ≤ limit) (mayClose : Bool) (rest : List Char) :
    elements close blank element trailing limit mayClose
        (List.intercalate [','] (xs.map fun x => lead ++ text x) ++ (tail ++ close :: rest)) =
      some (xs.map value, rest) := by
  -- one element a step; what stands in front of each is the same behind the bracket and a comma
  induction xs generalizing limit mayClose with
  | nil => exact absurd rfl hne
  | cons x xs ih =>
    obtain ⟨limit, rfl⟩ : ∃ k, limit = k + 1 :=
      ⟨limit - 1, by rw [List.length_cons] at hlimit; omega⟩
    obtain ⟨⟨c, cs, hcons, hsolid, hc⟩, hx⟩ := hread x List.mem_cons_self
    have hblank : ∀ rest, blank (lead ++ (text x ++ rest)) = some (text x ++ rest) := by
      intro rest
      rw [hcons, List.cons_append]
      exact hlayout.before hsolid _
    have hhead : ∀ rest, ¬(mayClose = true ∧ (text x ++ rest).head? = some close) := by
      rintro rest ⟨-, hhead⟩
      rw [hcons, List.cons_append, List.head?_cons, Option.some_inj] at hhead
      exact hc hhead
    rcases xs with _ | ⟨y, ys⟩
    · rw [List.map_singleton, List.intercalate_singleton, List.append_assoc, elements, hblank]
      simp only [Option.bind_eq_bind, Option.bind_some, if_neg (hhead _), hx _ (hclose rest),
        hlayout.close, if_true]
      rfl
    · have hlength : (y :: ys).length ≤ limit := by
        rw [List.length_cons] at hlimit
        omega
      have hrest := ih (List.cons_ne_nil y ys)
        (fun z hz => hread z (List.mem_cons_of_mem x hz)) hlength trailing
      have hshape : List.intercalate [','] ((x :: y :: ys).map fun x => lead ++ text x) ++
            (tail ++ close :: rest) =
          lead ++ (text x ++ ',' :: (List.intercalate [','] ((y :: ys).map fun x => lead ++ text x)
            ++ (tail ++ close :: rest))) := by
        simp [List.intercalate_cons_cons]
      rw [hshape, elements, hblank]
      simp only [Option.bind_eq_bind, Option.bind_some, if_neg (hhead _), hx _ (hcomma _),
        hlayout.comma]
      rw [if_neg hlayout.close_ne_comma.symm, hrest]
      rfl

/-- **A written list is read back.** Each of its elements takes a character at least, so the text
is long enough for all of them. -/
theorem bracketed_intercalate (hlayout : Layout close blank solid lead tail)
    (hcomma : ∀ cs, follows (',' :: cs)) (hclose : ∀ cs, follows (tail ++ close :: cs))
    {xs : List α} (hne : xs ≠ [])
    (hread : ∀ x ∈ xs, Element close solid follows element (text x) (value x)) (trailing : Bool)
    (rest : List Char) :
    bracketed close blank element trailing
        (List.intercalate [','] (xs.map fun x => lead ++ text x) ++ (tail ++ close :: rest)) =
      some (xs.map value, rest) := by
  have htext : ∀ x ∈ xs, lead ++ text x ≠ [] := by
    intro x hx
    obtain ⟨⟨c, cs, hcons, -⟩, -⟩ := hread x hx
    rw [hcons]
    simp
  have hlength := length_le_length_intercalate htext [',']
  refine elements_intercalate hlayout hcomma hclose hne hread trailing ?_ true rest
  rw [List.length_append]
  omega

end Reader

end TextGauge
