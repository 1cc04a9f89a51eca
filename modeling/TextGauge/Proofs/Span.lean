import Mathlib.Data.List.TakeWhile

/-!
# Where a condition ends

A scanner takes the elements of a list up to the first one that fails a condition. Where that one
is known, so is what the scanner takes and what it leaves.
-/

namespace TextGauge

variable {α : Type} {p : α → Bool} {l : List α} {b : α}

theorem takeWhile_append_cons (h : ∀ a ∈ l, p a) (hb : p b = false) (rest : List α) :
    (l ++ b :: rest).takeWhile p = l := by
  rw [List.takeWhile_append_of_pos h, List.takeWhile_cons_of_neg (by simp [hb]), List.append_nil]

theorem dropWhile_append_cons (h : ∀ a ∈ l, p a) (hb : p b = false) (rest : List α) :
    (l ++ b :: rest).dropWhile p = b :: rest := by
  rw [List.dropWhile_append_of_pos h, List.dropWhile_cons_of_neg (by simp [hb])]

/-- **An element that fails** tells where what is before it ends. -/
theorem append_cons_inj {l' rest rest' : List α} (h : ∀ a ∈ l, p a) (h' : ∀ a ∈ l', p a)
    (hb : p b = false) (heq : l ++ b :: rest = l' ++ b :: rest') : l = l' ∧ rest = rest' := by
  have htake := congrArg (List.takeWhile p) heq
  have hdrop := congrArg (List.dropWhile p) heq
  rw [takeWhile_append_cons h hb, takeWhile_append_cons h' hb] at htake
  rw [dropWhile_append_cons h hb, dropWhile_append_cons h' hb] at hdrop
  exact ⟨htake, List.tail_eq_of_cons_eq hdrop⟩

end TextGauge
