/-!
# Placeholders

A **placeholder** is `${name}`, with a name that is not empty and has no closing brace in it; any
other character may stand in a name, line ends and `${` among them. A text splits into literal
characters and placeholders, found from the left: where a placeholder starts it is taken whole,
and the search goes on behind it.

`substitute` puts the value of a name in the place of its placeholder, and leaves a placeholder
without value as it is. What it puts there is not looked at again.
-/

namespace TextGauge.Placeholder

/-- A stretch of a text. -/
inductive Stretch
  /-- A character that stands for itself. -/
  | literal (c : Char)
  /-- A placeholder. -/
  | placeholder (name : List Char)
  deriving DecidableEq, Repr

/-- Reads a placeholder: its name, and what follows it. -/
def placeholder? : List Char → Option (List Char × List Char)
  | '$' :: '{' :: cs =>
    let name := cs.takeWhile (· != '}')
    match cs.dropWhile (· != '}') with
    | [] => none
    | _ :: rest => if name.isEmpty then none else some (name, rest)
  | _ => none

/-- A placeholder takes characters. -/
theorem length_of_placeholder? {cs name rest : List Char}
    (h : placeholder? cs = some (name, rest)) : rest.length < cs.length := by
  unfold placeholder? at h
  split at h
  · rename_i cs
    have hd : (cs.dropWhile (· != '}')).length ≤ cs.length :=
      (List.dropWhile_sublist _).length_le
    simp only at h
    split at h
    · simp at h
    · rename_i heq
      rw [heq] at hd
      split at h
      · simp at h
      · simp only [Option.some.injEq, Prod.mk.injEq] at h
        obtain ⟨-, rfl⟩ := h
        simp only [List.length_cons] at hd ⊢
        omega
  · simp at h

/-- The stretches of a text, from the left. -/
def stretches : List Char → List Stretch
  | [] => []
  | c :: cs =>
    match h : placeholder? (c :: cs) with
    | some (name, rest) =>
      have := length_of_placeholder? h
      .placeholder name :: stretches rest
    | none => .literal c :: stretches cs
termination_by cs => cs.length
decreasing_by
  · assumption
  · exact Nat.lt_succ_self _

/-- A placeholder as it is written. -/
def written (name : List Char) : List Char :=
  '$' :: '{' :: (name ++ ['}'])

/-- What a stretch becomes. -/
def Stretch.expand (lookup : String → Option String) : Stretch → List Char
  | literal c => [c]
  | placeholder name => ((lookup (String.ofList name)).map String.toList).getD (written name)

/-- A text with the values of names in the place of placeholders. -/
def substitute (lookup : String → Option String) (s : String) : String :=
  String.ofList ((stretches s.toList).flatMap (Stretch.expand lookup))

/-- The names of the placeholders of a text, in order. -/
def names (s : String) : List String :=
  (stretches s.toList).filterMap fun
    | .literal _ => none
    | .placeholder name => some (String.ofList name)

end TextGauge.Placeholder
