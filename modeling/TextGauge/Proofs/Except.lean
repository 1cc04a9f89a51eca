/-!
# Steps that may fail

A computation that may fail goes on with what its first step gives, and it gives a result only if
every step does. Where only its failure matters, a computation is a sequence of things that may be
wrong, of which the first one counts (`TextGauge.refusal_bind`).
-/

namespace TextGauge

variable {ε α β : Type}

@[simp] theorem ok_bind (a : α) (f : α → Except ε β) : ((Except.ok a : Except ε α) >>= f) = f a :=
  rfl

@[simp] theorem error_bind (e : ε) (f : α → Except ε β) :
    ((Except.error e : Except ε α) >>= f) = .error e :=
  rfl

/-- A sequence of two steps gives a result exactly if both do. -/
theorem bind_eq_ok_iff {x : Except ε α} {f : α → Except ε β} {b : β} :
    (x >>= f) = .ok b ↔ ∃ a, x = .ok a ∧ f a = .ok b := by
  cases x with
  | error e => simp
  | ok a => simp

/-- A result that is carried on is the image of one. -/
theorem map_eq_ok_iff {x : Except ε α} {f : α → β} {b : β} :
    x.map f = .ok b ↔ ∃ a, x = .ok a ∧ f a = b := by
  cases x with
  | error e => simp [Except.map]
  | ok a => simp [Except.map]

@[simp] theorem map_eq_error_iff {x : Except ε α} {f : α → β} {e : ε} :
    x.map f = .error e ↔ x = .error e := by
  cases x with
  | error e' => simp [Except.map]
  | ok a => simp [Except.map]

@[simp] theorem mapError_ok {δ : Type} (a : α) (f : ε → δ) :
    (Except.ok a : Except ε α).mapError f = .ok a :=
  rfl

@[simp] theorem mapError_error {δ : Type} (e : ε) (f : ε → δ) :
    (Except.error e : Except ε α).mapError f = .error (f e) :=
  rfl

theorem mapError_eq_ok_iff {δ : Type} {x : Except ε α} {f : ε → δ} {a : α} :
    x.mapError f = .ok a ↔ x = .ok a := by
  cases x with
  | error e => simp
  | ok a' => simp

/-- A fault that is put in other words is the image of one. -/
theorem mapError_eq_error_iff {δ : Type} {x : Except ε α} {f : ε → δ} {d : δ} :
    x.mapError f = .error d ↔ ∃ e, x = .error e ∧ f e = d := by
  cases x with
  | error e => simp
  | ok a => simp

/-! ### Failures -/

/-- Why a computation fails, if it does. -/
def refusal : Except ε α → Option ε
  | .error e => some e
  | .ok _ => none

theorem refusal_eq_some_iff {x : Except ε α} {e : ε} : refusal x = some e ↔ x = .error e := by
  cases x with
  | error e' => simp [refusal]
  | ok a => simp [refusal]

@[simp] theorem refusal_map (x : Except ε α) (f : α → β) : refusal (x.map f) = refusal x := by
  cases x with
  | error e => rfl
  | ok a => rfl

/-- **A sequence of two steps** fails for what the first step fails for, or else the second. -/
theorem refusal_bind {x : Except ε α} {f : α → Except ε β} {first second : Option ε}
    (hx : refusal x = first) (hf : ∀ a, x = .ok a → refusal (f a) = second) :
    refusal (x >>= f) = first.or second := by
  subst hx
  cases x with
  | error e => rfl
  | ok a => exact hf a rfl

end TextGauge
