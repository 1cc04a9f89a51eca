import Mathlib.Tactic.Common
import TextGauge.Proofs.Except
import TextGauge.Utf8

/-!
# The first place that offends

A **place** in a value is the way that leads to it: through tables by their keys, through arrays by
the indices of their elements. Places are in the order in which they are come upon when the keys of
a table are taken by their bytes, the elements of an array from the left, and what a step leads to
before the next step.

`Judges result Offends` says that a computation refuses a value exactly if some place of it
offends, and for what is wrong at the **first** of these places. Computations that judge what lies
behind one step, and then what lies behind later ones, add up to one that judges both
(`TextGauge.Toml.Judges.bind`); so does a loop, if its steps are in order
(`TextGauge.Toml.judges_foldlM`).
-/

namespace TextGauge.Toml

/-! ### Places -/

/-- A step into a value. -/
inductive Step
  /-- To what a key of a table leads to. -/
  | key (name : String)
  /-- To an element of an array. -/
  | index (i : ℕ)

/-- A place, from the root of a value. -/
abbrev Place := List Step

/-- Keys are in the order of their bytes, and elements in that of the array. -/
inductive Step.Before : Step → Step → Prop
  | key {name name' : String} : Utf8.encode name < Utf8.encode name' →
    Before (.key name) (.key name')
  | index {i j : ℕ} : i < j → Before (.index i) (.index j)

/-- **The order of places**, depth first. -/
def Place.Before (place place' : Place) : Prop :=
  List.Lex Step.Before place place'

theorem Step.Before.asymm {s t : Step} (h : s.Before t) : ¬t.Before s := by
  intro h'
  cases h with
  | key hlt =>
    cases h' with
    | key hgt => exact List.lt_asymm hlt hgt
  | index hlt =>
    cases h' with
    | index hgt => exact Nat.lt_asymm hlt hgt

theorem Place.Before.asymm {place place' : Place} (h : place.Before place') :
    ¬place'.Before place := by
  intro h'
  induction h with
  | nil => cases h'
  | rel hst =>
    cases h' with
    | rel hts => exact hst.asymm hts
    | cons _ => exact hst.asymm hst
  | cons _ ih =>
    cases h' with
    | rel hst => exact hst.asymm hst
    | cons h' => exact ih h'

/-! ### The first offence -/

variable {ε α β σ : Type} {P Q : Place → ε → Prop}

/-- The first of the places that offend, and what is wrong there. -/
structure First (P : Place → ε → Prop) (place : Place) (e : ε) : Prop where
  offends : P place e
  least : ∀ place' e', P place' e' → place' = place ∨ place.Before place'

/-- **A computation judges a value**: it fails exactly if a place offends, with what is wrong at the
first such place. -/
structure Judges (result : Except ε α) (P : Place → ε → Prop) : Prop where
  error_iff : ∀ e, result = .error e ↔ ∃ place, First P place e
  sound : ∀ x, result = .ok x → ∀ place e, ¬P place e

/-- What does not fail judges a value in which nothing offends. -/
theorem judges_ok (x : α) : Judges (.ok x : Except ε α) fun _ _ => False where
  error_iff e := by
    constructor
    · intro h
      cases h
    · rintro ⟨place, h⟩
      exact h.offends.elim
  sound _ _ _ _ h := h

/-- Any computation judges a value by its failure, at the root. -/
theorem judges_here (result : Except ε α) :
    Judges result fun place e => place = [] ∧ result = .error e where
  error_iff e := by
    constructor
    · intro h
      refine ⟨[], ⟨rfl, h⟩, ?_⟩
      rintro place' e' ⟨rfl, -⟩
      exact .inl rfl
    · rintro ⟨place, h⟩
      exact h.offends.2
  sound x h place e := by
    rintro ⟨-, h'⟩
    rw [h] at h'
    cases h'

theorem Judges.congr {result : Except ε α} (h : Judges result P)
    (hPQ : ∀ place e, P place e ↔ Q place e) : Judges result Q := by
  obtain rfl : P = Q := funext fun place => funext fun e => propext (hPQ place e)
  exact h

theorem Judges.map {result : Except ε α} (h : Judges result P) (f : α → β) :
    Judges (result.map f) P where
  error_iff e := by
    rw [map_eq_error_iff, h.error_iff]
  sound y hy := by
    obtain ⟨x, hx, -⟩ := map_eq_ok_iff.mp hy
    exact h.sound x hx

/-- What offends behind a step offends at a place that begins with it. -/
theorem Judges.behind {result : Except ε α} (h : Judges result P) (s : Step) :
    Judges result fun place e => ∃ rest, place = s :: rest ∧ P rest e where
  error_iff e := by
    rw [h.error_iff]
    constructor
    · rintro ⟨rest, hfirst⟩
      refine ⟨s :: rest, ⟨rest, rfl, hfirst.offends⟩, ?_⟩
      rintro _ e' ⟨rest', rfl, hrest'⟩
      rcases hfirst.least rest' e' hrest' with rfl | hbefore
      · exact .inl rfl
      · exact .inr (.cons hbefore)
    · rintro ⟨_, ⟨rest, rfl, hrest⟩, hleast⟩
      refine ⟨rest, hrest, fun rest' e' hrest' => ?_⟩
      rcases hleast (s :: rest') e' ⟨rest', rfl, hrest'⟩ with heq | hbefore
      · exact .inl (List.cons.inj heq).2
      · cases hbefore with
        | rel hs => exact absurd hs hs.asymm
        | cons hbefore => exact .inr hbefore
  sound x hx place e := by
    rintro ⟨rest, -, hrest⟩
    exact h.sound x hx rest e hrest

/-- **One computation after another** judges what either judges, if all places of the first come
before those of the second. -/
theorem Judges.bind {result : Except ε α} {next : α → Except ε β} (h : Judges result P)
    (hnext : ∀ x, result = .ok x → Judges (next x) Q)
    (hbefore : ∀ p e q e', P p e → Q q e' → p.Before q) :
    Judges (result >>= next) fun place e => P place e ∨ Q place e := by
  cases result with
  | ok x =>
    -- nothing offends in the first part
    refine (hnext x rfl).congr fun place e => ?_
    exact ⟨.inr, fun hor => hor.resolve_left (h.sound x rfl place e)⟩
  | error e₀ =>
    obtain ⟨place₀, hfirst⟩ := (h.error_iff e₀).mp rfl
    refine ⟨fun e => ?_, fun x hx => by cases hx⟩
    rw [error_bind]
    constructor
    · intro he
      obtain rfl := Except.error.inj he
      refine ⟨place₀, .inl hfirst.offends, fun place' e' hor => ?_⟩
      rcases hor with hP | hQ
      · exact hfirst.least place' e' hP
      · exact .inr (hbefore place₀ _ place' e' hfirst.offends hQ)
    · rintro ⟨place, hoffends, hleast⟩
      rcases hoffends with hP | hQ
      · have he := (h.error_iff e).mpr ⟨place, hP, fun place' e' hP' => hleast place' e' (.inl hP')⟩
        rw [Except.error.inj he]
      · -- an offence of the first part would come before the first one
        have hlt := hbefore place₀ e₀ place e hfirst.offends hQ
        rcases hleast place₀ e₀ (.inl hfirst.offends) with rfl | hgt
        · exact absurd hlt hlt.asymm
        · exact absurd hlt hgt.asymm

/-- **A loop** judges what lies behind its steps, if it takes them in order. -/
theorem judges_foldlM {next : σ → α → Except ε σ} {step : α → Step} {R : α → Place → ε → Prop}
    {l : List α} (h : ∀ x ∈ l, ∀ s, Judges (next s x) (R x))
    (hsteps : l.Pairwise fun x y => (step x).Before (step y)) (s : σ) :
    Judges (l.foldlM next s) fun place e =>
      ∃ x ∈ l, ∃ rest, place = step x :: rest ∧ R x rest e := by
  induction l generalizing s with
  | nil => exact (judges_ok s).congr fun place e => by simp
  | cons x l ih =>
    obtain ⟨hx, hl⟩ := List.pairwise_cons.mp hsteps
    have hrest := ih (fun y hy => h y (List.mem_cons_of_mem x hy)) hl
    rw [List.foldlM_cons]
    refine (((h x List.mem_cons_self s).behind (step x)).bind (fun s' _ => hrest s') ?_).congr ?_
    · rintro _ e _ e' ⟨rest, rfl, -⟩ ⟨y, hy, rest', rfl, -⟩
      exact .rel (hx y hy)
    · intro place e
      simp only [List.mem_cons, exists_eq_or_imp]

end TextGauge.Toml
