import TextGauge.Environment
import TextGauge.Proofs.Text.Measure

/-!
# Which names a variable reaches

A name is looked up by the start of entries `name=value`, so a variable has a say in the values of
two kinds of names (`TextGauge.Environment.Reaches`): its own name, and every name that begins with
its own and `=`, which finds the entry if the value goes on as the name does. Where a variable does
not reach, its presence, its place and its value make no difference
(`TextGauge.Environment.SameBut.text?_eq`).
-/

namespace TextGauge

namespace Utf8

/-- **A text whose bytes another one begins with** begins it, too. -/
theorem exists_eq_append_of_encode {s t : String} {rest : Bytes} (h : encode t = encode s ++ rest) :
    ∃ u, t = s ++ u := by
  have hread : t.toList.map some = s.toList.map some ++ read rest := by
    rw [← read_encode, h, read_encode_append]
  obtain ⟨front, back, hsplit, hfront, -⟩ := List.map_eq_append_iff.mp hread
  have hfront : front = s.toList := (List.map_inj_right fun _ _ => Option.some.inj).mp hfront
  refine ⟨String.ofList back, String.toList_inj.mp ?_⟩
  rw [hsplit, hfront, String.toList_append, String.toList_ofList]

end Utf8

namespace Environment

/-- **A variable reaches a name** that is its own, or begins with its own and `=`. -/
def Reaches (variableName name : String) : Prop :=
  name = variableName ∨ ∃ rest, name = variableName ++ "=" ++ rest

/-- **Environments that differ in one variable** at most: in whether it is set, and where, and to
what. -/
def SameBut (variableName : String) (environment environment' : Environment) : Prop :=
  environment.filter (·.1 ≠ variableName) = environment'.filter (·.1 ≠ variableName)

instance (variableName : String) (environment environment' : Environment) :
    Decidable (SameBut variableName environment environment') :=
  inferInstanceAs (Decidable (_ = _))

theorem behind?_eq_some_iff {start bytes rest : Bytes} :
    behind? start bytes = some rest ↔ bytes = start ++ rest := by
  induction start generalizing bytes with
  | nil => simp [behind?]
  | cons b start ih =>
    cases bytes with
    | nil => simp [behind?]
    | cons c bytes =>
      by_cases hbc : b = c
      · simp [behind?, hbc, ih]
      · simp [behind?, hbc, Ne.symm hbc]

section Reach

variable {variableName name : String}

/-- **An entry is found** only under a name that its variable reaches. -/
theorem reaches_of_behind? {value rest : Bytes} (hequals : '=' ∉ variableName.toList)
    (h : behind? (entry name []) (entry variableName value) = some rest) :
    Reaches variableName name := by
  have hbytes : Utf8.encode variableName ++ equalsSign :: value =
      Utf8.encode name ++ equalsSign :: rest := by
    simpa [entry] using behind?_eq_some_iff.mp h
  -- the shorter of the two names is where the longer one has its first sign
  rcases List.append_eq_append_iff.mp hbytes with ⟨more, hname, htail⟩ | ⟨more, hvariable, htail⟩
  · rcases more with _ | ⟨b, more⟩
    · rw [List.append_nil] at hname
      exact .inl (Utf8.encode_injective hname)
    · obtain rfl : equalsSign = b := (List.cons.inj htail).1
      have hsign : Utf8.encode (variableName ++ "=") =
          Utf8.encode variableName ++ [equalsSign] := by
        rw [Utf8.encode_append]
        rfl
      have hlonger : Utf8.encode name = Utf8.encode (variableName ++ "=") ++ more := by
        rw [hname, hsign, List.append_assoc, List.singleton_append]
      exact .inr (Utf8.exists_eq_append_of_encode hlonger)
  · rcases more with _ | ⟨b, more⟩
    · rw [List.append_nil] at hvariable
      exact .inl (Utf8.encode_injective hvariable.symm)
    · obtain rfl : equalsSign = b := (List.cons.inj htail).1
      have hmem : equalsSign ∈ Utf8.encode variableName := by
        rw [hvariable]
        exact List.mem_append_right _ List.mem_cons_self
      exact absurd ((Utf8.ofNat_mem_encode_iff (d := '=') (by decide)).mp hmem) hequals

/-- **A name that a variable does not reach** is looked up without it. -/
theorem value?_filter (hequals : '=' ∉ variableName.toList) (hname : ¬Reaches variableName name)
    (environment : Environment) :
    value? (environment.filter (·.1 ≠ variableName)) name = environment.value? name := by
  induction environment with
  | nil => rfl
  | cons variableEntry environment ih =>
    obtain ⟨other, value⟩ := variableEntry
    by_cases hother : other = variableName
    · have hnone : behind? (entry name []) (entry other value) = none := by
        rw [Option.eq_none_iff_forall_ne_some, hother]
        exact fun rest hrest => hname (reaches_of_behind? hequals hrest)
      rw [List.filter_cons_of_neg (by simpa using hother), ih]
      simp only [value?, List.findSome?_cons, hnone]
    · rw [List.filter_cons_of_pos (by simpa using hother)]
      simp only [value?, List.findSome?_cons] at ih ⊢
      rw [ih]

theorem SameBut.text?_eq {environment environment' : Environment}
    (h : SameBut variableName environment environment') (hequals : '=' ∉ variableName.toList)
    (hname : ¬Reaches variableName name) : environment.text? name = environment'.text? name := by
  rw [text?, text?, ← value?_filter hequals hname environment, h, value?_filter hequals hname]

end Reach

end Environment

end TextGauge
