import TextGauge.Proofs.CommandLine.Items
import TextGauge.Proofs.Except
import TextGauge.Proofs.Span

/-!
# What one argument does to a scan

An option whose value stands in the next argument stays pending after it, so what has been read
is not what stands in the scan. The invariant of a scan is therefore stated of what the scan would
**settle** to (`TextGauge.CommandLine.Scan.Ready`), and the statements below say of each kind of
argument which of the meetings of the scan it comes down to, and how these keep a scan ready.

The delicate argument is a value that an option awaits (`TextGauge.CommandLine.Scan.StandsApart`):
it is looked at as an option first, and a number with a minus sign escapes that only where an
operand awaits it.
-/

namespace TextGauge.CommandLine

namespace Scan

/-! ### Scans that are ready -/

/-- **A scan is ready** with a command line: it is not closed, it awaits no value, and with what is
pending it settles to the command line. -/
structure Ready (s : Scan) (line : CommandLine) : Prop where
  isOpen : s.closed = false
  awaiting : s.awaiting = none
  settle : s.settle = .ok { line := line }

theorem ready_mk (line : CommandLine) : Ready { line := line } line :=
  ⟨rfl, rfl, rfl⟩

variable {s : Scan} {line line' : CommandLine} {opt : Opt} {value : Bytes}

theorem Ready.option (h : s.Ready line) (hset : line.setOption opt value = .ok line') :
    ∃ s', s.option opt value = .ok s' ∧ s'.Ready line' := by
  refine ⟨{ line := line' }, ?_, ready_mk line'⟩
  rw [Scan.option, h.settle, ok_bind, hset, ok_bind]
  rfl

theorem Ready.flag {flag : Flag} (h : s.Ready line) (hset : line.setFlag flag = .ok line') :
    ∃ s', s.flag flag = .ok s' ∧ s'.Ready line' := by
  refine ⟨{ line := line' }, ?_, ready_mk line'⟩
  rw [Scan.flag, h.settle, ok_bind, hset, ok_bind]
  rfl

/-- An option awaits its value; with the value the scan is ready again. -/
theorem Ready.await (h : s.Ready line) (hset : line.setOption opt value = .ok line') :
    ∃ s₁, s.await opt = .ok s₁ ∧ s₁.closed = false ∧ s₁.awaiting = some opt ∧
      ∃ s', s₁.word value = .ok s' ∧ s'.Ready line' := by
  refine ⟨{ line := line, pending := some (opt, none) }, ?_, rfl, rfl,
    { line := line, pending := some (opt, some value) }, rfl, rfl, rfl, ?_⟩
  · rw [Scan.await, h.settle]
    rfl
  · simp only [Scan.settle, hset]
    rfl

/-! ### Numbers in an argument of their own -/

/-- Whether a value that an option awaits is taken for one. -/
def StandsApart (opt : Opt) (value : Bytes) : Prop :=
  value.head? ≠ some (byte '-') ∨ value = [byte '-'] ∨
    (opt.takesNegative ∧ ∃ rest, value = byte '-' :: rest ∧ isNumber rest)

/-- The code of a digit is a digit. -/
theorem isDigit_ofNat_toNat {c : Char} (h : c.isDigit) : isDigit (UInt8.ofNat c.toNat) := by
  have hbounds : 48 ≤ c.toNat ∧ c.toNat ≤ 57 := by
    simpa [Char.isDigit, UInt32.le_iff_toNat_le] using h
  have hall : ∀ n ≤ 57, 48 ≤ n → isDigit (UInt8.ofNat n) := by decide
  exact hall _ hbounds.2 hbounds.1

theorem isNumber_of_isDigit {bytes : Bytes} (hne : bytes ≠ []) (h : ∀ b ∈ bytes, isDigit b) :
    isNumber bytes := by
  have htake : bytes.takeWhile isDigit = bytes := List.takeWhile_eq_self_iff.mpr h
  have hdrop : bytes.dropWhile isDigit = [] := List.dropWhile_eq_nil_iff.mpr h
  simp [isNumber, htake, hdrop, hne]

/-- A number starts with a digit. -/
theorem exists_cons_of_isNumber {bytes : Bytes} (h : isNumber bytes) :
    ∃ b rest, bytes = b :: rest ∧ isDigit b := by
  rcases bytes with _ | ⟨b, rest⟩
  · simp [isNumber] at h
  · refine ⟨b, rest, rfl, ?_⟩
    by_contra hb
    simp [isNumber, hb] at h

/-- **A numeral may stand in an argument of its own**, also one with a minus sign. -/
theorem standsApart_of_isNumeral {n : Int32} (h : IsNumeral n value) (hopt : opt.takesNegative) :
    StandsApart opt value := by
  obtain ⟨cs, hcs, rfl⟩ := h
  have hdigits : ∀ {digits : List Char}, (∀ c ∈ digits, c.isDigit) →
      ∀ b ∈ digits.map fun c => UInt8.ofNat c.toNat, isDigit b := by
    intro digits h b hb
    obtain ⟨c, hc, rfl⟩ := List.mem_map.mp hb
    exact isDigit_ofNat_toNat (h c hc)
  obtain ⟨m, hm⟩ : ∃ m, n.toInt = m := ⟨_, rfl⟩
  rw [hm] at hcs
  -- without sign it begins with a digit; with a minus sign it is a number that is awaited
  cases hcs with
  | @plain digits hne h =>
    left
    rw [Utf8.encode_ofList_of_isDigit h]
    intro hhead
    exact absurd (hdigits h _ (List.mem_of_head? hhead)) (by decide)
  | @plus digits hne h =>
    left
    rw [Utf8.encode_ofList_cons, Utf8.utf8EncodeChar_of_lt (by decide), List.singleton_append,
      List.head?_cons]
    decide
  | @minus digits hne h =>
    refine .inr (.inr ⟨hopt, Utf8.encode (String.ofList digits), ?_, ?_⟩)
    · rw [Utf8.encode_ofList_cons]
      rfl
    · rw [Utf8.encode_ofList_of_isDigit h]
      exact isNumber_of_isDigit (by simpa using hne) (hdigits h)

/-! ### Single arguments -/

theorem argument_word (hopen : s.closed = false) (hawaits : s.awaiting = some opt)
    (hvalue : StandsApart opt value) : s.argument value = s.word value := by
  rcases value with _ | ⟨first, rest⟩
  · simp [Scan.argument, hopen]
  · rcases hvalue with hfirst | hlone | ⟨hopt, rest', hcons, hnumber⟩
    · have hne : first ≠ byte '-' := fun he => hfirst (by rw [he, List.head?_cons])
      simp [Scan.argument, hopen, hne]
    · obtain ⟨rfl, rfl⟩ := List.cons.inj hlone
      simp [Scan.argument, hopen]
    · obtain ⟨rfl, rfl⟩ := List.cons.inj hcons
      -- a number does not begin with a second sign, so this is no long name
      obtain ⟨b, rest, rfl, hb⟩ := exists_cons_of_isNumber hnumber
      have hminus : b ≠ byte '-' := by
        rintro rfl
        exact absurd hb (by decide)
      simp [Scan.argument, hopen, hminus, hawaits, hopt, hnumber]

theorem argument_longLead (hopen : s.closed = false) {body : Bytes} (hne : body ≠ []) :
    s.argument (Spelling.longLead body) = s.long body := by
  simp [Scan.argument, Spelling.longLead, hopen, hne]

/-- Letters behind a minus sign, where no number is awaited. -/
theorem argument_letters (hopen : s.closed = false) (hawaits : s.awaiting = none) {b : UInt8}
    (hb : b ≠ byte '-') (rest : Bytes) :
    s.argument (byte '-' :: b :: rest) = s.cluster (b :: rest) := by
  simp [Scan.argument, hopen, hawaits, hb]

/-! ### Long names -/

/-- Long names of options are found, are not empty, and have no `=` in them. -/
theorem named?_of_optionName? {name : String} (h : Spelling.optionName? opt = some name) :
    Opt.named? (ascii name) = some opt ∧ ascii name ≠ [] ∧
      ∀ b ∈ ascii name, (b != byte '=') = true := by
  cases opt with
  | text | config | level =>
    obtain rfl := Option.some.inj h
    exact ⟨by decide, by decide, by rw [← List.all_eq_true]; decide⟩
  | a | b => simp [Spelling.optionName?] at h

/-- Long names of flags are found, name no option, are not empty, and have no `=` in them. -/
theorem named?_flagName (flag : Flag) :
    Opt.named? (ascii (Spelling.flagName flag)) = none ∧
      Flag.named? (ascii (Spelling.flagName flag)) = some flag ∧
      ascii (Spelling.flagName flag) ≠ [] ∧
      ∀ b ∈ ascii (Spelling.flagName flag), (b != byte '=') = true := by
  rw [← List.all_eq_true]
  cases flag <;> decide

theorem long_name_equals {name : String} (h : Spelling.optionName? opt = some name)
    (value : Bytes) : s.long (ascii name ++ byte '=' :: value) = s.option opt value := by
  obtain ⟨hnamed, -, hname⟩ := named?_of_optionName? h
  have htake := takeWhile_append_cons (b := byte '=') hname (by simp) value
  have hdrop := dropWhile_append_cons (b := byte '=') hname (by simp) value
  simp only [Scan.long, htake, hdrop, hnamed]

theorem long_name {name : String} (h : Spelling.optionName? opt = some name) :
    s.long (ascii name) = s.await opt := by
  obtain ⟨hnamed, -, hname⟩ := named?_of_optionName? h
  have htake := List.takeWhile_eq_self_iff.mpr hname
  have hdrop := List.dropWhile_eq_nil_iff.mpr hname
  simp only [Scan.long, htake, hdrop, hnamed]

theorem long_flagName (flag : Flag) : s.long (ascii (Spelling.flagName flag)) = s.flag flag := by
  obtain ⟨hopt, hnamed, -, hname⟩ := named?_flagName flag
  have htake := List.takeWhile_eq_self_iff.mpr hname
  have hdrop := List.dropWhile_eq_nil_iff.mpr hname
  simp [Scan.long, htake, hdrop, hopt, hnamed]

/-! ### Letters -/

/-- Letters of options are found, are no flags, and are no signs. -/
theorem lettered?_of_optionLetter? {letter : Char} (h : Spelling.optionLetter? opt = some letter) :
    Flag.lettered? (byte letter) = none ∧ Opt.lettered? (byte letter) = some opt ∧
      byte letter ≠ byte '-' := by
  cases opt with
  | a | b | config =>
    obtain rfl := Option.some.inj h
    decide
  | text | level => simp [Spelling.optionLetter?] at h

theorem cluster_letter {letter : Char} (h : Spelling.optionLetter? opt = some letter)
    (rest : Bytes) : s.cluster (byte letter :: rest) = s.attached opt rest := by
  obtain ⟨hflag, hopt, -⟩ := lettered?_of_optionLetter? h
  simp [Scan.cluster, hflag, hopt]

theorem cluster_verbose (rest : Bytes) :
    s.cluster (byte 'v' :: rest) = (s.flag .verbose).bind (cluster · rest) := by
  have hflag : Flag.lettered? (byte 'v') = some .verbose := by decide
  simp [Scan.cluster, hflag]

/-- The letter of an option, perhaps behind that of the verbose flag: what follows is attached
to it. -/
theorem Ready.argument_lead {verbose : Bool} (h : s.Ready line)
    (hset : (Spelling.sharedFlag verbose).foldlM setItem line = .ok line')
    (hletter : (Spelling.optionLetter? opt).isSome) (rest : Bytes) :
    ∃ s' : Scan, s.argument (Spelling.lead verbose opt ++ rest) = s'.attached opt rest ∧
      s'.Ready line' := by
  obtain ⟨letter, hletter⟩ := Option.isSome_iff_exists.mp hletter
  obtain ⟨-, -, hminus⟩ := lettered?_of_optionLetter? hletter
  cases verbose with
  | false =>
    obtain rfl : line = line' := Except.ok.inj hset
    refine ⟨s, ?_, h⟩
    rw [← cluster_letter hletter, ← argument_letters h.isOpen h.awaiting hminus]
    simp [Spelling.lead, hletter]
  | true =>
    have hset : line.setFlag .verbose = .ok line' := by
      simpa [Spelling.sharedFlag, setItem] using hset
    obtain ⟨s', hs', hready⟩ := h.flag hset
    refine ⟨s', ?_, hready⟩
    have hcluster : s.cluster (byte 'v' :: byte letter :: rest) = s'.attached opt rest := by
      rw [cluster_verbose, hs', ← cluster_letter hletter]
      rfl
    rw [← hcluster, ← argument_letters h.isOpen h.awaiting (by decide)]
    simp [Spelling.lead, hletter]

end Scan

end TextGauge.CommandLine
