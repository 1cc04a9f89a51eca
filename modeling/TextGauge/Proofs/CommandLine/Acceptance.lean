import TextGauge.Proofs.CommandLine.Recorded
import Mathlib.Data.List.Induction
import Mathlib.Tactic.Common

/-!
# Accepted command lines are written command lines

Whatever list of arguments is accepted is one of the ways to write what it is read as
(`TextGauge.CommandLine.exists_writes_of_parse`): its arguments are those of spellings in sequence,
perhaps with a closing argument behind them, and the spellings say all that the command line sets,
each once. So nothing is ignored, nothing is set twice, and nothing is set that is not written.

The arguments are accounted for from the left. Behind each of them the scan is in one of three
positions (`TextGauge.CommandLine.Scan.Accounts`): all arguments are those of spellings; or the
last one announces an option whose value is to follow; or the value has followed and is still to be
set. Every argument leads from such a position to one, except for the closing one, and behind that
none is accepted.
-/

namespace TextGauge.CommandLine

namespace Scan

/-! ### Arguments that are accounted for -/

/-- **Arguments that are written**: they are those of spellings, and the command line records what
these set and then the items in `shared`, which the next argument is to account for. -/
def Written (arguments : List Bytes) (shared : List Item) (line : CommandLine) : Prop :=
  ∃ spellings : List Spelling, (∀ spelling ∈ spellings, spelling.Valid) ∧
    spellings.flatMap Spelling.arguments = arguments ∧
    Records line (spellings.flatMap Spelling.items ++ shared)

/-- **An argument that announces a value**: together with the value it is a spelling, which sets
the items in `shared` and then the option. -/
def Announces (argument : Bytes) (shared : List Item) (opt : Opt) : Prop :=
  ∀ value, mayStandApart opt value → ∃ spelling : Spelling, spelling.Valid ∧
    spelling.arguments = [argument, value] ∧ spelling.items = shared ++ [.option opt value]

/-- **Where a scan stands** behind arguments, as long as none of them is a closing one. -/
inductive Accounts : List Bytes → Scan → Prop
  /-- All arguments are those of spellings. -/
  | settled {arguments : List Bytes} {line : CommandLine} :
    Written arguments [] line → Accounts arguments { line := line }
  /-- The last argument announces a value. -/
  | awaiting {arguments : List Bytes} {argument : Bytes} {shared : List Item} {opt : Opt}
    {line : CommandLine} :
    Written arguments shared line → Announces argument shared opt →
    Accounts (arguments ++ [argument]) { line := line, pending := some (opt, none) }
  /-- The last argument is a value that was announced. -/
  | met {arguments : List Bytes} {argument value : Bytes} {shared : List Item} {opt : Opt}
    {line : CommandLine} :
    Written arguments shared line → Announces argument shared opt → mayStandApart opt value →
    Accounts (arguments ++ [argument, value]) { line := line, pending := some (opt, some value) }

variable {arguments : List Bytes} {shared : List Item} {line line' : CommandLine} {s s' : Scan}
  {opt : Opt} {flag : Flag} {value : Bytes}

theorem written_nil : Written [] [] {} :=
  ⟨[], by simp, rfl, records_nil⟩

/-- **One spelling more** sets the items that it has to account for, and perhaps one that is new. -/
theorem Written.append {spelling : Spelling} (h : Written arguments shared line)
    (hvalid : spelling.Valid) {item : Item} (hitems : spelling.items = shared ++ [item])
    (hset : line.setItem item = .ok line') :
    Written (arguments ++ spelling.arguments) [] line' := by
  obtain ⟨spellings, hall, rfl, hrecords⟩ := h
  refine ⟨spellings ++ [spelling], ?_, by simp, ?_⟩
  · intro other hmem
    rcases List.mem_append.mp hmem with hmem | hmem
    · exact hall other hmem
    · obtain rfl := List.mem_singleton.mp hmem
      exact hvalid
  · simpa [hitems] using hrecords.setItem hset

/-- A flag that the next argument is to account for. -/
theorem Written.share (h : Written arguments [] line) (hset : line.setFlag .verbose = .ok line') :
    Written arguments (Spelling.sharedFlag true) line' := by
  obtain ⟨spellings, hall, rfl, hrecords⟩ := h
  refine ⟨spellings, hall, rfl, ?_⟩
  have hflag : Records line' (spellings.flatMap Spelling.items ++ [] ++ [.flag .verbose]) :=
    hrecords.setItem hset
  simpa [Spelling.sharedFlag] using hflag

/-! ### What a scan does where it succeeds -/

theorem eq_of_option (h : s.option opt value = .ok s') :
    ∃ s₁ line', s.settle = .ok s₁ ∧ s₁.line.setOption opt value = .ok line' ∧
      s' = { s₁ with line := line' } := by
  rw [Scan.option, bind_eq_ok_iff] at h
  obtain ⟨s₁, hsettle, h⟩ := h
  obtain ⟨line', hset, h⟩ := bind_eq_ok_iff.mp h
  exact ⟨s₁, line', hsettle, hset, (Except.ok.inj h).symm⟩

theorem eq_of_flag (h : s.flag flag = .ok s') :
    ∃ s₁ line', s.settle = .ok s₁ ∧ s₁.line.setFlag flag = .ok line' ∧
      s' = { s₁ with line := line' } := by
  rw [Scan.flag, bind_eq_ok_iff] at h
  obtain ⟨s₁, hsettle, h⟩ := h
  obtain ⟨line', hset, h⟩ := bind_eq_ok_iff.mp h
  exact ⟨s₁, line', hsettle, hset, (Except.ok.inj h).symm⟩

/-- **Settling** leaves arguments that are those of spellings. -/
theorem Accounts.settle (h : Accounts arguments s) (hs : s.settle = .ok s') :
    ∃ line, s' = { line := line } ∧ Written arguments [] line := by
  cases h with
  | @settled _ line hwritten => exact ⟨line, (Except.ok.inj hs).symm, hwritten⟩
  | awaiting => exact absurd hs (by simp [Scan.settle])
  | @met _ argument value shared opt line hwritten hannounces hapart =>
    obtain ⟨line', hset, rfl⟩ := map_eq_ok_iff.mp hs
    obtain ⟨spelling, hvalid, harguments, hitems⟩ := hannounces value hapart
    refine ⟨line', rfl, ?_⟩
    rw [← harguments]
    exact hwritten.append hvalid hitems hset

/-- An option with its value in the same argument. -/
theorem Accounts.option {spelling : Spelling} (hsettled : s.settle = .ok { line := line })
    (hwritten : Written arguments shared line) (hs : s.option opt value = .ok s')
    (hvalid : spelling.Valid) (hitems : spelling.items = shared ++ [.option opt value]) :
    Accounts (arguments ++ spelling.arguments) s' := by
  obtain ⟨s₁, line', hsettle, hset, rfl⟩ := eq_of_option hs
  obtain rfl := Except.ok.inj (hsettled.symm.trans hsettle)
  exact .settled (hwritten.append hvalid hitems hset)

/-- An option whose value is to follow. -/
theorem Accounts.await {argument : Bytes} (hsettled : s.settle = .ok { line := line })
    (hwritten : Written arguments shared line) (hs : s.await opt = .ok s')
    (hannounces : Announces argument shared opt) : Accounts (arguments ++ [argument]) s' := by
  obtain ⟨s₁, hsettle, rfl⟩ := map_eq_ok_iff.mp hs
  obtain rfl := Except.ok.inj (hsettled.symm.trans hsettle)
  exact .awaiting hwritten hannounces

/-! ### Long names -/

/-- The long name that is read as an option is one that it is written with. -/
theorem exists_optionName?_of_named? {name : Bytes} (h : Opt.named? name = some opt) :
    ∃ written, Spelling.optionName? opt = some written ∧ ascii written = name := by
  have hname : opt.longName? = some name := by simpa using List.find?_some h
  have htable : opt.longName? = (Spelling.optionName? opt).map ascii := by cases opt <;> rfl
  rwa [htable, Option.map_eq_some_iff] at hname

/-- The long name that is read as a flag is the one that it is written with. -/
theorem flagName_of_named? {name : Bytes} (h : Flag.named? name = some flag) :
    ascii (Spelling.flagName flag) = name := by
  have hname : flag.longName = name := by simpa using List.find?_some h
  have htable : flag.longName = ascii (Spelling.flagName flag) := by cases flag <;> rfl
  rw [← htable, hname]

/-- **An argument with a long name.** -/
theorem Accounts.long (h : Accounts arguments s) {body : Bytes} (hs : s.long body = .ok s') :
    Accounts (arguments ++ [Spelling.longLead body]) s' := by
  have hbody := List.takeWhile_append_dropWhile (p := (· != byte '=')) (l := body)
  rw [Scan.long] at hs
  generalize body.takeWhile (· != byte '=') = name at hs hbody
  rcases hopt : Opt.named? name with _ | opt
  · rcases hflag : Flag.named? name with _ | flag
    · simp [hopt, hflag] at hs
    · rcases hdrop : body.dropWhile (· != byte '=') with _ | ⟨b, value⟩
      · -- the name of a flag and nothing behind it
        simp only [hopt, hflag, hdrop, Option.isSome_none, Bool.false_eq_true, if_false] at hs
        obtain ⟨s₁, line', hsettle, hset, rfl⟩ := eq_of_flag hs
        obtain ⟨line, rfl, hwritten⟩ := h.settle hsettle
        rw [hdrop, List.append_nil] at hbody
        have hname := flagName_of_named? hflag
        have hitem : line.setItem (.flag flag) = .ok line' := hset
        have hsettled : Written (arguments ++ (Spelling.longFlag flag).arguments) [] line' :=
          hwritten.append trivial rfl hitem
        rw [Spelling.arguments, hname, hbody] at hsettled
        exact .settled hsettled
      · simp [hopt, hflag, hdrop] at hs
  · obtain ⟨written, hname, rfl⟩ := exists_optionName?_of_named? hopt
    rcases hdrop : body.dropWhile (· != byte '=') with _ | ⟨b, value⟩
    · -- the name of an option whose value is to follow
      simp only [hopt, hdrop] at hs
      obtain ⟨s₁, hsettle, -⟩ := map_eq_ok_iff.mp hs
      obtain ⟨line, rfl, hwritten⟩ := h.settle hsettle
      rw [hdrop, List.append_nil] at hbody
      refine .await hsettle hwritten hs fun value hapart => ?_
      exact ⟨.longApart opt value, ⟨by simp [hname], hapart⟩,
        by simp [Spelling.arguments, hname, hbody], rfl⟩
    · -- the name of an option, the sign, and the value
      simp only [hopt, hdrop] at hs
      obtain ⟨s₁, -, hsettle, -, -⟩ := eq_of_option hs
      obtain ⟨line, rfl, hwritten⟩ := h.settle hsettle
      have hb : b = byte '=' := by
        have hhead := List.head?_dropWhile_not (· != byte '=') body
        simpa [hdrop] using hhead
      have haccounts : Accounts (arguments ++ (Spelling.longEquals opt value).arguments) s' :=
        .option hsettle hwritten hs (by simp [Spelling.Valid, hname]) rfl
      have hlead : Spelling.longLead (ascii written) ++ byte '=' :: value =
          Spelling.longLead body := by
        rw [← hbody, hdrop, hb]
        rfl
      rw [Spelling.arguments, hname, Option.getD_some, hlead] at haccounts
      exact haccounts

/-! ### Letters -/

/-- The letter that is read as an option is the one that it is written with. -/
theorem exists_optionLetter?_of_lettered? {b : UInt8} (h : Opt.lettered? b = some opt) :
    ∃ letter, Spelling.optionLetter? opt = some letter ∧ byte letter = b := by
  have hletter : opt.letter? = some b := by simpa using List.find?_some h
  have htable : opt.letter? = (Spelling.optionLetter? opt).map byte := by cases opt <;> rfl
  rwa [htable, Option.map_eq_some_iff] at hletter

/-- The only flag with a letter that can be set. -/
theorem eq_verbose_of_lettered? {b : UInt8} (h : Flag.lettered? b = some flag)
    (hset : line.setFlag flag = .ok line') : flag = .verbose ∧ b = byte 'v' := by
  have hletter : flag.letter? = some b := by simpa using List.find?_some h
  cases flag with
  | json => exact absurd hletter (by simp [Flag.letter?])
  | verbose => exact ⟨rfl, (Option.some.inj hletter).symm⟩
  | help | version => exact absurd hset (by simp [setFlag])

/-- **What is attached to the letter of an option**, perhaps behind that of the verbose flag. -/
theorem Accounts.attached (verbose : Bool) (hsettled : s.settle = .ok { line := line })
    (hwritten : Written arguments (Spelling.sharedFlag verbose) line)
    (hletter : (Spelling.optionLetter? opt).isSome) {rest : Bytes}
    (hs : s.attached opt rest = .ok s') :
    Accounts (arguments ++ [Spelling.lead verbose opt ++ rest]) s' := by
  rcases rest with _ | ⟨b, rest⟩
  · rw [List.append_nil]
    refine .await hsettled hwritten hs fun value hapart => ?_
    exact ⟨.letterApart verbose opt value, ⟨hletter, hapart⟩, rfl, rfl⟩
  · rw [Scan.attached] at hs
    split_ifs at hs with hb
    · have hvalid : (Spelling.letterEquals verbose opt rest).Valid := hletter
      rw [hb]
      exact .option hsettled hwritten hs hvalid rfl
    · have hvalid : (Spelling.letterTogether verbose opt (b :: rest)).Valid :=
        ⟨hletter, List.cons_ne_nil _ _, by simpa using hb⟩
      exact .option hsettled hwritten hs hvalid rfl

/-- The letter of an option, perhaps behind that of the verbose flag. -/
theorem lead_of_optionLetter? {letter : Char} (h : Spelling.optionLetter? opt = some letter)
    (verbose : Bool) (rest : Bytes) : Spelling.lead verbose opt ++ rest =
      byte '-' :: ((if verbose then [byte 'v'] else []) ++ byte letter :: rest) := by
  simp [Spelling.lead, h]

theorem settle_of_attached {rest : Bytes} (hs : s.attached opt rest = .ok s') :
    ∃ s₁, s.settle = .ok s₁ := by
  rcases rest with _ | ⟨b, rest⟩
  · obtain ⟨s₁, hsettle, -⟩ := map_eq_ok_iff.mp hs
    exact ⟨s₁, hsettle⟩
  · rw [Scan.attached] at hs
    split_ifs at hs
    all_goals
      obtain ⟨s₁, -, hsettle, -⟩ := eq_of_option hs
      exact ⟨s₁, hsettle⟩

/-- A flag in front of further letters is set before these are looked at. -/
theorem cluster_of_flag {b : UInt8} {rest : Bytes} (hflag : Flag.lettered? b = some flag)
    (hs : s.cluster (b :: rest) = .ok s') :
    ∃ s₁, s.flag flag = .ok s₁ ∧ s₁.cluster rest = .ok s' := by
  simp only [Scan.cluster, hflag] at hs
  exact bind_eq_ok_iff.mp hs

/-- **Letters behind that of the verbose flag**: an option, or nothing, since no flag is left that
can be set. -/
theorem Accounts.cluster_verbose (hwritten : Written arguments [] line)
    (hset : line.setFlag .verbose = .ok line') {rest : Bytes}
    (hs : Scan.cluster { line := line' } rest = .ok s') :
    Accounts (arguments ++ [byte '-' :: byte 'v' :: rest]) s' := by
  rcases rest with _ | ⟨b, rest⟩
  · obtain rfl := Except.ok.inj hs
    have hitem : line.setItem (.flag .verbose) = .ok line' := hset
    have hvalid : Spelling.letterFlag.Valid := trivial
    exact .settled (hwritten.append hvalid rfl hitem)
  · rcases hflag : Flag.lettered? b with _ | flag
    · rcases hopt : Opt.lettered? b with _ | opt
      · exact absurd hs (by simp [Scan.cluster, hflag, hopt])
      · simp only [Scan.cluster, hflag, hopt] at hs
        obtain ⟨letter, hletter, rfl⟩ := exists_optionLetter?_of_lettered? hopt
        have haccounts := Accounts.attached true rfl (hwritten.share hset) (by simp [hletter]) hs
        rwa [lead_of_optionLetter? hletter] at haccounts
    · -- a flag that can be set would be the verbose one once more
      obtain ⟨s₁, hagain, -⟩ := cluster_of_flag hflag hs
      obtain ⟨s₀, line'', hsettle, hset', -⟩ := eq_of_flag hagain
      obtain rfl := Except.ok.inj hsettle
      obtain ⟨rfl, -⟩ := eq_verbose_of_lettered? hflag hset'
      have hset₁ : line.setItem (.flag .verbose) = .ok line' := hset
      have hset₂ : line'.setItem (.flag .verbose) = .ok line'' := hset'
      exact absurd (itemSets_of_setItem hset₁).said (itemSets_of_setItem hset₂).fresh

/-- **An argument with letters.** -/
theorem Accounts.cluster (h : Accounts arguments s) {b : UInt8} {rest : Bytes}
    (hs : s.cluster (b :: rest) = .ok s') :
    Accounts (arguments ++ [byte '-' :: b :: rest]) s' := by
  rcases hflag : Flag.lettered? b with _ | flag
  · rcases hopt : Opt.lettered? b with _ | opt
    · exact absurd hs (by simp [Scan.cluster, hflag, hopt])
    · simp only [Scan.cluster, hflag, hopt] at hs
      obtain ⟨letter, hletter, rfl⟩ := exists_optionLetter?_of_lettered? hopt
      obtain ⟨s₁, hsettle⟩ := settle_of_attached hs
      obtain ⟨line, rfl, hwritten⟩ := h.settle hsettle
      have haccounts := Accounts.attached false hsettle hwritten (by simp [hletter]) hs
      rwa [lead_of_optionLetter? hletter] at haccounts
  · obtain ⟨s₁, hverbose, hrest⟩ := cluster_of_flag hflag hs
    obtain ⟨s₀, line', hsettle, hset, rfl⟩ := eq_of_flag hverbose
    obtain ⟨line, rfl, hwritten⟩ := h.settle hsettle
    obtain ⟨rfl, rfl⟩ := eq_verbose_of_lettered? hflag hset
    exact .cluster_verbose hwritten hset hrest

/-! ### Any argument -/

/-- A value that stands apart follows what announces it. -/
theorem Accounts.word (h : Accounts arguments s) {argument : Bytes}
    (hapart : ∀ opt, s.awaiting = some opt → mayStandApart opt argument)
    (hs : s.word argument = .ok s') : Accounts (arguments ++ [argument]) s' := by
  cases h with
  | settled | met => exact absurd hs (by simp [Scan.word, Scan.awaiting])
  | @awaiting arguments announcing shared opt line hwritten hannounces =>
    obtain rfl := Except.ok.inj hs
    rw [List.append_assoc]
    exact .met hwritten hannounces (hapart opt rfl)

theorem Accounts.isOpen (h : Accounts arguments s) : s.closed = false := by
  cases h <;> rfl

/-- **Every argument is accounted for**, or it is the closing one. -/
theorem Accounts.argument (h : Accounts arguments s) {argument : Bytes}
    (hs : s.argument argument = .ok s') :
    Accounts (arguments ++ [argument]) s' ∨
      (argument = closer ∧ s' = { s with closed := true }) := by
  rw [Scan.argument.eq_def, h.isOpen] at hs
  simp only [Bool.false_eq_true, if_false] at hs
  rcases argument with _ | ⟨first, rest⟩
  · exact .inl (h.word (fun opt _ => by simp [mayStandApart]) hs)
  · simp only at hs
    split_ifs at hs with hword hcloser hlong hnumber
    · refine .inl (h.word (fun opt _ => ?_) hs)
      rcases hword with hfirst | hrest
      · simp [mayStandApart, hfirst]
      · obtain rfl := List.isEmpty_iff.mp hrest
        by_cases hfirst : first = byte '-' <;> simp [mayStandApart, hfirst]
    · obtain ⟨hfirst, -⟩ := not_or.mp hword
      obtain rfl := not_not.mp hfirst
      exact .inr ⟨by rw [hcloser]; rfl, (Except.ok.inj hs).symm⟩
    · obtain ⟨hfirst, -⟩ := not_or.mp hword
      obtain rfl := not_not.mp hfirst
      obtain ⟨rest, rfl⟩ := List.head?_eq_some_iff.mp hlong
      exact .inl (h.long hs)
    · refine .inl (h.word (fun opt hopt => ?_) hs)
      have hnegative : opt.takesNegative := by simpa [hopt] using hnumber.1
      cases opt with
      | a | b => simp [mayStandApart]
      | text | config | level => cases hnegative
    · obtain ⟨hfirst, hrest⟩ := not_or.mp hword
      obtain rfl := not_not.mp hfirst
      rcases rest with _ | ⟨b, rest⟩
      · exact absurd rfl hrest
      · exact .inl (h.cluster hs)

/-! ### All arguments -/

/-- **All arguments are accounted for**, but for a closing one at the end. -/
theorem accounts_of_foldlM (h : arguments.foldlM Scan.argument {} = .ok s) :
    Accounts arguments s ∨ ∃ before s₀, arguments = before ++ [closer] ∧ Accounts before s₀ ∧
      s = { s₀ with closed := true } := by
  -- from the left: what the arguments before the last one lead to is where that one is met
  induction arguments using List.reverseRecOn generalizing s with
  | nil =>
    obtain rfl := Except.ok.inj h
    exact .inl (.settled written_nil)
  | append_singleton before argument ih =>
    rw [List.foldlM_append, bind_eq_ok_iff] at h
    obtain ⟨s₀, hbefore, h⟩ := h
    have hargument : s₀.argument argument = .ok s := by simpa using h
    rcases ih hbefore with haccounts | ⟨_, s₁, -, -, rfl⟩
    · rcases haccounts.argument hargument with hnext | ⟨rfl, rfl⟩
      · exact .inl hnext
      · exact .inr ⟨before, s₀, rfl, haccounts, rfl⟩
    · exact absurd hargument (by simp [Scan.argument])

/-- A closing argument makes no difference to what is settled. -/
theorem settle_closed (h : Scan.settle { s with closed := true } = .ok s') :
    ∃ s₁, s.settle = .ok s₁ ∧ s₁.line = s'.line := by
  obtain ⟨line, pending, closed⟩ := s
  rcases pending with _ | ⟨opt, _ | value⟩
  · obtain rfl := Except.ok.inj h
    exact ⟨_, rfl, rfl⟩
  · exact absurd h (by simp [Scan.settle])
  · obtain ⟨line', hset, rfl⟩ := map_eq_ok_iff.mp h
    refine ⟨{ line := line', closed }, ?_, rfl⟩
    simp only [Scan.settle, hset]
    rfl

end Scan

/-- **An accepted command line is written in its arguments**: these are the arguments of spellings
in sequence, with a closing one or without, and the spellings say of the command line all that it
sets, each once, and nothing else. A path of a settings file is not empty. -/
theorem exists_writes_of_parse {arguments : List Bytes} {line : CommandLine}
    (h : parse arguments = .ok line) :
    ∃ spellings closed, arguments = write spellings closed ∧ Writes spellings line ∧
      line.config ≠ some [] := by
  have hwrites : ∀ {arguments}, Scan.Written arguments [] line →
      ∃ spellings, spellings.flatMap Spelling.arguments = arguments ∧ Writes spellings line ∧
        line.config ≠ some [] := by
    rintro arguments ⟨spellings, hvalid, harguments, hrecords⟩
    rw [List.append_nil] at hrecords
    exact ⟨spellings, harguments, ⟨hvalid, hrecords.sound, hrecords.once, hrecords.all⟩,
      hrecords.path⟩
  rw [parse, bind_eq_ok_iff] at h
  obtain ⟨s, hscan, h⟩ := h
  obtain ⟨s', hsettle, h⟩ := bind_eq_ok_iff.mp h
  obtain rfl := Except.ok.inj h
  rcases Scan.accounts_of_foldlM hscan with haccounts | ⟨before, s₀, rfl, haccounts, rfl⟩
  · obtain ⟨line, rfl, hwritten⟩ := haccounts.settle hsettle
    obtain ⟨spellings, rfl, hspellings⟩ := hwrites hwritten
    exact ⟨spellings, false, by simp [write], hspellings⟩
  · obtain ⟨s₁, hsettle₁, hline⟩ := Scan.settle_closed hsettle
    obtain ⟨line, rfl, hwritten⟩ := haccounts.settle hsettle₁
    obtain rfl : line = s'.line := hline
    obtain ⟨spellings, rfl, hspellings⟩ := hwrites hwritten
    exact ⟨spellings, true, by simp [write], hspellings⟩

/-- A flag and an operand in one argument, a negative operand and a lone sign as values of their
own, and a text that looks like a closing argument, in front of one. -/
theorem exists_writes_of_parse_looking_like_options :
    let arguments :=
      [ascii "-va5", ascii "-b", ascii "-9", ascii "-c", ascii "-", ascii "--text=--", ascii "--"]
    let line : CommandLine :=
      { settings := { a := some 5, b := some (-9), text := some "--" }, config := some (ascii "-"),
        verbose := true }
    parse arguments = .ok line ∧
      ∃ spellings closed, arguments = write spellings closed ∧ Writes spellings line ∧
        line.config ≠ some [] := by
  intro arguments line
  have hparse : parse arguments = .ok line := by rfl
  exact ⟨hparse, exists_writes_of_parse hparse⟩

end TextGauge.CommandLine
