import TextGauge.Proofs.CommandLine.Arguments

/-!
# Command lines round-trip

Whatever way a command line is written in, it is read as itself
(`TextGauge.CommandLine.parse_write`): spellings in any order, values that look like options,
numbers with a minus sign in an argument of their own, a verbose flag in front of a letter.

A spelling takes a scan that is ready with one command line to a scan that is ready with the next
(`TextGauge.CommandLine.Scan.Ready.foldlM_arguments`), so by induction spellings in sequence do
what their items do one after the other, and
`TextGauge.CommandLine.foldlM_setItem_only` says what that is.
-/

namespace TextGauge.CommandLine

namespace Scan

variable {s : Scan} {line line' : CommandLine}

/-- Behind the letter of an option, and of the verbose flag perhaps, the value of the option is what
is still to be set. -/
theorem Ready.argument_letter {verbose : Bool} {opt : Opt} {value : Bytes} (h : s.Ready line)
    (hset :
      (Spelling.sharedFlag verbose ++ [Item.option opt value]).foldlM setItem line = .ok line')
    (hletter : (Spelling.optionLetter? opt).isSome) (rest : Bytes) :
    ∃ (s₁ : Scan) (line₁ : CommandLine),
      s.argument (Spelling.lead verbose opt ++ rest) = s₁.attached opt rest ∧
      s₁.Ready line₁ ∧ line₁.setOption opt value = .ok line' := by
  rw [List.foldlM_append, bind_eq_ok_iff] at hset
  obtain ⟨line₁, hflag, hset⟩ := hset
  obtain ⟨s₁, hlead, hready⟩ := h.argument_lead hflag hletter rest
  exact ⟨s₁, line₁, hlead, hready, by simpa [setItem] using hset⟩

/-- **A spelling sets its items**: the arguments that it consists of take a scan that is ready with
a command line to one that is ready with the command line that its items lead to. -/
theorem Ready.foldlM_arguments {spelling : Spelling} (h : s.Ready line) (hvalid : spelling.Valid)
    (hapart : ∀ opt value, .option opt value ∈ spelling.items → mayStandApart opt value →
      StandsApart opt value)
    (hset : spelling.items.foldlM setItem line = .ok line') :
    ∃ s', spelling.arguments.foldlM Scan.argument s = .ok s' ∧ s'.Ready line' := by
  cases spelling with
  | longEquals opt value =>
    obtain ⟨name, hname⟩ := Option.isSome_iff_exists.mp hvalid
    have hset : line.setOption opt value = .ok line' := by
      simpa [Spelling.items, setItem] using hset
    obtain ⟨s', hs', hready⟩ := h.option hset
    refine ⟨s', ?_, hready⟩
    have hlong := long_name_equals (s := s) hname value
    rw [Spelling.arguments, List.foldlM_cons, hname, Option.getD_some]
    change (s.argument (Spelling.longLead (ascii name ++ byte '=' :: value)) >>= pure) = _
    rw [argument_longLead h.isOpen (by simp), hlong, hs']
    rfl
  | longApart opt value =>
    obtain ⟨name, hname⟩ := Option.isSome_iff_exists.mp hvalid.1
    have hset : line.setOption opt value = .ok line' := by
      simpa [Spelling.items, setItem] using hset
    obtain ⟨s₁, hawait, hopen, hawaits, s', hword, hready⟩ := h.await hset
    refine ⟨s', ?_, hready⟩
    have hne := (named?_of_optionName? hname).2.1
    have hvalue :=
      argument_word hopen hawaits (hapart opt value (by simp [Spelling.items]) hvalid.2)
    rw [Spelling.arguments, List.foldlM_cons, hname, Option.getD_some,
      argument_longLead h.isOpen hne, long_name hname, hawait, ok_bind, List.foldlM_cons, hvalue,
      hword]
    rfl
  | letterTogether verbose opt value =>
    obtain ⟨hletter, hne, hequals⟩ := hvalid
    obtain ⟨s₁, line₁, hlead, hready₁, hset⟩ := h.argument_letter hset hletter value
    obtain ⟨s', hs', hready⟩ := hready₁.option hset
    refine ⟨s', ?_, hready⟩
    -- the value is not empty, and its first byte is not taken for the sign before a value
    rcases value with _ | ⟨b, rest⟩
    · exact absurd rfl hne
    have hb : b ≠ byte '=' := fun he => hequals (by rw [he, List.head?_cons])
    rw [Spelling.arguments, List.foldlM_cons, hlead, attached, if_neg hb, hs']
    rfl
  | letterEquals verbose opt value =>
    obtain ⟨s₁, line₁, hlead, hready₁, hset⟩ := h.argument_letter hset hvalid (byte '=' :: value)
    obtain ⟨s', hs', hready⟩ := hready₁.option hset
    refine ⟨s', ?_, hready⟩
    rw [Spelling.arguments, List.foldlM_cons, hlead, attached, if_pos rfl, hs']
    rfl
  | letterApart verbose opt value =>
    obtain ⟨s₁, line₁, hlead, hready₁, hset⟩ := h.argument_letter hset hvalid.1 []
    obtain ⟨s₂, hawait, hopen, hawaits, s', hword, hready⟩ := hready₁.await hset
    refine ⟨s', ?_, hready⟩
    have hvalue :=
      argument_word hopen hawaits (hapart opt value (by simp [Spelling.items]) hvalid.2)
    rw [List.append_nil] at hlead
    rw [Spelling.arguments, List.foldlM_cons, hlead, attached, hawait, ok_bind, List.foldlM_cons,
      hvalue, hword]
    rfl
  | longFlag flag =>
    have hset : line.setFlag flag = .ok line' := by simpa [Spelling.items, setItem] using hset
    obtain ⟨s', hs', hready⟩ := h.flag hset
    refine ⟨s', ?_, hready⟩
    rw [Spelling.arguments, List.foldlM_cons,
      argument_longLead h.isOpen (named?_flagName flag).2.2.1, long_flagName, hs']
    rfl
  | letterFlag =>
    have hset : line.setFlag .verbose = .ok line' := by
      simpa [Spelling.items, setItem] using hset
    obtain ⟨s', hs', hready⟩ := h.flag hset
    refine ⟨s', ?_, hready⟩
    rw [Spelling.arguments, List.foldlM_cons,
      argument_letters h.isOpen h.awaiting (by decide), cluster_verbose, hs']
    rfl

/-- **Spellings in sequence set their items in sequence.** -/
theorem Ready.foldlM_flatMap_arguments {spellings : List Spelling} (h : s.Ready line)
    (hvalid : ∀ spelling ∈ spellings, spelling.Valid)
    (hapart : ∀ opt value, .option opt value ∈ spellings.flatMap Spelling.items →
      mayStandApart opt value → StandsApart opt value)
    (hset : (spellings.flatMap Spelling.items).foldlM setItem line = .ok line') :
    ∃ s', (spellings.flatMap Spelling.arguments).foldlM Scan.argument s = .ok s' ∧
      s'.Ready line' := by
  -- what the first spelling leads to is where the others start
  induction spellings generalizing s line with
  | nil =>
    obtain rfl : line = line' := Except.ok.inj hset
    exact ⟨s, rfl, h⟩
  | cons spelling spellings ih =>
    rw [List.flatMap_cons, List.foldlM_append, bind_eq_ok_iff] at hset
    obtain ⟨line₁, hfirst, hrest⟩ := hset
    obtain ⟨s₁, hs₁, hready₁⟩ := h.foldlM_arguments (hvalid spelling List.mem_cons_self)
      (fun opt value hmem => hapart opt value (by simp [hmem])) hfirst
    obtain ⟨s', hs', hready⟩ := ih hready₁
      (fun spelling' hmem => hvalid spelling' (List.mem_cons_of_mem spelling hmem))
      (fun opt value hmem => hapart opt value (by
        rw [List.flatMap_cons]
        exact List.mem_append_right _ hmem)) hrest
    refine ⟨s', ?_, hready⟩
    rw [List.flatMap_cons, List.foldlM_append, hs₁, ok_bind, hs']

/-- A closing argument changes nothing but that no other may follow. -/
theorem Ready.settle_closer (h : s.Ready line) :
    ∃ s', s.argument closer = .ok s' ∧ s'.settle = .ok { line := line, closed := true } := by
  refine ⟨{ s with closed := true }, by simp [Scan.argument, closer, h.isOpen], ?_⟩
  -- with a value pending, settling still sets it
  have hsettle := h.settle
  obtain ⟨line₀, pending, closed⟩ := s
  rcases pending with _ | ⟨opt, _ | value⟩
  · obtain ⟨rfl, -⟩ : line₀ = line ∧ closed = false := by simpa [Scan.settle] using hsettle
    rfl
  · simp [Scan.settle] at hsettle
  · simp only [Scan.settle] at hsettle ⊢
    cases hset : line₀.setOption opt value with
    | error stop => simp [hset, Except.map] at hsettle
    | ok line₁ =>
      obtain rfl : line₁ = line := by
        simpa [hset, Except.map] using (congrArg (Except.map Scan.line) hsettle)
      rfl

end Scan

/-- What a numeral, or a value that does not look like an option, says may stand apart. -/
theorem Writes.standsApart {spellings : List Spelling} {line : CommandLine}
    (h : Writes spellings line) {opt : Opt} {value : Bytes}
    (hmem : .option opt value ∈ spellings.flatMap Spelling.items) (hmay : mayStandApart opt value) :
    Scan.StandsApart opt value := by
  have hitem := h.sound _ hmem
  cases opt with
  | a | b =>
    obtain ⟨n, -, hn⟩ := hitem
    exact Scan.standsApart_of_isNumeral hn rfl
  | text | config | level =>
    simp only [mayStandApart, reduceCtorEq, decide_false, Bool.or_false, Bool.or_eq_true,
      decide_eq_true_eq] at hmay
    exact hmay.imp_right .inl

/-- **Command lines round-trip**: arguments that write a command line, with a closing argument or
without, are read as that command line. The path of a settings file, if there is one, must not
be empty: no argument can give an empty one. -/
theorem parse_write {spellings : List Spelling} {line : CommandLine} (h : Writes spellings line)
    (hpath : line.config ≠ some []) (closed : Bool) :
    parse (write spellings closed) = .ok line := by
  have hset : (spellings.flatMap Spelling.items).foldlM setItem {} = .ok line := by
    have hitems := foldlM_setItem_only h.sound hpath (by simpa using h.once : (_ ++ []).Nodup)
    rwa [only_nil, only_of_sets fun name hname => by simpa using h.all name hname] at hitems
  obtain ⟨s, hs, hready⟩ := (Scan.ready_mk {}).foldlM_flatMap_arguments h.valid
    (fun opt value => h.standsApart) hset
  cases closed with
  | false =>
    simp [parse, write, hs, hready.settle]
  | true =>
    obtain ⟨s', hs', hsettle⟩ := hready.settle_closer
    simp [parse, write, hs, hs', hsettle]

/-- A flag and an operand in one argument, a negative operand in an argument of its own, and a text
that looks like an option, before a closing argument. -/
theorem parse_write_looking_like_options :
    let spellings := [.letterTogether true .a (ascii "+5"), .letterApart false .b (ascii "-9"),
      .longEquals .text (ascii "--x")]
    let line : CommandLine :=
      { settings := { a := some 5, b := some (-9), text := some "--x" }, verbose := true }
    Writes spellings line ∧ line.config ≠ some [] ∧ parse (write spellings true) = .ok line := by
  intro spellings line
  have hfive : IsNumeral 5 (ascii "+5") := ⟨['+', '5'], .plus (by decide) (by simp), by decide⟩
  have hnine : IsNumeral (-9) (ascii "-9") := ⟨['-', '9'], .minus (by decide) (by simp), by decide⟩
  have htext : ascii "--x" = Utf8.encode "--x" := by decide
  have hitems : spellings.flatMap Spelling.items = [.flag .verbose,
      .option .a (ascii "+5"), .option .b (ascii "-9"), .option .text (ascii "--x")] := rfl
  have hwrites : Writes spellings line := by
    refine ⟨by decide, ?_, by decide, ?_⟩
    · simp only [hitems, List.forall_mem_cons]
      exact ⟨rfl, ⟨5, rfl, hfive⟩, ⟨-9, rfl, hnine⟩, ⟨"--x", rfl, htext⟩, by simp⟩
    · rintro (opt | flag)
      · cases opt <;> decide
      · cases flag <;> decide
  exact ⟨hwrites, by decide, parse_write hwrites (by decide) true⟩

end TextGauge.CommandLine
