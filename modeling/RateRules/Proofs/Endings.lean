import RateRules.Proofs.CommandLine

/-!
# How a run ends

With valid settings and a file that can be read, a run ends with a message about its arguments, with
zero, or with one and a failure among the lines that it prints. There is one exception: of the
values of the options, that of the multiplier alone is converted without a message of its own, so a
run that comes to one that is no decimal ends at it.
-/
namespace RateRules.CommandLine

/-- The first of some words is an option with this value. -/
inductive Gives (o : Opt) (value : String) : List (String × Word) → Prop
  | explicit (arg : String) (more : List (String × Word)) :
      Gives o value ((arg, .opt o (some value)) :: more)
  | next (arg : String) (more : List (String × Word)) :
    Gives o value ((arg, .opt o none) :: (value, .value) :: more)

/-- The words before a value of the multiplier are accepted, and the value is no decimal. -/
def StopsAtMultiplier (argv : List String) : Prop :=
  ∃ before value after taken rest, words argv = .ok (before ++ after) ∧
    consume .empty [] before = .ok (taken, rest) ∧ Gives .multiplier value after ∧
    Decimal.ofText? value = none

variable {args taken : Arguments} {extras rest : List String} {o : Opt} {arg value : String}
  {ws more : List (String × Word)}

theorem consume_explicit (takes : o.takesValue = true) :
    consume args extras ((arg, .opt o (some value)) :: more) =
      args.takeValue o value >>= fun taken => consume taken extras more := by
  rw [consume, if_pos takes]

theorem consume_next (takes : o.takesValue = true) :
    consume args extras ((arg, .opt o none) :: (value, .value) :: more) =
      args.takeValue o value >>= fun taken => consume taken extras more := by
  rw [consume, if_pos takes]

theorem consume_flag (alone : ¬ o.takesValue = true) :
    consume args extras ((arg, .opt o none) :: more) =
      args.take o "" >>= fun taken => consume taken extras more := by
  rw [consume.eq_def]
  simp only [if_neg alone]

/-- A word that names no option belongs to none. -/
theorem consume_other {word : Word} (explicit : ∀ o value, word = .opt o (some value) → False)
    (next : ∀ o, word = .opt o none → False) :
    consume args extras ((arg, word) :: more) = consume args (extras ++ [arg]) more := by
  rw [consume]
  · exact explicit
  · exact next

theorem consume_append {before : List (String × Word)} (after : List (String × Word))
    (h : consume args extras before = .ok (taken, rest)) :
    consume args extras (before ++ after) = consume taken rest after := by
  fun_induction consume args extras before with
  | case1 =>
    cases h
    rfl
  | case2 args extras arg o value more takes ih =>
    obtain ⟨further, hfurther, h⟩ := bind_eq_ok.mp h
    rw [List.cons_append, consume_explicit takes, hfurther]
    exact ih further h
  | case3 args extras arg o value more alone ih =>
    obtain ⟨further, hfurther, h⟩ := bind_eq_ok.mp h
    cases not_takeExplicit hfurther
  | case4 args extras arg o takes value more ih =>
    obtain ⟨further, hfurther, h⟩ := bind_eq_ok.mp h
    rw [List.cons_append, List.cons_append, consume_next takes, hfurther]
    exact ih further h
  | case5 => cases h
  | case6 args extras arg o more alone ih =>
    obtain ⟨further, hfurther, h⟩ := bind_eq_ok.mp h
    rw [List.cons_append, consume_flag alone, hfurther]
    exact ih further h
  | case7 args extras arg word more explicit next ih =>
    rw [List.cons_append, consume_other explicit next]
    exact ih h

theorem take_eq_multiplier (h : args.take o value = .error .multiplier) :
    o = .multiplier ∧ Decimal.ofText? value = none := by
  cases o with
  | multiplier =>
    refine ⟨rfl, ?_⟩
    simp only [Arguments.take] at h
    split at h
    · cases h
    · assumption
  | pair | rate =>
    simp only [Arguments.take] at h
    split at h <;> cases h
  | help | rules | rulesFile | debug => cases h

theorem takeValue_eq_multiplier (h : args.takeValue o value = .error .multiplier) :
    o = .multiplier ∧ Decimal.ofText? value = none := by
  rw [Arguments.takeValue] at h
  cases free : args.checkConflict o with
  | ok => exact take_eq_multiplier (by rwa [free] at h)
  | error stop =>
    rw [free] at h
    cases h
    simp only [Arguments.checkConflict] at free
    split at free
    · split at free <;> cases free
    · split at free <;> cases free
    · cases free

theorem takeExplicit_ne_multiplier : Arguments.takeExplicit o arg value ≠ .error .multiplier := by
  intro h
  simp only [Arguments.takeExplicit] at h
  split at h
  all_goals split at h <;> cases h

/-- Words that stop at a multiplier are accepted up to it. -/
theorem exists_of_consume_eq_multiplier (h : consume args extras ws = .error .multiplier) :
    ∃ before value after taken rest, ws = before ++ after ∧
    consume args extras before = .ok (taken, rest) ∧
      Gives .multiplier value after ∧ Decimal.ofText? value = none := by
  fun_induction consume args extras ws with
  | case1 => cases h
  | case2 args extras arg o value more takes ih =>
    rcases bind_eq_error.mp h with refused | ⟨further, hfurther, h⟩
    · obtain ⟨rfl, unreadable⟩ := takeValue_eq_multiplier refused
      exact ⟨[], value, _, args, extras, rfl, rfl, .explicit arg more, unreadable⟩
    · obtain ⟨before, last, after, taken, rest, rfl, accepted, gives⟩ := ih further h
      refine ⟨_ :: before, last, after, taken, rest, rfl, ?_, gives⟩
      rw [consume_explicit takes, hfurther]
      exact accepted
  | case3 args extras arg o value more alone ih =>
    rcases bind_eq_error.mp h with refused | ⟨further, hfurther, -⟩
    · cases takeExplicit_ne_multiplier refused
    · cases not_takeExplicit hfurther
  | case4 args extras arg o takes value more ih =>
    rcases bind_eq_error.mp h with refused | ⟨further, hfurther, h⟩
    · obtain ⟨rfl, unreadable⟩ := takeValue_eq_multiplier refused
      exact ⟨[], value, _, args, extras, rfl, rfl, .next arg more, unreadable⟩
    · obtain ⟨before, last, after, taken, rest, rfl, accepted, gives⟩ := ih further h
      refine ⟨_ :: _ :: before, last, after, taken, rest, rfl, ?_, gives⟩
      rw [consume_next takes, hfurther]
      exact accepted
  | case5 => cases h
  | case6 args extras arg o more alone ih =>
    rcases bind_eq_error.mp h with refused | ⟨further, hfurther, h⟩
    · obtain ⟨rfl, -⟩ := take_eq_multiplier refused
      cases alone rfl
    · obtain ⟨before, last, after, taken, rest, rfl, accepted, gives⟩ := ih further h
      refine ⟨_ :: before, last, after, taken, rest, rfl, ?_, gives⟩
      rw [consume_flag alone, hfurther]
      exact accepted
  | case7 args extras arg word more explicit next ih =>
    obtain ⟨before, last, after, taken, rest, rfl, accepted, gives⟩ := ih h
    exact ⟨_ :: before, last, after, taken, rest, rfl,
      (consume_other explicit next).trans accepted, gives⟩

theorem consume_of_gives (gives : Gives .multiplier value ws)
    (unreadable : Decimal.ofText? value = none) :
    consume args extras ws = .error .multiplier := by
  have refused : args.takeValue .multiplier value = .error .multiplier := by
    change Arguments.take args .multiplier value = _
    simp only [Arguments.take, unreadable]
  cases gives with
  | explicit arg more =>
    rw [consume_explicit rfl, refused]
    rfl
  | next arg more =>
    rw [consume_next rfl, refused]
    rfl

theorem parse_eq_multiplier_iff (argv : List String) :
    parse argv = .error .multiplier ↔ StopsAtMultiplier argv := by
  constructor
  · intro h
    rcases bind_eq_error.mp h with refused | ⟨ws, hws, h⟩
    · cases found : words argv with
      | ok ws =>
        rw [found] at refused
        cases refused
      | error u =>
        rw [found] at refused
        cases refused
    · rcases bind_eq_error.mp h with refused | ⟨⟨taken, extras⟩, -, h⟩
      · obtain ⟨before, value, after, taken, rest, rfl, stop⟩ :=
          exists_of_consume_eq_multiplier refused
        exact ⟨before, value, after, taken, rest, mapError_eq_ok.mp hws, stop⟩
      · simp only at h
        split at h
        · cases h
        · split at h <;> cases h
  · rintro ⟨before, value, after, taken, rest, hws, accepted, gives, unreadable⟩
    have refused : consume .empty [] (before ++ after) = .error .multiplier := by
      rw [consume_append after accepted, consume_of_gives gives unreadable]
    refine bind_eq_error.mpr (Or.inr ⟨_, mapError_eq_ok.mpr hws, ?_⟩)
    exact bind_eq_error.mpr (Or.inl refused)

/-- A line that tells of a failure. -/
def IsFailure (line : String) : Prop :=
  ∃ reason, line = "✗ " ++ reason ∨ line = "  ✗ Errors: " ++ reason

/-- A text that consists of lines, one of which tells of a failure. -/
def TellsFailure (text : String) : Prop :=
  ∃ lines : List String, text = String.join (lines.map (· ++ "\n")) ∧ ∃ line ∈ lines, IsFailure line

/-- A run ends with a message about its arguments, with zero, or with one and a failure among the
lines that it prints. -/
inductive Outcome.Ends : Outcome → Prop
  | usage (u : Usage) : Ends (.usage u)
  | zero (text : String) : Ends (.finished 0 text)
  | one {text : String} (failure : TellsFailure text) : Ends (.finished 1 text)

theorem tellsFailure_printed {lines : List String} (failure : ∃ line ∈ lines, IsFailure line) :
    TellsFailure (printed lines) := ⟨lines, rfl, failure⟩

variable {settings : Settings} {script : Option String} {book : Rulebook}

theorem exists_failure_of_price {price : Price} (h : price.value = none) :
    ∃ line ∈ priceLines price, IsFailure line := by
  refine ⟨_, ?_, ", ".intercalate (price.faults.map Fault.text), Or.inr rfl⟩
  rw [priceLines, h]
  exact List.mem_append_right _ List.mem_cons_self

/-- Whatever the rates are, the pairs are priced or a pattern among them is refused. -/
theorem ends_priced (normal : book.table.IsNormal) {timeout : Timeout}
    (lasting : timeout.isOver = false)
    (small : ∀ r ∈ args.rates, Text.small r.exchange = r.exchange) :
    (priced book args timeout).Ends := by
  by_cases pattern : ∃ p ∈ args.pairs, p.isPattern = true
  · obtain ⟨reason, refused⟩ := prices_of_pattern book timeout pattern
    rw [priced]
    simp only [refused]
    exact .one (tellsFailure_printed
      ⟨_, List.mem_append_right _ (List.mem_singleton_self _), _, Or.inl rfl⟩)
  · have concrete : ∀ p ∈ args.pairs, p.isPattern = false := fun p hp =>
      Bool.eq_false_iff.mpr fun wild => pattern ⟨p, hp, wild⟩
    obtain ⟨prices, hprices, -⟩ := exists_prices normal lasting small concrete
    rw [priced]
    simp only [hprices]
    cases valued : prices.all fun price => price.value.isSome with
    | true => exact .zero _
    | false =>
      obtain ⟨price, hprice, missing⟩ := List.all_eq_false.mp valued
      obtain ⟨line, hline, failure⟩ :=
        exists_failure_of_price (Option.not_isSome_iff_eq_none.mp missing)
      have shown := List.mem_flatMap.mpr ⟨price, hprice, hline⟩
      exact .one (tellsFailure_printed ⟨line, List.mem_append_right _ shown, failure⟩)

theorem ends_report {env : List (String × String)} (valid : Settings.read [] env = .ok settings)
    (small : ∀ r ∈ args.rates, Text.small r.exchange = r.exchange) :
    (report args settings script).Ends := by
  rw [report]
  cases loaded : settings.load script args.multiplier with
  | error refused => exact .one (tellsFailure_printed ⟨_, List.mem_cons_self, _, Or.inl rfl⟩)
  | ok book =>
    exact ends_priced (Rulebook.isNormal_of_tableOf (Settings.load_eq_ok loaded).1)
      (Settings.isOver_of_read valid) small

theorem isSome_scriptOf {file : String → Option String}
    (readable : ∀ path, args.rulesFile = some path → (file path).isSome = true) :
    ∃ script, scriptOf args file = .ok script := by
  rw [scriptOf]
  cases named : args.rulesFile with
  | none => exact ⟨_, rfl⟩
  | some path =>
    obtain ⟨text, htext⟩ := Option.isSome_iff_exists.mp (readable path named)
    simp only [htext]
    exact ⟨_, rfl⟩

/-- A run with valid settings and a file that can be read, if one is named, ends with a message
about its arguments, with zero, or with one and a failure among its lines, unless it comes to a
multiplier that is no decimal. -/
theorem run_ends_unless_multiplier_unreadable (argv : List String) (env : List (String × String))
    (file : String → Option String) (settings : Settings)
    (valid : Settings.read [] env = .ok settings)
    (readable : ∀ args path, parse argv = .ok args → args.rulesFile = some path →
      (file path).isSome = true) :
    (¬ StopsAtMultiplier argv ∧ (run argv env file).Ends) ∨
      (StopsAtMultiplier argv ∧ run argv env file = .number .unreadable) := by
  rw [← parse_eq_multiplier_iff, run]
  cases parsed : parse argv with
  | error stop =>
    cases stop with
    | usage u => exact Or.inl ⟨by rintro ⟨⟩, .usage u⟩
    | help => exact Or.inl ⟨by rintro ⟨⟩, .zero _⟩
    | multiplier => exact Or.inr ⟨rfl, rfl⟩
  | ok args =>
    obtain ⟨script, hscript⟩ := isSome_scriptOf fun path => readable args path parsed
    simp only [valid, hscript]
    exact Or.inl ⟨by rintro ⟨⟩, ends_report valid (small_of_parse parsed)⟩

/-- A signaling rate is divided by zero under a multiplier. -/
theorem run_ends_with_signaling_rate :
    ∃ (argv : List String) (settings : Settings) (file : String → Option String),
      argv = ["--pair", "BTC_USD", "--rate", "kraken:BTC_USD=sNaN", "--multiplier",
        "1.5", "--rules",
        "BTC_USD = kraken(BTC_USD) / 0;"] ∧
      Settings.read [] [] = .ok settings ∧
      (∀ args path, parse argv = .ok args → args.rulesFile = some path →
        (file path).isSome = true) ∧
      ¬ StopsAtMultiplier argv ∧ (run argv [] file).Ends := by
  let argv :=
    ["--pair", "BTC_USD", "--rate", "kraken:BTC_USD=sNaN", "--multiplier", "1.5", "--rules",
    "BTC_USD = kraken(BTC_USD) / 0;"]
  let file : String → Option String := fun _ => some ""
  have unset : passes (fun _ => true) (Settings.read [] []) = true := by decide +kernel
  have accepted : passes (fun _ => true) (parse argv) = true := by decide +kernel
  obtain ⟨settings, valid, -⟩ := passes_iff.mp unset
  obtain ⟨args, parsed, -⟩ := passes_iff.mp accepted
  have going : ¬ StopsAtMultiplier argv := by
    rw [← parse_eq_multiplier_iff, parsed]
    rintro ⟨⟩
  have readable : ∀ args path, parse argv = .ok args → args.rulesFile = some path →
      (file path).isSome = true :=
    fun _ _ _ _ => rfl
  rcases run_ends_unless_multiplier_unreadable argv [] file settings valid readable
    with ends | stops
  · exact ⟨argv, settings, file, rfl, valid, readable, ends⟩
  · cases going stops.1

/-- A multiplier in letters is converted without a message about it. -/
theorem run_may_not_end :
    ∃ (argv : List String) (settings : Settings) (file : String → Option String),
      argv = ["--pair", "BTC_USD", "--rules", "BTC_USD = 2;", "--multiplier", "abc"] ∧
      Settings.read [] [] = .ok settings ∧ (∀ path, (file path).isSome = true) ∧
      run argv [] file = .number .unreadable ∧ ¬ (run argv [] file).Ends := by
  let before : List (String × Word) :=
    [("--pair", .opt .pair none), ("BTC_USD", .value), ("--rules", .opt .rules none),
      ("BTC_USD = 2;", .value)]
  let argv := ["--pair", "BTC_USD", "--rules", "BTC_USD = 2;", "--multiplier", "abc"]
  have unset : passes (fun _ => true) (Settings.read [] []) = true := by decide +kernel
  have read : passes (fun ws =>
    decide (ws = before ++ [("--multiplier", .opt .multiplier none), ("abc", .value)]))
      (words argv) = true := by decide +kernel
  have accepted : passes (fun _ => true) (consume .empty [] before) = true := by decide +kernel
  obtain ⟨settings, valid, -⟩ := passes_iff.mp unset
  obtain ⟨ws, hws, same⟩ := passes_iff.mp read
  obtain ⟨⟨taken, rest⟩, consumed, -⟩ := passes_iff.mp accepted
  rw [of_decide_eq_true same] at hws
  have stops : StopsAtMultiplier argv :=
    ⟨before, "abc", _, taken, rest, hws, consumed, .next "--multiplier" [], by decide +kernel⟩
  have finished : run argv [] (fun _ => some "") = .number .unreadable := by
    rw [run, (parse_eq_multiplier_iff argv).mpr stops]
  refine ⟨argv, settings, fun _ => some "", rfl, valid, fun _ => rfl, finished, ?_⟩
  rw [finished]
  rintro ⟨⟩

end RateRules.CommandLine
