import Mathlib.Data.List.Induction
import RateRules.CommandLine.Report
import RateRules.Proofs.Signals
import RateRules.Proofs.Small

/-!
# Prices on the command line

The pairs and the rates of a run are those of its options, in their order. The providers that are
made of them answer the last rate that was given for an exchange in small letters and a pair, so the
prices of a run are what the rules for its pairs give with these rates.
-/
namespace RateRules

namespace CommandLine

/-- The values that stand for an option, in their order. -/
def valuesOf (o : Opt) : List (String × Word) → List String
  | [] => []
  | (_, .opt other (some value)) :: more =>
    if other = o then value :: valuesOf o more else valuesOf o more
  | (_, .opt other none) :: (value, .value) :: more =>
    if other.takesValue && other = o then value :: valuesOf o more else valuesOf o more
  | _ :: more => valuesOf o more

/-- Some arguments have, beyond others, the pairs and the rates that these texts spell. -/
structure Gained (args taken : Arguments) (pairs rates : List String) : Prop where
  pairs : taken.pairs.map some = args.pairs.map some ++ pairs.map Pair.ofText?
  rates : taken.rates.map some = args.rates.map some ++ rates.map knownRate?

theorem Gained.trans {args taken further : Arguments} {pairs rates pairs' rates' : List String}
    (first : Gained args taken pairs rates) (second : Gained taken further pairs' rates') :
    Gained args further (pairs ++ pairs') (rates ++ rates') := by
  constructor
  · rw [second.pairs, first.pairs, List.map_append, List.append_assoc]
  · rw [second.rates, first.rates, List.map_append, List.append_assoc]

theorem Gained.refl (args : Arguments) : Gained args args [] [] := ⟨by simp, by simp⟩

/-- The value of an option counts for that option alone. -/
theorem gained_of_take {args taken : Arguments} {o : Opt} {value : String}
    (h : args.take o value = .ok taken) :
    Gained args taken (if o = .pair then [value] else []) (if o = .rate then [value] else []) := by
  cases o with
  | pair =>
    simp only [Arguments.take, Pair.parse] at h
    cases hp : Pair.ofText? value with
    | none =>
      rw [hp] at h
      cases h
    | some p =>
      rw [hp] at h
      cases h
      exact ⟨by simp [hp], by simp⟩
  | rate =>
    simp only [Arguments.take] at h
    cases hr : knownRate? value with
    | none =>
      rw [hr] at h
      cases h
    | some r =>
      rw [hr] at h
      cases h
      exact ⟨by simp, by simp [hr]⟩
  | multiplier =>
    simp only [Arguments.take] at h
    cases hd : Decimal.ofText? value with
    | none =>
      rw [hd] at h
      cases h
    | some d =>
      rw [hd] at h
      cases h
      exact ⟨by simp, by simp⟩
  | help => cases h
  | rules | rulesFile | debug =>
    cases h
    exact ⟨by simp, by simp⟩

theorem gained_of_takeValue {args taken : Arguments} {o : Opt} {value : String}
    (h : args.takeValue o value = .ok taken) :
    Gained args taken (if o = .pair then [value] else []) (if o = .rate then [value] else []) := by
  obtain ⟨_, _, h⟩ := bind_eq_ok.mp h
  exact gained_of_take h

theorem not_takeExplicit {o : Opt} {arg value : String} {taken : Arguments}
    (h : Arguments.takeExplicit o arg value = .ok taken) : False := by
  unfold Arguments.takeExplicit at h
  simp only at h
  split at h
  · split at h
    · cases h
    · cases h
  · split at h
    · cases h
    · cases h

theorem valuesOf_explicit (o other : Opt) (arg value : String) (more : List (String × Word)) :
    valuesOf o ((arg, .opt other (some value)) :: more) =
      (if other = o then [value] else []) ++ valuesOf o more := by
  rw [valuesOf]
  split <;> rfl

theorem valuesOf_next {other : Opt} (takes : other.takesValue = true) (o : Opt) (arg value : String)
    (more : List (String × Word)) : valuesOf o ((arg, .opt other none) :: (value, .value) :: more) =
      (if other = o then [value] else []) ++ valuesOf o more := by
  rw [valuesOf, takes, Bool.true_and]
  simp only [decide_eq_true_eq]
  split <;> rfl

theorem valuesOf_flag {other : Opt} (alone : other.takesValue = false) (o : Opt) (arg : String)
    (more : List (String × Word)) :
    valuesOf o ((arg, .opt other none) :: more) = valuesOf o more := by
  rcases more with _ | ⟨⟨value, word⟩, rest⟩
  · rfl
  · cases word with
    | value =>
      rw [valuesOf, alone]
      rfl
    | opt _ explicit => cases explicit <;> rfl
    | separator | unknown => rfl

/-- The pairs and the rates of the arguments are the values of their options. -/
theorem gained_of_consume (args : Arguments) (extras : List String) (ws : List (String × Word))
    {taken : Arguments} {rest : List String} (h : consume args extras ws = .ok (taken, rest)) :
    Gained args taken (valuesOf .pair ws) (valuesOf .rate ws) := by
  fun_induction consume args extras ws with
  | case1 =>
    cases h
    exact .refl taken
  | case2 args extras arg o value more takes ih =>
    obtain ⟨further, hfurther, h⟩ := bind_eq_ok.mp h
    rw [valuesOf_explicit, valuesOf_explicit]
    exact (gained_of_takeValue hfurther).trans (ih further h)
  | case3 args extras arg o value more alone ih =>
    obtain ⟨further, hfurther, h⟩ := bind_eq_ok.mp h
    cases not_takeExplicit hfurther
  | case4 args extras arg o takes value more ih =>
    obtain ⟨further, hfurther, h⟩ := bind_eq_ok.mp h
    rw [valuesOf_next takes, valuesOf_next takes]
    exact (gained_of_takeValue hfurther).trans (ih further h)
  | case5 => cases h
  | case6 args extras arg o more alone ih =>
    obtain ⟨further, hfurther, h⟩ := bind_eq_ok.mp h
    have own := gained_of_take hfurther
    have other : ∀ valued : Opt, valued.takesValue = true → o ≠ valued := by
      rintro valued takes rfl
      exact alone takes
    rw [if_neg (other .pair rfl), if_neg (other .rate rfl)] at own
    rw [valuesOf_flag (by simpa using alone), valuesOf_flag (by simpa using alone)]
    exact own.trans (ih further h)
  | case7 args extras arg word more explicit next ih =>
    cases word with
    | opt o value =>
      cases value with
      | none => cases next o rfl
      | some value => cases explicit o value rfl
    | value | separator | unknown => exact ih h

/-- The arguments of an accepted command line have the pairs and the rates of its options, in their
order. -/
theorem values_of_parse {argv : List String} {args : Arguments} (h : parse argv = .ok args) :
    ∃ ws, words argv = .ok ws ∧ args.pairs.map some = (valuesOf .pair ws).map Pair.ofText? ∧
      args.rates.map some = (valuesOf .rate ws).map knownRate? := by
  obtain ⟨ws, hws, h⟩ := bind_eq_ok.mp h
  obtain ⟨⟨taken, extras⟩, consumed, h⟩ := bind_eq_ok.mp h
  have gained := gained_of_consume _ _ _ consumed
  have same : taken = args := by
    simp only at h
    split at h
    · cases h
    · split at h
      · exact pure_eq_ok.mp h
      · cases h
  rw [same] at gained
  exact ⟨ws, mapError_eq_ok.mp hws, gained.pairs, gained.rates⟩

theorem small_of_knownRate? {arg : String} {r : KnownRate} (h : knownRate? arg = some r) :
    Text.small r.exchange = r.exchange := by
  simp only [knownRate?, bind, pure, Option.bind_eq_some_iff, Option.some.injEq] at h
  obtain ⟨_, _, _, _, _, _, _, _, rfl⟩ := h
  exact Text.small_small _

theorem small_of_parse {argv : List String} {args : Arguments} (h : parse argv = .ok args) :
    ∀ r ∈ args.rates, Text.small r.exchange = r.exchange := by
  intro r hr
  obtain ⟨ws, -, -, rates⟩ := values_of_parse h
  have read : some r ∈ (valuesOf .rate ws).map knownRate? := rates ▸ List.mem_map_of_mem hr
  obtain ⟨value, _, hvalue⟩ := List.mem_map.mp read
  exact small_of_knownRate? hvalue

end CommandLine

namespace FixedProvider

theorem decimal?_ask (provider : FixedProvider) (p : Pair) :
    (provider.ask p).decimal? = provider.rate? p := by
  rw [ask]
  cases provider.rate? p <;> rfl

theorem rate?_set (provider : FixedProvider) (p q : Pair) (d : Decimal) :
    (provider.set q d).rate? p = if p = q then some d else provider.rate? p :=
  provider.rates.find?_set q p d

end FixedProvider

theorem Registry.find?_register {α : Type} (registry : Registry α) (name venue : String)
    (provider : α) :
    (registry.register name provider).find? venue =
      if Text.small venue = Text.small name then some provider else registry.find? venue :=
  registry.providers.find?_set (Text.small name) (Text.small venue) provider

namespace CommandLine

/-- The last rate that was given for an exchange in small letters and a pair. -/
def lastGiven (rates : List KnownRate) : RateSource := fun venue p =>
  (rates.reverse.find? fun r => r.exchange == Text.small venue && r.pair == p).map fun r =>
    .decimal r.rate

theorem registryOf_concat (rates : List KnownRate) (r : KnownRate) :
    registryOf (rates ++ [r]) = (registryOf rates).register r.exchange
      ((((registryOf rates).find? r.exchange).getD (.ofName r.exchange)).set r.pair r.rate) := by
  rw [registryOf, List.foldl_append]
  rfl

/-- One more rate counts for its own exchange and pair. -/
theorem decimal?_registryOf_concat (rates : List KnownRate) (r : KnownRate)
    (venue : String) (p : Pair) :
    (registryOf (rates ++ [r])).decimal? FixedProvider.ask ⟨venue, p⟩ =
      if Text.small venue = Text.small r.exchange ∧ p = r.pair then some r.rate
      else (registryOf rates).decimal? FixedProvider.ask ⟨venue, p⟩ := by
  rw [registryOf_concat, Registry.decimal?, Registry.find?_register]
  by_cases same : Text.small venue = Text.small r.exchange
  · have known : (registryOf rates).find? r.exchange = (registryOf rates).find? venue := by
      rw [Registry.find?, Registry.find?, same]
    rw [if_pos same, Option.bind_some, FixedProvider.decimal?_ask, FixedProvider.rate?_set, known,
      Registry.decimal?]
    by_cases own : p = r.pair
    · simp [same, own]
    · rw [if_neg own, if_neg fun both => own both.2]
      cases (registryOf rates).find? venue with
      | none => rfl
      | some provider => exact (FixedProvider.decimal?_ask provider p).symm
  · rw [if_neg same, if_neg fun both => same both.1, Registry.decimal?]

/-- The providers that are made of known rates answer the last one. -/
theorem source_registryOf {rates : List KnownRate}
    (small : ∀ r ∈ rates, Text.small r.exchange = r.exchange) :
    (registryOf rates).source FixedProvider.ask = lastGiven rates := by
  funext venue p
  rw [Registry.source, lastGiven]
  induction rates using List.reverseRecOn with
  | nil => rfl
  | append_singleton rates r ih =>
    have before := ih fun s hs => small s (List.mem_append_left _ hs)
    have own := small r (List.mem_append_right _ (List.mem_singleton_self r))
    rw [decimal?_registryOf_concat, own, List.reverse_append, List.reverse_singleton,
      List.singleton_append]
    by_cases asked : Text.small venue = r.exchange ∧ p = r.pair
    · have first : (r.exchange == Text.small venue && r.pair == p) = true := by
        rw [Bool.and_eq_true, beq_iff_eq, beq_iff_eq]
        exact ⟨asked.1.symm, asked.2.symm⟩
      rw [if_pos asked]
      simp only [List.find?_cons, first]
      rfl
    · have other : (r.exchange == Text.small venue && r.pair == p) = false := by
        rw [Bool.eq_false_iff, ne_eq, Bool.and_eq_true, beq_iff_eq, beq_iff_eq]
        exact fun both => asked ⟨both.1.symm, both.2.symm⟩
      rw [if_neg asked, before]
      simp only [List.find?_cons, other]

end CommandLine

namespace Settings

/-- A timeout that is accepted leaves time. -/
theorem isOver_of_read {given : List (String × SettingValue)} {env : List (String × String)}
    {settings : Settings}
    (h : read given env = .ok settings) :
    (Timeout.binary settings.rateFetchTimeout).isOver = false := by
  simp only [read] at h
  split at h
  · next timeout _ _ _ _ _ _ found =>
    cases h
    cases hv : value? given env "rate_fetch_timeout_seconds" with
    | none =>
      rw [hv] at found
      obtain rfl := Option.some.inj found
      change (Timeout.binary (Binary.ofDecimal (Decimal.ofNat 10))).isOver = false
      decide +kernel
    | some v =>
      rw [hv] at found
      have above := (Option.filter_eq_some_iff.mp found).2
      rwa [Bool.not_eq_true'] at above
  · cases h

/-- A book that is loaded has the table of its script and the multiplier that is given, or that of
the settings. -/
theorem load_eq_ok {settings : Settings} {script : Option String} {multiplier : Option Decimal}
    {book : Rulebook}
    (h : settings.load script multiplier = .ok book) :
    Rulebook.tableOf (settings.scriptFor script) = .ok book.table ∧
      book.multiplier = multiplier.getD settings.globalMultiplier := by
  obtain ⟨table, htable, h⟩ := bind_eq_ok.mp (mapError_eq_ok.mp h)
  rw [Rulebook.ofTable] at h
  split at h
  · cases h
    exact ⟨htable, rfl⟩
  · cases h

end Settings

namespace CommandLine

variable {argv : List String} {env : List (String × String)} {file : String → Option String}
  {args : Arguments} {settings : Settings} {script : Option String} {book : Rulebook}

/-- A pattern among the pairs is refused before anything is priced. -/
theorem prices_of_pattern (book : Rulebook) (timeout : Timeout)
    (pattern : ∃ p ∈ args.pairs, p.isPattern = true) :
    ∃ reason, book.prices ((registryOf args.rates).fetch FixedProvider.ask timeout) args.pairs =
      .error (.pattern reason) := by
  cases found : book.rules args.pairs with
  | error reason => exact ⟨reason, by rw [Rulebook.prices_eq, found]; rfl⟩
  | ok rules =>
    obtain ⟨p, hp, wild⟩ := pattern
    cases (Rulebook.concrete_of_rules found p hp).symm.trans wild

/-- Each pair is priced as its own rule says with the rates that were given last. -/
theorem exists_prices (normal : book.table.IsNormal) {timeout : Timeout}
    (lasting : timeout.isOver = false)
    (small : ∀ r ∈ args.rates, Text.small r.exchange = r.exchange)
    (concrete : ∀ p ∈ args.pairs, p.isPattern = false) :
    ∃ prices,
    book.prices ((registryOf args.rates).fetch FixedProvider.ask timeout) args.pairs = .ok prices ∧
      List.Forall₂ (fun p price => ∃ rule evaluation lookups, book.rule p = .ok rule ∧
        rule.evaluate (lastGiven args.rates) = .ok (evaluation, lookups) ∧
        price.outcome = (p, rule.text, evaluation)) args.pairs.eraseDups prices := by
  have inOrder : ∀ rs : List Requirement, (id rs).Perm rs := List.Perm.refl
  obtain ⟨fetched, hfetched, known⟩ := Rulebook.fetchFor_of_decimals (registryOf args.rates)
    FixedProvider.exists_decimal_of_ask lasting inOrder (args.pairs.eraseDups.map book.ruleAt)
  obtain ⟨prices, hprices⟩ := Rulebook.prices_of_fetched normal concrete hfetched
  obtain ⟨_, again, hagain, each⟩ := Rulebook.exists_fetched_of_prices hprices
  obtain rfl := Except.ok.inj (hfetched.symm.trans hagain)
  have own : ∀ p ∈ args.pairs.eraseDups, book.rule p = .ok (book.ruleAt p) ∧
      (book.ruleAt p).evaluate fetched.rates.source =
        (book.ruleAt p).evaluate (lastGiven args.rates) := by
    intro p hp
    refine ⟨Rulebook.rule_eq_ok book (concrete p (List.mem_eraseDups.mp hp)), ?_⟩
    apply (book.ruleAt p).evaluate_congr
    intro r hr
    rw [← source_registryOf small]
    exact known _ (List.mem_map_of_mem hp) r (Rulebook.asks_subset_requirements book p hr)
  refine ⟨prices, hprices, ((List.forall₂_and_left _ _).mpr ⟨own, each⟩).imp ?_⟩
  rintro p price ⟨⟨rule, same⟩, h⟩
  obtain ⟨evaluation, evaluated, rfl⟩ := RateRule.price_eq_ok h
  exact ⟨_, evaluation, _, rule, same.symm.trans evaluated, rfl⟩

/-- The rule for a pair has this value with some rates. -/
def gives (book : Rulebook) (rates : List KnownRate) (p : Pair) (v : Option Decimal) : Bool :=
  passes (fun rule : RateRule => passes (fun answer => decide (answer.1.value = v))
    (rule.evaluate (lastGiven rates))) (book.rule p)

end CommandLine

end RateRules
