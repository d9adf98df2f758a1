import RateRules.Proofs.Held
import RateRules.Proofs.Isolation
import RateRules.Proofs.Pricing
import RateRules.Proofs.Reported

/-!
# How a price tells that it failed

A price has a value, faults of its rule and errors of exchanges. Faults tell of the rates that were
looked up and could not be used, errors of the rates that were required and could not be fetched.
They agree if whatever is required is looked up and whatever is fetched is finite.
-/
namespace RateRules

/-- The answer with its rate as a decimal. A rate that is no number, which stops a fetch, is left
out. -/
def Answer.decided : Answer → Answer
  | .rate given => match given.toDecimal with
    | .ok d => .rate (.decimal d)
    | .error _ => .silent
  | a => a

theorem Answer.decided_rate {given : Given} {d : Decimal} (h : given.toDecimal = .ok d) :
    (Answer.rate given).decided = .rate (.decimal d) := by
  rw [decided, h]

theorem Answer.exists_decimal_of_decided {a : Answer} {given : Given}
    (h : a.decided = .rate given) :
    ∃ d, given = .decimal d := by
  cases a with
  | rate g =>
    rw [decided] at h
    cases hg : g.toDecimal with
    | ok d =>
      rw [hg] at h
      cases h
      exact ⟨d, rfl⟩
    | error reason =>
      rw [hg] at h
      cases h
  | unlisted | failed _ _ | silent => cases h

theorem Answer.error?_decided (r : Requirement) (a : Answer) : a.decided.error? r = a.error? r := by
  cases a with
  | rate given =>
    rw [decided]
    cases given.toDecimal <;> rfl
  | unlisted | failed _ _ | silent => rfl

theorem ExchangeRates.addAnswers_decided {answers : List (Requirement × Answer)}
    {table filled : ExchangeRates} (h : table.addAnswers answers = .ok filled) :
    table.addAnswers (answers.map (Prod.map id Answer.decided)) = .ok filled := by
  induction answers generalizing table with
  | nil => exact h
  | cons answer more ih =>
    obtain ⟨r, a⟩ := answer
    cases a with
    | rate given =>
      obtain ⟨added, hadded, hmore⟩ := bind_eq_ok.mp h
      obtain ⟨d, hd, _⟩ := bind_eq_ok.mp hadded
      rw [List.map_cons, Prod.map_apply, Answer.decided_rate hd]
      exact bind_eq_ok.mpr ⟨added, by rw [← hadded, addGiven, addGiven, hd]; rfl, ih hmore⟩
    | unlisted | failed _ _ | silent => exact ih h

namespace Registry

variable {α : Type} {registry : Registry α} {ask : α → Pair → Answer} {timeout : Timeout}
  {rs : List Requirement}

theorem answers_decided : registry.answers (fun provider p => (ask provider p).decided) rs =
    (registry.answers ask rs).map (Prod.map id Answer.decided) := by
  rw [answers, answers, List.map_map]
  rfl

theorem failure?_decided {late : Bool} {rates : ExchangeRates} :
    registry.failure? (fun provider p => (ask provider p).decided) timeout late rates =
      registry.failure? ask timeout late rates := by
  funext r
  simp only [failure?, Answer.error?_decided]

theorem isLate_decided {rates : ExchangeRates}
    (h : ExchangeRates.empty.addAnswers (registry.answers ask rs) = .ok rates) :
    registry.isLate (fun provider p => (ask provider p).decided) timeout rs =
      registry.isLate ask timeout rs := by
  have silent : ∀ answer ∈ registry.answers ask rs,
      (answer.2.decided == Answer.silent) = (answer.2 == Answer.silent) := by
    rintro ⟨r, a⟩ hanswer
    cases a with
    | rate given =>
      obtain ⟨d, hd⟩ := ExchangeRates.toDecimal_of_addAnswers h hanswer rfl
      rw [Answer.decided_rate hd]
      rfl
    | unlisted | failed _ _ | silent => rfl
  rw [isLate, isLate, answers_decided, List.any_map]
  congr 1
  rw [Bool.eq_iff_iff, List.any_eq_true, List.any_eq_true]
  constructor
  · rintro ⟨answer, hanswer, spoke⟩
    exact ⟨answer, hanswer, (silent answer hanswer).symm.trans spoke⟩
  · rintro ⟨answer, hanswer, spoke⟩
    exact ⟨answer, hanswer, (silent answer hanswer).trans spoke⟩

/-- A fetch that returns is one of decimals. -/
theorem fetch_decided {fetched : Fetched} (h : registry.fetch ask timeout rs = .ok fetched) :
    registry.fetch (fun provider p => (ask provider p).decided) timeout rs = .ok fetched := by
  cases expired : timeout.isOver with
  | true =>
    have nobody : registry.asked timeout rs = [] := by rw [asked, if_pos expired]
    rw [fetch, nobody] at h ⊢
    exact h
  | false =>
    have everybody : registry.asked timeout rs = registry.supported rs := by simp [asked, expired]
    obtain ⟨rates, hrates, _⟩ := bind_eq_ok.mp h
    have decided := ExchangeRates.addAnswers_decided hrates
    rw [fetch_eq_of_addAnswers hrates] at h
    rw [everybody] at hrates decided
    rw [← h, fetch_eq_of_addAnswers (by rw [everybody]; exact answers_decided ▸ decided),
      isLate_decided hrates,
      failure?_decided]

/-- Exactly the requirements without a rate are reported, whatever providers answer. -/
theorem errorsFor_eq_nil_iff_of_fetch {fetched : Fetched}
    (h : registry.fetch ask timeout rs = .ok fetched)
    {r : Requirement} (hr : r ∈ rs) :
    fetched.errorsFor [r] = [] ↔ (fetched.rates.find? r).isSome = true :=
  errorsFor_eq_nil_iff (registry.answersDecimals_of_decimals
    (fun _ _ _ h => Answer.exists_decimal_of_decided h) rs) (fetch_decided h) hr

end Registry

theorem Fetched.errorsFor_ne_nil_iff {fetched : Fetched} {rs : List Requirement} :
    fetched.errorsFor rs ≠ [] ↔ ∃ r ∈ rs, fetched.errorsFor [r] ≠ [] := by
  simp only [errorsFor, ne_eq, List.filter_eq_nil_iff, decide_eq_true_eq,
    List.mem_singleton, not_forall,
    not_not, exists_prop]
  constructor
  · rintro ⟨e, he, required⟩
    exact ⟨e.requirement, required, e, he, rfl⟩
  · rintro ⟨_, required, e, he, rfl⟩
    exact ⟨e, he, required⟩

/-- A fetched rate cannot be used if it is not finite. -/
theorem ExchangeRates.rate?_source_eq_none_iff {table : ExchangeRates} {r : Requirement} :
    table.source.rate? r.exchange r.pair = none ↔ ∀ d, table.find? r = some d →
    d.isFinite = false := by
  have same : table.source r.exchange r.pair = (table.find? r).map .decimal := rfl
  rw [RateSource.rate?, same]
  cases table.find? r with
  | none => simp
  | some d => simp [Given.toDecimal]

theorem RateRule.price_eq_ok {rule : RateRule} {fetched : Fetched} {price : Price}
    (h : rule.price fetched = .ok price) :
    ∃ evaluation, rule.evaluate fetched.rates.source = .ok (evaluation, rule.expr.asks) ∧
      price = ⟨rule.pair, evaluation.value, evaluation.faults,
        fetched.errorsFor rule.requirements, rule.text,
        evaluation.evaluated⟩ := by
  obtain ⟨⟨evaluation, lookups⟩, evaluated, h⟩ := bind_eq_ok.mp h
  obtain rfl := (evaluate_eq_ok_iff.mp evaluated).1
  exact ⟨evaluation, evaluated, (pure_eq_ok.mp h).symm⟩

theorem FixedProvider.exists_decimal_of_ask (provider : FixedProvider) (p : Pair) (given : Given)
    (h : provider.ask p = .rate given) : ∃ d, given = .decimal d := by
  rw [ask] at h
  split at h
  · cases h
    exact ⟨_, rfl⟩
  · cases h

namespace Rulebook

variable {α ε : Type} {book : Rulebook} {source : List Requirement → Except ε Fetched}
  {pairs : List Pair} {prices : List Price} {fetched : Fetched}

/-- Pairs that are priced are no patterns, and each has the price that its rule gives with what was
fetched for all of them. -/
theorem exists_fetched_of_prices (h : book.prices source pairs = .ok prices) :
    (∀ p ∈ pairs, p.isPattern = false) ∧ ∃ fetched,
      fetchFor (pairs.eraseDups.map book.ruleAt) source = .ok fetched ∧
      List.Forall₂ (fun p price => (book.ruleAt p).price fetched =
        .ok price) pairs.eraseDups prices := by
  rw [prices_eq] at h
  obtain ⟨rules, hrules, h⟩ := bind_eq_ok.mp h
  obtain ⟨fetched, hfetched, h⟩ := bind_eq_ok.mp h
  have same := mapError_eq_ok.mp hrules
  have concrete := concrete_of_rules same
  rw [rules_eq_ok book concrete] at same
  obtain rfl := Except.ok.inj same
  exact ⟨concrete, fetched, mapError_eq_ok.mp hfetched, List.forall₂_map_left_iff.mp
    (forall₂_of_mapM (mapError_eq_ok.mp h))⟩

/-- A rule that is resolved and calls exchanges with one pair each looks up whatever it requires. -/
theorem requirements_subset_asks (normal : book.table.IsNormal) {p : Pair}
    (single : ∀ q, Expr.Reaches book.table.candidate p q →
      (book.table.candidate q).callsOnePair = true)
    (resolved : (book.ruleAt p).faults = []) :
    (book.ruleAt p).requirements ⊆ (book.ruleAt p).expr.asks := by
  rw [requirements_eq_eraseDups_needs resolved,
    Expr.asks_eq_needs _ (isNormal_of_mem_leaves_rule normal)
      (isOnePairCall_of_mem_leaves_rule single)]
  exact fun r hr => List.mem_eraseDups.mp hr

variable {registry : Registry α} {ask : α → Pair → Answer} {timeout : Timeout}
  {order : List Requirement → List Requirement}

/-- Among the rates that some rules require, exactly those that could not be fetched are
reported. -/
theorem errorsFor_eq_nil_iff_of_fetchFor (reordered : ∀ rs, (order rs).Perm rs)
    {rules : List RateRule}
    (h : fetchFor rules (fun rs => registry.fetch ask timeout (order rs)) = .ok fetched)
      {rule : RateRule}
    (hrule : rule ∈ rules) {r : Requirement} (hr : r ∈ rule.requirements) :
    fetched.errorsFor [r] = [] ↔ (fetched.rates.find? r).isSome = true := by
  have required : r ∈ requirementsOf rules := mem_requirementsOf.mpr ⟨rule, hrule, hr⟩
  rw [fetchFor] at h
  split at h
  · next nothing =>
    rw [List.isEmpty_iff.mp nothing] at required
    cases required
  · exact Registry.errorsFor_eq_nil_iff_of_fetch h ((reordered _).mem_iff.mpr required)

/-- What was fetched for some rules gives the price of each pair under an accepted script. -/
theorem prices_of_fetched (normal : book.table.IsNormal)
    (concrete : ∀ p ∈ pairs, p.isPattern = false)
    (h : fetchFor (pairs.eraseDups.map book.ruleAt) source = .ok fetched) :
    ∃ prices, book.prices source pairs = .ok prices := by
  have each : ∀ p ∈ pairs.eraseDups, ∃ price, (book.ruleAt p).price fetched = .ok price := by
    intro p _
    obtain ⟨evaluation, evaluated⟩ := evaluate_of_isNormal normal p fetched.rates.source
    exact ⟨_, bind_eq_ok.mpr ⟨_, evaluated, rfl⟩⟩
  obtain ⟨prices, hprices⟩ := mapM_of_all_ok each
  refine ⟨prices, ?_⟩
  simp only [prices_eq, rules_eq_ok book concrete, mapError_ok, bind, Except.bind, h, List.mapM_map]
  exact mapError_eq_ok.mpr hprices

theorem exists_fetchFor (decimals : ∀ provider p given, ask provider p = .rate given →
    ∃ d, given = .decimal d)
    (rules : List RateRule) :
    ∃ fetched, fetchFor rules (fun rs => registry.fetch ask timeout (order rs)) = .ok fetched := by
  rw [fetchFor]
  split
  · exact ⟨.nothing, rfl⟩
  · obtain ⟨fetched, hfetched, _⟩ :=
      Registry.fetch_outcome (registry.answersDecimals_of_decimals decimals _) timeout
    exact ⟨fetched, hfetched⟩

/-- The value, the faults and the errors of one price, given that exactly the rates that could not
be fetched are reported. -/
theorem explained_of_price (normal : book.table.IsNormal) {p : Pair} {price : Price}
    (reported : ∀ r ∈ (book.ruleAt p).requirements,
      fetched.errorsFor [r] = [] ↔ (fetched.rates.find? r).isSome = true)
    (h : (book.ruleAt p).price fetched = .ok price) :
    price.pair = p ∧
      (price.value.isSome = true ↔ price.faults = []) ∧
      (price.exchangeErrors ≠ [] ↔ ∃ r ∈ (book.ruleAt p).requirements,
        fetched.rates.find? r = none) ∧
      (∀ f ∈ (book.ruleAt p).faults, f ∈ price.faults) ∧
      (.rateUnavailable ∈ price.faults ↔
        ∃ r ∈ (book.ruleAt p).expr.asks, ∀ d, fetched.rates.find? r = some d →
          d.isFinite = false) := by
  obtain ⟨evaluation, evaluated, rfl⟩ := RateRule.price_eq_ok h
  have deep := Expr.onlyDeep_flatten book.table.candidate p (book.start p)
  refine ⟨rfl, ?_, ?_, fun f hf => ?_, ?_⟩
  · rcases isSettled_of_evaluate normal evaluated with ⟨v, value, _, none⟩ | ⟨value, some, _, _⟩
    · simp [value, none]
    · simp [value, some]
  · rw [Fetched.errorsFor_ne_nil_iff]
    constructor
    · rintro ⟨r, hr, error⟩
      exact ⟨r, hr, by rwa [ne_eq, reported r hr, Option.not_isSome_iff_eq_none] at error⟩
    · rintro ⟨r, hr, missing⟩
      exact ⟨r, hr, by rwa [ne_eq, reported r hr, Option.not_isSome_iff_eq_none]⟩
  · rw [RateRule.mem_faults_of_evaluate evaluated (by rw [deep f hf]; rfl)]
    exact Or.inl hf
  · have own : .rateUnavailable ∉ (book.ruleAt p).faults := fun hf => Fault.noConfusion (deep _ hf)
    rw [RateRule.mem_faults_of_evaluate evaluated rfl, or_iff_right own,
      Expr.rateUnavailable_mem_rateFaults_iff]
    simp only [ExchangeRates.rate?_source_eq_none_iff]

/-- A price has a value unless its rule has a fault. Errors of exchanges are those of the required
rates that were not fetched, and a rate is unavailable if it was looked up and was not fetched or is
not finite. So the two agree if the fetched rates are finite and whatever is required is looked up,
as in a rule that is resolved and calls exchanges with one pair each. -/
theorem failures_are_explained (script : String) (given : Given) (book : Rulebook)
    (accepted : parse script given = .ok book) (registry : Registry α) (ask : α → Pair → Answer)
    (timeout : Timeout) (order : List Requirement → List Requirement)
    (reordered : ∀ rs, (order rs).Perm rs)
    (pairs : List Pair) :
    ((∀ p ∈ pairs, p.isPattern = false) →
      (∀ provider p given, ask provider p = .rate given → ∃ d, given = .decimal d) →
      ∃ prices, book.prices (fun rs => registry.fetch ask timeout (order rs)) pairs = .ok prices) ∧
    ∀ prices, book.prices (fun rs => registry.fetch ask timeout (order rs)) pairs = .ok prices →
      prices.map Price.pair = pairs.eraseDups ∧
      ∃ fetched, fetchFor (pairs.eraseDups.map book.ruleAt)
          (fun rs => registry.fetch ask timeout (order rs)) = .ok fetched ∧
        ∀ price ∈ prices, ∃ rule evaluation lookups, book.rule price.pair = .ok rule ∧
          rule.evaluate fetched.rates.source = .ok (evaluation, lookups) ∧
          lookups ⊆ rule.requirements ∧
          (price.value.isSome = true ↔ price.faults = []) ∧
          (price.exchangeErrors ≠ [] ↔ ∃ r ∈ rule.requirements, fetched.rates.find? r = none) ∧
          (.rateUnavailable ∈ price.faults ↔
            ∃ r ∈ lookups, ∀ d, fetched.rates.find? r = some d → d.isFinite = false) ∧
          ((∀ r ∈ lookups, ∀ d, fetched.rates.find? r = some d → d.isFinite = true) →
            .rateUnavailable ∈ price.faults → price.exchangeErrors ≠ []) ∧
          ((∀ q, Expr.Reaches book.table.candidate price.pair q →
              (book.table.candidate q).callsOnePair = true) →
            (price.value.isSome = true ↔ price.hasError = false) ∧
            (rule.faults = [] → price.exchangeErrors ≠ [] → .rateUnavailable ∈ price.faults)) := by
  have normal := isNormal_of_tableOf (parse_eq_ok accepted)
  constructor
  · intro concrete decimals
    obtain ⟨fetched, hfetched⟩ := exists_fetchFor decimals (pairs.eraseDups.map book.ruleAt)
    exact prices_of_fetched normal concrete hfetched
  · intro prices priced
    obtain ⟨concrete, fetched, hfetched, each⟩ := exists_fetched_of_prices priced
    refine ⟨?_, fetched, hfetched, fun price hprice => ?_⟩
    · have own : List.Forall₂ (fun price p => price.pair = p) prices pairs.eraseDups := by
        refine each.flip.imp fun price p h => ?_
        obtain ⟨_, _, rfl⟩ := RateRule.price_eq_ok h
        rfl
      have same := List.forall₂_map_left_iff.mpr own
      rwa [List.forall₂_eq_eq_eq] at same
    · obtain ⟨p, hp, h⟩ := exists_of_forall₂ each hprice
      have reported : ∀ r ∈ (book.ruleAt p).requirements,
          fetched.errorsFor [r] = [] ↔ (fetched.rates.find? r).isSome = true := fun r hr =>
        errorsFor_eq_nil_iff_of_fetchFor reordered hfetched (List.mem_map_of_mem hp) hr
      obtain ⟨rfl, value, exchanges, resolves, unavailable⟩ := explained_of_price normal reported h
      obtain ⟨evaluation, evaluated, _⟩ := RateRule.price_eq_ok h
      have looked := asks_subset_requirements book price.pair
      have concrete := concrete price.pair (List.mem_eraseDups.mp hp)
      refine ⟨_, evaluation, _, rule_eq_ok book concrete, evaluated, looked, value, exchanges,
        unavailable, ?_, ?_⟩
      · intro finite rate
        obtain ⟨r, hr, unusable⟩ := unavailable.mp rate
        have missing : fetched.rates.find? r = none := by
          rw [Option.eq_none_iff_forall_ne_some]
          intro d hd
          cases (finite r hr d hd).symm.trans (unusable d hd)
        exact exchanges.mpr ⟨r, looked hr, missing⟩
      · intro single
        have fails : (book.ruleAt price.pair).faults = [] → price.exchangeErrors ≠ [] →
            .rateUnavailable ∈ price.faults := by
          intro resolved errors
          obtain ⟨r, hr, missing⟩ := exchanges.mp errors
          have asked := requirements_subset_asks normal single resolved hr
          exact unavailable.mpr ⟨r, asked, fun d hd => by cases missing.symm.trans hd⟩
        refine ⟨?_, fails⟩
        rw [value, Price.hasError, Bool.or_eq_false_iff, Bool.not_eq_false', Bool.not_eq_false',
          List.isEmpty_iff, List.isEmpty_iff, iff_self_and]
        intro clean
        rw [clean] at fails resolves
        by_contra errors
        cases fails (List.eq_nil_iff_forall_not_mem.mpr fun f hf => by cases resolves f hf) errors

/-- Two pairs from one provider that lists one of them, with nobody for the other exchange. -/
theorem failures_beside_missing_exchange :
    ∃ (registry : Registry FixedProvider) (book : Rulebook) (prices : List Price),
      parse "BTC_USD = kraken(BTC_USD) + bitpay(BTC_USD); LTC_USD = kraken(LTC_USD)" (.decimal .one)
        = .ok book ∧
      book.prices (fun rs => registry.fetch FixedProvider.ask (.whole 5) rs.reverse)
        [⟨⟨"LTC", by decide⟩, ⟨"USD", by decide⟩⟩,
          ⟨⟨"BTC", by decide⟩, ⟨"USD", by decide⟩⟩] = .ok prices ∧
      prices.map (fun price =>
        (price.value, price.faults, price.exchangeErrors.map FetchError.message)) =
        [(some (.ofNat 90), [], []),
          (none, [.rateUnavailable], ["Exchange 'bitpay' is not supported"])] ∧
      ∀ price ∈ prices, (price.value.isSome = true ↔ price.hasError = false) := by
  let ltc : Pair := ⟨⟨"LTC", by decide⟩, ⟨"USD", by decide⟩⟩
  let btc : Pair := ⟨⟨"BTC", by decide⟩, ⟨"USD", by decide⟩⟩
  let registry : Registry FixedProvider := Registry.empty.register "Kraken"
    (((FixedProvider.ofName "Kraken").set ltc (.ofNat 90)).set btc (.ofNat 50000))
  have facts : passes (fun book : Rulebook =>
    book.table.definitions.all (fun d => d.expr.callsOnePair) &&
      passes (fun prices : List Price => decide (prices.map (fun price =>
        (price.value, price.faults, price.exchangeErrors.map FetchError.message)) =
          [(some (.ofNat 90), [], []),
                (none, [.rateUnavailable], ["Exchange 'bitpay' is not supported"])]))
        (book.prices (fun rs => registry.fetch FixedProvider.ask (.whole 5) rs.reverse) [ltc, btc]))
      (parse "BTC_USD = kraken(BTC_USD) + bitpay(BTC_USD); LTC_USD = kraken(LTC_USD)"
          (.decimal .one)) = true := by
    decide +kernel
  obtain ⟨book, accepted, facts⟩ := passes_iff.mp facts
  rw [Bool.and_eq_true] at facts
  obtain ⟨single, facts⟩ := facts
  obtain ⟨prices, hprices, shown⟩ := passes_iff.mp facts
  have explained :=
    failures_are_explained _ _ book accepted registry FixedProvider.ask (.whole 5) List.reverse
    (fun rs => rs.reverse_perm) [ltc, btc]
  obtain ⟨-, _, -, each⟩ := explained.2 prices hprices
  refine ⟨registry, book, prices, accepted, hprices, of_decide_eq_true shown,
    fun price hprice => ?_⟩
  obtain ⟨_, _, _, -, -, -, -, -, -, -, agree⟩ := each price hprice
  exact (agree fun q _ => callsOnePair_candidate (List.all_eq_true.mp single) q).1

/-- A rate that is not finite is unavailable without an error of its exchange. A pair behind the
first one in a call is required and never looked up, so that its error stands beside a value. -/
theorem failure_signals_may_disagree :
    (∃ (registry : Registry FixedProvider) (book : Rulebook) (prices : List Price),
      parse "BTC_USD = kraken(BTC_USD);" (.decimal .one) = .ok book ∧
      book.prices (fun rs => registry.fetch FixedProvider.ask (.whole 5) rs)
        [⟨⟨"BTC", by decide⟩, ⟨"USD", by decide⟩⟩] = .ok prices ∧
      prices.map (fun price => (price.value, price.faults, price.exchangeErrors, price.hasError)) =
        [(none, [.rateUnavailable], [], true)]) ∧
    ∃ (registry : Registry FixedProvider) (book : Rulebook) (prices : List Price),
      parse "BTC_USD = kraken(BTC_USD, BTC_EUR);" (.decimal .one) = .ok book ∧
      book.prices (fun rs => registry.fetch FixedProvider.ask (.whole 5) rs)
        [⟨⟨"BTC", by decide⟩, ⟨"USD", by decide⟩⟩] = .ok prices ∧
      prices.map (fun price =>
        (price.value, price.faults, price.exchangeErrors.map FetchError.message,
        price.hasError)) =
          [(some (.ofNat 50000), [], ["Rate for BTC_EUR not available"], true)] := by
  let btc : Pair := ⟨⟨"BTC", by decide⟩, ⟨"USD", by decide⟩⟩
  let listing : Decimal → Registry FixedProvider := fun d =>
    Registry.empty.register "kraken" ((FixedProvider.ofName "kraken").set btc d)
  constructor
  · have facts : passes (fun book : Rulebook => passes (fun prices : List Price =>
        decide (prices.map (fun price =>
        (price.value, price.faults, price.exchangeErrors, price.hasError)) =
          [(none, [.rateUnavailable], [], true)]))
        (book.prices (fun rs => (listing (.undefined false false 0)).fetch FixedProvider.ask
          (.whole 5) rs) [btc]))
        (parse "BTC_USD = kraken(BTC_USD);" (.decimal .one)) = true := by decide +kernel
    obtain ⟨book, accepted, facts⟩ := passes_iff.mp facts
    obtain ⟨prices, hprices, shown⟩ := passes_iff.mp facts
    exact ⟨_, book, prices, accepted, hprices, of_decide_eq_true shown⟩
  · have facts : passes (fun book : Rulebook => passes (fun prices : List Price =>
        decide (prices.map (fun price =>
        (price.value, price.faults, price.exchangeErrors.map FetchError.message, price.hasError)) =
          [(some (.ofNat 50000), [], ["Rate for BTC_EUR not available"], true)]))
        (book.prices (fun rs => (listing (.ofNat 50000)).fetch FixedProvider.ask
          (.whole 5) rs) [btc]))
        (parse "BTC_USD = kraken(BTC_USD, BTC_EUR);" (.decimal .one)) = true := by decide +kernel
    obtain ⟨book, accepted, facts⟩ := passes_iff.mp facts
    obtain ⟨prices, hprices, shown⟩ := passes_iff.mp facts
    exact ⟨_, book, prices, accepted, hprices, of_decide_eq_true shown⟩

end Rulebook

end RateRules
