import RateRules.Pricing
import RateRules.Proofs.Fetching
import RateRules.Proofs.Requirements

/-!
# Prices and evaluations

Prices are found for many pairs at once, from rates that are fetched beforehand. They say for each
pair what its own rule says when it asks the providers itself, since a rule looks up no rate that
was not required, and a fetched rate is what the provider answers.
-/
namespace RateRules

/-- What a price says about its pair, apart from the errors of exchanges. -/
def Price.outcome (price : Price) : Pair × String × Evaluation :=
  (price.pair, price.rule, ⟨price.value, price.faults, price.evaluated⟩)

namespace RateRule

theorem evaluate_congr {source source' : RateSource} (rule : RateRule)
    (agree : ∀ r ∈ rule.expr.asks, source r.exchange r.pair = source' r.exchange r.pair) :
    rule.evaluate source = rule.evaluate source' := by
  have same : ∀ r ∈ rule.expr.asks, source.rate? r.exchange r.pair =
      source'.rate? r.exchange r.pair := by
    intro r hr
    rw [RateSource.rate?, RateSource.rate?, agree r hr]
  rw [evaluate, evaluate, Expr.substitute_congr rule.expr _ same]

end RateRule

namespace Rulebook

/-- What the rule for a pair gives with a source of rates, without any other pair. -/
def outcome {ε : Type} (book : Rulebook) (source : RateSource) (p : Pair) :
    Except (Unpriced ε) (Pair × String × Evaluation) := do
  let rule ← (book.rule p).mapError .pattern
  let (evaluation, _) ← (rule.evaluate source).mapError .trap
  return (p, rule.text, evaluation)

theorem outcome_eq {ε : Type} (book : Rulebook) {p : Pair} (concrete : p.isPattern = false)
    (source : RateSource) :
    book.outcome source p =
      (((book.ruleAt p).evaluate source).mapError (Unpriced.trap (ε := ε))).map
        fun (evaluation, _) => (p, (book.ruleAt p).text, evaluation) := by
  simp only [outcome, rule_eq_ok book concrete, mapError_ok, bind, Except.bind]
  cases (book.ruleAt p).evaluate source <;> rfl

theorem mem_requirementsOf {rules : List RateRule} {r : Requirement} :
    r ∈ requirementsOf rules ↔ ∃ rule ∈ rules, r ∈ rule.requirements := by
  simp [requirementsOf]

theorem rules_eq_ok (book : Rulebook) {pairs : List Pair}
    (concrete : ∀ p ∈ pairs, p.isPattern = false) :
    book.rules pairs = .ok (pairs.eraseDups.map book.ruleAt) :=
  mapM_eq_ok_map fun p hp => rule_eq_ok book (concrete p (List.mem_eraseDups.mp hp))

/-- Pairs that have rules are no patterns. -/
theorem concrete_of_rules {book : Rulebook} {pairs : List Pair} {rules : List RateRule}
    (h : book.rules pairs = .ok rules) : ∀ p ∈ pairs, p.isPattern = false := by
  intro p hp
  obtain ⟨rule, _, hrule⟩ := exists_of_forall₂ (forall₂_of_mapM h).flip (List.mem_eraseDups.mpr hp)
  rw [Rulebook.rule] at hrule
  split at hrule
  · cases hrule
  · next concrete => simpa using concrete

variable {α ε : Type} {ask : α → Pair → Answer} {timeout : Timeout}

theorem prices_eq (book : Rulebook) (source : List Requirement → Except ε Fetched)
    (pairs : List Pair) :
    book.prices source pairs = (book.rules pairs).mapError .pattern >>= fun rules =>
      (fetchFor rules source).mapError .source >>= fun fetched =>
        (rules.mapM fun (rule : RateRule) => rule.price fetched).mapError .trap := by
  rw [prices, pricesWith]
  cases book.rules pairs with
  | error refused => rfl
  | ok rules =>
    change ((fetchFor rules source).mapError _ >>= _ : ExceptT _ Id _) =
      (fetchFor rules source).mapError _ >>= _
    cases fetchFor rules source <;> rfl

/-- Whatever some rules require is known once it is fetched for them, in any order. -/
theorem fetchFor_of_decimals (registry : Registry α)
    (decimals : ∀ provider p given, ask provider p = .rate given → ∃ d, given = .decimal d)
    (lasting : timeout.isOver = false) {order : List Requirement → List Requirement}
    (reordered : ∀ rs, (order rs).Perm rs) (rules : List RateRule) :
    ∃ fetched, fetchFor rules (fun rs => registry.fetch ask timeout (order rs)) = .ok fetched ∧
      ∀ rule ∈ rules, ∀ r ∈ rule.requirements,
        fetched.rates.source r.exchange r.pair = registry.source ask r.exchange r.pair := by
  rw [fetchFor]
  split
  · next nothing =>
    refine ⟨.nothing, rfl, fun rule hrule r hr => ?_⟩
    have required := mem_requirementsOf.mpr ⟨rule, hrule, hr⟩
    rw [List.isEmpty_iff.mp nothing] at required
    cases required
  · obtain ⟨fetched, hfetched, known⟩ :=
      registry.fetch_of_decimals decimals lasting (order (requirementsOf rules))
    refine ⟨fetched, hfetched, fun rule hrule r hr => ?_⟩
    have required : r ∈ requirementsOf rules := mem_requirementsOf.mpr ⟨rule, hrule, hr⟩
    have same := known r ((reordered _).mem_iff.mpr required)
    exact congrArg (Option.map Given.decimal) same

/-- The price of a pair is what its own rule gives with the providers as its source, whatever other
pairs are priced with it and in whatever order their rates are fetched. -/
theorem prices_eq_outcomes (book : Rulebook) (registry : Registry α) (ask : α → Pair → Answer)
    (decimals : ∀ provider p given, ask provider p = .rate given → ∃ d, given = .decimal d)
    (timeout : Timeout) (lasting : timeout.isOver = false)
    (order : List Requirement → List Requirement)
    (reordered : ∀ rs, (order rs).Perm rs) (pairs : List Pair)
    (concrete : ∀ p ∈ pairs, p.isPattern = false) :
    (book.prices
      (fun rs => registry.fetch ask timeout (order rs)) pairs).map (List.map Price.outcome) =
        pairs.eraseDups.mapM (book.outcome (registry.source ask)) ∧
      ∀ script given, parse script given = .ok book →
        ∃ prices, book.prices (fun rs => registry.fetch ask timeout (order rs)) pairs =
          .ok prices := by
  obtain ⟨fetched, hfetched, known⟩ :=
    fetchFor_of_decimals registry decimals lasting reordered (pairs.eraseDups.map book.ruleAt)
  have priced : book.prices (fun rs => registry.fetch ask timeout (order rs)) pairs =
      (pairs.eraseDups.mapM fun p => (book.ruleAt p).price fetched).mapError .trap := by
    simp only [prices_eq, rules_eq_ok book concrete, mapError_ok, bind, Except.bind, hfetched,
      List.mapM_map]
    rfl
  have same : ∀ p ∈ pairs.eraseDups,
      (book.ruleAt p).evaluate fetched.rates.source =
        (book.ruleAt p).evaluate (registry.source ask) := by
    intro p hp
    apply (book.ruleAt p).evaluate_congr
    intro r hr
    have required : r ∈ (book.ruleAt p).requirements := asks_subset_requirements book p hr
    exact known (book.ruleAt p) (List.mem_map.mpr ⟨p, hp, rfl⟩) r required
  rw [priced]
  constructor
  · apply map_mapM_congr
    intro p hp
    rw [outcome_eq book (concrete p (List.mem_eraseDups.mp hp)), ← same p hp, RateRule.price]
    cases (book.ruleAt p).evaluate fetched.rates.source <;> rfl
  · intro script given accepted
    have normal := isNormal_of_tableOf (parse_eq_ok accepted)
    have each : ∀ p ∈ pairs.eraseDups, ∃ price, (book.ruleAt p).price fetched = .ok price := by
      intro p _
      obtain ⟨evaluation, evaluated⟩ := evaluate_of_isNormal normal p fetched.rates.source
      exact ⟨_, bind_eq_ok.mpr ⟨_, evaluated, rfl⟩⟩
    obtain ⟨prices, hprices⟩ := mapM_of_all_ok each
    exact ⟨prices, mapError_eq_ok.mpr hprices⟩

/-- One provider answers and the other never does; the rates are fetched last to first. -/
theorem prices_with_silent_provider :
    ∃ (registry : Registry (Option Decimal)) (ask : Option Decimal → Pair →
      Answer) (book : Rulebook)
      (prices : List Price),
      registry.providers.keys = ["kraken", "bitpay"] ∧
      ask (some (.ofNat 50000)) = (fun _ => .rate (.decimal (.ofNat 50000))) ∧
        ask none = (fun _ => .silent) ∧
      parse "BTC_X = Kraken(BTC_X); LTC_X = BTC_X / BITPAY(BTC_LTC);" (.decimal .one) = .ok book ∧
      book.prices (fun rs => registry.fetch ask (.whole 5) rs.reverse)
        [⟨⟨"LTC", by decide⟩, ⟨"EUR", by decide⟩⟩, ⟨⟨"BTC", by decide⟩, ⟨"EUR", by decide⟩⟩,
          ⟨⟨"LTC", by decide⟩, ⟨"EUR", by decide⟩⟩] = .ok prices ∧
      prices.map Price.outcome =
        [(⟨⟨"LTC", by decide⟩, ⟨"EUR", by decide⟩⟩, "kraken(BTC_EUR) / bitpay(BTC_LTC)",
          ⟨none, [.rateUnavailable], "50000 / ERR_RATE_UNAVAILABLE(bitpay, BTC_LTC)"⟩),
         (⟨⟨"BTC", by decide⟩, ⟨"EUR", by decide⟩⟩, "kraken(BTC_EUR)",
          ⟨some (.ofNat 50000), [], "50000"⟩)] ∧
      [⟨⟨"LTC", by decide⟩, ⟨"EUR", by decide⟩⟩, ⟨⟨"BTC", by decide⟩, ⟨"EUR", by decide⟩⟩].mapM
          (book.outcome (ε := NotDecimal) (registry.source ask)) =
            .ok (prices.map Price.outcome) := by
  let ltc : Pair := ⟨⟨"LTC", by decide⟩, ⟨"EUR", by decide⟩⟩
  let btc : Pair := ⟨⟨"BTC", by decide⟩, ⟨"EUR", by decide⟩⟩
  let ask : Option Decimal → Pair → Answer := fun provider _ =>
    provider.elim .silent fun d => .rate (.decimal d)
  let registry : Registry (Option Decimal) :=
    (Registry.empty.register "kraken" (some (.ofNat 50000))).register "Bitpay" none
  have facts : passes (fun book : Rulebook => passes (fun prices : List Price =>
      decide (prices.map Price.outcome =
        [(ltc, "kraken(BTC_EUR) / bitpay(BTC_LTC)",
          ⟨none, [.rateUnavailable], "50000 / ERR_RATE_UNAVAILABLE(bitpay, BTC_LTC)"⟩),
         (btc, "kraken(BTC_EUR)", ⟨some (.ofNat 50000), [], "50000"⟩)]))
        (book.prices (fun rs => registry.fetch ask (.whole 5) rs.reverse) [ltc, btc, ltc]))
      (parse "BTC_X = Kraken(BTC_X); LTC_X = BTC_X / BITPAY(BTC_LTC);" (.decimal .one)) = true := by
    decide +kernel
  have decimals : ∀ provider p given, ask provider p = .rate given → ∃ d, given = .decimal d := by
    intro provider p given h
    cases provider with
    | some d =>
      cases h
      exact ⟨d, rfl⟩
    | none => cases h
  obtain ⟨book, accepted, facts⟩ := passes_iff.mp facts
  obtain ⟨prices, hprices, outcomes⟩ := passes_iff.mp facts
  rw [decide_eq_true_eq] at outcomes
  have same := (prices_eq_outcomes book registry ask decimals (.whole 5) (by decide)
    List.reverse (fun rs => rs.reverse_perm) [ltc, btc, ltc] (by decide)).1
  rw [hprices] at same
  exact ⟨registry, ask, book, prices, by decide, rfl, rfl, accepted, hprices, outcomes, same.symm⟩

end Rulebook
end RateRules
