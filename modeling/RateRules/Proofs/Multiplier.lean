import RateRules.Proofs.Rule

/-!
# The multiplier of a rulebook

The multiplier stands around the expression that a rule starts from, and around no reference in it.
So a rule with it requires, looks up and misses what the rule without it does, and its value is the
product of the value with the multiplier, which is rounded once. Where there is no value without it
there is none with it, and the faults stay in front.
-/
namespace RateRules

theorem eraseDups_prefix_append {α : Type} [BEq α] [LawfulBEq α] (l more : List α) :
    l.eraseDups <+: (l ++ more).eraseDups := by
  rw [List.eraseDups_append]
  exact List.prefix_append _ _

namespace Decimal

theorem eq_finite_of_isPositive (d : Decimal) (h : d.isPositive = true) :
    ∃ coefficient exponent, d = finite false coefficient exponent := by
  cases d with
  | finite negative coefficient exponent =>
    cases negative with
    | false => exact ⟨coefficient, exponent, rfl⟩
    | true => cases h
  | infinite negative => cases h
  | undefined negative signaling payload => cases h

/-- The product with a positive number is that of the coefficients with the sign of the other,
rounded once. -/
theorem mul_positive (n : Bool) (c : Nat) (x : Int) (k : Nat) (y : Int) :
    (finite n c x).mul (finite false k y) = rounded n (c * k) (x + y) := by
  cases n with
  | false => rfl
  | true => rfl

theorem eq_overflow_of_rounded {negative : Bool} {coefficient : Nat} {exponent : Int} {trap : Trap}
    (h : rounded negative coefficient exponent = .error trap) : trap = .overflow := by
  rw [rounded] at h
  split at h
  · cases h
  · simp only at h
    split at h
    · cases h
      rfl
    · cases h

end Decimal

namespace Expr

/-- An expression with a factor behind it. -/
def times (e : Expr) (m : Decimal) : Expr := .binary .mul (.parenthesized e) (.number m)

variable (e : Expr) (m : Decimal) (source : RateSource)

theorem flatten_times (candidate : Pair → Expr) (p : Pair) :
    (e.times m).flatten candidate p =
      ((e.flatten candidate p).1.times m, (e.flatten candidate p).2) := rfl

theorem rated_times : (e.times m).rated source = (e.rated source).times m :=
  rated_binary source _ _ _

theorem rateFaults_times : (e.times m).rateFaults source = e.rateFaults source := by
  rw [times, rateFaults_binary]
  exact List.append_nil _

theorem asks_times : (e.times m).asks = e.asks := List.append_nil _

end Expr

/-- How a calculation ends: with the value of the expression alone, with nothing at all, or with
faults. -/
theorem calculate_cases {e : Expr} {s : Stack} (h : calculate e = .ok s) :
    (∃ v, s = ⟨[v], []⟩) ∨ s = ⟨[], []⟩ ∨ ∃ values f more, s = ⟨values, f :: more⟩ := by
  obtain ⟨values, faults⟩ := s
  cases faults with
  | cons f more => exact Or.inr (Or.inr ⟨values, f, more, rfl⟩)
  | nil =>
    rcases Stack.run_of_faults_eq e .empty _ h rfl with ⟨v, _, pushed⟩ | short
    · exact Or.inl ⟨v, pushed⟩
    · obtain rfl : values = [] := List.length_eq_zero_iff.mp (Nat.le_zero.mp short)
      exact Or.inr (Or.inl rfl)

theorem Stack.exists_applyBinary_mul (s : Stack) : ∃ s', s.applyBinary .mul = .ok s' := by
  obtain ⟨values, faults⟩ := s
  rcases values with _ | ⟨b, _ | ⟨a, rest⟩⟩
  · exact ⟨_, rfl⟩
  · exact ⟨_, rfl⟩
  · exact ⟨_, rfl⟩

theorem calculate_times (e : Expr) (m : Decimal) :
    calculate (e.times m) = calculate e >>= fun s => (s.push m).applyBinary .mul := rfl

namespace RateRule

variable {e : Expr}

/-- What is told of a product: its value alone, or that it has none. -/
def Tells (value : Option Decimal) (faults : List Fault) : Except Decimal.Trap Decimal → Prop
  | .ok w => value = some w ∧ faults = []
  | .error _ => value = none ∧ faults = [.arithmeticError]

theorem Tells.eraseDups {value : Option Decimal} {faults : List Fault}
    {product : Except Decimal.Trap Decimal}
    (h : Tells value faults product) : Tells value faults.eraseDups product := by
  cases product with
  | ok w =>
    obtain ⟨own, rfl⟩ := h
    exact ⟨own, rfl⟩
  | error trap =>
    obtain ⟨own, rfl⟩ := h
    exact ⟨own, rfl⟩

/-- With a factor behind it an expression comes to the product of its value, and its faults stay in
front. -/
theorem outcome_times (m : Decimal) {before found : List Fault} {value : Option Decimal}
    (h : outcome e before = .ok (value, found)) :
    ∃ value' found', outcome (e.times m) before = .ok (value', found') ∧
      (∀ v, value = some v → Tells value' found' (v.mul m)) ∧
      (value = none → value' = none ∧ found <+: found') := by
  cases before with
  | cons f more =>
    cases h
    exact ⟨none, f :: more, rfl, by rintro v ⟨⟩, fun _ => ⟨rfl, List.prefix_rfl⟩⟩
  | nil =>
    obtain ⟨s, calculated, h⟩ := exists_answer_of_outcome h
    have scaled : calculate (e.times m) = (s.push m).applyBinary .mul := by
      rw [calculate_times, calculated]
      rfl
    rcases calculate_cases calculated with ⟨v, rfl⟩ | rfl | ⟨values, f, more, rfl⟩
    · cases h
      have multiplied : calculate (e.times m) = .ok (Stack.empty.result (v.mul m)) :=
        scaled.trans (Stack.applyBinary_push_push rfl (by decide) v m .empty)
      cases product : v.mul m with
      | ok w =>
        rw [product] at multiplied
        refine ⟨some w, [], outcome_of_calculate multiplied, ?_, by rintro ⟨⟩⟩
        rintro _ ⟨⟩
        rw [product]
        exact ⟨rfl, rfl⟩
      | error trap =>
        rw [product] at multiplied
        refine ⟨none, [.arithmeticError], outcome_of_calculate multiplied, ?_, by rintro ⟨⟩⟩
        rintro _ ⟨⟩
        rw [product]
        exact ⟨rfl, rfl⟩
    · cases h
      exact ⟨none, [.missingArgument], outcome_of_calculate scaled,
        by rintro v ⟨⟩, fun _ => ⟨rfl, List.prefix_rfl⟩⟩
    · cases (answer_of_faults _ rfl).symm.trans h
      obtain ⟨s', multiplied⟩ := Stack.exists_applyBinary_mul ((Stack.mk values (f :: more)).push m)
      obtain ⟨later, recorded⟩ := Stack.faults_prefix_applyBinary multiplied
      have told := outcome_of_calculate (scaled.trans multiplied)
      rw [answer_of_faults s' recorded.symm] at told
      exact ⟨none, _, told, by rintro v ⟨⟩, fun _ => ⟨rfl, List.prefix_append (f :: more) later⟩⟩

theorem outcome_times_of_error (m : Decimal) {before : List Fault} {trap : Decimal.Trap}
    (h : outcome e before = .error trap) : outcome (e.times m) before = .error trap := by
  cases before with
  | cons f more => cases h
  | nil =>
    rw [outcome_nil] at h ⊢
    rw [calculate_times, error_of_map h]
    rfl

/-- A rule with a factor behind its expression. -/
def times (rule : RateRule) (m : Decimal) : RateRule :=
  ⟨rule.pair, rule.expr.times m, rule.requirements, rule.faults⟩

variable {rule : RateRule} {source : RateSource}

theorem evaluate_times {evaluation : Evaluation} {lookups : List Requirement} (m : Decimal)
    (h : rule.evaluate source = .ok (evaluation, lookups)) :
    ∃ evaluation', (rule.times m).evaluate source = .ok (evaluation', lookups) ∧
      (∀ v, evaluation.value = some v → Tells evaluation'.value evaluation'.faults (v.mul m)) ∧
      (evaluation.value = none → evaluation'.value = none ∧
        evaluation.faults <+: evaluation'.faults) := by
  obtain ⟨rfl, found, houtcome, hfaults, _⟩ := evaluate_eq_ok_iff.mp h
  obtain ⟨value', found', houtcome', product, none⟩ := outcome_times m houtcome
  refine ⟨⟨value', found'.eraseDups, ((rule.times m).expr.rated source).render⟩,
    evaluate_eq_ok_iff.mpr ⟨(Expr.asks_times _ m).symm, found', ?_, rfl, rfl⟩, ?_, ?_⟩
  · rw [times, Expr.rated_times, Expr.rateFaults_times]
    exact houtcome'
  · intro v hv
    exact (product v hv).eraseDups
  · intro failed
    obtain ⟨none, front⟩ := none failed
    refine ⟨none, ?_⟩
    obtain ⟨later, rfl⟩ := front
    rw [hfaults]
    exact eraseDups_prefix_append found later

theorem evaluate_times_of_error {trap : Decimal.Trap} (m : Decimal)
    (h : rule.evaluate source = .error trap) :
    (rule.times m).evaluate source = .error trap := by
  rw [evaluate_eq] at h ⊢
  rw [times, Expr.rated_times, Expr.rateFaults_times, outcome_times_of_error m (error_of_map h)]
  rfl

end RateRule

namespace Rulebook

/-- Beside the rule without a multiplier stands the same one with a factor behind it, however deep
the references of the rule are. -/
theorem ruleAt_times {plain scaled : Rulebook} (same : scaled.table = plain.table)
    (unit : plain.multiplier.isOne = true) (other : scaled.multiplier.isOne = false) (p : Pair) :
    scaled.ruleAt p = (plain.ruleAt p).times scaled.multiplier := by
  have start : scaled.start p = (plain.start p).times scaled.multiplier := by
    rw [start_of_unit unit]
    simp only [Rulebook.start, other, same]
    rfl
  rw [ruleAt, start, same, Expr.flatten_times]
  rfl

/-- The multiplier counts once. The rule under it requires the same rates as the rule under one,
looks them up in the same order, and has the same faults from flattening and from its rates. If the
rule under one has a value, the rule under the multiplier has the product alone, or an arithmetic
fault alone. The product of a finite value is that of the coefficients, rounded once, and has no
value only if it overflows. If the one rule has no value, the other has none, and its faults start
with the same ones. -/
theorem multiplier_counts_once (plain scaled : Rulebook) (same : scaled.table = plain.table)
    (unit : plain.multiplier.isOne = true) (other : scaled.multiplier.isOne = false) (p : Pair)
    (concrete : p.isPattern = false) (source : RateSource) :
    ∃ rule rule', plain.rule p = .ok rule ∧ scaled.rule p = .ok rule' ∧
      rule'.requirements = rule.requirements ∧ rule'.faults = rule.faults ∧
      rule'.expr.rateFaults source = rule.expr.rateFaults source ∧
      rule'.expr.asks = rule.expr.asks ∧
      (∀ trap, rule.evaluate source = .error trap → rule'.evaluate source = .error trap) ∧
      ∀ evaluation lookups, rule.evaluate source = .ok (evaluation, lookups) →
        ∃ evaluation', rule'.evaluate source = .ok (evaluation', lookups) ∧
          (∀ v, evaluation.value = some v →
            RateRule.Tells evaluation'.value evaluation'.faults (v.mul scaled.multiplier)) ∧
          (∀ n c x, evaluation.value = some (.finite n c x) →
            ∃ k y, scaled.multiplier = .finite false k y ∧
              RateRule.Tells evaluation'.value evaluation'.faults
              (Decimal.rounded n (c * k) (x + y)) ∧
              ∀ trap, Decimal.rounded n (c * k) (x + y) = .error trap → trap = .overflow) ∧
          (evaluation.value = none →
            evaluation'.value = none ∧ evaluation.faults <+: evaluation'.faults) := by
  refine ⟨plain.ruleAt p, scaled.ruleAt p, rule_eq_ok plain concrete,
    rule_eq_ok scaled concrete, ?_⟩
  rw [ruleAt_times same unit other]
  refine ⟨rfl, rfl, Expr.rateFaults_times _ _ source, Expr.asks_times _ _, ?_, ?_⟩
  · intro trap
    exact RateRule.evaluate_times_of_error scaled.multiplier
  · intro evaluation lookups evaluated
    obtain ⟨evaluation', evaluated', product, none⟩ :=
      RateRule.evaluate_times scaled.multiplier evaluated
    refine ⟨evaluation', evaluated', product, ?_, none⟩
    intro n c x hv
    obtain ⟨k, y, factor⟩ := scaled.multiplier.eq_finite_of_isPositive scaled.positive
    have told := product _ hv
    rw [factor, Decimal.mul_positive] at told
    exact ⟨k, y, factor, told, fun trap => Decimal.eq_overflow_of_rounded⟩

/-- One and a tenth above rules of which one refers to a pair, and to another through its
reciprocal. -/
theorem multiplier_above_reciprocal :
    ∃ (plain scaled : Rulebook) (p : Pair) (source : RateSource) (rule :
      RateRule) (evaluation : Evaluation)
      (lookups : List Requirement),
      parse "BTC_USD = BTC_EUR * EUR_USD; BTC_EUR = kraken(BTC_EUR); USD_EUR = bitpay(USD_EUR);"
        (.decimal .one) = .ok plain ∧
      parse "BTC_USD = BTC_EUR * EUR_USD; BTC_EUR = kraken(BTC_EUR); USD_EUR = bitpay(USD_EUR);"
        (.decimal (.finite false 11 (-1))) = .ok scaled ∧
      scaled.multiplier.isOne = false ∧ scaled.rule p = .ok rule ∧
      rule.text = "(kraken(BTC_EUR) * (1 / bitpay(USD_EUR))) * 1.1" ∧
      rule.evaluate source = .ok (evaluation, lookups) ∧
      evaluation.value = some (.finite false 1100 (-1)) ∧
      evaluation.faults = [] := by
  let script := "BTC_USD = BTC_EUR * EUR_USD; BTC_EUR = kraken(BTC_EUR); USD_EUR = bitpay(USD_EUR);"
  let p : Pair := ⟨⟨"BTC", by decide⟩, ⟨"USD", by decide⟩⟩
  let source : RateSource := fun venue _ =>
    some (.decimal (if venue = "kraken" then .ofNat 50 else .finite false 5 (-1)))
  have facts : passes (fun plain : Rulebook => plain.multiplier.isOne &&
      passes (fun rule : RateRule =>
      passes (fun answer => decide (answer.1.value = some (.ofNat 100))) (rule.evaluate source))
        (plain.rule p))
      (parse script (.decimal .one)) = true := by decide +kernel
  have more : passes (fun scaled : Rulebook => decide (scaled.multiplier = .finite false 11 (-1)) &&
      passes (fun rule : RateRule =>
        decide (rule.text = "(kraken(BTC_EUR) * (1 / bitpay(USD_EUR))) * 1.1"))
        (scaled.rule p)) (parse script (.decimal (.finite false 11 (-1)))) = true := by
          decide +kernel
  obtain ⟨plain, hplain, facts⟩ := passes_iff.mp facts
  obtain ⟨scaled, hscaled, more⟩ := passes_iff.mp more
  rw [Bool.and_eq_true] at facts more
  obtain ⟨unit, facts⟩ := facts
  obtain ⟨factor, more⟩ := more
  obtain ⟨rule, hrule, facts⟩ := passes_iff.mp facts
  obtain ⟨⟨evaluation, lookups⟩, evaluated, value⟩ := passes_iff.mp facts
  obtain ⟨rule', hrule', text⟩ := passes_iff.mp more
  rw [decide_eq_true_eq] at factor value text
  have other : scaled.multiplier.isOne = false := by rw [factor]; decide +kernel
  have same : scaled.table = plain.table :=
    Except.ok.inj ((parse_eq_ok hscaled).symm.trans (parse_eq_ok hplain))
  obtain ⟨first, second, hfirst, hsecond, -, -, -, -, -, answers⟩ :=
    multiplier_counts_once plain scaled same unit other p (by decide) source
  obtain rfl := Except.ok.inj (hrule.symm.trans hfirst)
  obtain rfl := Except.ok.inj (hrule'.symm.trans hsecond)
  obtain ⟨evaluation', evaluated', product, -⟩ := answers evaluation lookups evaluated
  have told := product _ value
  have tenMore : (Decimal.ofNat 100).mul (.finite false 11 (-1)) =
    .ok (.finite false 1100 (-1)) := by decide +kernel
  rw [factor, tenMore] at told
  exact ⟨plain, scaled, p, source, rule', evaluation', lookups, hplain, hscaled, other, hrule',
    text, evaluated',
    told⟩

end Rulebook

end RateRules
