import RateRules.Proofs.Rounding
import RateRules.Proofs.Rule

/-!
# Computed values

A value that some operation works out has been rounded and fits the precision and the range of
exponents. Only a number that no operation works on, a literal or a rate, is the value as it stands,
however many digits it has.
-/
namespace RateRules

theorem UnaryOp.fits_apply_minus {a v : Decimal} (ha : a.isFinite = true)
    (h : minus.apply a = .ok v) :
    v.fits = true :=
  Decimal.fits_negate ha (Failure.ofArithmetic_eq_ok.mp h)

theorem BinaryOp.fits_apply {op : BinaryOp} {a b v : Decimal} (ha : a.isFinite = true)
    (hb : b.isFinite = true)
    (h : op.apply a b = .ok v) : v.fits = true := by
  cases op with
  | add => exact Decimal.fits_add ha hb (Failure.ofArithmetic_eq_ok.mp h)
  | sub => exact Decimal.fits_sub ha hb (Failure.ofArithmetic_eq_ok.mp h)
  | mul => exact Decimal.fits_mul ha hb (Failure.ofArithmetic_eq_ok.mp h)
  | div =>
    rw [apply] at h
    split at h
    · cases h
    · split at h
      · cases h
      · exact Decimal.fits_div ha hb (Failure.ofArithmetic_eq_ok.mp h)
  | mod | pow | other sign => cases h

namespace Expr

/-- What is left of an expression without the parentheses and the plus signs around it, which change
no value. -/
def bare : Expr → Expr
  | parenthesized inner => inner.bare
  | unary .plus operand => operand.bare
  | e => e

/-- The rates are put in behind the parentheses and the plus signs. -/
theorem bare_rated (source : RateSource) (e : Expr) :
    (e.rated source).bare = (e.bare.rated source).bare := by
  induction e using bare.induct with
  | case1 inner ih =>
    rw [rated_parenthesized]
    exact ih
  | case2 operand ih =>
    rw [rated_unary]
    exact ih
  | case3 e parenthesized plus => rw [bare.eq_3 e parenthesized plus]

theorem value_bare (e : Expr) : e.bare.value = e.value := by
  induction e using bare.induct with
  | case1 inner ih => exact ih
  | case2 operand ih =>
    rw [bare, ih, value]
    cases operand.value <;> rfl
  | case3 e parenthesized plus => rw [bare.eq_3 e parenthesized plus]

theorem isFinite_of_value {e : Expr} (numbers : ∀ d, number d ∈ e.leaves → d.isFinite = true)
    {v : Decimal}
    (h : e.value = .ok v) : v.isFinite = true := by
  obtain ⟨s, calculated, finite⟩ := Stack.run_of_isFinite e .empty numbers (by rintro d ⟨⟩)
  cases (Stack.run_eq_push e .empty v h).symm.trans calculated
  exact finite v List.mem_cons_self

/-- Whether there is more to an expression than a number or a call, in parentheses or behind plus
signs. -/
def isComputed (e : Expr) : Bool :=
  match e.bare with
  | number _ => false
  | call _ _ => false
  | _ => true

theorem fits_of_value (e : Expr) (numbers : ∀ d, number d ∈ e.leaves → d.isFinite = true)
    (computed : ∀ d, e.bare ≠ number d) {v : Decimal} (h : e.value = .ok v) : v.fits = true := by
  induction e using bare.induct with
  | case1 inner ih => exact ih numbers computed h
  | case2 operand ih =>
    obtain ⟨a, ha, same⟩ := value_unary_eq_ok.mp h
    cases same
    exact ih numbers computed ha
  | case3 e parenthesized plus =>
    cases e with
    | number d => exact absurd rfl (computed d)
    | parenthesized inner => exact absurd rfl (parenthesized inner)
    | unary op operand =>
      obtain ⟨a, ha, hv⟩ := value_unary_eq_ok.mp h
      cases op with
      | plus => exact absurd rfl (plus operand)
      | minus => exact UnaryOp.fits_apply_minus (isFinite_of_value (e := operand) numbers ha) hv
      | invert | other sign => cases hv
    | binary op left right =>
      obtain ⟨a, b, ha, hb, hv⟩ := value_binary_eq_ok.mp h
      have finiteLeft := isFinite_of_value (fun d hd => numbers d (List.mem_append_left _ hd)) ha
      have finiteRight := isFinite_of_value (fun d hd => numbers d (List.mem_append_right _ hd)) hb
      exact BinaryOp.fits_apply finiteLeft finiteRight hv
    | name word | pair p | exchange venue | call callee args => cases h

theorem bare_ne_number {e : Expr} (computed : e.isComputed = true) (d : Decimal) :
    e.bare ≠ number d := by
  intro h
  rw [isComputed, h] at computed
  cases computed

/-- An operation stays where it is when the rates are put in. -/
theorem isComputed_rated (source : RateSource) (e : Expr) (computed : e.isComputed = true) :
    (e.rated source).isComputed = true := by
  induction e using bare.induct with
  | case1 inner ih =>
    rw [rated_parenthesized]
    exact ih computed
  | case2 operand ih =>
    rw [rated_unary]
    exact ih computed
  | case3 e parenthesized plus =>
    cases e with
    | number d => cases computed
    | call callee args => cases computed
    | parenthesized inner => exact absurd rfl (parenthesized inner)
    | unary op operand =>
      rw [rated_unary]
      cases op with
      | plus => exact absurd rfl (plus operand)
      | minus | invert | other sign => rfl
    | binary op left right =>
      rw [rated_binary]
      rfl
    | name word | pair p | exchange venue => exact computed

theorem value_of_bare_number {e : Expr} {d v : Decimal} (bare : e.bare = number d)
    (h : e.value = .ok v) : v = d := by
  rw [← value_bare, bare] at h
  exact (Except.ok.inj h).symm

/-- A call alone has the rate that is put in for it. -/
theorem rate_of_bare_call {source : RateSource} {e callee : Expr} {args : List Expr} {v : Decimal}
    (bare : e.bare = call callee args) (h : (e.rated source).value = .ok v) :
    ∃ p more, args = pair p :: more ∧ source.rate? callee.render p = some v := by
  rw [← value_bare, bare_rated, bare, value_bare] at h
  cases rate : callRate? source callee args with
  | none =>
    obtain ⟨marks, shown, marked⟩ := rated_call_of_no_rate source rate
    rw [marked] at h
    cases h
  | some d =>
    rw [(rated_call_of_rate source rate).1] at h
    cases h
    unfold callRate? at rate
    split at rate
    · cases rate
    · split at rate
      · exact ⟨_, _, rfl, rate⟩
      · cases rate

end Expr

namespace RateRule

open RateRules.Expr

variable {rule : RateRule} {source : RateSource} {evaluation : Evaluation}
  {lookups : List Requirement} {v : Decimal}

theorem value_of_evaluate (h : rule.evaluate source = .ok (evaluation, lookups))
    (value : evaluation.value = some v) :
    (rule.expr.rated source).value = .ok v := by
  obtain ⟨-, faults, settled, -, -⟩ := evaluate_eq_ok_iff.mp h
  rw [value] at settled
  rw [eq_nil_of_outcome settled] at settled
  exact (outcome_eq_some_iff.mp settled).2

end RateRule

/-- A value that an operation works out, among finite numbers and in every evaluation of a rule, has
at most 28 digits, the first not above the place 999999 and the last not below the place -1000026. A
number or a rate that no operation works on, in parentheses or behind plus signs, is the value as it
stands. All numbers of a rule of an accepted script are finite. -/
theorem computed_values_fit :
    (∀ (e : Expr) (v : Decimal), (∀ d, .number d ∈ e.leaves → d.isFinite = true) →
    calculate e = .ok ⟨[v], []⟩ →
      (∀ d, e.bare = .number d → v = d) ∧ (e.isComputed = true → v.fits = true)) ∧
    (∀ (rule : RateRule) (source : RateSource) (evaluation : Evaluation) (lookups :
      List Requirement) (v : Decimal),
      (∀ d, .number d ∈ rule.expr.leaves → d.isFinite = true) →
      rule.evaluate source = .ok (evaluation, lookups) → evaluation.value = some v →
      (∀ d, rule.expr.bare = .number d → v = d) ∧
      (∀ callee args, rule.expr.bare = .call callee args →
        ∃ p more, args = .pair p :: more ∧ source.rate? callee.render p = some v) ∧
      (rule.expr.isComputed = true → v.fits = true)) ∧
    ∀ (script : String) (multiplier : Given) (book : Rulebook) (p : Pair) (rule : RateRule),
      Rulebook.parse script multiplier = .ok book → book.rule p = .ok rule →
      ∀ d, .number d ∈ rule.expr.leaves → d.isFinite = true := by
  refine ⟨?_, ?_, ?_⟩
  · intro e v numbers calculated
    have value := (calculate_eq_ok_iff e v).mp calculated
    exact ⟨fun d bare => Expr.value_of_bare_number bare value,
      fun computed => Expr.fits_of_value e numbers (Expr.bare_ne_number computed) value⟩
  · intro rule source evaluation lookups v numbers evaluated some
    have value := RateRule.value_of_evaluate evaluated some
    refine ⟨?_, fun callee args bare => Expr.rate_of_bare_call bare value, ?_⟩
    · intro d bare
      have kept : (rule.expr.rated source).bare = .number d := by
        rw [Expr.bare_rated, bare]
        rfl
      exact Expr.value_of_bare_number kept value
    · intro computed
      have operation := Expr.isComputed_rated source rule.expr computed
      exact Expr.fits_of_value _ (Expr.isFinite_of_mem_leaves_rated source rule.expr numbers)
        (Expr.bare_ne_number operation) value
  · intro script multiplier book p rule accepted resolved d leaf
    have normal := Rulebook.isNormal_of_tableOf (Rulebook.parse_eq_ok accepted)
    rw [← Rulebook.eq_ruleAt_of_rule resolved] at leaf
    exact Rulebook.isNormal_of_mem_leaves_rule normal _ leaf

/-- Two thirds are rounded, and so is the product with a rate of 29 digits. Where this rate is the
whole rule, behind a plus sign, it is kept. -/
theorem values_of_long_rates :
    ∃ (book : Rulebook) (p q : Pair) (rule alone : RateRule) (source :
      RateSource) (text shown : String)
      (lookups asked : List Requirement) (v w rate : Decimal),
      Rulebook.parse "BTC_USD = kraken(BTC_USD) * 10; ETH_USD = +kraken(ETH_USD);" (.decimal .one) =
        .ok book ∧
      book.rule p = .ok rule ∧ rule.text = "kraken(BTC_USD) * 10" ∧ rule.expr.isComputed = true ∧
      (∀ d, .number d ∈ rule.expr.leaves → d.isFinite = true) ∧
      book.rule q = .ok alone ∧ alone.text = "+kraken(ETH_USD)" ∧ alone.expr.isComputed = false ∧
      rate = .finite false 12345678901234567890123456789 0 ∧
      rule.evaluate source = .ok (⟨some v, [], text⟩, lookups) ∧
      alone.evaluate source = .ok (⟨some rate, [], shown⟩, asked) ∧
      calculate (.unary .plus (.binary .div (.number (.ofNat 2)) (.number (.ofNat 3)))) =
        .ok ⟨[w], []⟩ ∧
      rate.fits = false ∧ v.fits = true ∧ w.fits = true := by
  let p : Pair := ⟨⟨"BTC", by decide⟩, ⟨"USD", by decide⟩⟩
  let q : Pair := ⟨⟨"ETH", by decide⟩, ⟨"USD", by decide⟩⟩
  let rate : Decimal := .finite false 12345678901234567890123456789 0
  let v : Decimal := .finite false 1234567890123456789012345679 2
  let source : RateSource := fun _ _ => some (.decimal rate)
  let w : Decimal := .finite false 6666666666666666666666666667 (-28)
  let e : Expr := .unary .plus (.binary .div (.number (.ofNat 2)) (.number (.ofNat 3)))
  have facts : passes (fun book : Rulebook =>
      passes (fun rule : RateRule => decide (rule.text = "kraken(BTC_USD) * 10" ∧
        rule.expr.isComputed = true ∧
        rule.value? source = some v)) (book.rule p) &&
      passes (fun alone : RateRule => decide (alone.text = "+kraken(ETH_USD)" ∧
        alone.expr.isComputed = false ∧
        alone.value? source = some rate)) (book.rule q))
      (Rulebook.parse "BTC_USD = kraken(BTC_USD) * 10; ETH_USD = +kraken(ETH_USD);"
          (.decimal .one)) = true := by
    decide +kernel
  have calculated : calculate e = .ok ⟨[w], []⟩ := by decide +kernel
  have numbers : ∀ d, .number d ∈ e.leaves → d.isFinite = true := by
    simp [e, Expr.leaves, Decimal.ofNat, Decimal.isFinite]
  obtain ⟨book, accepted, facts⟩ := passes_iff.mp facts
  obtain ⟨hrule, halone⟩ := Bool.and_eq_true_iff.mp facts
  obtain ⟨rule, hrule, facts⟩ := passes_iff.mp hrule
  obtain ⟨written, computed, value⟩ := of_decide_eq_true facts
  obtain ⟨alone, halone, facts⟩ := passes_iff.mp halone
  obtain ⟨writtenAlone, bare, valueAlone⟩ := of_decide_eq_true facts
  obtain ⟨text, lookups, evaluated⟩ := RateRule.value?_eq_some_iff_evaluate.mp value
  obtain ⟨shown, asked, evaluatedAlone⟩ := RateRule.value?_eq_some_iff_evaluate.mp valueAlone
  obtain ⟨calculations, evaluations, finite⟩ := computed_values_fit
  have numbersOfRule := finite _ _ book p rule accepted hrule
  obtain ⟨-, -, fits⟩ := evaluations rule source _ lookups v numbersOfRule evaluated rfl
  exact ⟨book, p, q, rule, alone, source, text, shown, lookups, asked, v, w, rate, accepted, hrule,
    written, computed,
    numbersOfRule, halone, writtenAlone, bare, rfl, evaluated, evaluatedAlone, calculated,
    by decide +kernel,
    fits computed, (calculations e w numbers calculated).2 rfl⟩

/-- A number of 29 digits does not fit, and it is the value of a literal alone, in an expression and
in a rule. -/
theorem long_literal_is_kept :
    ∃ (book : Rulebook) (p : Pair) (rule : RateRule) (source : RateSource) (text : String)
      (lookups : List Requirement) (v : Decimal),
      v = .finite false 12345678901234567890123456789 0 ∧ v.isFinite = true ∧ v.fits = false ∧
      calculate (.number v) = .ok ⟨[v], []⟩ ∧ calculate (.unary .plus (.number v)) = .ok ⟨[v], []⟩ ∧
      Rulebook.parse "BTC_USD = 12345678901234567890123456789;" (.decimal .one) = .ok book ∧
      book.rule p = .ok rule ∧ rule.evaluate source = .ok (⟨some v, [], text⟩, lookups) := by
  let p : Pair := ⟨⟨"BTC", by decide⟩, ⟨"USD", by decide⟩⟩
  let v : Decimal := .finite false 12345678901234567890123456789 0
  let source : RateSource := fun _ _ => none
  have facts : passes (fun book : Rulebook =>
      passes (fun rule : RateRule => decide (rule.value? source = some v)) (book.rule p))
      (Rulebook.parse "BTC_USD = 12345678901234567890123456789;" (.decimal .one)) = true := by
        decide +kernel
  obtain ⟨book, accepted, facts⟩ := passes_iff.mp facts
  obtain ⟨rule, hrule, value⟩ := passes_iff.mp facts
  obtain ⟨text, lookups, evaluated⟩ :=
    RateRule.value?_eq_some_iff_evaluate.mp (of_decide_eq_true value)
  exact ⟨book, p, rule, source, text, lookups, v, rfl, rfl,
    by decide +kernel, rfl, rfl, accepted, hrule, evaluated⟩

end RateRules
