import RateRules.Proofs.Choice
import RateRules.Proofs.Shape

/-!
# Reciprocals

The patterns of the inverse among those for a pair are the closest patterns for the inverse itself.
So a pair that is priced through its inverse is one hop away from a definition, and its price is one
over that of the inverse.
-/
namespace RateRules

open Candidate

theorem Pair.isPattern_inverse {p : Pair} (concrete : p.isPattern = false) :
    p.inverse.isPattern = false := by
  rw [← concrete]
  exact Bool.or_comm _ _

/-- The patterns for the inverse of a pair are the two closest kinds of patterns for that
inverse. -/
theorem Pattern.exists_closer_of_isInverseAt (p : Pair) {distance : Nat}
    (h : isInverseAt distance = true) :
    ∃ closer < 2, pairsAt p distance = pairsAt p.inverse closer := by
  rcases Bool.or_eq_true_iff.mp h with two | three
  · rw [eq_of_beq two]
    exact ⟨0, by decide, rfl⟩
  · rw [eq_of_beq three]
    exact ⟨1, by decide, rfl⟩

namespace RuleTable

variable {table : RuleTable} {p : Pair} {c : Candidate}

/-- Where a definition can price a pair through its inverse, the inverse has a definition of its
own. -/
theorem exists_own_of_inverse (hc : c ∈ table.candidates p) (inverse : c.inverse = true) :
    ∃ own, best? (table.candidates p.inverse) = some own ∧ own.inverse = false := by
  obtain ⟨defined, pattern, kind⟩ := mem_candidates_iff_pairsAt.mp hc
  obtain ⟨closer, close, same⟩ := Pattern.exists_closer_of_isInverseAt p (kind.symm.trans inverse)
  have direct : Pattern.isInverseAt closer = false := by
    rcases Nat.le_one_iff_eq_zero_or_eq_one.mp (Nat.le_of_lt_succ close) with rfl | rfl <;> rfl
  have member : ⟨closer, c.definition, false⟩ ∈ table.candidates p.inverse :=
    mem_candidates_iff_pairsAt.mpr ⟨defined, same ▸ pattern, direct.symm⟩
  cases best : best? (table.candidates p.inverse) with
  | none =>
    rw [best?_eq_none_iff.mp best] at member
    cases member
  | some own =>
    obtain ⟨hown, least⟩ := best?_eq_some best
    have notBetter := least _ member
    rw [Bool.eq_false_iff, ne_eq, isBetter_iff, not_or] at notBetter
    have near : own.distance < 2 := Nat.lt_of_le_of_lt (Nat.le_of_not_lt notBetter.1) close
    refine ⟨own, rfl, ?_⟩
    rw [(mem_candidates_iff_pairsAt.mp hown).2.2]
    rcases Nat.le_one_iff_eq_zero_or_eq_one.mp (Nat.le_of_lt_succ near) with same | same
      <;> rw [same] <;> rfl

theorem candidate_of_best? (best : best? (table.candidates p) = some c) :
    table.candidate p = if c.inverse then reciprocal p.inverse else c.definition.expr := by
  rw [candidate, best]

end RuleTable

/-- One has a quotient by every number but zero, unless the quotient overflows or the number is
signaling. -/
theorem BinaryOp.apply_div_one_eq_ok {w v : Decimal} :
    BinaryOp.div.apply .one w = .ok v ↔ w.isZero = false ∧ Decimal.one.div w = .ok v := by
  rw [apply]
  cases signaling : w.isSignaling with
  | true =>
    have refused : Decimal.one.div w = .error .invalid := by
      simp [Decimal.div, Decimal.undefinedResult?, signaling]
    simp [refused]
  | false =>
    cases zero : w.isZero with
    | true => simp
    | false => simpa using Failure.ofArithmetic_eq_ok

theorem Decimal.isSignaling_of_isZero {w : Decimal} (h : w.isZero = true) :
    w.isSignaling = false := by
  cases w with
  | finite negative coefficient exponent => rfl
  | infinite negative => cases h
  | undefined negative signaling payload => cases h

/-- One over an expression that comes to zero is a division by zero, and nothing is left of it. -/
theorem calculate_reciprocal_of_isZero {e : Expr} {w : Decimal} (h : e.value = .ok w)
    (zero : w.isZero = true) :
    calculate (.binary .div (.number .one) e) = .ok ⟨[], [.divideByZero]⟩ := by
  have divisor : Stack.run e (Stack.empty.push .one) = .ok ((Stack.empty.push .one).push w) :=
    Stack.run_eq_push e _ w h
  rw [calculate]
  refine Stack.run_binary_eq_ok.mpr ⟨_, _, rfl, divisor, ?_⟩
  simp [Stack.applyBinary, Stack.operation?, Stack.push, Stack.empty, Stack.fail, zero,
    Decimal.isSignaling_of_isZero zero]

namespace Rulebook

open RateRules.Expr

variable {book : Rulebook} {p : Pair} {source : RateSource}

theorem value?_eq_ruleAt (concrete : p.isPattern = false) :
    book.value? source p = (book.ruleAt p).value? source := by
  rw [value?, rule_eq_ok book concrete]

/-- A rule that starts from a reciprocal is one over what the reference to the inverse expands
to. -/
theorem exists_expanded_of_reciprocal (unit : book.multiplier.isOne = true)
    (concrete : p.isPattern = false)
    (through : book.table.candidate p = reciprocal p.inverse)
    (resolved : (book.ruleAt p).faults = []) :
    ∃ y, expanded book.table.candidate maxReferences p.inverse = some y ∧
      (book.table.candidate p).expandedWith (expanded book.table.candidate maxReferences) p =
        some (.binary .div (.number .one) y) ∧
      (book.ruleAt p).expr = .binary .div (.number .one) y := by
  obtain ⟨x, expands, flat⟩ := expandedWith_of_faults_eq_nil resolved
  rw [start_of_unit unit] at expands
  have split := expands
  rw [through] at split
  obtain ⟨one, y, hone, hy, rfl⟩ := expandedWith_binary.mp split
  cases hone
  rw [expandedWith, Pair.filledFrom_of_concrete (Pair.isPattern_inverse concrete)] at hy
  exact ⟨y, hy, expands, congrArg Prod.fst flat⟩

/-- The value of a reciprocal is one over that of the rule for the inverse. -/
theorem value?_of_reciprocal (unit : book.multiplier.isOne = true) (concrete : p.isPattern = false)
    (through : book.table.candidate p = reciprocal p.inverse)
    (resolved : (book.ruleAt p).faults = []) (v : Decimal) :
    (book.ruleAt p).value? source = some v ↔
      ∃ w, (book.ruleAt p.inverse).value? source = some w ∧ w.isZero = false ∧
      Decimal.one.div w = .ok v := by
  obtain ⟨y, hy, expands, _⟩ := exists_expanded_of_reciprocal unit concrete through resolved
  have inverse := Pair.isPattern_inverse concrete
  have meaning : ∀ w, y.Rates source w ↔ (book.ruleAt p.inverse).value? source = some w :=
    fun w => by
    rw [rates_expanded_iff unit inverse hy w, value?_eq_ruleAt inverse]
  rw [← value?_eq_ruleAt concrete, value?_eq_some_iff_rates unit concrete expands, rates_binary]
  constructor
  · rintro ⟨one, w, ⟨_, ⟨⟩⟩, hw, hv⟩
    exact ⟨w, (meaning w).mp hw, BinaryOp.apply_div_one_eq_ok.mp hv⟩
  · rintro ⟨w, hw, hv⟩
    exact ⟨.one, w, ⟨rfl, rfl⟩, (meaning w).mpr hw, BinaryOp.apply_div_one_eq_ok.mpr hv⟩

/-- If the rule for the inverse comes to zero, the reciprocal is a division by zero. -/
theorem evaluate_of_reciprocal_of_isZero (unit : book.multiplier.isOne = true)
    (concrete : p.isPattern = false)
    (through : book.table.candidate p = reciprocal p.inverse)
    (resolved : (book.ruleAt p).faults = []) {w : Decimal}
    (value : (book.ruleAt p.inverse).value? source = some w) (zero : w.isZero = true) :
    ∃ text lookups, (book.ruleAt p).evaluate source =
      .ok (⟨none, [.divideByZero], text⟩, lookups) := by
  obtain ⟨y, hy, _, expr⟩ := exists_expanded_of_reciprocal unit concrete through resolved
  rw [← value?_eq_ruleAt (Pair.isPattern_inverse concrete),
    ← rates_expanded_iff unit (Pair.isPattern_inverse concrete) hy w] at value
  obtain ⟨rated, own⟩ := value
  have faults : (book.ruleAt p).expr.rateFaults source = [] := by
    rw [expr, rateFaults_binary, rated]
    rfl
  have divided : RateRule.outcome ((book.ruleAt p).expr.rated source)
      ((book.ruleAt p).faults ++ (book.ruleAt p).expr.rateFaults source) =
          .ok (none, [.divideByZero]) := by
    rw [resolved, faults, expr, rated_binary]
    exact RateRule.outcome_of_calculate (calculate_reciprocal_of_isZero own zero)
  exact ⟨_, _, RateRule.evaluate_eq_ok_iff.mpr ⟨rfl, _, divided, rfl, rfl⟩⟩

/-- A pair that is priced through its inverse is one hop away from a definition: the inverse has a
definition of its own. Under the multiplier one, if the flattening of its rule has no fault, the
value of the rule is one over that of the rule for the inverse, rounded once, and there is no value
otherwise. If the inverse comes to zero, the rule has a division by zero and no other fault. -/
theorem reciprocals_are_single_hops (book : Rulebook) (p : Pair) (c : Candidate)
    (chosen : best? (book.table.candidates p) = some c) (inverse : c.inverse = true) :
    book.table.candidate p = reciprocal p.inverse ∧
    (∃ own, best? (book.table.candidates p.inverse) = some own ∧ own.inverse = false ∧
      own.definition ∈ book.table.definitions ∧
        book.table.candidate p.inverse = own.definition.expr) ∧
    (book.multiplier.isOne = true → p.isPattern = false →
      ∃ rule other, book.rule p = .ok rule ∧ book.rule p.inverse = .ok other ∧
        (rule.faults = [] → ∀ source : RateSource,
          (∀ v, rule.value? source = some v ↔
            ∃ w, other.value? source = some w ∧ w.isZero = false ∧ Decimal.one.div w = .ok v) ∧
          ∀ w, other.value? source = some w → w.isZero = true →
            ∃ text lookups, rule.evaluate source =
                .ok (⟨none, [.divideByZero], text⟩, lookups))) := by
  have through : book.table.candidate p = reciprocal p.inverse := by
    rw [RuleTable.candidate_of_best? chosen, inverse, if_pos rfl]
  refine ⟨through, ?_, ?_⟩
  · obtain ⟨own, best, direct⟩ := RuleTable.exists_own_of_inverse (best?_eq_some chosen).1 inverse
    refine ⟨own, best, direct, (RuleTable.mem_candidates_iff_pairsAt.mp (best?_eq_some best).1).1,
      ?_⟩
    rw [RuleTable.candidate_of_best? best, direct, if_neg Bool.false_ne_true]
  · intro unit concrete
    refine ⟨_, _, rule_eq_ok book concrete, rule_eq_ok book (Pair.isPattern_inverse concrete), ?_⟩
    intro resolved source
    refine ⟨value?_of_reciprocal unit concrete through resolved, ?_⟩
    intro w value zero
    exact evaluate_of_reciprocal_of_isZero unit concrete through resolved value zero

/-- A rule for any currency in US dollars prices US dollars in euros, at a rate of 1.25 and at a
rate of zero. -/
theorem reciprocal_of_wildcard_rule :
    ∃ (book : Rulebook) (p : Pair) (c own : Candidate) (rule other :
      RateRule) (source empty : RateSource)
      (text : String) (lookups : List Requirement),
      parse "X_USD = kraken(X_USD); X_X = bitpay(X_X);" (.decimal .one) = .ok book ∧
      p.text = "USD_EUR" ∧
      best? (book.table.candidates p) = some c ∧ c.inverse = true ∧ book.multiplier.isOne = true ∧
      p.isPattern = false ∧ book.rule p = .ok rule ∧ rule.faults = [] ∧
      rule.text = "1 / kraken(EUR_USD)" ∧
      best? (book.table.candidates p.inverse) = some own ∧ own.inverse = false ∧
      book.rule p.inverse = .ok other ∧
      other.value? source = some (.finite false 125 (-2)) ∧
      rule.value? source = some (.finite false 8 (-1)) ∧
      other.value? empty = some (.finite true 0 (-3)) ∧
      rule.evaluate empty = .ok (⟨none, [.divideByZero], text⟩, lookups) := by
  let p : Pair := ⟨⟨"USD", by decide⟩, ⟨"EUR", by decide⟩⟩
  let source : RateSource := fun _ _ => some (.decimal (.finite false 125 (-2)))
  let empty : RateSource := fun _ _ => some (.decimal (.finite true 0 (-3)))
  have facts : passes (fun book : Rulebook => book.multiplier.isOne &&
      (best? (book.table.candidates p)).any Candidate.inverse &&
      passes (fun rule : RateRule => decide (rule.faults = [] ∧ rule.text = "1 / kraken(EUR_USD)"))
        (book.rule p) &&
      passes (fun other : RateRule => decide (other.value? source = some (.finite false 125 (-2)) ∧
        other.value? empty = some (.finite true 0 (-3)))) (book.rule p.inverse))
      (parse "X_USD = kraken(X_USD); X_X = bitpay(X_X);" (.decimal .one)) = true := by
        decide +kernel
  obtain ⟨book, accepted, facts⟩ := passes_iff.mp facts
  simp only [Bool.and_eq_true, Option.any_eq_true] at facts
  obtain ⟨⟨⟨unit, c, chosen, inverse⟩, hrule⟩, hother⟩ := facts
  obtain ⟨rule, hrule, facts⟩ := passes_iff.mp hrule
  obtain ⟨other, hother, values⟩ := passes_iff.mp hother
  rw [decide_eq_true_eq] at facts values
  obtain ⟨-, ⟨own, best, direct, -⟩, meaning⟩ := reciprocals_are_single_hops book p c chosen inverse
  obtain ⟨rule', other', hrule', hother', priced⟩ := meaning unit (by decide)
  obtain rfl := Except.ok.inj (hrule.symm.trans hrule')
  obtain rfl := Except.ok.inj (hother.symm.trans hother')
  have eighth : Decimal.one.div (.finite false 125 (-2)) = .ok (.finite false 8 (-1)) := by
    decide +kernel
  have value := ((priced facts.1 source).1 _).mpr ⟨_, values.1, rfl, eighth⟩
  obtain ⟨text, lookups, divided⟩ := (priced facts.1 empty).2 _ values.2 rfl
  exact ⟨book, p, c, own, rule, other, source, empty, text, lookups, accepted,
    by decide, chosen, inverse, unit,
    by decide, hrule, facts.1, facts.2, best, direct, hother, values.1, value, values.2, divided⟩

end Rulebook
end RateRules
