import RateRules.Proofs.References

/-!
# What a wildcard stands for

A wildcard stands for the code on its own side of the pair whose rule it is written in. So in the
rule of a one-sided pattern it is the currency that was matched when it stands on the side of the
pattern's wildcard, and the fixed code of the pattern when it stands on the other side.
-/
namespace RateRules

namespace Pair

/-- A pair that was filled has nothing left to fill. -/
theorem filledFrom_filledFrom (q p : Pair) : (q.filledFrom p).filledFrom p = q.filledFrom p := by
  simp only [filledFrom, mk.injEq]
  constructor
  · split <;> simp_all
  · split <;> simp_all

theorem left_filledFrom {q : Pair} (wild : q.left.isAny = true) (p : Pair) :
    (q.filledFrom p).left = p.left := by
  simp [filledFrom, wild]

theorem right_filledFrom {q : Pair} (wild : q.right.isAny = true) (p : Pair) :
    (q.filledFrom p).right = p.right := by
  simp [filledFrom, wild]

/-- Two pairs fill another one alike if they have the same code where it has a wildcard. -/
theorem filledFrom_eq_iff {q a b : Pair} :
    q.filledFrom a = q.filledFrom b ↔
      (q.left.isAny = true → a.left = b.left) ∧ (q.right.isAny = true → a.right = b.right) := by
  simp only [filledFrom, mk.injEq]
  constructor
  · rintro ⟨left, right⟩
    constructor
    · intro wild
      simpa [wild] using left
    · intro wild
      simpa [wild] using right
  · rintro ⟨left, right⟩
    constructor
    · split
      · next wild => exact left wild
      · rfl
    · split
      · next wild => exact right wild
      · rfl

end Pair

namespace Expr

mutual

/-- The pairs of an expression, inside and outside calls, from left to right. -/
def pairs : Expr → List Pair
  | pair p => [p]
  | call _ args => pairsOfAll args
  | unary _ operand => operand.pairs
  | binary _ left right => left.pairs ++ right.pairs
  | parenthesized inner => inner.pairs
  | _ => []

def pairsOfAll : List Expr → List Pair
  | [] => []
  | e :: more => e.pairs ++ pairsOfAll more

end

mutual

theorem pairs_filled (p : Pair) (e : Expr) : (e.filled p).pairs = e.pairs.map (·.filledFrom p) := by
  cases e with
  | pair q => rfl
  | call callee args => exact pairsOfAll_filledAll p args
  | unary op operand => exact pairs_filled p operand
  | binary op left right =>
    rw [filled, pairs, pairs, pairs_filled p left, pairs_filled p right, List.map_append]
  | parenthesized inner => exact pairs_filled p inner
  | number d => rfl
  | name word => rfl
  | exchange venue => rfl

theorem pairsOfAll_filledAll (p : Pair) (es : List Expr) :
    pairsOfAll (filledAll p es) = (pairsOfAll es).map (·.filledFrom p) := by
  cases es with
  | nil => rfl
  | cons e more =>
    rw [filledAll, pairsOfAll, pairsOfAll, pairs_filled p e, pairsOfAll_filledAll p more,
      List.map_append]

end

mutual

/-- Two pairs fill an expression alike if they fill each of its pairs alike. -/
theorem filled_eq_iff {a b : Pair} (e : Expr) :
    e.filled a = e.filled b ↔ ∀ q ∈ e.pairs, q.filledFrom a = q.filledFrom b := by
  cases e with
  | pair q => simp [filled, pairs]
  | call callee args => simp [filled, pairs, filledAll_eq_iff args]
  | unary op operand => simp [filled, pairs, filled_eq_iff operand]
  | binary op left right =>
    simp [filled, pairs, filled_eq_iff left, filled_eq_iff right, or_imp, forall_and]
  | parenthesized inner => simp [filled, pairs, filled_eq_iff inner]
  | number d => simp [filled, pairs]
  | name word => simp [filled, pairs]
  | exchange venue => simp [filled, pairs]

theorem filledAll_eq_iff {a b : Pair} (es : List Expr) :
    filledAll a es = filledAll b es ↔ ∀ q ∈ pairsOfAll es, q.filledFrom a = q.filledFrom b := by
  cases es with
  | nil => simp [filledAll, pairsOfAll]
  | cons e more =>
    simp [filledAll, pairsOfAll, filled_eq_iff e, filledAll_eq_iff more, or_imp, forall_and]

end

/-- An expression means the right code by every wildcard, unless one stands on the left. -/
theorem filled_eq_filled_right_iff (p : Pair) (e : Expr) :
    e.filled p = e.filled ⟨p.right, p.right⟩ ↔
      p.left = p.right ∨ ∀ q ∈ e.pairs, ¬ q.left.isAny = true := by
  simp only [filled_eq_iff, Pair.filledFrom_eq_iff]
  by_cases same : p.left = p.right
  · simp [same]
  · simp [same]

/-- An expression means the left code by every wildcard, unless one stands on the right. -/
theorem filled_eq_filled_left_iff (p : Pair) (e : Expr) :
    e.filled p = e.filled ⟨p.left, p.left⟩ ↔
      p.left = p.right ∨ ∀ q ∈ e.pairs, ¬ q.right.isAny = true := by
  simp only [filled_eq_iff, Pair.filledFrom_eq_iff]
  by_cases same : p.left = p.right
  · simp [same]
  · simp [same, Ne.symm same]

mutual

/-- Filling first changes nothing that flattening does. -/
theorem flattenWith_filled (inline : Pair → Findings → Expr × Findings) (p : Pair)
    (venue : Option String)
    (e : Expr) (found : Findings) :
    flattenWith inline p venue (e.filled p) found = flattenWith inline p venue e found := by
  cases e with
  | pair q => simp only [filled, flattenWith, Pair.filledFrom_filledFrom]
  | call callee args => simp only [filled, flattenWith, flattenAllWith_filled inline p _ args]
  | unary op operand => simp only [filled, flattenWith, flattenWith_filled inline p venue operand]
  | binary op left right =>
    simp only [filled, flattenWith, flattenWith_filled inline p venue left,
      flattenWith_filled inline p venue right]
  | parenthesized inner => simp only [filled, flattenWith, flattenWith_filled inline p venue inner]
  | number d => rfl
  | name word => rfl
  | exchange other => rfl

theorem flattenAllWith_filled (inline : Pair → Findings → Expr × Findings) (p : Pair)
    (venue : String)
    (es : List Expr) (found : Findings) :
    flattenAllWith inline p venue (filledAll p es) found =
      flattenAllWith inline p venue es found := by
  cases es with
  | nil => rfl
  | cons e more =>
    simp only [filledAll, flattenAllWith, flattenWith_filled inline p (some venue) e,
      flattenAllWith_filled inline p venue more]

end

/-- The same at every depth: the rule of each pair on the way is filled from that pair. -/
theorem inlined_filled (candidate : Pair → Expr) (room : Nat) :
    inlined (fun q => (candidate q).filled q) room = inlined candidate room := by
  induction room with
  | zero =>
    funext p found
    rfl
  | succ room ih =>
    funext p found
    simp only [inlined, ih, flattenWith_filled]

theorem flatten_filled (candidate : Pair → Expr) (p : Pair) (e : Expr) :
    flatten (fun q => (candidate q).filled q) p (e.filled p) = flatten candidate p e := by
  rw [flatten, flatten, inlined_filled, flattenWith_filled]

end Expr

open RateRules.Expr

namespace Rulebook

open Candidate

/-- The rule that a one-sided pattern gives is flattened as if every wildcard had been replaced by
the code on its side: the currency that was matched, if the pattern has its wildcard there, and the
fixed code of the pattern otherwise. The rules that are reached are filled in the same way from
their own pairs. So a wildcard means the matched currency throughout the expression exactly if none
stands on the side of the fixed code, or both codes are the same. -/
theorem wildcards_are_filled_by_side (book : Rulebook) (p : Pair) (concrete : p.isPattern = false)
    (c : Candidate) (chosen : best? (book.table.candidates p) = some c) (direct : c.inverse = false)
    (matched : Code)
    (oneSided : c.definition.pair = ⟨p.left, .any⟩ ∧ matched = p.right ∨
      c.definition.pair = ⟨.any, p.right⟩ ∧ matched = p.left) :
    book.table.candidate p = c.definition.expr ∧
    (∃ rule, book.rule p = .ok rule ∧
      flatten (fun q => (book.table.candidate q).filled q) p ((book.start p).filled p) =
        (rule.expr, ⟨rule.requirements, rule.faults⟩)) ∧
    (c.definition.expr.filled p).pairs = c.definition.expr.pairs.map (·.filledFrom p) ∧
    (∀ q ∈ c.definition.expr.pairs, (q.filledFrom p).isPattern = false ∧
      (q.left.isAny = true → (q.filledFrom p).left =
        if c.definition.pair.left.isAny then matched else c.definition.pair.left) ∧
      (q.right.isAny = true → (q.filledFrom p).right =
        if c.definition.pair.right.isAny then matched else c.definition.pair.right)) ∧
    (c.definition.expr.filled p = c.definition.expr.filled ⟨matched, matched⟩ ↔
      p.left = p.right ∨ ∀ q ∈ c.definition.expr.pairs,
        (q.left.isAny = true → c.definition.pair.left.isAny = true) ∧
        (q.right.isAny = true → c.definition.pair.right.isAny = true)) := by
  have codes : p.left.isAny = false ∧ p.right.isAny = false := by
    simpa [Pair.isPattern] using concrete
  have any : Code.any.isAny = true := rfl
  have left : p.left = if c.definition.pair.left.isAny then matched
      else c.definition.pair.left := by
    rcases oneSided with ⟨pattern, rfl⟩ | ⟨pattern, rfl⟩
    · simp [pattern, codes.1]
    · simp [pattern, any]
  have right : p.right = if c.definition.pair.right.isAny then matched
      else c.definition.pair.right := by
    rcases oneSided with ⟨pattern, rfl⟩ | ⟨pattern, rfl⟩
    · simp [pattern, any]
    · simp [pattern, codes.2]
  refine ⟨?_, ⟨book.ruleAt p, rule_eq_ok book concrete, ?_⟩, pairs_filled p _, fun q hq =>
    ⟨?_, ?_, ?_⟩, ?_⟩
  · rw [RuleTable.candidate, chosen]
    simp [direct]
  · rw [flatten_filled]
    rfl
  · exact q.isPattern_filledFrom concrete
  · intro wild
    rw [Pair.left_filledFrom wild, ← left]
  · intro wild
    rw [Pair.right_filledFrom wild, ← right]
  · rcases oneSided with ⟨pattern, rfl⟩ | ⟨pattern, rfl⟩
    · rw [filled_eq_filled_right_iff, pattern]
      simp only [any, codes.1, Bool.false_eq_true, imp_false, implies_true, and_true]
    · rw [filled_eq_filled_left_iff, pattern]
      simp only [any, codes.2, Bool.false_eq_true, imp_false, implies_true, true_and]

/-- Both wildcards of `BTC_X` stand on the right, where the pattern has its own. -/
theorem wildcards_on_the_matched_side :
    ∃ (book : Rulebook) (p : Pair) (c : Candidate) (rule : RateRule),
      parse "BTC_X = BTC_USD * USD_X; BTC_USD = kraken(BTC_USD); USD_X = ecb(USD_X);"
      (.decimal .one) = .ok book ∧
      p.text = "BTC_EUR" ∧ best? (book.table.candidates p) = some c ∧
      c.definition.pair = ⟨p.left, .any⟩ ∧
      book.table.candidate p = c.definition.expr ∧ c.definition.expr.render = "BTC_USD * USD_X" ∧
      c.definition.expr.filled p = c.definition.expr.filled ⟨p.right, p.right⟩ ∧
      book.rule p = .ok rule ∧ rule.text = "kraken(BTC_USD) * ecb(USD_EUR)" := by
  let p : Pair := ⟨⟨"BTC", by decide⟩, ⟨"EUR", by decide⟩⟩
  have facts : passes (fun book : Rulebook =>
      (best? (book.table.candidates p)).any (fun c => decide (c.inverse = false ∧
        c.definition.pair = ⟨p.left, .any⟩ ∧ c.definition.expr.render = "BTC_USD * USD_X" ∧
        c.definition.expr.pairs = [⟨p.left, ⟨"USD", by decide⟩⟩, ⟨⟨"USD", by decide⟩, .any⟩])) &&
      passes (fun rule : RateRule => decide (rule.text = "kraken(BTC_USD) * ecb(USD_EUR)"))
        (book.rule p))
      (parse "BTC_X = BTC_USD * USD_X; BTC_USD = kraken(BTC_USD); USD_X = ecb(USD_X);"
        (.decimal .one)) =
        true := by decide +kernel
  obtain ⟨book, hbook, facts⟩ := passes_iff.mp facts
  obtain ⟨chosen, priced⟩ := (Bool.and_eq_true _ _).mp facts
  obtain ⟨c, hc, facts⟩ := (Option.any_eq_true _ _).mp chosen
  obtain ⟨direct, pattern, text, pairs⟩ := of_decide_eq_true facts
  obtain ⟨rule, hrule, priced⟩ := passes_iff.mp priced
  obtain ⟨candidate, _, _, _, throughout⟩ :=
    wildcards_are_filled_by_side book p (by decide) c hc direct p.right
    (Or.inl ⟨pattern, rfl⟩)
  refine ⟨book, p, c, rule, hbook,
    by decide, hc, pattern, candidate, text, throughout.mpr (Or.inr ?_), hrule,
    of_decide_eq_true priced⟩
  rw [pairs, pattern]
  decide

/-- With the reciprocal on the side of the fixed code `USD_EUR` refers to `USD_USD` and not to
`EUR_USD`, and so to itself again and again. -/
theorem wildcards_may_mean_the_fixed_code :
    ∃ (book : Rulebook) (p : Pair) (c : Candidate) (rule : RateRule),
      parse
      "BTC_USD = kraken(BTC_USD);\nBTC_X = BTC_USD * USD_X;\nUSD_X = 1 / X_USD;\nX_USD = coingecko(X_USD);"
        (.decimal .one) = .ok book ∧
      p.text = "USD_EUR" ∧ best? (book.table.candidates p) = some c ∧ c.inverse = false ∧
      c.definition.pair = ⟨p.left, .any⟩ ∧ c.definition.expr.render = "1 / X_USD" ∧
      c.definition.expr.references p = [⟨p.left, p.left⟩] ∧
      c.definition.expr.filled p ≠ c.definition.expr.filled ⟨p.right, p.right⟩ ∧
      book.rule p = .ok rule ∧ rule.faults = [.tooManyNestedCalls] ∧
      (flatten book.table.candidate p (c.definition.expr.filled ⟨p.right, p.right⟩)).1.render =
        "1 / coingecko(EUR_USD)" := by
  let p : Pair := ⟨⟨"USD", by decide⟩, ⟨"EUR", by decide⟩⟩
  have facts : passes (fun book : Rulebook =>
      (best? (book.table.candidates p)).any (fun c => decide (c.inverse = false ∧
        c.definition.pair = ⟨p.left, .any⟩ ∧ c.definition.expr.render = "1 / X_USD" ∧
        c.definition.expr.references p = [⟨p.left, p.left⟩] ∧
        (c.definition.expr.filled p).render ≠ (c.definition.expr.filled ⟨p.right, p.right⟩).render ∧
        (flatten book.table.candidate p (c.definition.expr.filled ⟨p.right, p.right⟩)).1.render =
          "1 / coingecko(EUR_USD)")) &&
      passes (fun rule : RateRule => decide (rule.faults = [.tooManyNestedCalls])) (book.rule p))
      (parse
        "BTC_USD = kraken(BTC_USD);\nBTC_X = BTC_USD * USD_X;\nUSD_X = 1 / X_USD;\nX_USD = coingecko(X_USD);"
        (.decimal .one)) = true := by decide +kernel
  obtain ⟨book, hbook, facts⟩ := passes_iff.mp facts
  obtain ⟨chosen, priced⟩ := (Bool.and_eq_true _ _).mp facts
  obtain ⟨c, hc, facts⟩ := (Option.any_eq_true _ _).mp chosen
  obtain ⟨direct, pattern, text, references, differs, claimed⟩ := of_decide_eq_true facts
  obtain ⟨rule, hrule, priced⟩ := passes_iff.mp priced
  refine ⟨book, p, c, rule, hbook, by decide, hc, direct, pattern, text, references, ?_, hrule,
    of_decide_eq_true priced, claimed⟩
  intro same
  exact differs (congrArg render same)

end Rulebook
end RateRules
