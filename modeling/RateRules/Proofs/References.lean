import RateRules.Proofs.Rule

/-!
# What a reference means

A rule has the value that its own expression has once every call is replaced by its rate and every
reference by the value of the rule for it. So a reference has one meaning in whatever rule it
stands.
-/
namespace RateRules

open RateRules.Expr

/-- The value of the rule for a pair, if its evaluation has one. -/
def Rulebook.value? (book : Rulebook) (source : RateSource) (p : Pair) : Option Decimal :=
  match book.rule p with
  | .ok rule => rule.value? source
  | .error _ => none

/-- The expression of the rule for `context` with a number for each call and for each reference
outside calls: the rate that is looked up, and the price that `price` gives. -/
def Expr.priced (source : RateSource) (price : Pair → Option Decimal) (context : Pair) :
    Expr → Option Expr
  | pair p => (price (p.filledFrom context)).map number
  | call callee args => (callRate? source callee (filledAll context args)).map number
  | unary op operand => do
    let operand ← operand.priced source price context
    return unary op operand
  | binary op left right => do
    let left ← left.priced source price context
    let right ← right.priced source price context
    return binary op left right
  | parenthesized inner => do
    let inner ← inner.priced source price context
    return parenthesized inner
  | number value => some (number value)
  | name word => some (name word)
  | exchange venue => some (exchange venue)

/-- With its rates put in the expression has the value `v`. -/
def Expr.Rates (source : RateSource) (e : Expr) (v : Decimal) : Prop :=
  e.rateFaults source = [] ∧ (e.rated source).value = .ok v

/-- With its rates and prices put in the expression has the value `v`. -/
def Expr.Prices (source : RateSource) (price : Pair → Option Decimal) (context : Pair) (e : Expr)
    (v : Decimal) : Prop :=
  ∃ x, e.priced source price context = some x ∧ x.value = .ok v

variable {source : RateSource} {price : Pair → Option Decimal} {context : Pair} {v : Decimal}

theorem Pair.isPattern_filledFrom (p : Pair) {context : Pair}
    (concrete : context.isPattern = false) :
    (p.filledFrom context).isPattern = false := by
  simp only [isPattern, Bool.or_eq_false_iff] at concrete ⊢
  obtain ⟨hleft, hright⟩ := concrete
  constructor
  · cases h : p.left.isAny <;> simp [filledFrom, h, hleft]
  · cases h : p.right.isAny <;> simp [filledFrom, h, hright]

theorem rates_unary {op : UnaryOp} {e : Expr} :
    (unary op e).Rates source v ↔ ∃ a, e.Rates source a ∧ op.apply a = .ok v := by
  simp only [Rates, rateFaults_unary, rated_unary, value_unary_eq_ok, and_assoc, exists_and_left]

theorem rates_binary {op : BinaryOp} {l r : Expr} :
    (binary op l r).Rates source v ↔
      ∃ a b, l.Rates source a ∧ r.Rates source b ∧ op.apply a b = .ok v := by
  simp only [Rates, rateFaults_binary, rated_binary, value_binary_eq_ok, List.append_eq_nil_iff]
  constructor
  · rintro ⟨⟨hl, hr⟩, a, b, ha, hb, hv⟩
    exact ⟨a, b, ⟨hl, ha⟩, ⟨hr, hb⟩, hv⟩
  · rintro ⟨a, b, ⟨hl, ha⟩, ⟨hr, hb⟩, hv⟩
    exact ⟨⟨hl, hr⟩, a, b, ha, hb, hv⟩

theorem rates_parenthesized {e : Expr} : (parenthesized e).Rates source v ↔ e.Rates source v :=
  Iff.rfl

theorem rates_enclosed {e : Expr} : (enclosed e).Rates source v ↔ e.Rates source v := by
  rw [enclosed]
  split
  · exact rates_parenthesized
  · exact Iff.rfl

theorem rates_call {callee : Expr} {args : List Expr} :
    (call callee args).Rates source v ↔ callRate? source callee args = some v := by
  rw [Rates]
  cases h : callRate? source callee args with
  | none =>
    have refused := rateFaults_call_of_no_rate source h
    simp [refused]
  | some d =>
    obtain ⟨rated, faults⟩ := rated_call_of_rate source h
    simp [rated, faults, value]

theorem priced_unary {op : UnaryOp} {e : Expr} :
    (unary op e).priced source price context =
      (e.priced source price context).bind fun x => some (unary op x) := rfl

theorem priced_binary {op : BinaryOp} {l r : Expr} :
    (binary op l r).priced source price context = (l.priced source price context).bind fun x =>
      (r.priced source price context).bind fun y => some (binary op x y) := rfl

theorem priced_parenthesized {e : Expr} :
    (parenthesized e).priced source price context =
      (e.priced source price context).bind fun x => some (parenthesized x) := rfl

theorem priced_pair {p : Pair} :
    (pair p).priced source price context = (price (p.filledFrom context)).map number := rfl

theorem priced_call {callee : Expr} {args : List Expr} :
    (call callee args).priced source price context =
      (callRate? source callee (filledAll context args)).map number := rfl

theorem prices_unary {op : UnaryOp} {e : Expr} :
    (unary op e).Prices source price context v ↔
      ∃ a, e.Prices source price context a ∧ op.apply a = .ok v := by
  simp only [Prices, priced_unary, Option.bind_eq_some_iff, Option.some.injEq]
  constructor
  · rintro ⟨_, ⟨x, hx, rfl⟩, h⟩
    obtain ⟨a, ha, hv⟩ := value_unary_eq_ok.mp h
    exact ⟨a, ⟨x, hx, ha⟩, hv⟩
  · rintro ⟨a, ⟨x, hx, ha⟩, hv⟩
    exact ⟨_, ⟨x, hx, rfl⟩, value_unary_eq_ok.mpr ⟨a, ha, hv⟩⟩

theorem prices_binary {op : BinaryOp} {l r : Expr} :
    (binary op l r).Prices source price context v ↔
      ∃ a b, l.Prices source price context a ∧ r.Prices source price context b ∧
        op.apply a b = .ok v := by
  simp only [Prices, priced_binary, Option.bind_eq_some_iff, Option.some.injEq]
  constructor
  · rintro ⟨_, ⟨x, hx, y, hy, rfl⟩, h⟩
    obtain ⟨a, b, ha, hb, hv⟩ := value_binary_eq_ok.mp h
    exact ⟨a, b, ⟨x, hx, ha⟩, ⟨y, hy, hb⟩, hv⟩
  · rintro ⟨a, b, ⟨x, hx, ha⟩, ⟨y, hy, hb⟩, hv⟩
    exact ⟨_, ⟨x, hx, y, hy, rfl⟩, value_binary_eq_ok.mpr ⟨a, b, ha, hb, hv⟩⟩

theorem prices_parenthesized {e : Expr} :
    (parenthesized e).Prices source price context v ↔ e.Prices source price context v := by
  simp only [Prices, priced_parenthesized, Option.bind_eq_some_iff, Option.some.injEq]
  constructor
  · rintro ⟨_, ⟨x, hx, rfl⟩, h⟩
    exact ⟨x, hx, h⟩
  · rintro ⟨x, hx, h⟩
    exact ⟨_, ⟨x, hx, rfl⟩, h⟩

theorem prices_pair {p : Pair} :
    (pair p).Prices source price context v ↔ price (p.filledFrom context) = some v := by
  simp only [Prices, priced_pair, Option.map_eq_some_iff]
  constructor
  · rintro ⟨_, ⟨w, hw, rfl⟩, ⟨⟩⟩
    exact hw
  · intro h
    exact ⟨_, ⟨v, h, rfl⟩, rfl⟩

theorem prices_call {callee : Expr} {args : List Expr} :
    (call callee args).Prices source price context v ↔
      callRate? source callee (filledAll context args) = some v := by
  simp only [Prices, priced_call, Option.map_eq_some_iff]
  constructor
  · rintro ⟨_, ⟨w, hw, rfl⟩, ⟨⟩⟩
    exact hw
  · intro h
    exact ⟨_, ⟨v, h, rfl⟩, rfl⟩

/-- If every reference that expands is priced at the value of its expansion, an expression is
priced at the value of its own. -/
theorem rates_expandedWith_iff {expand : Pair → Option Expr}
    (concrete : context.isPattern = false)
    (references : ∀ p x, p.isPattern = false → expand p = some x →
      ∀ v, x.Rates source v ↔ price p = some v)
    (e x : Expr) (h : e.expandedWith expand context = some x) (v : Decimal) :
    x.Rates source v ↔ e.Prices source price context v := by
  cases e with
  | pair p => rw [prices_pair, references _ x (Pair.isPattern_filledFrom p concrete) h]
  | call callee args =>
    cases h
    rw [rates_call, prices_call]
  | unary op operand =>
    obtain ⟨y, hy, rfl⟩ := expandedWith_unary.mp h
    simp only [rates_unary, prices_unary, rates_expandedWith_iff concrete references operand y hy]
  | binary op left right =>
    obtain ⟨y, z, hy, hz, rfl⟩ := expandedWith_binary.mp h
    simp only [rates_binary, prices_binary, rates_expandedWith_iff concrete references left y hy,
      rates_expandedWith_iff concrete references right z hz]
  | parenthesized inner =>
    obtain ⟨y, hy, rfl⟩ := expandedWith_parenthesized.mp h
    rw [rates_parenthesized, prices_parenthesized,
      rates_expandedWith_iff concrete references inner y hy]
  | number _ | name _ | exchange _ =>
    cases h
    constructor
    · rintro ⟨-, value⟩
      exact ⟨_, rfl, value⟩
    · rintro ⟨_, ⟨⟩, value⟩
      exact ⟨rfl, value⟩

namespace Rulebook

variable {book : Rulebook} {p : Pair}

/-- A rule that expands is worth what its expansion is worth. -/
theorem value?_eq_some_iff_rates (unit : book.multiplier.isOne = true)
    (concrete : p.isPattern = false) {x : Expr}
    (expands : (book.table.candidate p).expandedWith
      (expanded book.table.candidate maxReferences) p = some x) :
    book.value? source p = some v ↔ x.Rates source v := by
  have whole := flatten_flattens book.table.candidate p (book.table.candidate p)
  rw [expands, flattens_some] at whole
  rw [value?, rule_eq_ok book concrete]
  simp only [RateRule.value?_eq_some_iff, ruleAt, start_of_unit unit, whole,
    Findings.requireAll_faults]
  exact and_iff_right rfl

/-- Inside a rule a reference is worth what the rule for it is worth. -/
theorem rates_expanded_iff (unit : book.multiplier.isOne = true) (concrete : p.isPattern = false)
    {x : Expr} (expands : expanded book.table.candidate maxReferences p = some x) (v : Decimal) :
    x.Rates source v ↔ book.value? source p = some v := by
  obtain ⟨y, hy, rfl⟩ := expanded_succ.mp expands
  have more := expandedWith_mono (expanded_room_succ book.table.candidate _) _ y hy
  rw [rates_enclosed, value?_eq_some_iff_rates unit concrete more]

/-- A rule whose flattening has no fault gives the value `v` exactly when its own expression, with
every call replaced by its rate and every reference by the value of the rule for it, comes to
`v`. -/
theorem value_iff_value_with_references (book : Rulebook) (unit : book.multiplier.isOne = true)
    (source : RateSource) (p : Pair) (concrete : p.isPattern = false) :
    ∃ rule, book.rule p = .ok rule ∧
      (rule.faults = [] → ∀ v,
        (∃ text lookups, rule.evaluate source = .ok (⟨some v, [], text⟩, lookups)) ↔
          ∃ e, (book.table.candidate p).priced source (book.value? source) p = some e ∧
            calculate e = .ok ⟨[v], []⟩) := by
  refine ⟨book.ruleAt p, rule_eq_ok book concrete, ?_⟩
  intro resolved v
  obtain ⟨x, expands, _⟩ := expandedWith_of_faults_eq_nil resolved
  rw [start_of_unit unit] at expands
  have value : book.value? source p = some v ↔ x.Rates source v :=
    value?_eq_some_iff_rates unit concrete expands
  have priced : x.Rates source v ↔
      (book.table.candidate p).Prices source (book.value? source) p v :=
    rates_expandedWith_iff concrete (fun q y hq hy w =>
      rates_expanded_iff unit hq hy w) _ x expands v
  rw [value?, rule_eq_ok book concrete] at value
  simp only [RateRule.value?_eq_some_iff_evaluate] at value
  rw [value, priced]
  simp only [Prices, calculate_eq_ok_iff]

/-- Two references deep, one of them through a reciprocal: 50000 × (1 / (1.0 × 1.25)). -/
theorem value_with_references_through_reciprocal :
    ∃ book p source rule,
      parse "BTC_X = BTC_USD * USD_X; BTC_USD = kraken(BTC_USD); X_USD = 1.0 * bitpay(X_USD);"
        (.decimal .one) = .ok book ∧
      book.multiplier.isOne = true ∧ p.isPattern = false ∧ book.rule p = .ok rule ∧
      rule.faults = [] ∧ rule.text = "kraken(BTC_USD) * (1 / (1.0 * bitpay(EUR_USD)))" ∧
      rule.value? source = some (.finite false 400000 (-1)) ∧
      ∀ v, (∃ text lookups, rule.evaluate source = .ok (⟨some v, [], text⟩, lookups)) ↔
        ∃ e, (book.table.candidate p).priced source (book.value? source) p = some e ∧
          calculate e = .ok ⟨[v], []⟩ := by
  let p : Pair := ⟨⟨"BTC", by decide⟩, ⟨"EUR", by decide⟩⟩
  let source : RateSource := fun venue _ =>
    some (.decimal (if venue = "kraken" then .ofNat 50000 else .finite false 125 (-2)))
  have facts : passes (fun book : Rulebook => book.multiplier.isOne &&
      passes (fun rule : RateRule =>
      decide (rule.faults = [] ∧ rule.text = "kraken(BTC_USD) * (1 / (1.0 * bitpay(EUR_USD)))" ∧
        rule.value? source = some (.finite false 400000 (-1)))) (book.rule p))
      (parse "BTC_X = BTC_USD * USD_X; BTC_USD = kraken(BTC_USD); X_USD = 1.0 * bitpay(X_USD);"
        (.decimal .one)) = true := by decide +kernel
  obtain ⟨book, hbook, facts⟩ := passes_iff.mp facts
  rw [Bool.and_eq_true] at facts
  obtain ⟨unit, facts⟩ := facts
  obtain ⟨rule, hrule, facts⟩ := passes_iff.mp facts
  rw [decide_eq_true_eq] at facts
  obtain ⟨resolved, text, value⟩ := facts
  obtain ⟨same, hsame, meaning⟩ := value_iff_value_with_references book unit source p (by decide)
  obtain rfl : rule = same := Except.ok.inj (hrule.symm.trans hsame)
  exact ⟨book, p, source, rule, hbook, unit,
    by decide, hrule, resolved, text, value, meaning resolved⟩

end Rulebook
end RateRules
