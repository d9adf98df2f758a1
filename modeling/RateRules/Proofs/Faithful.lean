import RateRules.Proofs.Literals
import RateRules.Proofs.Readback

/-!
# Evaluated texts are faithful

The text of an expression of unsigned numbers and the four operations that calculate is read as the
expression without its parentheses, which calculates the same. So the text of an evaluation that has
a value is read as an expression with this value.
-/
namespace RateRules

open Script

namespace Expr

/-- Numbers that a script can spell, signs, the four operations that calculate, and parentheses. -/
def isArithmetic : Expr → Bool
  | number d => d.isLiteral
  | unary op operand => [UnaryOp.plus, .minus].contains op && operand.isArithmetic
  | binary op left right =>
    [BinaryOp.add, .sub, .mul, .div].contains op && left.isArithmetic && right.isArithmetic
  | parenthesized inner => inner.isArithmetic
  | _ => false

mutual

/-- The expression without its parentheses. -/
def erased : Expr → Expr
  | parenthesized inner => inner.erased
  | unary op operand => unary op operand.erased
  | binary op left right => binary op left.erased right.erased
  | call callee args => call callee.erased (erasedAll args)
  | number d => number d
  | name word => name word
  | pair p => pair p
  | exchange venue => exchange venue

/-- Arguments of a call. -/
def erasedAll : List Expr → List Expr
  | [] => []
  | e :: more => e.erased :: erasedAll more

end

theorem isArithmetic_unary {op : UnaryOp} {operand : Expr}
    (h : (unary op operand).isArithmetic = true) :
    (op = .plus ∨ op = .minus) ∧ operand.isArithmetic = true := by
  simpa [isArithmetic] using h

theorem isArithmetic_binary {op : BinaryOp} {left right : Expr}
    (h : (binary op left right).isArithmetic = true) :
    (op = .add ∨ op = .sub ∨ op = .mul ∨ op = .div) ∧ left.isArithmetic = true ∧
      right.isArithmetic = true := by
  simpa [isArithmetic, and_assoc] using h

/-- A script can spell an arithmetic expression, which has no powers and is read without its
parentheses. -/
theorem written_of_isArithmetic (e : Expr) (h : e.isArithmetic = true) :
    e.isSpellable = true ∧ e.bindsAsShown = true ∧ e.written = e.erased := by
  cases e with
  | number d => exact ⟨h, rfl, rfl⟩
  | unary op operand =>
    obtain ⟨sign, arithmetic⟩ := isArithmetic_unary h
    obtain ⟨spellable, binds, same⟩ := written_of_isArithmetic operand arithmetic
    rw [isSpellable, bindsAsShown, written, erased, spellable, same, Bool.and_true]
    rcases sign with rfl | rfl
    · exact ⟨rfl, binds, rfl⟩
    · exact ⟨rfl, binds, rfl⟩
  | binary op left right =>
    obtain ⟨calculates, arithmeticLeft, arithmeticRight⟩ := isArithmetic_binary h
    obtain ⟨spellableLeft, bindsLeft, sameLeft⟩ := written_of_isArithmetic left arithmeticLeft
    obtain ⟨spellableRight, bindsRight, sameRight⟩ := written_of_isArithmetic right arithmeticRight
    rw [isSpellable, bindsAsShown, written, erased, spellableLeft, spellableRight,
      bindsLeft, bindsRight,
      sameLeft, sameRight]
    rcases calculates with rfl | rfl | rfl | rfl
    all_goals exact ⟨rfl, rfl, rfl⟩
  | parenthesized inner =>
    obtain ⟨spellable, binds, same⟩ := written_of_isArithmetic inner h
    exact ⟨spellable, binds, same⟩
  | name word => cases h
  | pair p => cases h
  | exchange venue => cases h
  | call callee args => cases h

theorem isReadable_of_isArithmetic {e : Expr} (h : e.isArithmetic = true)
    (fits : Fits 0 e.render.toList) :
    e.IsReadable := by
  obtain ⟨spellable, binds, _⟩ := written_of_isArithmetic e h
  exact ⟨spellable, binds, fits⟩

/-- An expression whose value is known calculates with unsigned numbers alone. -/
theorem isArithmetic_of_value (e : Expr) (v : Decimal) (h : e.value = .ok v)
    (literals : ∀ d, number d ∈ e.leaves → d.isLiteral = true) : e.isArithmetic = true := by
  cases e with
  | number d => exact literals d (List.mem_singleton.mpr rfl)
  | unary op operand =>
    obtain ⟨a, ha, hv⟩ := value_unary_eq_ok.mp h
    rw [isArithmetic, isArithmetic_of_value operand a ha literals, Bool.and_true]
    cases op with
    | plus => rfl
    | minus => rfl
    | invert => cases hv
    | other sign => cases hv
  | binary op left right =>
    obtain ⟨a, b, ha, hb, hv⟩ := value_binary_eq_ok.mp h
    rw [isArithmetic, isArithmetic_of_value left a ha fun d hd =>
      literals d (List.mem_append_left _ hd),
      isArithmetic_of_value right b hb fun d hd => literals d (List.mem_append_right _ hd),
        Bool.and_true,
      Bool.and_true]
    cases op with
    | add => rfl
    | sub => rfl
    | mul => rfl
    | div => rfl
    | mod => cases hv
    | pow => cases hv
    | other sign => cases hv
  | parenthesized inner => exact isArithmetic_of_value inner v h literals
  | name word => cases h
  | pair p => cases h
  | exchange venue => cases h
  | call callee args => cases h

end Expr

/-- Parentheses make no difference to a calculation. -/
theorem Stack.run_erased (e : Expr) (s : Stack) : run e.erased s = run e s := by
  cases e with
  | parenthesized inner => exact run_erased inner s
  | unary op operand => simp only [Expr.erased, run, run_erased operand]
  | binary op left right => simp only [Expr.erased, run, run_erased left, run_erased right]
  | number d => rfl
  | name word => rfl
  | pair p => rfl
  | exchange venue => rfl
  | call callee args => rfl

theorem calculate_erased (e : Expr) : calculate e.erased = calculate e := Stack.run_erased e .empty

/-- A part that is no number, or a number that is short. -/
def Expr.isShortLeaf : Expr → Bool
  | number d => d.isShort
  | _ => true

/-- An evaluation whose own numbers and rates are ones that a script can spell, and whose text never
has too many brackets open, has a text that is read as an expression with its value. -/
theorem RateRule.evaluated_reads_back {rule : RateRule} {source : RateSource}
    {evaluation : Evaluation}
    {lookups : List Requirement} {v : Decimal}
    (h : rule.evaluate source = .ok (evaluation, lookups))
    (value : evaluation.value = some v)
    (literals : ∀ d, .number d ∈ (rule.expr.rated source).leaves → d.isLiteral = true)
    (fits : Fits 0 evaluation.evaluated.toList) :
    ∃ e, Script.expression evaluation.evaluated = .ok e ∧ calculate e = .ok ⟨[v], []⟩ := by
  obtain ⟨_, faults, houtcome, _, text⟩ := evaluate_eq_ok_iff.mp h
  rw [value] at houtcome
  obtain rfl := eq_nil_of_outcome houtcome
  have hvalue := (outcome_eq_some_iff.mp houtcome).2
  have arithmetic := Expr.isArithmetic_of_value _ v hvalue literals
  rw [text] at fits ⊢
  refine ⟨(rule.expr.rated source).erased, ?_, ?_⟩
  · rw [Expr.expression_render (Expr.isReadable_of_isArithmetic arithmetic fits),
      (Expr.written_of_isArithmetic _ arithmetic).2.2]
  · rw [calculate_erased]
    exact (calculate_eq_ok_iff _ v).mpr hvalue

namespace Rulebook

/-- The text of an arithmetic expression is read as the expression without its parentheses, which
calculates the same. The text of an evaluation that has a value is read as an expression with this
value, if the rates are unsigned. Brackets are at most two hundred deep and whole numbers at most as
long as a script can spell; a decimal that can be stored has its exponent within the limits of every
decimal. -/
theorem evaluated_text_is_faithful :
    (∀ e : Expr, e.isArithmetic = true → Fits 0 e.render.toList →
      Script.expression e.render = .ok e.erased ∧ calculate e.erased = calculate e) ∧
    ∀ (script : String) (given : Given) (book : Rulebook) (p : Pair) (rule : RateRule)
      (source : RateSource) (evaluation : Evaluation) (lookups : List Requirement) (v : Decimal),
      parse script given = .ok book → book.multiplier.isStorable = true → book.rule p = .ok rule →
      (∀ venue q d, source.rate? venue q = some d → d.isNegative = false ∧ d.isStorable = true) →
      rule.evaluate source = .ok (evaluation, lookups) → evaluation.value = some v →
      (∀ d, .number d ∈ (rule.expr.rated source).leaves → d.isShort = true) →
      Fits 0 evaluation.evaluated.toList →
      ∃ e, Script.expression evaluation.evaluated = .ok e ∧ calculate e = .ok ⟨[v], []⟩ := by
  constructor
  · intro e arithmetic fits
    rw [Expr.expression_render (Expr.isReadable_of_isArithmetic arithmetic fits),
      (Expr.written_of_isArithmetic e arithmetic).2.2]
    exact ⟨rfl, calculate_erased e⟩
  · intro script given book p rule source evaluation lookups v accepted storable hrule rates
      evaluated value
      short fits
    obtain rfl : book.ruleAt p = rule := eq_ruleAt_of_rule hrule
    have table := parse_eq_ok accepted
    refine RateRule.evaluated_reads_back evaluated value (fun d hd => ?_) fits
    have finite : d.isFinite = true :=
      Expr.isFinite_of_mem_leaves_rated source _ (fun d hd =>
        isNormal_of_mem_leaves_rule (isNormal_of_tableOf table) (.number d) hd) d hd
    have unsigned : d.isNegative = false ∧ d.isStorable = true := by
      rcases Expr.number_mem_leaves_rated source _ hd with own | ⟨venue, q, rate⟩
      · exact isNegative_of_mem_leaves_rule (isOfScript_of_tableOf table) storable own
      · exact rates venue q d rate
    exact Decimal.isLiteral_iff.mpr ⟨finite, unsigned.1, unsigned.2, short d hd⟩

/-- A difference within a difference, and a rule whose rate stands in one. -/
theorem evaluated_text_of_differences :
    (∃ e : Expr, e.isArithmetic = true ∧ e.render = "2 - ((1E+5) - -0.50)" ∧
      Script.expression e.render = .ok e.erased ∧ calculate e.erased = calculate e) ∧
    ∃ (book : Rulebook) (p : Pair) (rule : RateRule) (evaluation : Evaluation) (lookups :
      List Requirement),
      parse "BTC_USD = 1 - (kraken(BTC_USD) - 2) * 3" (.decimal .one) = .ok book ∧
      book.rule p = .ok rule ∧
      rule.evaluate (fun _ _ => some (.whole 5)) = .ok (evaluation, lookups) ∧
      evaluation.evaluated = "1 - (5 - 2) * 3" ∧
      ∃ e, Script.expression evaluation.evaluated = .ok e ∧
      calculate e = .ok ⟨[.finite true 8 0], []⟩ := by
  constructor
  · let e : Expr := .binary .sub (.number (.finite false 2 0))
      (.binary .sub (.parenthesized (.number (.finite false 1 5)))
        (.unary .minus (.number (.finite false 50 (-2)))))
    have arithmetic : e.isArithmetic = true := by decide +kernel
    have fits : Fits 0 e.render.toList := fits_of_count_le (by decide +kernel)
    exact ⟨e, arithmetic, by decide +kernel, evaluated_text_is_faithful.1 e arithmetic fits⟩
  · let p : Pair := ⟨⟨"BTC", by decide⟩, ⟨"USD", by decide⟩⟩
    let source : RateSource := fun _ _ => some (.whole 5)
    have rates : ∀ venue q d, source.rate? venue q = some d → d.isNegative = false ∧
        d.isStorable = true := by
      intro venue q d h
      have five : source.rate? venue q = some (.finite false 5 0) := rfl
      cases five.symm.trans h
      decide +kernel
    have facts : passes (fun book : Rulebook => passes (fun rule : RateRule => passes
        (fun outcome : Evaluation × List Requirement =>
          book.multiplier.isStorable && outcome.1.value == some (.finite true 8 0)
            && outcome.1.evaluated == "1 - (5 - 2) * 3"
            && (rule.expr.rated source).leaves.all Expr.isShortLeaf)
        (rule.evaluate source)) (book.rule p))
        (parse "BTC_USD = 1 - (kraken(BTC_USD) - 2) * 3" (.decimal .one)) = true := by
          decide +kernel
    obtain ⟨book, accepted, facts⟩ := passes_iff.mp facts
    obtain ⟨rule, hrule, facts⟩ := passes_iff.mp facts
    obtain ⟨⟨evaluation, lookups⟩, evaluated, facts⟩ := passes_iff.mp facts
    simp only [Bool.and_eq_true, beq_iff_eq] at facts
    obtain ⟨⟨⟨storable, value⟩, text⟩, short⟩ := facts
    have fits : Fits 0 evaluation.evaluated.toList := by
      rw [text]
      exact fits_of_count_le (by decide)
    exact ⟨book, p, rule, evaluation, lookups, accepted, hrule, evaluated, text,
      evaluated_text_is_faithful.2 _ _ book p rule source evaluation lookups _ accepted
      storable hrule rates
        evaluated value (fun d hd => List.all_eq_true.mp short _ hd) fits⟩

end Rulebook
end RateRules
