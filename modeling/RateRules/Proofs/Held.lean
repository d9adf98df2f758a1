import Mathlib.Data.List.Forall2
import RateRules.Proofs.FirstFault
import RateRules.Proofs.Rule

/-!
# Rules that are held and evaluated again

Every evaluation of a rule of an accepted script comes to an end, in a finite value without a fault
or in faults without a value. What it gives, and what the rule shows behind it, depends on its own
source alone and not on the evaluations before it.
-/
namespace RateRules

namespace Expr

/-- Flattening records one kind of fault. -/
def OnlyDeep (found : Findings) : Prop := ∀ f ∈ found.faults, f = .tooManyNestedCalls

theorem onlyDeep_flattenWith {inline : Pair → Findings → Expr × Findings}
    (inlines : ∀ p found, OnlyDeep found → OnlyDeep (inline p found).2) (context : Pair) (e : Expr)
    (found : Findings) (deep : OnlyDeep found) :
    OnlyDeep (flattenWith inline context none e found).2 := by
  cases e with
  | pair p => exact inlines _ found deep
  | call callee args =>
    rw [flattenWith_call]
    intro f hf
    rw [Findings.requireAll_faults] at hf
    exact deep f hf
  | unary op operand => exact onlyDeep_flattenWith inlines context operand found deep
  | binary op left right =>
    have first := onlyDeep_flattenWith inlines context left found deep
    exact onlyDeep_flattenWith inlines context right _ first
  | parenthesized inner => exact onlyDeep_flattenWith inlines context inner found deep
  | number d => exact deep
  | name word => exact deep
  | exchange venue => exact deep

theorem onlyDeep_inlined (candidate : Pair → Expr) (room : Nat) (p : Pair) (found : Findings)
    (deep : OnlyDeep found) : OnlyDeep (inlined candidate room p found).2 := by
  induction room generalizing p found with
  | zero =>
    intro f hf
    rcases List.mem_append.mp hf with hf | hf
    · exact deep f hf
    · exact List.mem_singleton.mp hf
  | succ room ih =>
    have inner := onlyDeep_flattenWith ih p (candidate p) found deep
    simp only [inlined]
    split
    · exact inner
    · exact inner

theorem onlyDeep_flatten (candidate : Pair → Expr) (p : Pair) (e : Expr) :
    OnlyDeep (flatten candidate p e).2 :=
  onlyDeep_flattenWith (onlyDeep_inlined candidate maxReferences) p e .empty fun _ hf => nomatch hf

/-- A call that gets no rate is no missing argument. -/
theorem ne_missingArgument_of_mem_rateFaults (source : RateSource) (e : Expr) (f : Fault)
    (h : f ∈ e.rateFaults source) : f ≠ .missingArgument := by
  cases e with
  | call callee args =>
    simp only [rateFaults, substitute, substituteCall] at h
    split at h
    · rw [List.mem_singleton.mp h]
      exact Fault.noConfusion
    · split at h
      · split at h
        · cases h
        · rw [List.mem_singleton.mp h]
          exact Fault.noConfusion
      · rw [List.mem_singleton.mp h]
        exact Fault.noConfusion
  | unary op operand => exact ne_missingArgument_of_mem_rateFaults source operand f h
  | binary op left right =>
    rw [rateFaults_binary] at h
    rcases List.mem_append.mp h with h | h
    · exact ne_missingArgument_of_mem_rateFaults source left f h
    · exact ne_missingArgument_of_mem_rateFaults source right f h
  | parenthesized inner => exact ne_missingArgument_of_mem_rateFaults source inner f h
  | number d => cases h
  | name word => cases h
  | pair p => cases h
  | exchange venue => cases h

/-- A number, or a call that a rate can be put in for. -/
def isPriceable : Expr → Bool
  | number _ => true
  | call .. => true
  | _ => false

/-- With a rate for every call, only numbers are left of what can be priced. -/
theorem isNumeric_rated (source : RateSource) (e : Expr)
    (priceable : ∀ x ∈ e.leaves, x.isPriceable = true) (rates : e.rateFaults source = []) :
    (e.rated source).IsNumeric := by
  cases e with
  | call callee args =>
    intro x hx
    cases hrate : callRate? source callee args with
    | none => exact absurd rates (rateFaults_call_of_no_rate source hrate)
    | some d =>
      rw [(rated_call_of_rate source hrate).1] at hx
      exact ⟨d, List.mem_singleton.mp hx⟩
  | unary op operand => exact isNumeric_rated source operand priceable rates
  | binary op left right =>
    rw [rateFaults_binary, List.append_eq_nil_iff] at rates
    have first :=
      isNumeric_rated source left (fun x hx => priceable x (List.mem_append_left _ hx)) rates.1
    have second :=
      isNumeric_rated source right (fun x hx => priceable x (List.mem_append_right _ hx)) rates.2
    intro x hx
    rw [rated_binary] at hx
    rcases List.mem_append.mp hx with hx | hx
    · exact first x hx
    · exact second x hx
  | parenthesized inner => exact isNumeric_rated source inner priceable rates
  | number d =>
    intro x hx
    exact ⟨d, List.mem_singleton.mp hx⟩
  | name word => cases priceable _ (List.mem_singleton.mpr rfl)
  | pair p => cases priceable _ (List.mem_singleton.mpr rfl)
  | exchange venue => cases priceable _ (List.mem_singleton.mpr rfl)

theorem isPriceable_filled (context : Pair) (e : Expr) :
    (e.filled context).isPriceable = e.isPriceable := by
  cases e <;> rfl

/-- A leaf of a normal expression is priced or it is a reference. -/
theorem isPriceable_of_mem_leaves (e : Expr) (normal : e.isNormal false = true) (x : Expr)
    (h : x ∈ e.leaves) : x.isPriceable = true ∨ ∃ p, x = pair p := by
  cases e with
  | unary op operand => exact isPriceable_of_mem_leaves operand normal x h
  | binary op left right =>
    rw [isNormal, Bool.and_eq_true] at normal
    rcases List.mem_append.mp h with h | h
    · exact isPriceable_of_mem_leaves left normal.1 x h
    · exact isPriceable_of_mem_leaves right normal.2 x h
  | number d =>
    rw [List.mem_singleton.mp h]
    exact Or.inl rfl
  | call callee args =>
    rw [List.mem_singleton.mp h]
    exact Or.inl rfl
  | pair p => exact Or.inr ⟨p, List.mem_singleton.mp h⟩
  | name word => cases normal
  | exchange venue => cases normal
  | parenthesized inner => cases normal

/-- No reference is left in a flattened expression, so all its leaves are priced. -/
theorem isPriceable_of_mem_leaves_flatten {candidate : Pair → Expr}
    (candidates : ∀ q, (candidate q).isNormal false = true) (p : Pair) (e : Expr)
    (priceable : ∀ x ∈ e.leaves, x.isPriceable = true ∨ ∃ q, x = pair q) (x : Expr)
    (h : x ∈ (flatten candidate p e).1.leaves) : x.isPriceable = true := by
  have own : ∀ context y, (y.isPriceable = true ∨ ∃ q, y = pair q) → y.reference? context = none →
      (y.filled context).isPriceable = true := by
    intro context y hy noReference
    rw [isPriceable_filled]
    rcases hy with hy | ⟨q, rfl⟩
    · exact hy
    · cases noReference
  rcases mem_leaves_flatten candidate p e x h with ⟨y, hy, noReference, rfl⟩ |
    ⟨q, _, rfl | ⟨y, hy, noReference, rfl⟩⟩
  · exact own p y (priceable y hy) noReference
  · rfl
  · exact own q y (isPriceable_of_mem_leaves (candidate q) (candidates q) y hy) noReference

end Expr

/-- An evaluation has a finite value and no faults, or no value and different faults of which the
first is no missing argument. -/
def Evaluation.IsSettled (evaluation : Evaluation) : Prop :=
  (∃ v, evaluation.value = some v ∧ v.isFinite = true ∧ evaluation.faults = []) ∨
    (evaluation.value = none ∧ evaluation.faults ≠ [] ∧ evaluation.faults.Nodup ∧
      evaluation.faults.head? ≠ some .missingArgument)

theorem Evaluation.isSettled_of_outcome {value : Option Decimal} {faults : List Fault}
    (h : RateRule.IsSettled value faults) (text : String) :
    (Evaluation.mk value faults.eraseDups text).IsSettled := by
  rcases h with ⟨v, rfl, finite, rfl⟩ | ⟨rfl, f, more, operation, rfl⟩
  · exact Or.inl ⟨v, rfl, finite, rfl⟩
  · refine Or.inr ⟨rfl, ?_, nodup_eraseDups _, ?_⟩
    · simp [List.eraseDups_cons]
    · simpa [List.eraseDups_cons] using operation

namespace Rulebook

variable {book : Rulebook} {p : Pair}

theorem isPriceable_of_mem_leaves_rule (normal : book.table.IsNormal) (x : Expr)
    (hx : x ∈ (book.ruleAt p).expr.leaves) : x.isPriceable = true := by
  have candidates := RuleTable.isNormal_candidate normal
  apply Expr.isPriceable_of_mem_leaves_flatten candidates p _ _ x hx
  intro y hy
  rcases mem_leaves_start hy with hy | rfl
  · exact Expr.isPriceable_of_mem_leaves (book.table.candidate p) (candidates p) y hy
  · exact Or.inl rfl

/-- Every evaluation of a rule of an accepted script settles. -/
theorem isSettled_of_evaluate (normal : book.table.IsNormal) {source : RateSource}
    {evaluation : Evaluation} {lookups : List Requirement}
    (h : (book.ruleAt p).evaluate source = .ok (evaluation, lookups)) : evaluation.IsSettled := by
  obtain ⟨_, faults, houtcome, hfaults, htext⟩ := RateRule.evaluate_eq_ok_iff.mp h
  obtain ⟨value, found, text⟩ := evaluation
  have settled : RateRule.IsSettled value faults := by
    by_cases before : (book.ruleAt p).faults ++ (book.ruleAt p).expr.rateFaults source = []
    · rw [before] at houtcome
      have rates := (List.append_eq_nil_iff.mp before).2
      have numeric := Expr.isNumeric_rated source _ (isPriceable_of_mem_leaves_rule normal) rates
      have finite := Expr.isFinite_of_mem_leaves_rated source (book.ruleAt p).expr fun d hd =>
        isNormal_of_mem_leaves_rule normal (.number d) hd
      exact RateRule.isSettled_of_isNumeric houtcome numeric finite
    · refine RateRule.isSettled_of_faults houtcome before fun f hf => ?_
      rcases List.mem_append.mp hf with hf | hf
      · have deep := Expr.onlyDeep_flatten book.table.candidate p (book.start p) f hf
        rw [deep]
        exact Fault.noConfusion
      · exact Expr.ne_missingArgument_of_mem_rateFaults source _ f hf
  cases hfaults
  exact Evaluation.isSettled_of_outcome settled text

end Rulebook

namespace HeldRule

/-- Evaluations one after the other, each with its own source: what each of them gives, and the rule
as it is held behind it. -/
def evaluateAll (held : HeldRule) :
    List RateSource → Except Decimal.Trap (List (Evaluation × HeldRule))
  | [] => .ok []
  | source :: more => do
    let (evaluation, _, after) ← held.evaluate source
    let rest ← evaluateAll after more
    return (evaluation, after) :: rest

theorem evaluate_eq_ok_iff {held after : HeldRule} {source : RateSource} {evaluation : Evaluation}
    {lookups : List Requirement} :
    held.evaluate source = .ok (evaluation, lookups, after) ↔
      held.rule.evaluate source = .ok (evaluation, lookups) ∧
      after = ⟨held.rule, some evaluation⟩ := by
  simp only [evaluate, bind_eq_ok, pure_eq_ok, Prod.mk.injEq]
  constructor
  · rintro ⟨_, h, rfl, rfl, rfl⟩
    exact ⟨h, rfl⟩
  · rintro ⟨h, rfl⟩
    exact ⟨_, h, rfl, rfl, rfl⟩

/-- If every source gives an evaluation, a sequence of evaluations goes to its end. Each of them is
that of the rule held afresh. -/
theorem evaluateAll_eq_ok {held : HeldRule} (sources : List RateSource)
    (h : ∀ source ∈ sources, ∃ evaluation lookups, held.rule.evaluate source =
      .ok (evaluation, lookups)) :
    ∃ outcomes, held.evaluateAll sources = .ok outcomes ∧
      List.Forall₂ (fun source outcome => ∃ lookups,
        (ofRule held.rule).evaluate source =
          .ok (outcome.1, lookups, outcome.2)) sources outcomes := by
  induction sources generalizing held with
  | nil => exact ⟨[], rfl, .nil⟩
  | cons source more ih =>
    obtain ⟨evaluation, lookups, evaluated⟩ := h source List.mem_cons_self
    -- The rule that is held does not change, so the later evaluations are of the same rule.
    have step : held.evaluate source = .ok (evaluation, lookups, ⟨held.rule, some evaluation⟩) :=
      evaluate_eq_ok_iff.mpr ⟨evaluated, rfl⟩
    obtain ⟨outcomes, further, all⟩ := @ih ⟨held.rule, some evaluation⟩ fun other hother =>
      h other (List.mem_cons_of_mem source hother)
    refine ⟨(evaluation, ⟨held.rule, some evaluation⟩) :: outcomes, ?_, ?_⟩
    · rw [evaluateAll, step]
      exact bind_eq_ok.mpr ⟨_, rfl, bind_eq_ok.mpr ⟨outcomes, further, rfl⟩⟩
    · exact .cons ⟨lookups, evaluate_eq_ok_iff.mpr ⟨evaluated, rfl⟩⟩ all

end HeldRule

namespace Rulebook

/-- Any sequence of evaluations of a rule of an accepted script goes to its end. Each of them
settles, is what a fresh rule gives with the same source, and leaves the rule as it leaves a fresh
one, which shows that evaluation. -/
theorem evaluations_settle_afresh (script : String) (given : Given) (book : Rulebook)
    (accepted : parse script given = .ok book) (p : Pair) (concrete : p.isPattern = false)
    (sources : List RateSource) :
    ∃ rule outcomes, book.rule p = .ok rule ∧
      (HeldRule.ofRule rule).evaluateAll sources = .ok outcomes ∧
      List.Forall₂ (fun source outcome =>
        outcome.1.IsSettled ∧
        (∃ lookups, (HeldRule.ofRule rule).evaluate source = .ok (outcome.1, lookups, outcome.2)) ∧
        outcome.2.value = outcome.1.value ∧ outcome.2.faults = outcome.1.faults ∧
        outcome.2.hasFault = outcome.1.hasFault ∧ outcome.2.evaluated = some outcome.1.evaluated)
        sources outcomes := by
  have normal := isNormal_of_tableOf (parse_eq_ok accepted)
  have ends : ∀ source ∈ sources, ∃ evaluation lookups,
      (book.ruleAt p).evaluate source = .ok (evaluation, lookups) := by
    intro source _
    obtain ⟨evaluation, evaluated⟩ := evaluate_of_isNormal normal p source
    exact ⟨evaluation, _, evaluated⟩
  obtain ⟨outcomes, run, all⟩ :=
    (@HeldRule.evaluateAll_eq_ok (.ofRule (book.ruleAt p))) sources ends
  refine ⟨book.ruleAt p, outcomes, rule_eq_ok book concrete, run, all.imp ?_⟩
  rintro source ⟨evaluation, after⟩ ⟨lookups, fresh⟩
  obtain ⟨evaluated, held⟩ := HeldRule.evaluate_eq_ok_iff.mp fresh
  obtain rfl : after = ⟨book.ruleAt p, some evaluation⟩ := held
  exact ⟨isSettled_of_evaluate normal evaluated, ⟨lookups, fresh⟩, rfl, rfl, rfl, rfl⟩

/-- One rule with a rate, a rate that leads to a division by zero, no rate, and the first rate
again. -/
theorem evaluations_of_changing_rates :
    ∃ (book : Rulebook) (p : Pair) (rule : RateRule) (outcomes : List (Evaluation × HeldRule)),
      parse "BTC_USD = 1 / (kraken(BTC_USD) - 1)" (.decimal .one) = .ok book ∧ p.isPattern = false ∧
      book.rule p = .ok rule ∧
      (HeldRule.ofRule rule).evaluateAll [fun _ _ => some (.whole 3), fun _ _ => some (.whole 1),
        fun _ _ => some (.text "NaN"), fun _ _ => some (.whole 3)] = .ok outcomes ∧
      outcomes.map (fun outcome => (outcome.2.value, outcome.2.faults)) =
        [(some (.finite false 5 (-1)), []), (none, [.divideByZero]), (none, [.rateUnavailable]),
          (some (.finite false 5 (-1)), [])] := by
  let p : Pair := ⟨⟨"BTC", by decide⟩, ⟨"USD", by decide⟩⟩
  let sources : List RateSource := [fun _ _ => some (.whole 3), fun _ _ => some (.whole 1),
    fun _ _ => some (.text "NaN"), fun _ _ => some (.whole 3)]
  have facts : passes (fun book : Rulebook => passes (fun rule : RateRule => passes (fun outcomes =>
      decide (outcomes.map (fun outcome : Evaluation × HeldRule =>
        (outcome.2.value, outcome.2.faults)) =
        [(some (.finite false 5 (-1)), []), (none, [.divideByZero]), (none, [.rateUnavailable]),
          (some (.finite false 5 (-1)), [])])) ((HeldRule.ofRule rule).evaluateAll sources))
            (book.rule p))
      (parse "BTC_USD = 1 / (kraken(BTC_USD) - 1)" (.decimal .one)) = true := by decide +kernel
  obtain ⟨book, accepted, facts⟩ := passes_iff.mp facts
  obtain ⟨rule, outcomes, hrule, run, _⟩ :=
    evaluations_settle_afresh _ _ book accepted p (by decide) sources
  simp only [hrule, run, passes, decide_eq_true_eq] at facts
  exact ⟨book, p, rule, outcomes, accepted, by decide, hrule, run, facts⟩

end Rulebook
end RateRules
