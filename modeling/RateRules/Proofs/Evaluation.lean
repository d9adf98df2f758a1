import RateRules.Proofs.Value
import RateRules.Proofs.Substitution
import RateRules.RateRule

/-!
# Evaluations with a value

An evaluation gives a value exactly when the rule was flattened without a fault, every call has a
rate, and the expression with its rates has that value.
-/
namespace RateRules.RateRule

/-- The value of an evaluation without faults. -/
def value? (rule : RateRule) (source : RateSource) : Option Decimal :=
  match rule.evaluate source with
  | .ok (⟨some v, [], _⟩, _) => some v
  | _ => none

/-- What is left of a calculation: one value alone, or the faults that it recorded. -/
def answer (s : Stack) : Option Decimal × List Fault :=
  match s.values, s.faults with
  | [d], [] => (some d, [])
  | _, [] => (none, [.missingArgument])
  | _, faults => (none, faults)

theorem answer_of_faults (s : Stack) {f : Fault} {more : List Fault} (h : s.faults = f :: more) :
    answer s = (none, f :: more) := by
  obtain ⟨values, faults⟩ := s
  obtain rfl : faults = f :: more := h
  rcases values with _ | ⟨d, _ | ⟨d', rest⟩⟩
  · rfl
  · rfl
  · rfl

theorem answer_cases (s : Stack) :
    (∃ d, s = ⟨[d], []⟩ ∧ answer s = (some d, [])) ∨
    (s.faults = [] ∧ answer s = (none, [.missingArgument])) ∨
      ∃ f more, s.faults = f :: more ∧ answer s = (none, f :: more) := by
  obtain ⟨values, faults⟩ := s
  cases faults with
  | cons f more => exact Or.inr (Or.inr ⟨f, more, rfl, answer_of_faults _ rfl⟩)
  | nil =>
    rcases values with _ | ⟨d, _ | ⟨d', rest⟩⟩
    · exact Or.inr (Or.inl ⟨rfl, rfl⟩)
    · exact Or.inl ⟨d, rfl, rfl⟩
    · exact Or.inr (Or.inl ⟨rfl, rfl⟩)

/-- Without faults from before, an outcome is that of the calculation. -/
theorem outcome_nil (e : Expr) : outcome e [] = (calculate e).map answer := by
  rw [outcome]
  cases calculate e <;> rfl

theorem outcome_of_calculate {e : Expr} {s : Stack} (h : calculate e = .ok s) :
    outcome e [] = .ok (answer s) := by
  rw [outcome_nil, h]
  rfl

theorem exists_answer_of_outcome {e : Expr} {found : List Fault} {value : Option Decimal}
    (h : outcome e [] = .ok (value, found)) :
    ∃ s, calculate e = .ok s ∧ answer s = (value, found) := by
  rw [outcome_nil] at h
  cases calculated : calculate e with
  | error trap =>
    rw [calculated] at h
    cases h
  | ok s =>
    rw [calculated] at h
    exact ⟨s, rfl, Except.ok.inj h⟩

theorem outcome_eq_some_iff {e : Expr} {faults : List Fault} {v : Decimal} :
    outcome e faults = .ok (some v, []) ↔ faults = [] ∧ e.value = .ok v := by
  cases faults with
  | cons f more =>
    constructor
    · intro h
      cases h
    · rintro ⟨h, _⟩
      cases h
  | nil =>
    rw [← calculate_eq_ok_iff]
    constructor
    · intro h
      obtain ⟨s, calculated, h⟩ := exists_answer_of_outcome h
      rcases answer_cases s with ⟨d, rfl, own⟩ | ⟨_, own⟩ | ⟨f, more, _, own⟩
      · cases own.symm.trans h
        exact ⟨rfl, calculated⟩
      · cases own.symm.trans h
      · cases own.symm.trans h
    · rintro ⟨-, calculated⟩
      rw [outcome_nil, calculated]
      rfl

/-- Where there is a value there is no fault. -/
theorem eq_nil_of_outcome {e : Expr} {faults found : List Fault} {v : Decimal}
    (h : outcome e faults = .ok (some v, found)) : found = [] := by
  cases faults with
  | cons f more => cases h
  | nil =>
    obtain ⟨s, _, h⟩ := exists_answer_of_outcome h
    rcases answer_cases s with ⟨d, _, own⟩ | ⟨_, own⟩ | ⟨f, more, _, own⟩
    · cases own.symm.trans h
      rfl
    · cases own.symm.trans h
    · cases own.symm.trans h

theorem evaluate_eq (rule : RateRule) (source : RateSource) :
    rule.evaluate source =
      (outcome (rule.expr.rated source) (rule.faults ++ rule.expr.rateFaults source)).map
        fun (value, faults) =>
          (⟨value, faults.eraseDups, (rule.expr.rated source).render⟩, rule.expr.asks) := by
  simp only [evaluate, Expr.substitute_eq, List.nil_append]
  cases outcome (rule.expr.rated source) (rule.faults ++ rule.expr.rateFaults source) <;> rfl

/-- What an evaluation says if it comes to an end. -/
theorem evaluate_eq_ok_iff {rule : RateRule} {source : RateSource} {evaluation : Evaluation}
    {lookups : List Requirement} :
    rule.evaluate source = .ok (evaluation, lookups) ↔
      lookups = rule.expr.asks ∧ ∃ faults,
        outcome (rule.expr.rated source) (rule.faults ++ rule.expr.rateFaults source) =
          .ok (evaluation.value, faults) ∧
        evaluation.faults = faults.eraseDups ∧
        evaluation.evaluated = (rule.expr.rated source).render := by
  obtain ⟨value, faults, evaluated⟩ := evaluation
  rw [evaluate_eq]
  cases outcome (rule.expr.rated source) (rule.faults ++ rule.expr.rateFaults source) with
  | error trap => simp [Except.map]
  | ok result =>
    obtain ⟨v, found⟩ := result
    simp only [Except.map, Except.ok.injEq, Prod.mk.injEq, Evaluation.mk.injEq]
    constructor
    · rintro ⟨⟨rfl, rfl, rfl⟩, rfl⟩
      exact ⟨rfl, found, ⟨rfl, rfl⟩, rfl, rfl⟩
    · rintro ⟨rfl, _, ⟨rfl, rfl⟩, rfl, rfl⟩
      exact ⟨⟨rfl, rfl, rfl⟩, rfl⟩

theorem eraseDups_eq_nil_iff {faults : List Fault} : faults.eraseDups = [] ↔ faults = [] := by
  cases faults with
  | nil => rfl
  | cons f more => simp [List.eraseDups_cons]

theorem value?_eq_some_iff_evaluate {rule : RateRule} {source : RateSource} {v : Decimal} :
    rule.value? source = some v ↔
      ∃ text lookups, rule.evaluate source = .ok (⟨some v, [], text⟩, lookups) := by
  rw [value?]
  split
  · next w text lookups h =>
    rw [h]
    constructor
    · rintro ⟨⟩
      exact ⟨text, lookups, rfl⟩
    · rintro ⟨_, _, ⟨⟩⟩
      rfl
  · next other =>
    constructor
    · rintro ⟨⟩
    · rintro ⟨text, lookups, h⟩
      exact absurd h (other v text lookups)

theorem value?_eq_some_iff {rule : RateRule} {source : RateSource} {v : Decimal} :
    rule.value? source = some v ↔
      rule.faults = [] ∧ rule.expr.rateFaults source = [] ∧
        (rule.expr.rated source).value = .ok v := by
  rw [value?_eq_some_iff_evaluate, ← and_assoc, ← List.append_eq_nil_iff, ← outcome_eq_some_iff]
  constructor
  · rintro ⟨text, lookups, h⟩
    obtain ⟨_, faults, hout, hfaults, _⟩ := evaluate_eq_ok_iff.mp h
    rw [eraseDups_eq_nil_iff.mp hfaults.symm] at hout
    exact hout
  · intro h
    exact ⟨_, _, evaluate_eq_ok_iff.mpr ⟨rfl, [], h, rfl, rfl⟩⟩

end RateRules.RateRule
