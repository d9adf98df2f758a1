import RateRules.Proofs.Positions
import RateRules.Proofs.Small
import RateRules.Proofs.Table

/-!
# The chosen rule

In a table whose definitions have positions in their own order, the rule for a pair is the first
definition at the least distance. The table of an accepted script is such a table, and none of its
expressions is the marker for a pair without a rule.
-/
namespace RateRules

open Candidate

/-- The pairs whose definitions are so far from an exact match. -/
def Pattern.pairsAt (p : Pair) : Nat → List Pair
  | 0 => [p]
  | 1 => [⟨p.left, .any⟩, ⟨.any, p.right⟩]
  | 2 => [p.inverse]
  | 3 => [⟨p.right, .any⟩, ⟨.any, p.left⟩]
  | 4 => [⟨.any, .any⟩]
  | _ => []

/-- At these distances a definition is for the inverse pair. -/
def Pattern.isInverseAt (distance : Nat) : Bool := distance == 2 || distance == 3

theorem Pattern.mem_all_iff {p q : Pair} {distance : Nat} {inverse : Bool} :
    ⟨q, distance, inverse⟩ ∈ Pattern.all p ↔
      q ∈ Pattern.pairsAt p distance ∧ inverse = Pattern.isInverseAt distance := by
  rcases distance with _ | _ | _ | _ | _ | further
  · simp [all, pairsAt, isInverseAt]
  · simp [all, pairsAt, isInverseAt, or_and_right]
  · simp [all, pairsAt, isInverseAt]
  · simp [all, pairsAt, isInverseAt, or_and_right]
  · simp [all, pairsAt, isInverseAt]
  · simp [all, pairsAt]

namespace RuleTable

variable {table : RuleTable} {p : Pair}

theorem mem_candidates_iff_pairsAt {c : Candidate} :
    c ∈ table.candidates p ↔ c.definition ∈ table.definitions ∧
      c.definition.pair ∈ Pattern.pairsAt p c.distance ∧
      c.inverse = Pattern.isInverseAt c.distance := by
  rw [mem_candidates_iff]
  simp only [Pattern.mem_all_iff]
  constructor
  · rintro ⟨d, hd, pattern, rfl⟩
    exact ⟨hd, pattern⟩
  · rintro ⟨hd, pattern⟩
    exact ⟨c.definition, hd, pattern, rfl⟩

theorem candidates_eq_nil_iff :
    table.candidates p = [] ↔ ∀ q ∈ (Pattern.all p).map Pattern.pair, table.find? q = none := by
  simp [candidates]

/-- A pair has no rule exactly if no pattern for it is defined. -/
theorem candidate_eq_marker_iff
    (unmarked : ∀ d ∈ table.definitions, d.expr ≠ .marker "NO_RULE_MATCH" [.pair p]) :
    table.candidate p = .marker "NO_RULE_MATCH" [.pair p] ↔
      ∀ q ∈ (Pattern.all p).map Pattern.pair, table.find? q = none := by
  rw [← candidates_eq_nil_iff, ← best?_eq_none_iff]
  rw [candidate]
  cases best : best? (table.candidates p) with
  | none => simp
  | some c =>
    have hc := (mem_candidates_iff_pairsAt.mp (best?_eq_some best).1).1
    simp only [reduceCtorEq, iff_false]
    split
    · exact Expr.noConfusion
    · exact unmarked c.definition hc

end RuleTable

namespace Rulebook

variable {script : String} {table : RuleTable}

theorem isUpper_of_exchangeName? {callee : Expr} {venue : String}
    (h : Expr.exchangeName? callee = some venue) (c : Char) (hc : c ∈ venue.toList) :
    c.isUpper = false := by
  obtain ⟨word, _, rfl⟩ := Expr.exists_of_exchangeName? h
  exact Text.isUpper_of_mem_small word c hc

/-- An exchange in a table is written in small letters, a marker in capitals. -/
theorem expr_ne_marker (h : tableOf script = .ok table) {d : Definition}
    (hd : d ∈ table.definitions)
    (p : Pair) : d.expr ≠ .marker "NO_RULE_MATCH" [.pair p] := by
  obtain ⟨e, written, clean, hexpr⟩ := exists_of_mem_definitions h hd
  rw [hexpr]
  intro marks
  cases e with
  | call callee args =>
    cases hvenue : Expr.exchangeName? callee with
    | none => simp [Expr.normalized, hvenue] at clean
    | some venue =>
      simp only [Expr.normalized, hvenue, Bool.false_eq_true, if_false, Expr.marker,
        Expr.call.injEq,
        Expr.exchange.injEq] at marks
      have small := isUpper_of_exchangeName? hvenue 'E' (by rw [marks.1]; decide)
      cases small
  | name word =>
    simp only [Expr.normalized] at marks
    split at marks <;> cases marks
  | number value => cases marks
  | pair p => cases written
  | exchange venue => cases written
  | parenthesized inner => cases written
  | unary op operand => cases marks
  | binary op left right => cases marks

end Rulebook
end RateRules
