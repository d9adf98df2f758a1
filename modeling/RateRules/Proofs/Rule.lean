import RateRules.Proofs.Finite
import RateRules.Proofs.Table

/-!
# Rules of a rulebook

A rule flattens the expression that it starts from. Under an accepted script all its leaves are
normal again, so every evaluation of it comes to an end.
-/
namespace RateRules

namespace Expr

theorem isNormal_of_mem_leaves (inCall : Bool) (e : Expr)
    (normal : e.isNormal inCall = true) (x : Expr)
    (h : x ∈ e.leaves) : x.isNormal inCall = true := by
  cases e with
  | unary op operand => exact isNormal_of_mem_leaves inCall operand normal x h
  | binary op left right =>
    rw [isNormal, Bool.and_eq_true] at normal
    rcases List.mem_append.mp h with h | h
    · exact isNormal_of_mem_leaves inCall left normal.1 x h
    · exact isNormal_of_mem_leaves inCall right normal.2 x h
  | call callee args => rw [List.mem_singleton.mp h, normal]
  | number d => rw [List.mem_singleton.mp h, normal]
  | pair p => rw [List.mem_singleton.mp h, normal]
  | name word => cases normal
  | exchange venue => cases normal
  | parenthesized inner => cases normal

mutual

/-- Filling wildcards keeps an expression normal. -/
theorem isNormal_filled (context : Pair) (inCall : Bool) (e : Expr) :
    (e.filled context).isNormal inCall = e.isNormal inCall := by
  cases e with
  | unary op operand => exact isNormal_filled context inCall operand
  | binary op left right =>
    simp only [filled, isNormal, isNormal_filled context inCall left,
      isNormal_filled context inCall right]
  | call callee args =>
    cases callee with
    | exchange venue => simp only [filled, isNormal, allNormal_filledAll context args]
    | _ => rfl
  | number d => rfl
  | pair p => rfl
  | name word => rfl
  | exchange venue => rfl
  | parenthesized inner => rfl

theorem allNormal_filledAll (context : Pair) (es : List Expr) :
    allNormal (filledAll context es) = allNormal es := by
  cases es with
  | nil => rfl
  | cons e more =>
    simp only [filledAll, allNormal, isNormal_filled context true e,
      allNormal_filledAll context more]

end

/-- If all leaves that flattening starts from are normal, then all that it leaves are. -/
theorem isNormal_of_mem_leaves_flatten {candidate : Pair → Expr}
    (candidates : ∀ q, (candidate q).isNormal false = true) (p : Pair) (e : Expr)
    (normal : ∀ x ∈ e.leaves, x.isNormal false = true) (x : Expr)
    (h : x ∈ (flatten candidate p e).1.leaves) : x.isNormal false = true := by
  rcases mem_leaves_flatten candidate p e x h with ⟨y, hy, _, rfl⟩ | ⟨q, _, rfl | ⟨y, hy, _, rfl⟩⟩
  · rw [isNormal_filled]
    exact normal y hy
  · rfl
  · rw [isNormal_filled]
    exact isNormal_of_mem_leaves false (candidate q) (candidates q) y hy

end Expr

namespace Rulebook

variable {book : Rulebook} {p : Pair}

/-- The rule for a pair that is no pattern. -/
def ruleAt (book : Rulebook) (p : Pair) : RateRule :=
  let (e, found) := (book.start p).flatten book.table.candidate p
  ⟨p, e, found.requirements, found.faults⟩

theorem rule_eq_ok (book : Rulebook) {p : Pair} (concrete : p.isPattern = false) :
    book.rule p = .ok (book.ruleAt p) := by
  simp [Rulebook.rule, ruleAt, concrete]

theorem eq_ruleAt_of_rule {rule : RateRule} (h : book.rule p = .ok rule) :
    book.ruleAt p = rule := by
  rw [Rulebook.rule] at h
  split at h
  · cases h
  · cases h
    rfl

theorem start_of_unit (unit : book.multiplier.isOne = true) (p : Pair) :
    book.start p = book.table.candidate p := by
  simp [start, unit]

/-- Apart from the multiplier a rule starts from the leaves of its candidate. -/
theorem mem_leaves_start {x : Expr} (h : x ∈ (book.start p).leaves) :
    x ∈ (book.table.candidate p).leaves ∨ x = .number book.multiplier := by
  unfold start at h
  simp only at h
  split at h
  · exact Or.inl h
  · rcases List.mem_append.mp h with h | h
    · exact Or.inl h
    · exact Or.inr (List.mem_singleton.mp h)

theorem references_start (book : Rulebook) (p : Pair) :
    (book.start p).references p = (book.table.candidate p).references p := by
  unfold start
  simp only
  split
  · rfl
  · rw [Expr.references_binary, Expr.references_number, List.append_nil,
      Expr.references_parenthesized]

theorem isFinite_multiplier (book : Rulebook) : book.multiplier.isFinite = true := by
  have positive := book.positive
  unfold Decimal.isPositive at positive
  split at positive
  · next h => rw [h]; rfl
  · cases positive

theorem isNormal_of_mem_leaves_start (normal : book.table.IsNormal) (x : Expr)
    (hx : x ∈ (book.start p).leaves) : x.isNormal false = true := by
  rcases mem_leaves_start hx with hx | rfl
  · exact Expr.isNormal_of_mem_leaves false _ (RuleTable.isNormal_candidate normal p) x hx
  · exact book.isFinite_multiplier

theorem isNormal_of_mem_leaves_rule (normal : book.table.IsNormal) (x : Expr)
    (hx : x ∈ (book.ruleAt p).expr.leaves) : x.isNormal false = true :=
  Expr.isNormal_of_mem_leaves_flatten (RuleTable.isNormal_candidate normal) p _
    (isNormal_of_mem_leaves_start normal) x hx

/-- A rule of an accepted script can be evaluated with every source of rates. -/
theorem evaluate_of_isNormal (normal : book.table.IsNormal) (p : Pair) (source : RateSource) :
    ∃ evaluation, (book.ruleAt p).evaluate source = .ok (evaluation, (book.ruleAt p).expr.asks) :=
  (book.ruleAt p).evaluate_of_isFinite source fun d hd =>
    isNormal_of_mem_leaves_rule normal (.number d) hd

end Rulebook
end RateRules
