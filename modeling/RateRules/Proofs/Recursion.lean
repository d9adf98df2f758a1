import RateRules.Proofs.FirstFault

/-!
# Calculations and recursive values

A calculation with a stack ends in one value without a fault exactly if the expression has that
value, worked out from its parts. If the expression fails at an operation, the fault of that
operation is recorded first. So a calculation succeeds only if each part of the expression has a
value.
-/
namespace RateRules

namespace Expr

/-- Where a whole has a value, each of its parts has one. -/
theorem exists_value_of_mem_nodes (e : Expr) {v : Decimal} (h : e.value = .ok v) (x : Expr)
    (hx : x ∈ e.nodes) :
    ∃ w, x.value = .ok w := by
  induction e using value.induct generalizing v with
  | case1 d =>
    rw [List.mem_singleton.mp hx]
    exact ⟨d, rfl⟩
  | case2 inner ih =>
    rcases List.mem_cons.mp hx with rfl | hx
    · exact ⟨v, h⟩
    · exact ih h hx
  | case3 op operand ih =>
    obtain ⟨a, ha, _⟩ := value_unary_eq_ok.mp h
    rcases List.mem_cons.mp hx with rfl | hx
    · exact ⟨v, h⟩
    · exact ih ha hx
  | case4 op left right ihl ihr =>
    obtain ⟨a, b, ha, hb, _⟩ := value_binary_eq_ok.mp h
    rcases List.mem_cons.mp hx with rfl | hx
    · exact ⟨v, h⟩
    · rcases List.mem_append.mp hx with hx | hx
      · exact ihl ha hx
      · exact ihr hb hx
  | case5 e number parenthesized unary binary =>
    rw [value_of_leaf number parenthesized unary binary] at h
    cases h

end Expr

/-- An expression of finite numbers is calculated to the end. What is left is one value without a
fault exactly if the expression has that value. If it fails at an operation, the fault of that
operation is recorded first, and that is how an expression of numbers and operations fails. One
value without a fault is left only if each part of the expression has a value. -/
theorem calculation_refines_value (e : Expr)
    (finite : ∀ d, .number d ∈ e.leaves → d.isFinite = true) :
    ∃ s, calculate e = .ok s ∧
      (∀ v, (s.values = [v] ∧ s.faults = []) ↔ e.value = .ok v) ∧
      (∀ f, e.value = .error (.fault f) → ∃ more, s.faults = f :: more) ∧
      (e.IsNumeric → ∀ failure, e.value = .error failure →
        ∃ f more, failure = .fault f ∧ s.faults = f :: more) ∧
      (∀ v, s.values = [v] → s.faults = [] → ∀ x ∈ e.nodes, ∃ w, x.value = .ok w) := by
  obtain ⟨s, calculated, _⟩ := Stack.run_of_isFinite e .empty finite (by rintro d ⟨⟩)
  have agree : ∀ v, (s.values = [v] ∧ s.faults = []) ↔ e.value = .ok v := by
    intro v
    rw [← calculate_eq_ok_iff]
    constructor
    · rintro ⟨values, faults⟩
      rw [calculate, calculated, ← values, ← faults]
    · intro h
      cases calculated.symm.trans h
      exact ⟨rfl, rfl⟩
  have first : ∀ f, e.value = .error (.fault f) → ∃ more, s.faults = f :: more := by
    intro f failed
    obtain ⟨more, faults⟩ := Stack.faults_of_run e .empty s failed calculated
    exact ⟨more, faults.symm⟩
  refine ⟨s, calculated, agree, first, ?_, ?_⟩
  · intro numeric failure failed
    rcases e.isDefinite_value numeric finite with ⟨v, hv, _⟩ | ⟨f, hf, _⟩
    · cases failed.symm.trans hv
    · cases failed.symm.trans hf
      obtain ⟨more, faults⟩ := first f hf
      exact ⟨f, more, rfl, faults⟩
  · intro v values faults
    exact e.exists_value_of_mem_nodes ((agree v).mp ⟨values, faults⟩)

/-- A divisor comes to zero in the middle of a sum: the division is blamed first, and there is no
value. -/
theorem calculation_of_vanishing_divisor :
    ∃ (e : Expr) (s : Stack) (more : List Fault),
      e = .binary .add (.number (.ofNat 7)) (.unary .minus (.binary .div (.number (.ofNat 2))
        (.parenthesized (.binary .sub (.number .one) (.number .one))))) ∧
      calculate e = .ok s ∧ s.faults = .divideByZero :: more ∧
      ∀ v, ¬(s.values = [v] ∧ s.faults = []) := by
  let e : Expr :=
    .binary .add (.number (.ofNat 7)) (.unary .minus (.binary .div (.number (.ofNat 2))
    (.parenthesized (.binary .sub (.number .one) (.number .one)))))
  have finite : ∀ d, .number d ∈ e.leaves → d.isFinite = true := by
    simp [e, Expr.leaves, Decimal.ofNat, Decimal.one, Decimal.isFinite]
  obtain ⟨s, calculated, agree, first, _⟩ := calculation_refines_value e finite
  have failed : e.value = .error (.fault .divideByZero) := by decide +kernel
  obtain ⟨more, faults⟩ := first .divideByZero failed
  refine ⟨e, s, more, rfl, calculated, faults, fun v success => ?_⟩
  rw [agree, failed] at success
  cases success

end RateRules
