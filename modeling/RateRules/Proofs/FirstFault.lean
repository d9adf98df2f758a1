import RateRules.Proofs.Finite

/-!
# The first fault

A numeric expression of finite numbers has a finite value, or it fails at one of its operations. The
fault of this operation is the first that the calculation records, whatever waits on the stack
below.
-/
namespace RateRules

/-- An operator that calculates, as opposed to one that can only be written. -/
def UnaryOp.calculates : UnaryOp → Bool
  | plus | minus => true
  | _ => false

def BinaryOp.calculates (op : BinaryOp) : Bool := (Stack.operation? op).isSome

/-- What finite numbers can come to: a finite value, or a fault that is no missing argument. -/
def Failure.IsDefinite (outcome : Except Failure Decimal) : Prop :=
  (∃ v, outcome = .ok v ∧ v.isFinite = true) ∨ ∃ f, outcome = .error (.fault f) ∧
    f ≠ .missingArgument

theorem Failure.isDefinite_ofArithmetic {outcome : Except Decimal.Trap Decimal}
    (finite : ∀ d, outcome = .ok d → d.isFinite = true) : IsDefinite (ofArithmetic outcome) := by
  cases outcome with
  | ok d => exact Or.inl ⟨d, rfl, finite d rfl⟩
  | error trap => exact Or.inr ⟨.arithmeticError, rfl, Fault.noConfusion⟩

theorem UnaryOp.isDefinite_apply (op : UnaryOp) {a : Decimal} (ha : a.isFinite = true) :
    Failure.IsDefinite (op.apply a) := by
  cases op with
  | plus => exact Or.inl ⟨a, rfl, ha⟩
  | minus =>
    exact Failure.isDefinite_ofArithmetic fun _ hd =>
      Decimal.isFinite_of_fits (Decimal.fits_negate ha hd)
  | invert | other sign => exact Or.inr ⟨.unsupportedOperator, rfl, Fault.noConfusion⟩

theorem BinaryOp.isDefinite_apply (op : BinaryOp) {a b : Decimal} (ha : a.isFinite = true)
    (hb : b.isFinite = true) : Failure.IsDefinite (op.apply a b) := by
  cases op with
  | add =>
    exact Failure.isDefinite_ofArithmetic fun _ hd =>
      Decimal.isFinite_of_fits (Decimal.fits_add ha hb hd)
  | sub =>
    exact Failure.isDefinite_ofArithmetic fun _ hd =>
      Decimal.isFinite_of_fits (Decimal.fits_sub ha hb hd)
  | mul =>
    exact Failure.isDefinite_ofArithmetic fun _ hd =>
      Decimal.isFinite_of_fits (Decimal.fits_mul ha hb hd)
  | div =>
    rw [apply, Decimal.isSignaling_of_isFinite hb]
    by_cases zero : b.isZero = true
    · rw [if_pos zero]
      exact Or.inr ⟨.divideByZero, rfl, Fault.noConfusion⟩
    · rw [if_neg zero]
      exact Failure.isDefinite_ofArithmetic fun _ hd =>
        Decimal.isFinite_of_fits (Decimal.fits_div ha hb hd)
  | mod | pow | other sign => exact Or.inr ⟨.unsupportedOperator, rfl, Fault.noConfusion⟩

namespace Expr

/-- All leaves are numbers. -/
def IsNumeric (e : Expr) : Prop := ∀ x ∈ e.leaves, ∃ d, x = number d

theorem value_unary (op : UnaryOp) {e : Expr} {a : Decimal} (ha : e.value = .ok a) :
    (unary op e).value = op.apply a := by
  rw [value, ha]
  rfl

theorem value_binary (op : BinaryOp) {l r : Expr} {a b : Decimal} (ha : l.value = .ok a)
    (hb : r.value = .ok b) : (binary op l r).value = op.apply a b := by
  rw [value, ha, hb]
  rfl

/-- A failure of an operation is that of its operand, or the operand has a value and the operation
fails. -/
theorem value_unary_eq_error {op : UnaryOp} {e : Expr} {failure : Failure}
    (h : (unary op e).value = .error failure) :
    e.value = .error failure ∨ ∃ a, e.value = .ok a ∧ op.apply a = .error failure := by
  cases ha : e.value with
  | error other =>
    rw [value, ha] at h
    exact Or.inl h
  | ok a =>
    rw [value_unary op ha] at h
    exact Or.inr ⟨a, rfl, h⟩

theorem value_binary_eq_error {op : BinaryOp} {l r : Expr} {failure : Failure}
    (h : (binary op l r).value = .error failure) :
    l.value = .error failure ∨ (∃ a, l.value = .ok a ∧ r.value = .error failure) ∨
      ∃ a b, l.value = .ok a ∧ r.value = .ok b ∧ op.apply a b = .error failure := by
  cases ha : l.value with
  | error other =>
    rw [value, ha] at h
    exact Or.inl h
  | ok a =>
    cases hb : r.value with
    | error other =>
      rw [value, ha, hb] at h
      exact Or.inr (Or.inl ⟨a, rfl, h⟩)
    | ok b =>
      rw [value_binary op ha hb] at h
      exact Or.inr (Or.inr ⟨a, b, rfl, rfl, h⟩)

theorem isDefinite_value (e : Expr) (numeric : e.IsNumeric)
    (finite : ∀ d, number d ∈ e.leaves → d.isFinite = true) : Failure.IsDefinite e.value := by
  induction e using value.induct with
  | case1 d => exact Or.inl ⟨d, rfl, finite d (List.mem_singleton_self _)⟩
  | case2 inner ih => exact ih numeric finite
  | case3 op operand ih =>
    rcases ih numeric finite with ⟨a, ha, fa⟩ | ⟨f, hf, operation⟩
    · rw [value_unary op ha]
      exact op.isDefinite_apply fa
    · rw [value, hf]
      exact Or.inr ⟨f, rfl, operation⟩
  | case4 op left right ihl ihr =>
    have numericLeft : left.IsNumeric := fun x hx => numeric x (List.mem_append_left _ hx)
    have numericRight : right.IsNumeric := fun x hx => numeric x (List.mem_append_right _ hx)
    rcases ihl numericLeft fun d hd => finite d (List.mem_append_left _ hd)
      with ⟨a, ha, fa⟩ | ⟨f, hf, operation⟩
    · rcases ihr numericRight fun d hd => finite d (List.mem_append_right _ hd)
        with ⟨b, hb, fb⟩ | ⟨f, hf, operation⟩
      · rw [value_binary op ha hb]
        exact op.isDefinite_apply fa fb
      · rw [value, ha, hf]
        exact Or.inr ⟨f, rfl, operation⟩
    · rw [value, hf]
      exact Or.inr ⟨f, rfl, operation⟩
  | case5 e number parenthesized unary binary =>
    -- A part that is no number and no operation is a leaf of its own.
    cases e with
    | number d => exact absurd rfl (number d)
    | parenthesized inner => exact absurd rfl (parenthesized inner)
    | unary op operand => exact absurd rfl (unary op operand)
    | binary op left right => exact absurd rfl (binary op left right)
    | _ =>
      obtain ⟨d, hd⟩ := numeric _ (List.mem_singleton.mpr rfl)
      cases hd

end Expr

namespace Stack

variable {s s' : Stack} {f : Fault}

theorem result_cases (s : Stack) (outcome : Except Decimal.Trap Decimal) :
    (∃ v, Failure.ofArithmetic outcome = .ok v ∧ s.result outcome = s.push v) ∨
      (Failure.ofArithmetic outcome = .error (.fault .arithmeticError) ∧
        s.result outcome = s.fail .arithmeticError) := by
  cases outcome with
  | ok d => exact Or.inl ⟨d, rfl, rfl⟩
  | error trap => exact Or.inr ⟨rfl, rfl⟩

/-- An operation on its own operand leaves the value in its place, or a fault. An operand is taken
by an operator that calculates. -/
theorem applyUnary_push_cases (op : UnaryOp) (a : Decimal) (s : Stack) :
    (∃ v, op.apply a = .ok v ∧ (s.push a).applyUnary op = s.push v) ∨
      ∃ f, op.apply a = .error (.fault f) ∧
        (s.push a).applyUnary op = (if op.calculates then s else s.push a).fail f := by
  cases op with
  | plus => exact Or.inl ⟨a, rfl, rfl⟩
  | minus =>
    rcases result_cases s a.negate with ⟨v, hv, pushed⟩ | ⟨failed, left⟩
    · exact Or.inl ⟨v, hv, pushed⟩
    · exact Or.inr ⟨.arithmeticError, failed, left⟩
  | invert | other sign => exact Or.inr ⟨.unsupportedOperator, rfl, rfl⟩

theorem applyBinary_push_cases {op : BinaryOp} {a b : Decimal}
    (h : ((s.push a).push b).applyBinary op = .ok s') :
    (∃ v, op.apply a b = .ok v ∧ s' = s.push v) ∨
      ∃ f, op.apply a b = .error (.fault f) ∧
        s' = (if op.calculates then s else (s.push a).push b).fail f := by
  cases op with
  | add | sub | mul =>
    rw [applyBinary_push_push rfl (by decide)] at h
    cases h
    rcases result_cases s _ with ⟨v, hv, pushed⟩ | ⟨failed, left⟩
    · exact Or.inl ⟨v, hv, pushed⟩
    · exact Or.inr ⟨.arithmeticError, failed, left⟩
  | div =>
    simp only [applyBinary, operation?, push, if_true] at h
    rw [BinaryOp.apply]
    split at h
    · cases h
    · next signaling =>
      rw [if_neg signaling]
      split at h
      · next zero =>
        cases h
        rw [if_pos zero]
        exact Or.inr ⟨.divideByZero, rfl, rfl⟩
      · next nonzero =>
        cases h
        rw [if_neg nonzero]
        rcases result_cases s (a.div b) with ⟨v, hv, pushed⟩ | ⟨failed, left⟩
        · exact Or.inl ⟨v, hv, pushed⟩
        · exact Or.inr ⟨.arithmeticError, failed, left⟩
  | mod | pow | other sign =>
    cases h
    exact Or.inr ⟨.unsupportedOperator, rfl, rfl⟩

/-- The operation at which an expression fails is the first that records a fault: up to there the
stack holds the values of what the operations are made of. -/
theorem faults_of_run (e : Expr) (s s' : Stack) (failed : e.value = .error (.fault f))
    (h : run e s = .ok s') :
    s.faults ++ [f] <+: s'.faults := by
  fun_induction run e s generalizing s' with
  | case1 d s => cases failed
  | case2 inner s ih => exact ih s' failed h
  | case3 op operand s ih =>
    obtain ⟨t, ht, rfl⟩ := run_unary_eq_ok.mp h
    rcases Expr.value_unary_eq_error failed with below | ⟨a, ha, fails⟩
    · exact (ih t below ht).trans (faults_prefix_applyUnary op t)
    · rw [run_eq_push operand s a ha] at ht
      cases ht
      rcases applyUnary_push_cases op a s with ⟨v, hv, _⟩ | ⟨g, hg, left⟩
      · rw [fails] at hv
        cases hv
      · rw [fails] at hg
        cases hg
        rw [left]
        split <;> exact List.prefix_rfl
  | case4 op left right s ihl ihr =>
    obtain ⟨t, u, ht, hu, h⟩ := run_binary_eq_ok.mp h
    have later := faults_prefix_applyBinary h
    rcases Expr.value_binary_eq_error failed with below | ⟨a, ha, below⟩ | ⟨a, b, ha, hb, fails⟩
    · exact ((ihl t below ht).trans (faults_prefix_run right t u hu)).trans later
    · rw [run_eq_push left s a ha] at ht
      cases ht
      exact (ihr _ u below hu).trans later
    · rw [run_eq_push left s a ha] at ht
      cases ht
      rw [run_eq_push right _ b hb] at hu
      cases hu
      rcases applyBinary_push_cases h with ⟨v, hv, _⟩ | ⟨g, hg, rfl⟩
      · rw [fails] at hv
        cases hv
      · rw [fails] at hg
        cases hg
        split <;> exact List.prefix_rfl
  | case5 e s number parenthesized unary binary =>
    rw [Expr.value_of_leaf number parenthesized unary binary] at failed
    cases failed

end Stack

/-- Which outcomes an evaluation has: a finite value alone, or faults alone of which the first is no
missing argument. -/
def RateRule.IsSettled (value : Option Decimal) (faults : List Fault) : Prop :=
  (∃ v, value = some v ∧ v.isFinite = true ∧ faults = []) ∨
    (value = none ∧ ∃ f more, f ≠ .missingArgument ∧ faults = f :: more)

namespace RateRule

/-- Faults from before the calculation are the outcome. -/
theorem isSettled_of_faults {e : Expr} {faults found : List Fault} {value : Option Decimal}
    (h : outcome e faults = .ok (value, found)) (before : faults ≠ [])
    (operation : ∀ f ∈ faults, f ≠ .missingArgument) : IsSettled value found := by
  cases faults with
  | nil => exact absurd rfl before
  | cons f more =>
    cases h
    exact Or.inr ⟨rfl, f, more, operation f List.mem_cons_self, rfl⟩

/-- A numeric expression is calculated to a finite value, or to faults that start with that of an
operation. -/
theorem isSettled_of_isNumeric {e : Expr} {found : List Fault} {value : Option Decimal}
    (h : outcome e [] = .ok (value, found)) (numeric : e.IsNumeric)
    (finite : ∀ d, .number d ∈ e.leaves → d.isFinite = true) : IsSettled value found := by
  obtain ⟨s, calculated, h⟩ := exists_answer_of_outcome h
  rcases e.isDefinite_value numeric finite with ⟨v, hv, fv⟩ | ⟨f, failed, operation⟩
  · cases calculated.symm.trans (Stack.run_eq_push e .empty v hv)
    cases h
    exact Or.inl ⟨v, rfl, fv, rfl⟩
  · obtain ⟨more, recorded⟩ := Stack.faults_of_run e .empty _ failed calculated
    cases (answer_of_faults s recorded.symm).symm.trans h
    exact Or.inr ⟨rfl, f, more, operation, rfl⟩

end RateRule
end RateRules
