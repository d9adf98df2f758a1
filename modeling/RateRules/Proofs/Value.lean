import RateRules.Calculation
import RateRules.Proofs.Steps

/-!
# The value of an expression

An expression has a value if every operation in it has one; otherwise it fails at the first part,
from left to right, that has none. A calculation with a stack ends in one value and no fault exactly
when the expression has that value, whatever waits on the stack below.
-/
namespace RateRules

/-- Why an expression has no value. -/
inductive Failure where
  | fault (f : Fault)
  | valueless
  | trap (t : Decimal.Trap)
  deriving DecidableEq, Repr

/-- What an operation of decimals gives inside an expression. -/
def Failure.ofArithmetic : Except Decimal.Trap Decimal → Except Failure Decimal
  | .ok d => .ok d
  | .error _ => .error (.fault .arithmeticError)

theorem Failure.ofArithmetic_eq_ok {outcome : Except Decimal.Trap Decimal} {v : Decimal} :
    ofArithmetic outcome = .ok v ↔ outcome = .ok v := by
  cases outcome with
  | ok d => simp [ofArithmetic]
  | error trap => simp [ofArithmetic]

def UnaryOp.apply (op : UnaryOp) (a : Decimal) : Except Failure Decimal :=
  match op with
  | plus => .ok a
  | minus => Failure.ofArithmetic a.negate
  | _ => .error (.fault .unsupportedOperator)

/-- A quotient has no value if its divisor is zero; a signaling divisor cannot be compared with
zero. -/
def BinaryOp.apply (op : BinaryOp) (a b : Decimal) : Except Failure Decimal :=
  match op with
  | add => Failure.ofArithmetic (a.add b)
  | sub => Failure.ofArithmetic (a.sub b)
  | mul => Failure.ofArithmetic (a.mul b)
  | div =>
    if b.isSignaling then .error (.trap .invalid)
    else if b.isZero then .error (.fault .divideByZero)
    else Failure.ofArithmetic (a.div b)
  | _ => .error (.fault .unsupportedOperator)

namespace Expr

/-- The value of an expression, worked out from its parts. -/
def value : Expr → Except Failure Decimal
  | number d => .ok d
  | parenthesized inner => inner.value
  | unary op operand => do
    let a ← operand.value
    op.apply a
  | binary op left right => do
    let a ← left.value
    let b ← right.value
    op.apply a b
  | _ => .error .valueless

/-- A part that is no number and no operation carries no value. -/
theorem value_of_leaf {e : Expr} (number : ∀ d, e = .number d → False)
    (parenthesized : ∀ inner, e = .parenthesized inner → False)
    (unary : ∀ op operand, e = .unary op operand → False)
    (binary : ∀ op left right, e = .binary op left right → False) :
    e.value = .error .valueless := by
  cases e with
  | number d => exact absurd rfl (number d)
  | parenthesized inner => exact absurd rfl (parenthesized inner)
  | unary op operand => exact absurd rfl (unary op operand)
  | binary op left right => exact absurd rfl (binary op left right)
  | _ => rfl

theorem value_unary_eq_ok {op : UnaryOp} {e : Expr} {v : Decimal} :
    (unary op e).value = .ok v ↔ ∃ a, e.value = .ok a ∧ op.apply a = .ok v := by
  rw [value, bind_eq_ok]

theorem value_binary_eq_ok {op : BinaryOp} {l r : Expr} {v : Decimal} :
    (binary op l r).value = .ok v ↔
      ∃ a b, l.value = .ok a ∧ r.value = .ok b ∧ op.apply a b = .ok v := by
  rw [value, bind_eq_ok]
  constructor
  · rintro ⟨a, ha, h⟩
    obtain ⟨b, hb, hv⟩ := bind_eq_ok.mp h
    exact ⟨a, b, ha, hb, hv⟩
  · rintro ⟨a, b, ha, hb, hv⟩
    exact ⟨a, ha, bind_eq_ok.mpr ⟨b, hb, hv⟩⟩

end Expr

namespace Stack

theorem run_unary_eq_ok {op : UnaryOp} {e : Expr} {s s' : Stack} :
    run (.unary op e) s = .ok s' ↔ ∃ t, run e s = .ok t ∧ t.applyUnary op = s' := by
  simp only [run, bind_eq_ok, pure_eq_ok]

theorem run_binary_eq_ok {op : BinaryOp} {l r : Expr} {s s' : Stack} :
    run (.binary op l r) s = .ok s' ↔
      ∃ t u, run l s = .ok t ∧ run r t = .ok u ∧ u.applyBinary op = .ok s' := by
  simp only [run, bind_eq_ok]
  constructor
  · rintro ⟨t, ht, u, hu, h⟩
    exact ⟨t, u, ht, hu, h⟩
  · rintro ⟨t, u, ht, hu, h⟩
    exact ⟨t, ht, u, hu, h⟩

theorem applyUnary_push {op : UnaryOp} {a v : Decimal} (h : op.apply a = .ok v) (s : Stack) :
    (s.push a).applyUnary op = s.push v := by
  cases op with
  | plus =>
    cases h
    rfl
  | minus =>
    cases ha : a.negate with
    | ok d =>
      simp only [UnaryOp.apply, Failure.ofArithmetic, ha] at h
      cases h
      simp [applyUnary, push, result, ha]
    | error trap => simp [UnaryOp.apply, Failure.ofArithmetic, ha] at h
  | invert | other sign => cases h

/-- What the four operations that calculate do with two values on the stack. -/
theorem applyBinary_push_push {op : BinaryOp}
    {operation : Decimal → Decimal → Except Decimal.Trap Decimal}
    (calculates : operation? op = some operation) (divides : op ≠ .div)
    (a b : Decimal) (s : Stack) :
    ((s.push a).push b).applyBinary op = .ok (s.result (operation a b)) := by
  simp [applyBinary, calculates, push, divides]

theorem result_ofArithmetic {outcome : Except Decimal.Trap Decimal} {v : Decimal}
    (h : Failure.ofArithmetic outcome = .ok v) (s : Stack) : s.result outcome = s.push v := by
  cases outcome with
  | ok d =>
    cases h
    rfl
  | error trap => cases h

theorem applyBinary_push {op : BinaryOp} {a b v : Decimal} (h : op.apply a b = .ok v) (s : Stack) :
    ((s.push a).push b).applyBinary op = .ok (s.push v) := by
  cases op with
  | add | sub | mul => rw [applyBinary_push_push rfl (by decide), result_ofArithmetic h]
  | div =>
    simp only [BinaryOp.apply] at h
    split at h
    · cases h
    · next signaling =>
      split at h
      · cases h
      · next zero =>
        have quotient : s.result (a.div b) = s.push v := result_ofArithmetic h s
        simpa [applyBinary, operation?, push, signaling, zero] using quotient
  | mod | pow | other sign => cases h

theorem run_eq_push (e : Expr) (s : Stack) (v : Decimal) (h : e.value = .ok v) :
    run e s = .ok (s.push v) := by
  fun_induction run e s generalizing v with
  | case1 d s =>
    cases h
    rfl
  | case2 inner s ih => exact ih v h
  | case3 op operand s ih =>
    obtain ⟨a, ha, hv⟩ := Expr.value_unary_eq_ok.mp h
    exact bind_eq_ok.mpr ⟨s.push a, ih a ha, congrArg Except.ok (applyUnary_push hv s)⟩
  | case4 op left right s ihl ihr =>
    obtain ⟨a, b, ha, hb, hv⟩ := Expr.value_binary_eq_ok.mp h
    exact bind_eq_ok.mpr ⟨s.push a, ihl a ha,
      bind_eq_ok.mpr ⟨(s.push a).push b, ihr (s.push a) b hb, applyBinary_push hv s⟩⟩
  | case5 e s number parenthesized unary binary =>
    rw [Expr.value_of_leaf number parenthesized unary binary] at h
    cases h

theorem fail_faults_ne (s : Stack) (f : Fault) : (s.fail f).faults ≠ s.faults := by
  simp [fail]

theorem faults_prefix_result (s : Stack) (outcome : Except Decimal.Trap Decimal) :
    s.faults <+: (s.result outcome).faults := by
  cases outcome with
  | ok d => exact List.prefix_rfl
  | error trap => exact List.prefix_append _ _

theorem result_of_faults_eq {s : Stack} {outcome : Except Decimal.Trap Decimal}
    (h : (s.result outcome).faults = s.faults) :
    ∃ v, Failure.ofArithmetic outcome = .ok v ∧ s.result outcome = s.push v := by
  cases outcome with
  | ok d => exact ⟨d, rfl, rfl⟩
  | error trap => exact absurd h (fail_faults_ne s _)

theorem faults_prefix_applyUnary (op : UnaryOp) (s : Stack) :
    s.faults <+: (s.applyUnary op).faults := by
  fun_cases applyUnary op s with
  | case1 => exact List.prefix_rfl
  | case2 a rest => exact faults_prefix_result ⟨rest, s.faults⟩ a.negate
  | case3 | case4 | case5 | case6 => exact List.prefix_append _ _

/-- A unary operation that leaves no fault replaces the value on top. -/
theorem applyUnary_of_faults_eq {op : UnaryOp} {s : Stack}
    (h : (s.applyUnary op).faults = s.faults) :
    ∃ a rest v, s.values = a :: rest ∧ op.apply a = .ok v ∧
      s.applyUnary op = ⟨v :: rest, s.faults⟩ := by
  obtain ⟨values, faults⟩ := s
  cases values with
  | nil => cases op <;> exact absurd h (fail_faults_ne _ _)
  | cons a rest =>
    cases op with
    | plus => exact ⟨a, rest, a, rfl, rfl, rfl⟩
    | minus =>
      obtain ⟨v, hv, hs⟩ := result_of_faults_eq (s := ⟨rest, faults⟩) h
      exact ⟨a, rest, v, rfl, hv, hs⟩
    | invert | other sign => exact absurd h (fail_faults_ne _ _)

theorem faults_prefix_applyBinary {op : BinaryOp} {s s' : Stack} (h : s.applyBinary op = .ok s') :
    s.faults <+: s'.faults := by
  rw [applyBinary] at h
  split at h
  · cases h
    exact List.prefix_append _ _
  · next operation b a rest _ _ =>
    have pushed : s.faults <+: ((Stack.mk rest s.faults).result (operation a b)).faults :=
      faults_prefix_result ⟨rest, s.faults⟩ _
    split at h
    · split at h
      · cases h
      · split at h
        · cases h
          exact List.prefix_append _ _
        · cases h
          exact pushed
    · cases h
      exact pushed
  · cases h
    exact List.prefix_append _ _

/-- A binary operation that leaves no fault replaces the two values on top. -/
theorem applyBinary_of_faults_eq {op : BinaryOp} {s s' : Stack} (h : s.applyBinary op = .ok s')
    (same : s'.faults = s.faults) :
    ∃ b a rest v, s.values = b :: a :: rest ∧ op.apply a b = .ok v ∧
      s' = ⟨v :: rest, s.faults⟩ := by
  obtain ⟨values, faults⟩ := s
  rcases values with _ | ⟨b, _ | ⟨a, rest⟩⟩
  · cases op <;> cases h <;> exact absurd same (fail_faults_ne _ _)
  · cases op <;> cases h <;> exact absurd same (fail_faults_ne _ _)
  · cases op with
    | add | sub | mul =>
      cases h
      obtain ⟨v, hv, hs⟩ := result_of_faults_eq (s := ⟨rest, faults⟩) same
      exact ⟨b, a, rest, v, rfl, hv, hs⟩
    | div =>
      simp only [applyBinary, operation?, if_true] at h
      split at h
      · cases h
      · next signaling =>
        split at h
        · cases h
          exact absurd same (fail_faults_ne _ _)
        · next zero =>
          cases h
          obtain ⟨v, hv, hs⟩ := result_of_faults_eq (s := ⟨rest, faults⟩) same
          exact ⟨b, a, rest, v, rfl, by simpa [BinaryOp.apply, signaling, zero] using hv, hs⟩
    | mod | pow | other sign =>
      cases h
      exact absurd same (fail_faults_ne _ _)

theorem faults_prefix_run (e : Expr) (s s' : Stack) (h : run e s = .ok s') :
    s.faults <+: s'.faults := by
  fun_induction run e s generalizing s' with
  | case1 d s =>
    cases h
    exact List.prefix_rfl
  | case2 inner s ih => exact ih s' h
  | case3 op operand s ih =>
    obtain ⟨t, ht, rfl⟩ := run_unary_eq_ok.mp h
    exact (ih t ht).trans (faults_prefix_applyUnary op t)
  | case4 op left right s ihl ihr =>
    obtain ⟨t, u, ht, hu, h⟩ := run_binary_eq_ok.mp h
    exact ((ihl t ht).trans (ihr t u hu)).trans (faults_prefix_applyBinary h)
  | case5 e s =>
    cases h
    exact List.prefix_rfl

theorem eq_of_prefix_of_prefix {a b c : List Fault} (hab : a <+: b) (hbc : b <+: c) (h : c = a) :
    b = a ∧ c = b := by
  subst h
  have same : b = c := List.IsPrefix.eq_of_length_le hbc hab.length_le
  exact ⟨same, same.symm⟩

/-- Without a new fault the stack has gained the value of the expression, or it has gained nothing:
a part without a value takes the place of the value that an operation misses. -/
theorem run_of_faults_eq (e : Expr) (s s' : Stack) (h : run e s = .ok s')
    (same : s'.faults = s.faults) :
    (∃ v, e.value = .ok v ∧ s' = s.push v) ∨ s'.values.length ≤ s.values.length := by
  fun_induction run e s generalizing s' with
  | case1 d s =>
    cases h
    exact Or.inl ⟨d, rfl, rfl⟩
  | case2 inner s ih => exact ih s' h same
  | case3 op operand s ih =>
    obtain ⟨t, ht, rfl⟩ := run_unary_eq_ok.mp h
    obtain ⟨hts, hst⟩ := eq_of_prefix_of_prefix (faults_prefix_run operand s t ht)
      (faults_prefix_applyUnary op t) same
    obtain ⟨a, rest, v, hvalues, hv, hresult⟩ := applyUnary_of_faults_eq hst
    rcases ih t ht hts with ⟨a', ha', rfl⟩ | short
    · cases hvalues
      exact Or.inl ⟨v, Expr.value_unary_eq_ok.mpr ⟨a, ha', hv⟩, hresult⟩
    · right
      rw [hresult]
      rw [hvalues] at short
      exact short
  | case4 op left right s ihl ihr =>
    obtain ⟨t, u, ht, hu, h⟩ := run_binary_eq_ok.mp h
    obtain ⟨hus, hsu⟩ := eq_of_prefix_of_prefix
      ((faults_prefix_run left s t ht).trans (faults_prefix_run right t u hu))
      (faults_prefix_applyBinary h) same
    obtain ⟨hts, hut⟩ := eq_of_prefix_of_prefix (faults_prefix_run left s t ht)
      (faults_prefix_run right t u hu) hus
    obtain ⟨b, a, rest, v, hvalues, hv, rfl⟩ := applyBinary_of_faults_eq h hsu
    have shape : u.values.length = rest.length + 2 := by simp [hvalues]
    rcases ihl t ht hts with ⟨a', ha', rfl⟩ | shortl
    · rcases ihr _ u hu hut with ⟨b', hb', rfl⟩ | shortr
      · cases hvalues
        exact Or.inl ⟨v, Expr.value_binary_eq_ok.mpr ⟨a, b, ha', hb', hv⟩, by rw [hus]; rfl⟩
      · right
        simp only [push, List.length_cons] at shortr ⊢
        omega
    · right
      rcases ihr t u hu hut with ⟨b', _, rfl⟩ | shortr
      · simp only [push, List.length_cons] at shape ⊢
        omega
      · simp only [List.length_cons]
        omega
  | case5 e s =>
    cases h
    exact Or.inr (Nat.le_refl _)

end Stack

theorem calculate_eq_ok_iff (e : Expr) (v : Decimal) :
    calculate e = .ok ⟨[v], []⟩ ↔ e.value = .ok v := by
  constructor
  · intro h
    rcases Stack.run_of_faults_eq e .empty _ h rfl with ⟨w, hw, hs⟩ | short
    · cases hs
      exact hw
    · cases short
  · exact Stack.run_eq_push e .empty v

end RateRules
