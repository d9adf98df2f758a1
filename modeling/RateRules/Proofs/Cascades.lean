import RateRules.Proofs.FirstFault

/-!
# What a failed operation leaves behind

An operation that fails leaves no value, so that the operators above it miss their arguments. That
is so as long as each of them finds fewer values than it takes. Values that wait for operators
further out can make up for the missing ones; then an operator calculates with operands of another,
and what it records says nothing about the expression. So the faults of a calculation are those that
each operator has with its own operands exactly if no operator above a failed one finds enough
values.
-/
namespace RateRules

def Failure.faults : Except Failure Decimal → List Fault
  | .error (.fault f) => [f]
  | _ => []

/-- What an operator records that has not got its operands. -/
def Fault.ofMissing (calculates : Bool) : Fault :=
  if calculates then .missingArgument else .unsupportedOperator

namespace Expr

def hasValue (e : Expr) : Bool :=
  match e.value with
  | .ok _ => true
  | .error _ => false

/-- The operation on top of an expression has the values of its own operands and fails with `f`. -/
def FailsWith (f : Fault) : Expr → Prop
  | unary op operand => ∃ a, operand.value = .ok a ∧ op.apply a = .error (.fault f)
  | binary op left right =>
    ∃ a b, left.value = .ok a ∧ right.value = .ok b ∧ op.apply a b = .error (.fault f)
  | _ => False

/-- The faults of an expression if every operator sees its own operands alone: with the values of
all of them it records what its operation gives, and otherwise that it misses an argument or is not
supported. -/
def ownFaults : Expr → List Fault
  | parenthesized inner => inner.ownFaults
  | unary op operand => operand.ownFaults ++
      if operand.hasValue then Failure.faults (unary op operand).value
      else [.ofMissing op.calculates]
  | binary op left right => left.ownFaults ++ (right.ownFaults ++
      if left.hasValue && right.hasValue then Failure.faults (binary op left right).value
      else [.ofMissing op.calculates])
  | _ => []

/-- How many values wait behind an expression, of which so many waited before it, if no operator
takes what is not its own. An operator that cannot calculate leaves its operands. -/
def waiting : Expr → Nat → Nat
  | number _, before => before + 1
  | parenthesized inner, before => inner.waiting before
  | unary op operand, before =>
    if (unary op operand).hasValue then before + 1
    else if operand.hasValue && op.calculates then before
    else operand.waiting before
  | binary op left right, before =>
    if (binary op left right).hasValue then before + 1
    else if left.hasValue && right.hasValue && op.calculates then before
    else right.waiting (left.waiting before)
  | _, before => before

/-- No operator above a failed one finds as many values as it takes, when so many wait before the
expression. -/
def stopsCleanly : Expr → Nat → Bool
  | parenthesized inner, before => inner.stopsCleanly before
  | unary op operand, before => operand.stopsCleanly before &&
      (operand.hasValue || !op.calculates || operand.waiting before < 1)
  | binary op left right, before =>
    left.stopsCleanly before && (right.stopsCleanly (left.waiting before) &&
      (left.hasValue && right.hasValue || !op.calculates ||
          right.waiting (left.waiting before) < 2))
  | _, _ => true

theorem hasValue_iff {e : Expr} : e.hasValue = true ↔ ∃ v, e.value = .ok v := by
  rw [hasValue]
  cases e.value with
  | ok v => simp
  | error failure => simp

theorem hasValue_of_value {e : Expr} {v : Decimal} (h : e.value = .ok v) : e.hasValue = true := by
  rw [hasValue, h]

theorem hasValue_of_error {e : Expr} {failure : Failure} (h : e.value = .error failure) :
    e.hasValue = false := by
  rw [hasValue, h]

/-- A part that is no number and no operation does nothing. -/
theorem laws_of_leaf {e : Expr} (isNumber : ∀ d, e = number d → False)
    (isParenthesized : ∀ inner, e = parenthesized inner → False)
    (isUnary : ∀ op operand, e = unary op operand → False)
    (isBinary : ∀ op left right, e = binary op left right → False) :
    e.ownFaults = [] ∧ ∀ before, e.stopsCleanly before = true ∧ e.waiting before = before := by
  cases e with
  | number d => exact absurd rfl (isNumber d)
  | parenthesized inner => exact absurd rfl (isParenthesized inner)
  | unary op operand => exact absurd rfl (isUnary op operand)
  | binary op left right => exact absurd rfl (isBinary op left right)
  | _ => exact ⟨rfl, fun before => ⟨rfl, rfl⟩⟩

/-- Where there is a value nothing fails, and one value more waits. -/
theorem stopsCleanly_of_value (e : Expr) {v : Decimal} (h : e.value = .ok v) :
    e.ownFaults = [] ∧ ∀ before, e.stopsCleanly before = true ∧ e.waiting before = before + 1 := by
  induction e using value.induct generalizing v with
  | case1 d => exact ⟨rfl, fun before => ⟨rfl, rfl⟩⟩
  | case2 inner ih => exact ih h
  | case3 op operand ih =>
    obtain ⟨a, ha, _⟩ := value_unary_eq_ok.mp h
    obtain ⟨faults, clean⟩ := ih ha
    simp [ownFaults, stopsCleanly, waiting, hasValue_of_value h, hasValue_of_value ha,
      h, faults, clean,
      Failure.faults]
  | case4 op left right ihl ihr =>
    obtain ⟨a, b, ha, hb, _⟩ := value_binary_eq_ok.mp h
    obtain ⟨faultsLeft, cleanLeft⟩ := ihl ha
    obtain ⟨faultsRight, cleanRight⟩ := ihr hb
    simp [ownFaults, stopsCleanly, waiting, hasValue_of_value h, hasValue_of_value ha,
      hasValue_of_value hb, h,
      faultsLeft, faultsRight, cleanLeft, cleanRight, Failure.faults]
  | case5 e number parenthesized unary binary =>
    rw [value_of_leaf number parenthesized unary binary] at h
    cases h

end Expr

theorem append_eq_append_iff_of_length_le {α : Type} {a a' b b' : List α}
    (ha : a.length ≤ a'.length)
    (hb : b.length ≤ b'.length) : a ++ b = a' ++ b' ↔ a = a' ∧ b = b' := by
  constructor
  · intro h
    have lengths := congrArg List.length h
    rw [List.length_append, List.length_append] at lengths
    exact List.append_inj h (by omega)
  · rintro ⟨rfl, rfl⟩
    rfl

namespace Stack

variable {s t s' : Stack}

/-- The stack gains at most as many faults as a law says, and just these exactly if it is clean;
then so many values wait. -/
def Gains (s s' : Stack) (law : List Fault) (clean : Bool) (waiting : Nat) : Prop :=
  ∃ gained, s'.faults = s.faults ++ gained ∧ gained.length ≤ law.length ∧
    (gained = law ↔ clean = true) ∧ (clean = true → s'.values.length = waiting)

/-- What comes next starts from as many values as wait if the beginning is clean. -/
theorem Gains.trans (clean' : Nat → Bool) (waiting' : Nat → Nat)
    {law law' : List Fault} {clean : Bool}
    {waiting : Nat} (first : Gains s t law clean waiting)
    (second : Gains t s' law' (clean' t.values.length) (waiting' t.values.length)) :
    Gains s s' (law ++ law') (clean && clean' waiting) (waiting' waiting) := by
  obtain ⟨gained, faults, bound, same, height⟩ := first
  obtain ⟨gained', faults', bound', same', height'⟩ := second
  refine ⟨gained ++ gained', ?_, ?_, ?_, ?_⟩
  · rw [faults', faults, List.append_assoc]
  · rw [List.length_append, List.length_append]
    omega
  · rw [append_eq_append_iff_of_length_le bound bound', same, same', Bool.and_eq_true]
    constructor
    · rintro ⟨clean, more⟩
      rw [height clean] at more
      exact ⟨clean, more⟩
    · rintro ⟨clean, more⟩
      rw [← height clean] at more
      exact ⟨clean, more⟩
  · intro both
    obtain ⟨clean, more⟩ := Bool.and_eq_true_iff.mp both
    rw [← height clean] at more ⊢
    exact height' more

theorem Gains.refl (s : Stack) : Gains s s [] true s.values.length :=
  ⟨[], (List.append_nil _).symm, Nat.le_refl _, by simp, fun _ => rfl⟩

theorem gains_push (s : Stack) (v : Decimal) : Gains s (s.push v) [] true (s.values.length + 1) :=
  ⟨[], (List.append_nil _).symm, Nat.le_refl _, by simp, fun _ => rfl⟩

theorem gains_fail (s : Stack) {values : List Decimal} {waiting : Nat} (f : Fault)
    (h : values.length = waiting) : Gains s ((Stack.mk values s.faults).fail f) [f] true waiting :=
  ⟨[f], rfl, Nat.le_refl _, by simp, fun _ => h⟩

/-- An operator that finds enough values records no missing argument, and an operator that
calculates is supported. -/
theorem gains_result (s : Stack) (values : List Decimal) (outcome : Except Decimal.Trap Decimal)
    (waiting : Nat) :
    Gains s ((Stack.mk values s.faults).result outcome) [.missingArgument] false waiting := by
  cases outcome with
  | ok d => exact ⟨[], (List.append_nil _).symm, Nat.zero_le _, by simp, by simp⟩
  | error trap => exact ⟨[.arithmeticError], rfl, Nat.le_refl _, by simp, by simp⟩

/-- What an operator does that takes what it finds. -/
theorem gains_applyUnary (op : UnaryOp) (s : Stack) :
    Gains s (s.applyUnary op) [.ofMissing op.calculates] (!op.calculates || s.values.length < 1)
      s.values.length := by
  obtain ⟨values, faults⟩ := s
  cases op with
  | plus =>
    cases values with
    | nil => exact gains_fail _ _ rfl
    | cons a rest =>
      exact ⟨[], (List.append_nil _).symm, Nat.zero_le _,
        by simp [UnaryOp.calculates], fun _ => rfl⟩
  | minus =>
    cases values with
    | nil => exact gains_fail _ _ rfl
    | cons a rest => exact gains_result ⟨a :: rest, faults⟩ rest a.negate _
  | invert | other sign => exact gains_fail _ _ rfl

theorem gains_applyBinary {op : BinaryOp} (h : s.applyBinary op = .ok s') :
    Gains s s' [.ofMissing op.calculates]
    (!op.calculates || s.values.length < 2) s.values.length := by
  rw [applyBinary] at h
  split at h
  · next cannot =>
    cases h
    rw [BinaryOp.calculates, cannot]
    exact gains_fail s _ rfl
  · next operation b a rest calculates values =>
    have enough : (!op.calculates || decide (s.values.length < 2)) = false := by
      simp [BinaryOp.calculates, calculates, values]
    rw [enough, BinaryOp.calculates, calculates]
    split at h
    · split at h
      · cases h
      · split at h
        · cases h
          exact ⟨[.divideByZero], rfl, Nat.le_refl _, by simp [Fault.ofMissing], by simp⟩
        · cases h
          exact gains_result s rest _ _
    · cases h
      exact gains_result s rest _ _
  · next operation calculates few =>
    cases h
    have starved : (!op.calculates || decide (s.values.length < 2)) = true := by
      rw [Bool.or_eq_true, decide_eq_true_eq]
      right
      rcases hv : s.values with _ | ⟨b, _ | ⟨a, rest⟩⟩
      · simp
      · simp
      · exact absurd hv (few b a rest)
    rw [starved, BinaryOp.calculates, calculates]
    exact gains_fail s _ rfl

end Stack

namespace Expr

variable {op : UnaryOp} {bop : BinaryOp} {operand left right : Expr} {a b : Decimal} {f : Fault}

theorem hasValue_unary_of_starved (h : operand.hasValue = false) :
    (unary op operand).hasValue = false := by
  rw [hasValue] at h
  split at h
  · cases h
  · next failure failed => rw [hasValue, value, failed]; rfl

theorem hasValue_binary_of_starved (h : (left.hasValue && right.hasValue) = false) :
    (binary bop left right).hasValue = false := by
  cases hv : (binary bop left right).value with
  | error failure => exact hasValue_of_error hv
  | ok v =>
    obtain ⟨a, b, ha, hb, _⟩ := value_binary_eq_ok.mp hv
    rw [hasValue_of_value ha, hasValue_of_value hb] at h
    cases h

/-- An operation that fails with the value of its operand records its fault alone. -/
theorem laws_unary_of_fails (before : Nat) (ha : operand.value = .ok a)
    (fails : op.apply a = .error (.fault f)) :
    (unary op operand).ownFaults = [f] ∧ (unary op operand).stopsCleanly before = true ∧
      (unary op operand).waiting before = if op.calculates then before else before + 1 := by
  have failed : (unary op operand).value = .error (.fault f) := (value_unary op ha).trans fails
  obtain ⟨faults, clean⟩ := operand.stopsCleanly_of_value ha
  simp [ownFaults, stopsCleanly, waiting, hasValue_of_error failed, hasValue_of_value ha,
    failed, faults, clean,
    Failure.faults]

theorem laws_binary_of_fails (before : Nat) (ha : left.value = .ok a) (hb : right.value = .ok b)
    (fails : bop.apply a b = .error (.fault f)) :
    (binary bop left right).ownFaults = [f] ∧ (binary bop left right).stopsCleanly before = true ∧
      (binary bop left right).waiting before = if bop.calculates then before else before + 2 := by
  have failed : (binary bop left right).value = .error (.fault f) :=
    (value_binary bop ha hb).trans fails
  obtain ⟨faultsLeft, cleanLeft⟩ := left.stopsCleanly_of_value ha
  obtain ⟨faultsRight, cleanRight⟩ := right.stopsCleanly_of_value hb
  simp [ownFaults, stopsCleanly, waiting, hasValue_of_error failed, hasValue_of_value ha,
    hasValue_of_value hb,
    failed, faultsLeft, faultsRight, cleanLeft, cleanRight, Failure.faults]

end Expr

namespace Stack

open RateRules.Expr

variable {s s' : Stack}

theorem gains_unary (op : UnaryOp) {operand : Expr} {a : Decimal} (ha : operand.value = .ok a) :
    Gains s ((s.push a).applyUnary op) (unary op operand).ownFaults
      ((unary op operand).stopsCleanly s.values.length)
      ((unary op operand).waiting s.values.length) := by
  rcases applyUnary_push_cases op a s with ⟨v, hv, pushed⟩ | ⟨f, fails, left⟩
  · obtain ⟨faults, clean⟩ :=
      (unary op operand).stopsCleanly_of_value ((value_unary op ha).trans hv)
    obtain ⟨clean, height⟩ := clean s.values.length
    rw [pushed, faults, clean, height]
    exact gains_push s v
  · obtain ⟨faults, clean, height⟩ := laws_unary_of_fails s.values.length ha fails
    rw [left, faults, clean, height]
    split
    · exact gains_fail s f rfl
    · exact gains_fail s f rfl

theorem gains_binary {op : BinaryOp} {left right : Expr} {a b : Decimal} (ha : left.value = .ok a)
    (hb : right.value = .ok b) (h : ((s.push a).push b).applyBinary op = .ok s') :
    Gains s s' (binary op left right).ownFaults
    ((binary op left right).stopsCleanly s.values.length)
      ((binary op left right).waiting s.values.length) := by
  rcases applyBinary_push_cases h with ⟨v, hv, rfl⟩ | ⟨f, fails, rfl⟩
  · obtain ⟨faults, clean⟩ :=
      (binary op left right).stopsCleanly_of_value ((value_binary op ha hb).trans hv)
    obtain ⟨clean, height⟩ := clean s.values.length
    rw [faults, clean, height]
    exact gains_push s v
  · obtain ⟨faults, clean, height⟩ := laws_binary_of_fails s.values.length ha hb fails
    rw [faults, clean, height]
    split
    · exact gains_fail s f rfl
    · exact gains_fail s f rfl

/-- The faults of an expression are its own exactly if it stops cleanly on the stack. -/
theorem gains_run (e : Expr) (s s' : Stack) (h : run e s = .ok s') :
    Gains s s' e.ownFaults (e.stopsCleanly s.values.length) (e.waiting s.values.length) := by
  fun_induction run e s generalizing s' with
  | case1 d s =>
    cases h
    exact gains_push s d
  | case2 inner s ih => exact ih s' h
  | case3 op operand s ih =>
    obtain ⟨t, ht, rfl⟩ := run_unary_eq_ok.mp h
    cases valued : operand.hasValue with
    | true =>
      obtain ⟨a, ha⟩ := hasValue_iff.mp valued
      cases (run_eq_push operand s a ha).symm.trans ht
      exact gains_unary op ha
    | false =>
      have whole :=
        Gains.trans (fun n => !op.calculates || n < 1) id (ih t ht) (gains_applyUnary op t)
      simpa [ownFaults, stopsCleanly, waiting, valued, hasValue_unary_of_starved valued] using whole
  | case4 op left right s ihl ihr =>
    obtain ⟨t, u, ht, hu, h⟩ := run_binary_eq_ok.mp h
    cases valued : left.hasValue && right.hasValue with
    | true =>
      obtain ⟨valuedLeft, valuedRight⟩ := Bool.and_eq_true_iff.mp valued
      obtain ⟨a, ha⟩ := hasValue_iff.mp valuedLeft
      obtain ⟨b, hb⟩ := hasValue_iff.mp valuedRight
      cases (run_eq_push left s a ha).symm.trans ht
      cases (run_eq_push right _ b hb).symm.trans hu
      exact gains_binary ha hb h
    | false =>
      have later :=
        Gains.trans (fun n => !op.calculates || n < 2) id (ihr t u hu) (gains_applyBinary h)
      have whole :=
        Gains.trans (fun n => right.stopsCleanly n && (!op.calculates || right.waiting n < 2))
        right.waiting (ihl t ht) later
      simpa [ownFaults, stopsCleanly, waiting, valued, hasValue_binary_of_starved valued]
        using whole
  | case5 e s number parenthesized unary binary =>
    cases h
    obtain ⟨faults, laws⟩ := laws_of_leaf number parenthesized unary binary
    obtain ⟨clean, height⟩ := laws s.values.length
    rw [faults, clean, height]
    exact .refl s

end Stack

namespace Expr

variable {f : Fault}

theorem value_of_failsWith {x : Expr} (h : x.FailsWith f) : x.value = .error (.fault f) := by
  cases x with
  | unary op operand =>
    obtain ⟨a, ha, fails⟩ := h
    exact (value_unary op ha).trans fails
  | binary op left right =>
    obtain ⟨a, b, ha, hb, fails⟩ := h
    exact (value_binary op ha hb).trans fails
  | _ => cases h

/-- Where an expression fails there is an operation that fails with its own operands. -/
theorem exists_failsWith_of_value (e : Expr) (h : e.value = .error (.fault f)) :
    ∃ x ∈ e.nodes, x.FailsWith f := by
  induction e using value.induct with
  | case1 d => cases h
  | case2 inner ih =>
    obtain ⟨x, hx, fails⟩ := ih h
    exact ⟨x, List.mem_cons_of_mem _ hx, fails⟩
  | case3 op operand ih =>
    rcases value_unary_eq_error h with below | own
    · obtain ⟨x, hx, fails⟩ := ih below
      exact ⟨x, List.mem_cons_of_mem _ hx, fails⟩
    · exact ⟨unary op operand, List.mem_cons_self, own⟩
  | case4 op left right ihl ihr =>
    rcases value_binary_eq_error h with below | ⟨_, _, below⟩ | own
    · obtain ⟨x, hx, fails⟩ := ihl below
      exact ⟨x, List.mem_cons_of_mem _ (List.mem_append_left _ hx), fails⟩
    · obtain ⟨x, hx, fails⟩ := ihr below
      exact ⟨x, List.mem_cons_of_mem _ (List.mem_append_right _ hx), fails⟩
    · exact ⟨binary op left right, List.mem_cons_self, own⟩
  | case5 e number parenthesized unary binary =>
    rw [value_of_leaf number parenthesized unary binary] at h
    cases h

theorem mem_faults_iff {outcome : Except Failure Decimal} :
    f ∈ Failure.faults outcome ↔ outcome = .error (.fault f) := by
  rcases outcome with (g | _ | _) | v
  · simp [Failure.faults, eq_comm]
  · simp [Failure.faults]
  · simp [Failure.faults]
  · simp [Failure.faults]

/-- A fault that an operator has with its own operands is that of an operation, unless an operand is
missing. -/
theorem exists_failsWith_of_mem_ownFaults (e : Expr) (h : f ∈ e.ownFaults)
    (operation : ∀ calculates, f ≠ .ofMissing calculates) : ∃ x ∈ e.nodes, x.FailsWith f := by
  induction e using value.induct with
  | case1 d => cases h
  | case2 inner ih =>
    obtain ⟨x, hx, fails⟩ := ih h
    exact ⟨x, List.mem_cons_of_mem _ hx, fails⟩
  | case3 op operand ih =>
    rcases List.mem_append.mp h with below | own
    · obtain ⟨x, hx, fails⟩ := ih below
      exact ⟨x, List.mem_cons_of_mem _ hx, fails⟩
    · split at own
      · next valued =>
        obtain ⟨a, ha⟩ := hasValue_iff.mp valued
        rw [mem_faults_iff, value_unary op ha] at own
        exact ⟨unary op operand, List.mem_cons_self, a, ha, own⟩
      · exact absurd (List.mem_singleton.mp own) (operation _)
  | case4 op left right ihl ihr =>
    rcases List.mem_append.mp h with below | h
    · obtain ⟨x, hx, fails⟩ := ihl below
      exact ⟨x, List.mem_cons_of_mem _ (List.mem_append_left _ hx), fails⟩
    · rcases List.mem_append.mp h with below | own
      · obtain ⟨x, hx, fails⟩ := ihr below
        exact ⟨x, List.mem_cons_of_mem _ (List.mem_append_right _ hx), fails⟩
      · split at own
        · next valued =>
          obtain ⟨valuedLeft, valuedRight⟩ := Bool.and_eq_true_iff.mp valued
          obtain ⟨a, ha⟩ := hasValue_iff.mp valuedLeft
          obtain ⟨b, hb⟩ := hasValue_iff.mp valuedRight
          rw [mem_faults_iff, value_binary op ha hb] at own
          exact ⟨binary op left right, List.mem_cons_self, a, b, ha, hb, own⟩
        · exact absurd (List.mem_singleton.mp own) (operation _)
  | case5 e number parenthesized unary binary =>
    rw [(laws_of_leaf number parenthesized unary binary).1] at h
    cases h

/-- Only a division whose divisor is zero divides by zero. -/
theorem exists_division_of_failsWith {x : Expr} (h : x.FailsWith .divideByZero) :
    ∃ left right a b, x = binary .div left right ∧ left.value = .ok a ∧ right.value = .ok b ∧
      b.isZero = true := by
  have other : ∀ outcome, Failure.ofArithmetic outcome ≠ .error (.fault .divideByZero) := by
    intro outcome
    cases outcome with
    | ok d => rintro ⟨⟩
    | error trap => rintro ⟨⟩
  cases x with
  | unary op operand =>
    obtain ⟨a, _, fails⟩ := h
    cases op with
    | minus => exact absurd fails (other _)
    | plus | invert | other sign => cases fails
  | binary op left right =>
    obtain ⟨a, b, ha, hb, fails⟩ := h
    cases op with
    | add | sub | mul => exact absurd fails (other _)
    | div =>
      rw [BinaryOp.apply] at fails
      split at fails
      · cases fails
      · split at fails
        · next zero => exact ⟨left, right, a, b, rfl, ha, hb, zero⟩
        · exact absurd fails (other _)
    | mod | pow | other sign => cases fails
  | _ => cases h

end Expr

open RateRules.Expr in
/-- The first fault of a calculation is that of an operation with its own operands. The faults are
those that each operator has with its own operands exactly if no operator above a failed one finds
as many values as it takes. Then each division by zero is that of a division whose own divisor is
zero, and each arithmetic fault that of an operation that has no result for its own operands. -/
theorem failures_stop_cleanly_iff (e : Expr) (numeric : e.IsNumeric)
    (finite : ∀ d, number d ∈ e.leaves → d.isFinite = true) :
    ∃ s, calculate e = .ok s ∧
      (∀ f more, s.faults = f :: more → ∃ x ∈ e.nodes, x.FailsWith f) ∧
      (s.faults = e.ownFaults ↔ e.stopsCleanly 0 = true) ∧
      (e.stopsCleanly 0 = true →
        (.divideByZero ∈ s.faults → ∃ left right a b, binary .div left right ∈ e.nodes ∧
          left.value = .ok a ∧ right.value = .ok b ∧ b.isZero = true) ∧
        (.arithmeticError ∈ s.faults → ∃ x ∈ e.nodes, x.FailsWith .arithmeticError)) := by
  obtain ⟨s, calculated, _⟩ := Stack.run_of_isFinite e .empty finite (by rintro d ⟨⟩)
  obtain ⟨gained, faults, _, same, _⟩ := Stack.gains_run e .empty s calculated
  obtain rfl : s.faults = gained := faults
  refine ⟨s, calculated, ?_, same, ?_⟩
  · intro f more first
    rcases e.isDefinite_value numeric finite with ⟨v, hv, _⟩ | ⟨g, failed, _⟩
    · cases calculated.symm.trans (Stack.run_eq_push e .empty v hv)
      cases first
    · obtain ⟨behind, hbehind⟩ := Stack.faults_of_run e .empty s failed calculated
      cases hbehind.trans first
      exact e.exists_failsWith_of_value failed
  · intro clean
    rw [same.mpr clean]
    constructor
    · intro h
      obtain ⟨x, hx, fails⟩ := e.exists_failsWith_of_mem_ownFaults h (by decide)
      obtain ⟨left, right, a, b, rfl, ha, hb, zero⟩ := exists_division_of_failsWith fails
      exact ⟨left, right, a, b, hx, ha, hb, zero⟩
    · intro h
      exact e.exists_failsWith_of_mem_ownFaults h (by decide)

/-- A division fails below a sign, a sum and an operator that cannot calculate. -/
theorem failures_above_failed_division :
    ∃ (e : Expr) (s : Stack),
      e =
        .binary .mod (.binary .add
          (.unary .minus (.binary .div (.number .one) (.number (.ofNat 0))))
        (.number (.ofNat 2))) (.number (.ofNat 3)) ∧
      calculate e = .ok s ∧
      s.faults = [.divideByZero, .missingArgument, .missingArgument, .unsupportedOperator] ∧
      ∃ left right a b, .binary .div left right ∈ e.nodes ∧ left.value = .ok a ∧
      right.value = .ok b ∧
        b.isZero = true := by
  let e : Expr :=
    .binary .mod (.binary .add (.unary .minus (.binary .div (.number .one) (.number (.ofNat 0))))
    (.number (.ofNat 2))) (.number (.ofNat 3))
  have numeric : e.IsNumeric := by simp [e, Expr.IsNumeric, Expr.leaves]
  have finite : ∀ d, .number d ∈ e.leaves → d.isFinite = true := by
    simp [e, Expr.leaves, Decimal.ofNat, Decimal.one, Decimal.isFinite]
  obtain ⟨s, calculated, _, same, causes⟩ := failures_stop_cleanly_iff e numeric finite
  have clean : e.stopsCleanly 0 = true := by decide +kernel
  have faults : s.faults = [.divideByZero, .missingArgument, .missingArgument,
      .unsupportedOperator] :=
    (same.mpr clean).trans (by decide +kernel)
  exact ⟨e, s, rfl, calculated, faults, (causes clean).1 (by rw [faults]; decide)⟩

/-- Behind a division by zero a product takes the factor of another product, and overflows: no
operation of the expression overflows with its own operands. -/
theorem failures_may_not_stop :
    ∃ (e : Expr) (s : Stack),
      e = .binary .mul (.number (.finite false 1 999999)) (.binary .mul (.number (.ofNat 10))
        (.binary .div (.number .one) (.number (.ofNat 0)))) ∧
      calculate e = .ok s ∧ s.faults = [.divideByZero, .arithmeticError, .missingArgument] ∧
      ¬∃ x ∈ e.nodes, x.FailsWith .arithmeticError := by
  let e : Expr :=
    .binary .mul (.number (.finite false 1 999999)) (.binary .mul (.number (.ofNat 10))
    (.binary .div (.number .one) (.number (.ofNat 0))))
  have others : (e.nodes.all fun x => decide (x.value ≠ .error (.fault .arithmeticError))) =
      true := by
    decide +kernel
  refine ⟨e, ⟨[], [.divideByZero, .arithmeticError, .missingArgument]⟩, rfl,
    by decide +kernel, rfl, ?_⟩
  rintro ⟨x, hx, fails⟩
  exact of_decide_eq_true (List.all_eq_true.mp others x hx) (Expr.value_of_failsWith fails)

end RateRules
