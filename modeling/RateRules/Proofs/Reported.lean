import RateRules.Proofs.Evaluation
import RateRules.Proofs.Leaves

/-!
# Where the faults of an evaluation come from

An evaluation reports the faults of flattening, of the calls that no rate is put in for, and of
operations. A fault that is none of an operation is that of a leaf: of a marker, of a call whose
rate is missing or not finite, or of a call without a pair.
-/
namespace RateRules

/-- A fault that an operation of a calculation can have. -/
def Fault.isOfOperation : Fault → Bool
  | unsupportedOperator | missingArgument | divideByZero | arithmeticError => true
  | _ => false

namespace Stack

variable {s t s' : Stack} {f : Fault}

/-- Whatever faults the stack has gained are those of operations. -/
def GainsOperations (s s' : Stack) : Prop := ∀ f ∈ s'.faults, f ∈ s.faults ∨ f.isOfOperation = true

theorem gainsOperations_of_faults_eq (h : s'.faults = s.faults) : GainsOperations s s' :=
  fun _ hf => Or.inl (h ▸ hf)

theorem gainsOperations_fail {values : List Decimal} (h : f.isOfOperation = true) :
    GainsOperations s ((Stack.mk values s.faults).fail f) := by
  intro g hg
  rcases List.mem_append.mp hg with hg | hg
  · exact Or.inl hg
  · rw [List.mem_singleton.mp hg]
    exact Or.inr h

theorem GainsOperations.trans (first : GainsOperations s t) (second : GainsOperations t s') :
    GainsOperations s s' := by
  intro f hf
  rcases second f hf with hf | operation
  · exact first f hf
  · exact Or.inr operation

theorem gainsOperations_result {values : List Decimal} (outcome : Except Decimal.Trap Decimal) :
    GainsOperations s ((Stack.mk values s.faults).result outcome) := by
  cases outcome with
  | ok d => exact gainsOperations_of_faults_eq rfl
  | error trap => exact gainsOperations_fail rfl

theorem gainsOperations_applyUnary (op : UnaryOp) (s : Stack) :
    GainsOperations s (s.applyUnary op) := by
  obtain ⟨values, faults⟩ := s
  cases op with
  | plus =>
    cases values with
    | nil => exact gainsOperations_fail rfl
    | cons a rest => exact gainsOperations_of_faults_eq rfl
  | minus =>
    cases values with
    | nil => exact gainsOperations_fail rfl
    | cons a rest => exact @gainsOperations_result ⟨a :: rest, faults⟩ rest a.negate
  | invert | other sign => exact gainsOperations_fail rfl

theorem gainsOperations_applyBinary {op : BinaryOp} (h : s.applyBinary op = .ok s') :
    GainsOperations s s' := by
  unfold applyBinary at h
  split at h
  · cases h
    exact gainsOperations_fail rfl
  · simp only at h
    split at h
    · split at h
      · cases h
      · split at h
        · cases h
          exact gainsOperations_fail rfl
        · cases h
          exact gainsOperations_result _
    · cases h
      exact gainsOperations_result _
  · cases h
    exact gainsOperations_fail rfl

theorem gainsOperations_run (e : Expr) (s s' : Stack) (h : run e s = .ok s') :
    GainsOperations s s' := by
  fun_induction run e s generalizing s' with
  | case1 d s =>
    cases h
    exact gainsOperations_of_faults_eq rfl
  | case2 inner s ih => exact ih s' h
  | case3 op operand s ih =>
    obtain ⟨t, ht, rfl⟩ := run_unary_eq_ok.mp h
    exact (ih t ht).trans (gainsOperations_applyUnary op t)
  | case4 op left right s ihl ihr =>
    obtain ⟨t, u, ht, hu, h⟩ := run_binary_eq_ok.mp h
    exact ((ihl t ht).trans (ihr t u hu)).trans (gainsOperations_applyBinary h)
  | case5 e s =>
    cases h
    exact gainsOperations_of_faults_eq rfl

end Stack

namespace RateRule

variable {e : Expr} {value : Option Decimal} {faults found : List Fault} {f : Fault}

/-- Calculating adds faults of operations only, and none if there were faults before. -/
theorem mem_faults_of_outcome (h : outcome e faults = .ok (value, found))
    (other : f.isOfOperation = false) :
    f ∈ found ↔ f ∈ faults := by
  cases faults with
  | cons first more =>
    cases h
    exact Iff.rfl
  | nil =>
    have calculated : f ∉ found := by
      intro hf
      obtain ⟨s, calculated, h⟩ := exists_answer_of_outcome h
      rcases answer_cases s with ⟨d, _, own⟩ | ⟨_, own⟩ | ⟨first, more, recorded, own⟩
      · cases own.symm.trans h
        cases hf
      · cases own.symm.trans h
        rw [List.mem_singleton.mp hf] at other
        cases other
      · cases own.symm.trans h
        rcases Stack.gainsOperations_run e .empty s calculated f (recorded ▸ hf)
          with none | operation
        · cases none
        · rw [other] at operation
          cases operation
    simp [calculated]

/-- An evaluation reports a fault that is none of an operation if flattening or a call has it. -/
theorem mem_faults_of_evaluate {rule : RateRule} {source : RateSource} {evaluation : Evaluation}
    {lookups : List Requirement} (h : rule.evaluate source = .ok (evaluation, lookups))
    (other : f.isOfOperation = false) :
    f ∈ evaluation.faults ↔ f ∈ rule.faults ∨ f ∈ rule.expr.rateFaults source := by
  obtain ⟨_, faults, houtcome, hfaults, _⟩ := evaluate_eq_ok_iff.mp h
  rw [hfaults, List.mem_eraseDups, mem_faults_of_outcome houtcome other, List.mem_append]

end RateRule

namespace Expr

variable {source : RateSource} {f : Fault} {r : Requirement}

/-- The pair that a call is made with, its first argument. -/
def firstPair? : List Expr → Option Pair
  | pair p :: _ => some p
  | _ => none

/-- The fault of a call that no rate is put in for. -/
def callFault? (source : RateSource) (callee : Expr) (args : List Expr) : Option Fault :=
  if isMarkerName callee.render then some .preprocessError
  else (firstPair? args).elim (some .invalidCurrencyIdentifier) fun p =>
    if (source.rate? callee.render p).isSome then none else some .rateUnavailable

theorem rateFaults_call (source : RateSource) (callee : Expr) (args : List Expr) :
    (call callee args).rateFaults source = (callFault? source callee args).toList := by
  simp only [rateFaults, substitute, substituteCall, callFault?]
  split
  · rfl
  · rcases args with _ | ⟨x, more⟩
    · rfl
    · cases x with
      | pair p =>
        simp only [firstPair?, Option.elim_some]
        cases source.rate? callee.render p <;> rfl
      | _ => rfl

theorem asks_call (callee : Expr) (args : List Expr) :
    (call callee args).asks = if isMarkerName callee.render then []
      else ((firstPair? args).map (Requirement.mk callee.render)).toList := by
  unfold asks
  split
  · rfl
  · rcases args with _ | ⟨x, more⟩
    · rfl
    · cases x <;> rfl

/-- The faults of an expression are those of its calls. -/
theorem mem_rateFaults_iff (e : Expr) :
    f ∈ e.rateFaults source ↔ ∃ callee args, call callee args ∈ e.leaves ∧
      callFault? source callee args = some f := by
  cases e with
  | call callee args =>
    rw [rateFaults_call, Option.mem_toList, leaves]
    constructor
    · exact fun fault => ⟨callee, args, List.mem_singleton_self _, fault⟩
    · rintro ⟨_, _, same, fault⟩
      obtain ⟨rfl, rfl⟩ := Expr.call.inj (List.mem_singleton.mp same)
      exact fault
  | unary op operand => exact mem_rateFaults_iff operand
  | binary op left right =>
    rw [rateFaults_binary, List.mem_append, mem_rateFaults_iff left, mem_rateFaults_iff right]
    simp only [leaves, List.mem_append, or_and_right, exists_or]
  | parenthesized inner => exact mem_rateFaults_iff inner
  | number _ | name _ | pair _ | exchange _ => simp [rateFaults, substitute, Asked.empty, leaves]

/-- What is looked up is the pair of each call that is no marker. -/
theorem mem_asks_iff (e : Expr) :
    r ∈ e.asks ↔ ∃ callee args, call callee args ∈ e.leaves ∧ isMarkerName callee.render = false ∧
      firstPair? args = some r.pair ∧ callee.render = r.exchange := by
  cases e with
  | call callee args =>
    rw [asks_call, leaves]
    constructor
    · intro hr
      split at hr
      · cases hr
      · next plain =>
        obtain ⟨p, hp, rfl⟩ := Option.map_eq_some_iff.mp (Option.mem_toList.mp hr)
        exact ⟨callee, args, List.mem_singleton_self _, by simpa using plain, hp, rfl⟩
    · rintro ⟨_, _, same, plain, hp, venue⟩
      obtain ⟨rfl, rfl⟩ := Expr.call.inj (List.mem_singleton.mp same)
      rw [plain, hp, venue]
      exact List.mem_singleton_self _
  | unary op operand => exact mem_asks_iff operand
  | binary op left right =>
    rw [asks, List.mem_append, mem_asks_iff left, mem_asks_iff right]
    simp only [leaves, List.mem_append, or_and_right, exists_or]
  | parenthesized inner => exact mem_asks_iff inner
  | number _ | name _ | pair _ | exchange _ => simp [asks, leaves]

theorem callFault?_eq_preprocessError_iff {callee : Expr} {args : List Expr} :
    callFault? source callee args = some .preprocessError ↔ isMarkerName callee.render = true := by
  rw [callFault?]
  split
  · next marks => simp [marks]
  · next plain =>
    cases firstPair? args with
    | none => simp [plain]
    | some p => cases source.rate? callee.render p <;> simp [plain]

theorem callFault?_eq_rateUnavailable_iff {callee : Expr} {args : List Expr} :
    callFault? source callee args = some .rateUnavailable ↔ isMarkerName callee.render = false ∧
      ∃ p, firstPair? args = some p ∧ source.rate? callee.render p = none := by
  rw [callFault?]
  split
  · next marks => simp [marks]
  · next plain =>
    cases firstPair? args with
    | none => simp
    | some p => cases h : source.rate? callee.render p <;> simp [plain, h]

/-- A marker is a fault of its own. -/
theorem preprocessError_mem_rateFaults_iff {e : Expr} :
    .preprocessError ∈ e.rateFaults source ↔
      ∃ callee args, call callee args ∈ e.leaves ∧ isMarkerName callee.render = true := by
  simp only [mem_rateFaults_iff, callFault?_eq_preprocessError_iff]

/-- A rate is unavailable if it is looked up and is missing or not finite. -/
theorem rateUnavailable_mem_rateFaults_iff {e : Expr} :
    .rateUnavailable ∈ e.rateFaults source ↔
    ∃ r ∈ e.asks, source.rate? r.exchange r.pair = none := by
  simp only [mem_rateFaults_iff, callFault?_eq_rateUnavailable_iff, mem_asks_iff]
  constructor
  · rintro ⟨callee, args, leaf, plain, p, hp, rate⟩
    exact ⟨⟨callee.render, p⟩, ⟨callee, args, leaf, plain, hp, rfl⟩, rate⟩
  · rintro ⟨⟨_, p⟩, ⟨callee, args, leaf, plain, hp, rfl⟩, rate⟩
    exact ⟨callee, args, leaf, plain, p, hp, rate⟩

end Expr
end RateRules
