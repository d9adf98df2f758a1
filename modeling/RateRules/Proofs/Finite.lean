import RateRules.Proofs.Leaves
import RateRules.Proofs.Normal
import RateRules.Proofs.Evaluation
import RateRules.Proofs.Rounding

/-!
# Calculations with finite numbers

An operation on finite numbers has a finite result or a fault. So the values on the stack stay
finite, the calculation never compares a signaling divisor with zero, and it comes to an end.
-/
namespace RateRules

namespace Decimal

theorem isSignaling_of_isFinite {d : Decimal} (h : d.isFinite = true) : d.isSignaling = false := by
  obtain ⟨negative, coefficient, exponent, rfl⟩ := eq_finite_of_isFinite h
  rfl

end Decimal

namespace Stack

theorem fits_of_operation {op : BinaryOp}
    {operation : Decimal → Decimal → Except Decimal.Trap Decimal}
    (calculates : operation? op = some operation)
    {a b d : Decimal} (ha : a.isFinite = true) (hb : b.isFinite = true)
    (h : operation a b = .ok d) :
    d.fits = true := by
  cases op with
  | add =>
    cases calculates
    exact Decimal.fits_add ha hb h
  | sub =>
    cases calculates
    exact Decimal.fits_sub ha hb h
  | mul =>
    cases calculates
    exact Decimal.fits_mul ha hb h
  | div =>
    cases calculates
    exact Decimal.fits_div ha hb h
  | mod | pow | other sign => cases calculates

/-- All waiting values are finite. -/
def IsFinite (s : Stack) : Prop := ∀ d ∈ s.values, d.isFinite = true

theorem isFinite_push {s : Stack} {d : Decimal} (hs : s.IsFinite) (hd : d.isFinite = true) :
    (s.push d).IsFinite := by
  intro x hx
  rcases List.mem_cons.mp hx with rfl | hx
  · exact hd
  · exact hs x hx

theorem isFinite_result {s : Stack} (hs : s.IsFinite) {outcome : Except Decimal.Trap Decimal}
    (finite : ∀ d, outcome = .ok d → d.isFinite = true) : (s.result outcome).IsFinite := by
  cases outcome with
  | ok d => exact isFinite_push hs (finite d rfl)
  | error trap => exact hs

theorem isFinite_applyUnary (op : UnaryOp) {s : Stack} (hs : s.IsFinite) :
    (s.applyUnary op).IsFinite := by
  fun_cases applyUnary op s with
  | case1 => exact hs
  | case2 a rest values =>
    rw [IsFinite, values] at hs
    exact isFinite_result (fun x hx => hs x (List.mem_cons_of_mem a hx))
      fun d hd => Decimal.isFinite_of_fits (Decimal.fits_negate (hs a List.mem_cons_self) hd)
  | case3 | case4 | case5 | case6 => exact hs

theorem applyBinary_of_isFinite (op : BinaryOp) {s : Stack} (hs : s.IsFinite) :
    ∃ s', s.applyBinary op = .ok s' ∧ s'.IsFinite := by
  rw [applyBinary]
  split
  · exact ⟨_, rfl, hs⟩
  · next operation b a rest calculates values =>
    rw [IsFinite, values] at hs
    have ha := hs a (List.mem_cons_of_mem b List.mem_cons_self)
    have hb := hs b List.mem_cons_self
    have below : (Stack.mk rest s.faults).IsFinite := fun x hx =>
      hs x (List.mem_cons_of_mem b (List.mem_cons_of_mem a hx))
    have above := isFinite_result below fun _ h =>
      Decimal.isFinite_of_fits (fits_of_operation calculates ha hb h)
    simp only [Decimal.isSignaling_of_isFinite hb]
    split
    · split
      · contradiction
      · split
        · exact ⟨_, rfl, below⟩
        · exact ⟨_, rfl, above⟩
    · exact ⟨_, rfl, above⟩
  · exact ⟨_, rfl, hs⟩

/-- An expression whose numbers are finite is calculated to the end. -/
theorem run_of_isFinite (e : Expr) (s : Stack)
    (numbers : ∀ d, .number d ∈ e.leaves → d.isFinite = true)
    (hs : s.IsFinite) : ∃ s', run e s = .ok s' ∧ s'.IsFinite := by
  fun_induction run e s with
  | case1 d s => exact ⟨_, rfl, isFinite_push hs (numbers d (List.mem_singleton.mpr rfl))⟩
  | case2 inner s ih => exact ih numbers hs
  | case3 op operand s ih =>
    obtain ⟨t, ht, finite⟩ := ih numbers hs
    exact ⟨_, bind_eq_ok.mpr ⟨t, ht, rfl⟩, isFinite_applyUnary op finite⟩
  | case4 op left right s ihl ihr =>
    obtain ⟨t, ht, finite⟩ := ihl (fun d hd => numbers d (List.mem_append_left _ hd)) hs
    obtain ⟨u, hu, finite⟩ := ihr t (fun d hd => numbers d (List.mem_append_right _ hd)) finite
    obtain ⟨v, hv, finite⟩ := applyBinary_of_isFinite op finite
    exact ⟨v, bind_eq_ok.mpr ⟨t, ht, bind_eq_ok.mpr ⟨u, hu, hv⟩⟩, finite⟩
  | case5 e s => exact ⟨s, rfl, hs⟩

end Stack

namespace Expr

theorem isFinite_of_rate? {source : RateSource} {venue : String} {p : Pair} {d : Decimal}
    (h : source.rate? venue p = some d) : d.isFinite = true := by
  rw [RateSource.rate?] at h
  split at h
  · split at h
    · next finite =>
      cases h
      exact finite
    · cases h
  · cases h

theorem exists_rate_of_callRate? {source : RateSource} {callee : Expr}
    {args : List Expr} {d : Decimal}
    (h : callRate? source callee args = some d) : ∃ venue p, source.rate? venue p = some d := by
  unfold callRate? at h
  split at h
  · cases h
  · split at h
    · exact ⟨_, _, h⟩
    · cases h

/-- The numbers of an expression with its rates put in are its own and the rates. -/
theorem number_mem_leaves_rated (source : RateSource) (e : Expr) {d : Decimal}
    (h : number d ∈ (e.rated source).leaves) :
    number d ∈ e.leaves ∨ ∃ venue p, source.rate? venue p = some d := by
  cases e with
  | call callee args =>
    cases hrate : callRate? source callee args with
    | some rate =>
      rw [(rated_call_of_rate source hrate).1] at h
      cases List.mem_singleton.mp h
      exact Or.inr (exists_rate_of_callRate? hrate)
    | none =>
      obtain ⟨callee', args', marked⟩ := rated_call_of_no_rate source hrate
      rw [marked] at h
      cases List.mem_singleton.mp h
  | unary op operand => exact number_mem_leaves_rated source operand h
  | binary op left right =>
    rw [rated_binary] at h
    rcases List.mem_append.mp h with h | h
    · exact (number_mem_leaves_rated source left h).imp_left (List.mem_append_left _)
    · exact (number_mem_leaves_rated source right h).imp_left (List.mem_append_right _)
  | parenthesized inner => exact number_mem_leaves_rated source inner h
  | number value => exact Or.inl h
  | name word => cases List.mem_singleton.mp h
  | pair p => cases List.mem_singleton.mp h
  | exchange venue => cases List.mem_singleton.mp h

theorem isFinite_of_mem_leaves_rated (source : RateSource) (e : Expr)
    (numbers : ∀ d, number d ∈ e.leaves → d.isFinite = true) (d : Decimal)
    (h : number d ∈ (e.rated source).leaves) : d.isFinite = true := by
  rcases number_mem_leaves_rated source e h with own | ⟨venue, p, rate⟩
  · exact numbers d own
  · exact isFinite_of_rate? rate

end Expr

/-- A rule whose numbers are finite can be evaluated, whatever rates a source gives. -/
theorem RateRule.evaluate_of_isFinite (rule : RateRule) (source : RateSource)
    (numbers : ∀ d, .number d ∈ rule.expr.leaves → d.isFinite = true) :
    ∃ evaluation, rule.evaluate source = .ok (evaluation, rule.expr.asks) := by
  obtain ⟨stack, calculated, _⟩ := Stack.run_of_isFinite (rule.expr.rated source) .empty
    (Expr.isFinite_of_mem_leaves_rated source rule.expr numbers) (fun d hd => nomatch hd)
  rw [evaluate_eq, outcome]
  split
  · exact ⟨_, rfl⟩
  · rw [calculate, calculated]
    exact ⟨_, rfl⟩

end RateRules
