import RateRules.Substitution

/-!
# Substitution as a whole

Whatever was found before, substitution gives the same expression and adds the same faults and the
same lookups behind the old ones. Which rates are looked up does not depend on what the source
answers, and the outcome depends on the source at those rates alone.
-/
namespace RateRules

namespace Expr

/-- The rates that substitution looks up, from left to right. -/
def asks : Expr → List Requirement
  | call callee args =>
    if isMarkerName callee.render then []
    else match args with
      | pair p :: _ => [⟨callee.render, p⟩]
      | _ => []
  | unary _ operand => operand.asks
  | binary _ left right => left.asks ++ right.asks
  | parenthesized inner => inner.asks
  | _ => []

/-- The expression with its rates put in. -/
def rated (source : RateSource) (e : Expr) : Expr := (e.substitute source .empty).1

/-- The faults of the calls that no rate can be put in for. -/
def rateFaults (source : RateSource) (e : Expr) : List Fault :=
  (e.substitute source .empty).2.faults

/-- The rate that is put in for a call. -/
def callRate? (source : RateSource) (callee : Expr) (args : List Expr) : Option Decimal :=
  if isMarkerName callee.render then none
  else match args with
    | pair p :: _ => source.rate? callee.render p
    | _ => none

variable (source : RateSource)

theorem substitute_call (callee : Expr) (args : List Expr) (asked : Asked) :
    (call callee args).substitute source asked = substituteCall source callee args asked := rfl

theorem substitute_unary (op : UnaryOp) (e : Expr) (asked : Asked) :
    (unary op e).substitute source asked =
      (unary op (e.substitute source asked).1, (e.substitute source asked).2) := rfl

theorem substitute_operands (op : BinaryOp) (left right : Expr) (asked : Asked) :
    (binary op left right).substitute source asked =
      (binary op (left.substitute source asked).1
      (right.substitute source (left.substitute source asked).2).1,
        (right.substitute source (left.substitute source asked).2).2) := rfl

theorem substitute_parenthesized (e : Expr) (asked : Asked) :
    (parenthesized e).substitute source asked =
      (parenthesized (e.substitute source asked).1, (e.substitute source asked).2) := rfl

theorem rated_unary (op : UnaryOp) (e : Expr) :
    (unary op e).rated source = unary op (e.rated source) := rfl

theorem rated_parenthesized (e : Expr) :
    (parenthesized e).rated source = parenthesized (e.rated source) := rfl

theorem rateFaults_unary (op : UnaryOp) (e : Expr) :
    (unary op e).rateFaults source = e.rateFaults source := rfl

theorem rateFaults_parenthesized (e : Expr) :
    (parenthesized e).rateFaults source = e.rateFaults source := rfl

theorem substituteCall_eq (callee : Expr) (args : List Expr) (asked : Asked) :
    substituteCall source callee args asked =
      ((call callee args).rated source,
        ⟨asked.faults ++ (call callee args).rateFaults source, asked.lookups ++
            (call callee args).asks⟩) := by
  simp only [rated, rateFaults, asks, substitute_call, substituteCall]
  split
  · simp [Asked.fail, Asked.empty]
  · split
    · split <;> simp [Asked.look, Asked.fail, Asked.empty]
    · simp [Asked.fail, Asked.empty]

theorem substitute_binary (op : BinaryOp) {left right : Expr}
    (hleft : ∀ asked, left.substitute source asked =
      (left.rated source, ⟨asked.faults ++ left.rateFaults source, asked.lookups ++ left.asks⟩))
    (hright : ∀ asked, right.substitute source asked =
      (right.rated source, ⟨asked.faults ++ right.rateFaults source, asked.lookups ++ right.asks⟩))
    (asked : Asked) :
    (binary op left right).substitute source asked =
      (binary op (left.rated source) (right.rated source),
        ⟨asked.faults ++ (left.rateFaults source ++ right.rateFaults source),
          asked.lookups ++ (left.asks ++ right.asks)⟩) := by
  simp only [substitute_operands, hleft, hright, List.append_assoc]

theorem substitute_eq (e : Expr) (asked : Asked) :
    e.substitute source asked =
      (e.rated source, ⟨asked.faults ++ e.rateFaults source, asked.lookups ++ e.asks⟩) := by
  cases e with
  | call callee args => exact substituteCall_eq source callee args asked
  | unary op operand =>
    rw [substitute_unary, substitute_eq operand asked, rated_unary, rateFaults_unary]
    rfl
  | binary op left right =>
    have parts := substitute_binary source op (substitute_eq left) (substitute_eq right)
    have expr : (binary op left right).rated source = _ := congrArg Prod.fst (parts .empty)
    have faults : (binary op left right).rateFaults source = _ :=
      congrArg (fun outcome => outcome.2.faults) (parts .empty)
    rw [parts, expr, faults]
    rfl
  | parenthesized inner =>
    rw [substitute_parenthesized, substitute_eq inner asked, rated_parenthesized,
      rateFaults_parenthesized]
    rfl
  | number _ | name _ | pair _ | exchange _ =>
    have kept : (⟨asked.faults ++ [], asked.lookups ++ []⟩ : Asked) = asked := by
      rw [List.append_nil, List.append_nil]
    exact congrArg (Prod.mk _) kept.symm

theorem rated_binary (op : BinaryOp) (left right : Expr) :
    (binary op left right).rated source = binary op (left.rated source) (right.rated source) :=
  congrArg Prod.fst
    (substitute_binary source op (substitute_eq source left) (substitute_eq source right) .empty)

theorem rateFaults_binary (op : BinaryOp) (left right : Expr) :
    (binary op left right).rateFaults source = left.rateFaults source ++ right.rateFaults source :=
  congrArg (fun outcome => outcome.2.faults)
    (substitute_binary source op (substitute_eq source left) (substitute_eq source right) .empty)

theorem rated_call_of_rate {callee : Expr} {args : List Expr} {d : Decimal}
    (h : callRate? source callee args = some d) :
    (call callee args).rated source = number d ∧ (call callee args).rateFaults source = [] := by
  simp only [rated, rateFaults, substitute_call, substituteCall]
  unfold callRate? at h
  split at h
  · cases h
  · next plain =>
    split at h
    · next p more => simp [plain, h, Asked.look, Asked.empty]
    · cases h

theorem rated_call_of_no_rate {callee : Expr} {args : List Expr}
    (h : callRate? source callee args = none) :
    ∃ marks shown, (call callee args).rated source = call marks shown := by
  simp only [rated, substitute_call, substituteCall]
  unfold callRate? at h
  split at h
  · next marks =>
    rw [if_pos marks]
    exact ⟨callee, args, rfl⟩
  · next plain =>
    rw [if_neg plain]
    split
    · simp only [h]
      exact ⟨_, _, rfl⟩
    · exact ⟨_, _, rfl⟩

theorem rateFaults_call_of_no_rate {callee : Expr} {args : List Expr}
    (h : callRate? source callee args = none) : (call callee args).rateFaults source ≠ [] := by
  simp only [rateFaults, substitute_call, substituteCall]
  unfold callRate? at h
  split at h
  · next marks => simp [marks, Asked.fail]
  · next plain =>
    simp only [plain]
    split at h
    · simp [h, Asked.fail]
    · simp [Asked.fail]

/-- Sources that agree on the rates that are looked up give the same. -/
theorem substitute_congr {source source' : RateSource} (e : Expr) (asked : Asked)
    (agree : ∀ r ∈ e.asks, source.rate? r.exchange r.pair = source'.rate? r.exchange r.pair) :
    e.substitute source asked = e.substitute source' asked := by
  cases e with
  | call callee args =>
    simp only [substitute_call, substituteCall]
    simp only [asks] at agree
    split
    · rfl
    · next plain =>
      simp only [plain] at agree
      split
      · rw [agree _ (List.mem_singleton.mpr rfl)]
      · rfl
  | unary op operand => simp only [substitute_unary, substitute_congr operand asked agree]
  | binary op left right =>
    have hleft := substitute_congr left asked fun r hr => agree r (List.mem_append_left _ hr)
    have hright := fun asked => substitute_congr right asked
      fun r hr => agree r (List.mem_append_right _ hr)
    simp only [substitute_operands, hleft, hright]
  | parenthesized inner => simp only [substitute_parenthesized, substitute_congr inner asked agree]
  | number d => rfl
  | name word => rfl
  | pair p => rfl
  | exchange venue => rfl

end Expr
end RateRules
