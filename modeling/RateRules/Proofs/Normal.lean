import RateRules.Normalization
import RateRules.Proofs.Steps

/-!
# Normal expressions

A script is read as finite numbers, names, operations and calls alone. If normalization finds no
fault in such an expression, it leaves a normal one: no name is left, every call calls an exchange,
and no call stands inside another.
-/
namespace RateRules

namespace Expr

mutual

/-- What an expression of a script is made of when it has been read. -/
def isWritten : Expr → Bool
  | number d => d.isFinite
  | name _ => true
  | unary _ operand => operand.isWritten
  | binary _ left right => left.isWritten && right.isWritten
  | call callee args => callee.isWritten && allWritten args
  | _ => false

def allWritten : List Expr → Bool
  | [] => true
  | e :: more => e.isWritten && allWritten more

end

mutual

/-- What a rule is made of once it is normalized, outside calls or in one. -/
def isNormal (inCall : Bool) : Expr → Bool
  | number d => d.isFinite
  | pair _ => true
  | unary _ operand => operand.isNormal inCall
  | binary _ left right => left.isNormal inCall && right.isNormal inCall
  | call (exchange _) args => !inCall && allNormal args
  | _ => false

/-- Arguments of a call. -/
def allNormal : List Expr → Bool
  | [] => true
  | e :: more => e.isNormal true && allNormal more

end

theorem isNormal_call {inCall : Bool} {callee : Expr} {args : List Expr}
    (h : (call callee args).isNormal inCall = true) :
    inCall = false ∧ (∃ venue, callee = exchange venue) ∧ allNormal args = true := by
  cases callee with
  | exchange venue =>
    rw [isNormal, Bool.and_eq_true, Bool.not_eq_true'] at h
    exact ⟨h.1, ⟨venue, rfl⟩, h.2⟩
  | _ => cases h

theorem isWritten_of_numberOf {place : Script.Place} {text : String} {e : Expr}
    (h : Script.numberOf place text = .ok e) : e.isWritten = true := by
  rw [Script.numberOf] at h
  split at h
  · split at h
    · next finite =>
      cases h
      exact finite
    · cases h
  · cases h

mutual

theorem isWritten_of_tree (t : Script.Tree) (e : Expr) (h : t.expr = .ok e) :
    e.isWritten = true := by
  cases t with
  | number place text => exact isWritten_of_numberOf h
  | name place word =>
    cases h
    rfl
  | unary place op operand =>
    simp only [Script.Tree.expr, bind_eq_ok, pure_eq_ok] at h
    obtain ⟨_, _, x, hx, rfl⟩ := h
    exact isWritten_of_tree operand x hx
  | binary place op left right =>
    simp only [Script.Tree.expr, bind_eq_ok, pure_eq_ok] at h
    obtain ⟨_, _, x, hx, y, hy, rfl⟩ := h
    rw [isWritten, isWritten_of_tree left x hx, isWritten_of_tree right y hy, Bool.and_self]
  | call place callee args named =>
    rw [Script.Tree.expr] at h
    split at h
    · cases h
    · simp only [bind_eq_ok, pure_eq_ok] at h
      obtain ⟨x, hx, xs, hxs, rfl⟩ := h
      rw [isWritten, isWritten_of_tree callee x hx, allWritten_of_trees args xs hxs, Bool.and_self]
  | literal place shown => cases h
  | tuple place items => cases h
  | list place items => cases h
  | starred place inner => cases h
  | foreign place construct => cases h

theorem allWritten_of_trees (ts : List Script.Tree) (es : List Expr)
    (h : Script.exprsOf ts = .ok es) :
    allWritten es = true := by
  cases ts with
  | nil =>
    cases h
    rfl
  | cons t more =>
    simp only [Script.exprsOf, bind_eq_ok, pure_eq_ok] at h
    obtain ⟨x, hx, xs, hxs, rfl⟩ := h
    rw [allWritten, isWritten_of_tree t x hx, allWritten_of_trees more xs hxs, Bool.and_self]

end

theorem exchangeName?_name {word : String} (unpaired : Pair.ofText? word = none) :
    exchangeName? (name word) = some (Text.small word) := by
  rw [exchangeName?, unpaired]
  rfl

theorem exists_of_exchangeName? {callee : Expr} {venue : String}
    (h : exchangeName? callee = some venue) :
    ∃ word, callee = .name word ∧ venue = Text.small word := by
  unfold exchangeName? at h
  split at h
  · next word =>
    split at h
    · cases h
    · exact ⟨word, rfl, (Option.some.inj h).symm⟩
  · cases h

mutual

theorem isNormal_normalized (inCall : Bool) (e : Expr) (written : e.isWritten = true)
    (clean : (e.normalized inCall).2 = []) : (e.normalized inCall).1.isNormal inCall = true := by
  cases e with
  | number d => exact written
  | name word =>
    simp only [normalized] at clean ⊢
    split at clean
    · rfl
    · cases clean
  | unary op operand => exact isNormal_normalized inCall operand written clean
  | binary op left right =>
    rw [isWritten, Bool.and_eq_true] at written
    obtain ⟨cleanLeft, cleanRight⟩ := List.append_eq_nil_iff.mp clean
    simp only [normalized, isNormal]
    rw [isNormal_normalized inCall left written.1 cleanLeft,
      isNormal_normalized inCall right written.2 cleanRight, Bool.and_self]
  | call callee args =>
    rw [isWritten, Bool.and_eq_true] at written
    simp only [normalized] at clean ⊢
    cases inCall with
    | true => cases clean
    | false =>
      cases hvenue : exchangeName? callee with
      | none => simp [hvenue] at clean
      | some venue =>
        simp only [hvenue, Bool.false_eq_true, if_false] at clean ⊢
        rw [isNormal, allNormal_normalizedAll args written.2 clean]
        rfl
  | pair p => cases written
  | exchange venue => cases written
  | parenthesized inner => cases written

theorem allNormal_normalizedAll (es : List Expr) (written : allWritten es = true)
    (clean : (normalizedAll es).2 = []) : allNormal (normalizedAll es).1 = true := by
  cases es with
  | nil => rfl
  | cons e more =>
    rw [allWritten, Bool.and_eq_true] at written
    obtain ⟨cleanFirst, cleanRest⟩ := List.append_eq_nil_iff.mp clean
    simp only [normalizedAll, allNormal]
    rw [isNormal_normalized true e written.1 cleanFirst,
      allNormal_normalizedAll more written.2 cleanRest, Bool.and_self]

end

end Expr

namespace Script

/-- The parts of a statement are as they are when a script has been read. -/
def Statement.isWritten : Statement → Bool
  | assign _ target value _ => target.isWritten && value.isWritten
  | expression e => e.isWritten

theorem isWritten_of_mem_all {es : List Expr} (h : Expr.allWritten es = true) {e : Expr}
    (he : e ∈ es) :
    e.isWritten = true := by
  induction es with
  | nil => cases he
  | cons x more ih =>
    rw [Expr.allWritten, Bool.and_eq_true] at h
    rcases List.mem_cons.mp he with rfl | he
    · exact h.1
    · exact ih h.2 he

theorem isWritten_of_clause {c : Clause} {ss : List Statement} (h : c.statements = .ok ss)
    {s : Statement} (hs : s ∈ ss) : s.isWritten = true := by
  cases c with
  | assign targets value =>
    simp only [Clause.statements, bind_eq_ok, pure_eq_ok] at h
    obtain ⟨e, he, es, hes, rfl⟩ := h
    obtain ⟨target, htarget, rfl⟩ := List.mem_map.mp hs
    rw [Statement.isWritten, Expr.isWritten_of_tree value e he,
      isWritten_of_mem_all (Expr.allWritten_of_trees targets es hes) htarget, Bool.and_self]
  | augment place op target value =>
    simp only [Clause.statements, bind_eq_ok, pure_eq_ok] at h
    obtain ⟨_, _, x, hx, e, he, rfl⟩ := h
    obtain rfl := List.mem_singleton.mp hs
    rw [Statement.isWritten, Expr.isWritten_of_tree target x hx, Expr.isWritten_of_tree value e he,
      Bool.and_self]
  | expression t =>
    simp only [Clause.statements, bind_eq_ok, pure_eq_ok] at h
    obtain ⟨e, he, rfl⟩ := h
    obtain rfl := List.mem_singleton.mp hs
    exact Expr.isWritten_of_tree t e he
  | pass =>
    cases h
    cases hs
  | foreign place command => cases h

theorem isWritten_of_clauses {cs : List Clause} {ss : List Statement} (h : statementsOf cs = .ok ss)
    {s : Statement} (hs : s ∈ ss) : s.isWritten = true := by
  induction cs generalizing ss with
  | nil =>
    cases h
    cases hs
  | cons c more ih =>
    simp only [statementsOf, bind_eq_ok, pure_eq_ok] at h
    obtain ⟨first, hfirst, rest, hrest, rfl⟩ := h
    rcases List.mem_append.mp hs with hs | hs
    · exact isWritten_of_clause hfirst hs
    · exact ih hrest hs

/-- Statements are normalized one by one. -/
theorem normalizedStatements_eq (ss : List Statement) :
    normalizedStatements ss =
      (ss.map fun s => s.normalized.1, ss.flatMap fun s => s.normalized.2) := by
  induction ss with
  | nil => rfl
  | cons s more ih => simp only [normalizedStatements, ih, List.map_cons, List.flatMap_cons]

end Script
end RateRules
