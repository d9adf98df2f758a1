import RateRules.Proofs.Gathered
import RateRules.Proofs.Wildcards

/-!
# The shape of flattened rules

In the rule for a pair no name is left, pairs stand in the arguments of calls alone, and neither
they nor the rates that the rule requires have a wildcard, whether or not a reference was too deep.
So nothing is left that flattening could change.
-/
namespace RateRules

namespace Pair

theorem filledFrom_of_concrete {p : Pair} (concrete : p.isPattern = false) (context : Pair) :
    p.filledFrom context = p := by
  have codes : p.left.isAny = false ∧ p.right.isAny = false := by simpa [isPattern] using concrete
  simp [filledFrom, codes.1, codes.2]

end Pair

namespace Expr

/-- All parts of an expression that stand in no arguments of a call. -/
def outside : Expr → List Expr
  | unary op operand => unary op operand :: operand.outside
  | binary op left right => binary op left right :: (left.outside ++ right.outside)
  | parenthesized inner => parenthesized inner :: inner.outside
  | call callee args => call callee args :: callee.outside
  | number value => [number value]
  | name word => [name word]
  | pair p => [pair p]
  | exchange venue => [exchange venue]

def isOperation : Expr → Bool
  | unary .. | binary .. | parenthesized _ => true
  | _ => false

variable {x : Expr}

/-- A part that is no operation is part of a leaf. -/
theorem exists_leaf_of_mem_nodes (e : Expr) (h : x ∈ e.nodes) (atom : x.isOperation = false) :
    ∃ y ∈ e.leaves, x ∈ y.nodes := by
  cases e with
  | unary op operand =>
    rcases List.mem_cons.mp h with rfl | h
    · cases atom
    · exact exists_leaf_of_mem_nodes operand h atom
  | binary op left right =>
    rcases List.mem_cons.mp h with rfl | h
    · cases atom
    · rcases List.mem_append.mp h with h | h
      · obtain ⟨y, hy, part⟩ := exists_leaf_of_mem_nodes left h atom
        exact ⟨y, List.mem_append_left _ hy, part⟩
      · obtain ⟨y, hy, part⟩ := exists_leaf_of_mem_nodes right h atom
        exact ⟨y, List.mem_append_right _ hy, part⟩
  | parenthesized inner =>
    rcases List.mem_cons.mp h with rfl | h
    · cases atom
    · exact exists_leaf_of_mem_nodes inner h atom
  | number _ | name _ | pair _ | exchange _ | call _ _ => exact ⟨_, List.mem_singleton_self _, h⟩

mutual

/-- A normal expression has no names, and its pairs are those that it lists. -/
theorem nodes_of_isNormal (inCall : Bool) (e : Expr) (normal : e.isNormal inCall = true)
    (h : x ∈ e.nodes) :
    (∀ word, x ≠ name word) ∧ ∀ q, x = pair q → q ∈ e.pairs := by
  cases e with
  | number d =>
    obtain rfl := List.mem_singleton.mp h
    simp
  | pair p =>
    obtain rfl := List.mem_singleton.mp h
    simp [pairs, eq_comm]
  | unary op operand =>
    rcases List.mem_cons.mp h with rfl | h
    · simp
    · exact nodes_of_isNormal inCall operand normal h
  | binary op left right =>
    rw [isNormal, Bool.and_eq_true] at normal
    rcases List.mem_cons.mp h with rfl | h
    · simp
    · rcases List.mem_append.mp h with h | h
      · obtain ⟨named, listed⟩ := nodes_of_isNormal inCall left normal.1 h
        exact ⟨named, fun q hq => List.mem_append_left _ (listed q hq)⟩
      · obtain ⟨named, listed⟩ := nodes_of_isNormal inCall right normal.2 h
        exact ⟨named, fun q hq => List.mem_append_right _ (listed q hq)⟩
  | call callee args =>
    obtain ⟨_, ⟨venue, rfl⟩, arguments⟩ := isNormal_call normal
    rcases List.mem_cons.mp h with rfl | h
    · simp
    · rcases List.mem_cons.mp h with rfl | h
      · simp
      · exact nodes_of_allNormal args arguments h
  | name word => cases normal
  | exchange venue => cases normal
  | parenthesized inner => cases normal

theorem nodes_of_allNormal (es : List Expr) (normal : allNormal es = true) (h : x ∈ nodesOfAll es) :
    (∀ word, x ≠ name word) ∧ ∀ q, x = pair q → q ∈ pairsOfAll es := by
  cases es with
  | nil => cases h
  | cons e more =>
    rw [allNormal, Bool.and_eq_true] at normal
    rcases List.mem_append.mp h with h | h
    · obtain ⟨named, listed⟩ := nodes_of_isNormal true e normal.1 h
      exact ⟨named, fun q hq => List.mem_append_left _ (listed q hq)⟩
    · obtain ⟨named, listed⟩ := nodes_of_allNormal more normal.2 h
      exact ⟨named, fun q hq => List.mem_append_right _ (listed q hq)⟩

end

mutual

theorem pair_mem_pairs_of_mem_needsIn {r : Requirement} (venue : Option String) (e : Expr)
    (h : r ∈ e.needsIn venue) : r.pair ∈ e.pairs := by
  cases e with
  | pair p =>
    cases venue with
    | none => cases h
    | some venue =>
      simp only [needsIn] at h
      split at h
      · cases h
      · rw [List.mem_singleton.mp h]
        exact List.mem_singleton_self _
  | call callee args => exact pair_mem_pairs_of_mem_needsInAll callee.render args h
  | unary op operand => exact pair_mem_pairs_of_mem_needsIn venue operand h
  | binary op left right =>
    rcases List.mem_append.mp h with h | h
    · exact List.mem_append_left _ (pair_mem_pairs_of_mem_needsIn venue left h)
    · exact List.mem_append_right _ (pair_mem_pairs_of_mem_needsIn venue right h)
  | parenthesized inner => exact pair_mem_pairs_of_mem_needsIn venue inner h
  | number _ | name _ | exchange _ => cases h

theorem pair_mem_pairs_of_mem_needsInAll {r : Requirement} (venue : String) (es : List Expr)
    (h : r ∈ needsInAll venue es) : r.pair ∈ pairsOfAll es := by
  cases es with
  | nil => cases h
  | cons e more =>
    rcases List.mem_append.mp h with h | h
    · exact List.mem_append_left _ (pair_mem_pairs_of_mem_needsIn (some venue) e h)
    · exact List.mem_append_right _ (pair_mem_pairs_of_mem_needsInAll venue more h)

end

mutual

/-- Filling leaves an expression as it is if its pairs stay as they are. -/
theorem filled_eq_self {context : Pair} (e : Expr) (h : ∀ q ∈ e.pairs, q.filledFrom context = q) :
    e.filled context = e := by
  cases e with
  | pair p => rw [filled, h p (List.mem_singleton_self p)]
  | call callee args => rw [filled, filledAll_eq_self args h]
  | unary op operand => rw [filled, filled_eq_self operand h]
  | binary op left right =>
    rw [filled, filled_eq_self left fun q hq => h q (List.mem_append_left _ hq),
      filled_eq_self right fun q hq => h q (List.mem_append_right _ hq)]
  | parenthesized inner => rw [filled, filled_eq_self inner h]
  | number _ | name _ | exchange _ => rfl

theorem filledAll_eq_self {context : Pair} (es : List Expr)
    (h : ∀ q ∈ pairsOfAll es, q.filledFrom context = q) :
    filledAll context es = es := by
  cases es with
  | nil => rfl
  | cons e more =>
    rw [filledAll, filled_eq_self e fun q hq => h q (List.mem_append_left _ hq),
      filledAll_eq_self more fun q hq => h q (List.mem_append_right _ hq)]

end

variable {candidate : Pair → Expr} {p q : Pair}

/-- A leaf that nothing is left to do for: no reference, and no wildcard in it. -/
structure IsSettled (e : Expr) : Prop where
  normal : e.isNormal false = true
  noReference : ∀ q, e ≠ pair q
  concrete : ∀ q ∈ e.pairs, q.isPattern = false

/-- The references of a rule for a pair without a wildcard have none either. -/
theorem concrete_of_mem_references {context : Pair} {e : Expr}
    (concrete : context.isPattern = false)
    (h : q ∈ e.references context) : q.isPattern = false := by
  obtain ⟨y, _, reference⟩ := List.mem_filterMap.mp h
  cases y with
  | pair p =>
    cases reference
    exact p.isPattern_filledFrom concrete
  | _ => cases reference

theorem Reaches.concrete (reached : Reaches candidate p q) (h : p.isPattern = false) :
    q.isPattern = false := by
  induction reached with
  | refl => exact h
  | step reference _ ih => exact ih (concrete_of_mem_references h reference)

theorem concrete_of_mem_pairs_filled {context : Pair} {e : Expr}
    (concrete : context.isPattern = false)
    (h : q ∈ (e.filled context).pairs) : q.isPattern = false := by
  rw [pairs_filled] at h
  obtain ⟨p, _, rfl⟩ := List.mem_map.mp h
  exact p.isPattern_filledFrom concrete

/-- A leaf is settled once it is filled, unless it is a reference. -/
theorem IsSettled.of_filled {context : Pair} {y : Expr} (concrete : context.isPattern = false)
    (normal : y.isNormal false = true) (own : y.reference? context = none) :
    (y.filled context).IsSettled := by
  refine ⟨?_, ?_, fun q hq => concrete_of_mem_pairs_filled concrete hq⟩
  · rw [isNormal_filled]
    exact normal
  · intro q same
    cases y with
    | pair p => cases own
    | _ => cases same

theorem IsSettled.of_tooDeepMarker (concrete : q.isPattern = false) :
    (tooDeepMarker q).IsSettled := by
  refine ⟨rfl, ?_, ?_⟩
  · rintro s ⟨⟩
  · intro s hs
    rw [List.mem_singleton.mp hs]
    exact concrete

/-- Flattening settles all leaves. -/
theorem isSettled_of_mem_leaves_flatten (candidates : ∀ q, (candidate q).isNormal false = true)
    (concrete : p.isPattern = false) {e : Expr} (normal : ∀ y ∈ e.leaves, y.isNormal false = true)
    (h : x ∈ (flatten candidate p e).1.leaves) : x.IsSettled := by
  rcases mem_leaves_flatten candidate p e x h with ⟨y, hy, own, rfl⟩ | ⟨q, ⟨r, hr, reached⟩, origin⟩
  · exact .of_filled concrete (normal y hy) own
  · have there : q.isPattern = false := reached.concrete (concrete_of_mem_references concrete hr)
    rcases origin with rfl | ⟨y, hy, own, rfl⟩
    · exact .of_tooDeepMarker there
    · exact .of_filled there (isNormal_of_mem_leaves false (candidate q) (candidates q) y hy) own

theorem concrete_of_mem_requirements_flatten (concrete : p.isPattern = false) {e : Expr}
    {r : Requirement}
    (h : r ∈ (flatten candidate p e).2.requirements) : r.pair.isPattern = false := by
  rcases exists_reached_of_mem_requirements h
    with ⟨x, _, needed⟩ | ⟨q, ⟨s, hs, reached⟩, x, _, needed⟩
  · exact concrete_of_mem_pairs_filled concrete (pair_mem_pairs_of_mem_needsIn none _ needed)
  · have there : q.isPattern = false := reached.concrete (concrete_of_mem_references concrete hs)
    exact concrete_of_mem_pairs_filled there (pair_mem_pairs_of_mem_needsIn none _ needed)

theorem name_not_mem_nodes {e : Expr} (settled : ∀ x ∈ e.leaves, x.IsSettled) (word : String) :
    name word ∉ e.nodes := by
  intro h
  obtain ⟨y, hy, part⟩ := exists_leaf_of_mem_nodes e h rfl
  exact (nodes_of_isNormal false y (settled y hy).normal part).1 word rfl

theorem concrete_of_pair_mem_nodes {e : Expr} (settled : ∀ x ∈ e.leaves, x.IsSettled)
    (h : pair q ∈ e.nodes) :
    q.isPattern = false := by
  obtain ⟨y, hy, part⟩ := exists_leaf_of_mem_nodes e h rfl
  have listed := (nodes_of_isNormal false y (settled y hy).normal part).2 q rfl
  exact (settled y hy).concrete q listed

theorem pair_not_mem_outside (e : Expr) (settled : ∀ x ∈ e.leaves, x.IsSettled) (q : Pair) :
    pair q ∉ e.outside := by
  intro h
  cases e with
  | unary op operand =>
    rcases List.mem_cons.mp h with same | h
    · cases same
    · exact pair_not_mem_outside operand settled q h
  | binary op left right =>
    rcases List.mem_cons.mp h with same | h
    · cases same
    · rcases List.mem_append.mp h with h | h
      · exact pair_not_mem_outside left (fun x hx => settled x (List.mem_append_left _ hx)) q h
      · exact pair_not_mem_outside right (fun x hx => settled x (List.mem_append_right _ hx)) q h
  | parenthesized inner =>
    rcases List.mem_cons.mp h with same | h
    · cases same
    · exact pair_not_mem_outside inner settled q h
  | pair p => exact (settled (pair p) (List.mem_singleton_self _)).noReference p rfl
  | call callee args =>
    obtain ⟨_, ⟨venue, rfl⟩, _⟩ := isNormal_call (settled _ (List.mem_singleton_self _)).normal
    simp [outside] at h
  | number _ | name _ | exchange _ => cases List.mem_singleton.mp h

/-- Flattening leaves settled leaves as they are. -/
theorem flattenWith_settled (inline : Pair → Findings → Expr × Findings) (context : Pair) (e : Expr)
    (settled : ∀ x ∈ e.leaves, x.IsSettled) (found : Findings) :
    flattenWith inline context none e found = (e, found.requireAll e.needs) := by
  cases e with
  | unary op operand =>
    have inner := flattenWith_settled inline context operand settled found
    simp only [flattenWith, inner]
    rfl
  | binary op left right =>
    have first :=
      flattenWith_settled inline context left (fun x hx => settled x (List.mem_append_left _ hx))
    have second :=
      flattenWith_settled inline context right (fun x hx => settled x (List.mem_append_right _ hx))
    simp only [flattenWith, first, second, ← Findings.requireAll_append]
    rfl
  | parenthesized inner =>
    have within := flattenWith_settled inline context inner settled found
    simp only [flattenWith, within]
    rfl
  | pair p => exact absurd rfl ((settled (pair p) (List.mem_singleton_self _)).noReference p)
  | call callee args =>
    have concrete := (settled _ (List.mem_singleton_self _)).concrete
    have same : filledAll context args = args :=
      filledAll_eq_self args fun q hq => Pair.filledFrom_of_concrete (concrete q hq) context
    rw [flattenWith_call, same]
  | number _ | name _ | exchange _ => rfl

end Expr

open RateRules.Expr

namespace Rulebook

/-- The rule for a pair has no name, and its pairs are arguments of calls. They have no wildcard,
and neither have the rates that it requires. So flattening it again leaves it as it is and finds no
fault. -/
theorem rules_refer_in_arguments_only (script : String) (given : Given) (book : Rulebook)
    (accepted : parse script given = .ok book) (p : Pair) (concrete : p.isPattern = false) :
    ∃ rule, book.rule p = .ok rule ∧
      (∀ word, .name word ∉ rule.expr.nodes) ∧
      (∀ q, .pair q ∉ rule.expr.outside) ∧
      (∀ q, .pair q ∈ rule.expr.nodes → q.isPattern = false) ∧
      (∀ r ∈ rule.requirements, r.pair.isPattern = false) ∧
      ∀ candidate q, (flatten candidate q rule.expr).1 = rule.expr ∧
        (flatten candidate q rule.expr).2.faults = [] := by
  have normal := isNormal_of_tableOf (parse_eq_ok accepted)
  have settled : ∀ x ∈ (book.ruleAt p).expr.leaves, x.IsSettled := by
    intro x hx
    exact isSettled_of_mem_leaves_flatten (RuleTable.isNormal_candidate normal) concrete
      (isNormal_of_mem_leaves_start normal) hx
  refine ⟨book.ruleAt p, rule_eq_ok book concrete, name_not_mem_nodes settled,
    pair_not_mem_outside _ settled, fun q hq => concrete_of_pair_mem_nodes settled hq,
    fun r hr => concrete_of_mem_requirements_flatten concrete hr, fun candidate q => ?_⟩
  have again : flatten candidate q (book.ruleAt p).expr =
      ((book.ruleAt p).expr, Findings.empty.requireAll (book.ruleAt p).expr.needs) :=
    flattenWith_settled _ q _ settled .empty
  rw [again, Findings.requireAll_faults]
  exact ⟨rfl, rfl⟩

/-- A wildcard on either side, a pair without a rule, and one that refers to itself, with a
multiplier. -/
theorem rule_of_failed_references :
    ∃ (book : Rulebook) (p : Pair) (rule : RateRule),
      parse "BTC_X = kraken(BTC_X, X_USD) + LTC_X / USD_X; USD_X = -USD_X;" (.decimal (.ofNat 2)) =
        .ok book ∧
      p.isPattern = false ∧ book.rule p = .ok rule ∧ rule.faults = [.tooManyNestedCalls] ∧
      rule.text =
        "(kraken(BTC_EUR, BTC_USD) + ERR_NO_RULE_MATCH(LTC_EUR) / ERR_TOO_MUCH_NESTED_CALLS(USD_EUR)) * 2" ∧
      rule.requirements.map Requirement.text = ["kraken(BTC_EUR)", "kraken(BTC_USD)"] ∧
      (∀ word, .name word ∉ rule.expr.nodes) ∧ (∀ q, .pair q ∉ rule.expr.outside) ∧
      ∀ candidate, (flatten candidate p.inverse rule.expr).1 = rule.expr := by
  let p : Pair := ⟨⟨"BTC", by decide⟩, ⟨"EUR", by decide⟩⟩
  have facts : passes (fun book : Rulebook => passes (fun rule : RateRule =>
      decide (rule.faults = [.tooManyNestedCalls] ∧
        rule.text =
          "(kraken(BTC_EUR, BTC_USD) + ERR_NO_RULE_MATCH(LTC_EUR) / ERR_TOO_MUCH_NESTED_CALLS(USD_EUR)) * 2" ∧
        rule.requirements.map Requirement.text = ["kraken(BTC_EUR)", "kraken(BTC_USD)"]))
          (book.rule p))
      (parse "BTC_X = kraken(BTC_X, X_USD) + LTC_X / USD_X; USD_X = -USD_X;"
          (.decimal (.ofNat 2))) = true := by
    decide +kernel
  obtain ⟨book, accepted, facts⟩ := passes_iff.mp facts
  obtain ⟨rule, hrule, named, inArguments, _, _, again⟩ :=
    rules_refer_in_arguments_only _ _ book accepted p (by decide)
  rw [hrule] at facts
  obtain ⟨faults, text, requirements⟩ := of_decide_eq_true facts
  exact ⟨book, p, rule, accepted, by decide, hrule, faults, text, requirements, named, inArguments,
    fun candidate => (again candidate p.inverse).1⟩

end Rulebook
end RateRules
