import RateRules.Proofs.Rule

/-!
# Trails of references

A trail is a list of pairs of which each is a reference of the rule for the one before it.
Flattening is too deep exactly if a trail of nine pairs starts in the expression, one pair more than
there is room for. A cycle that is reached has trails of every length.
-/
namespace RateRules

namespace Expr

/-- The first pair is a reference of `e` in the rule for `context`, and each further one a reference
of the rule for the pair before it. -/
def IsTrail (candidate : Pair → Expr) (context : Pair) (e : Expr) : List Pair → Prop
  | [] => True
  | q :: more => q ∈ e.references context ∧ IsTrail candidate q (candidate q) more

instance decidableIsTrail (candidate : Pair → Expr) (context : Pair) (e : Expr) :
    (trail : List Pair) → Decidable (IsTrail candidate context e trail)
  | [] => isTrue trivial
  | q :: more =>
    have := decidableIsTrail candidate q (candidate q) more
    inferInstanceAs (Decidable (q ∈ e.references context ∧ IsTrail candidate q (candidate q) more))

variable {candidate : Pair → Expr} {p : Pair}

theorem references_unary (context : Pair) (op : UnaryOp) (e : Expr) :
    (unary op e).references context = e.references context := rfl

/-- An expression does not expand exactly if one of its references does not. -/
theorem expandedWith_eq_none_iff {expand : Pair → Option Expr} {context : Pair} (e : Expr) :
    e.expandedWith expand context = none ↔ ∃ q ∈ e.references context, expand q = none := by
  cases e with
  | pair p => simp [expandedWith, references, leaves, reference?]
  | unary op operand =>
    rw [expandedWith_unary_eq, Option.map_eq_none_iff, references_unary]
    exact expandedWith_eq_none_iff operand
  | binary op left right =>
    have hleft := @expandedWith_eq_none_iff expand context left
    have hright := @expandedWith_eq_none_iff expand context right
    rw [references_binary]
    simp only [List.mem_append, or_and_right, exists_or, ← hleft, ← hright]
    cases hx : left.expandedWith expand context with
    | none => simp [expandedWith, hx]
    | some x =>
      cases hy : right.expandedWith expand context with
      | none => simp [expandedWith, hx, hy]
      | some y => simp [expandedWith, hx, hy]
  | parenthesized inner =>
    rw [expandedWith_parenthesized_eq, Option.map_eq_none_iff, references_parenthesized]
    exact expandedWith_eq_none_iff inner
  | number _ | name _ | exchange _ | call _ _ => simp [expandedWith, references, leaves, reference?]

/-- A trail goes on behind the reference that it starts with. -/
theorem exists_reference_iff_trail {room : Nat} {e : Expr}
    (further : ∀ q, expanded candidate room q = none ↔
      ∃ trail : List Pair, trail.length = room ∧ IsTrail candidate q (candidate q) trail) :
    (∃ q ∈ e.references p, expanded candidate room q = none) ↔
      ∃ trail : List Pair, trail.length = room + 1 ∧ IsTrail candidate p e trail := by
  constructor
  · rintro ⟨q, hq, deep⟩
    obtain ⟨trail, length, behind⟩ := (further q).mp deep
    exact ⟨q :: trail, by rw [List.length_cons, length], hq, behind⟩
  · rintro ⟨trail, length, behind⟩
    cases trail with
    | nil => cases length
    | cons q more =>
      have short : more.length = room := Nat.succ.inj length
      exact ⟨q, behind.1, (further q).mpr ⟨more, short, behind.2⟩⟩

theorem expanded_eq_none_iff (room : Nat) (p : Pair) :
    expanded candidate room p = none ↔
      ∃ trail : List Pair, trail.length = room ∧ IsTrail candidate p (candidate p) trail := by
  induction room generalizing p with
  | zero =>
    constructor
    · intro _
      exact ⟨[], rfl, trivial⟩
    · intro _
      rfl
  | succ room ih =>
    rw [expanded, Option.map_eq_none_iff, expandedWith_eq_none_iff]
    exact exists_reference_iff_trail ih

/-- No expression expands exactly if a trail is longer than there is room. -/
theorem expandedWith_expanded_eq_none_iff (room : Nat) (e : Expr) :
    e.expandedWith (expanded candidate room) p = none ↔
      ∃ trail : List Pair, trail.length = room + 1 ∧ IsTrail candidate p e trail := by
  rw [expandedWith_eq_none_iff]
  exact exists_reference_iff_trail (expanded_eq_none_iff room)

/-- Flattening is too deep exactly if a trail is longer than the references that may nest. -/
theorem mem_faults_flatten_iff (e : Expr) :
    .tooManyNestedCalls ∈ (flatten candidate p e).2.faults ↔
      ∃ trail : List Pair, trail.length = maxReferences + 1 ∧ IsTrail candidate p e trail := by
  rw [← expandedWith_expanded_eq_none_iff]
  have whole := flatten_flattens candidate p e
  cases hx : e.expandedWith (expanded candidate maxReferences) p with
  | none =>
    rw [hx, flattens_none] at whole
    simpa [Findings.isTooDeep] using whole
  | some x =>
    rw [hx, flattens_some] at whole
    simp [whole, Findings.empty]

/-- Flattening has no fault if every trail has room. -/
theorem faults_flatten_eq_nil {e : Expr}
    (short : ∀ trail, IsTrail candidate p e trail → trail.length ≤ maxReferences) :
    (flatten candidate p e).2.faults = [] := by
  have whole := flatten_flattens candidate p e
  cases hx : e.expandedWith (expanded candidate maxReferences) p with
  | none =>
    obtain ⟨trail, length, further⟩ := (expandedWith_expanded_eq_none_iff maxReferences e).mp hx
    have room := short trail further
    omega
  | some x =>
    rw [hx, flattens_some] at whole
    rw [whole, Findings.requireAll_faults]
    rfl

/-- The rule for a pair refers back to the pair, maybe through other rules. -/
def OnCycle (candidate : Pair → Expr) (p : Pair) : Prop :=
  ∃ q ∈ (candidate p).references p, Reaches candidate q p

/-- From a pair that reaches a cycle there are trails of every length. -/
theorem exists_trail_of_reaches {q r : Pair} (cycle : OnCycle candidate r)
    (reached : Reaches candidate q r)
    (n : Nat) :
    ∃ trail : List Pair, trail.length = n ∧ IsTrail candidate q (candidate q) trail := by
  induction n generalizing q with
  | zero => exact ⟨[], rfl, trivial⟩
  | succ n ih =>
    -- At the cycle itself the next pair is the one that leads around it.
    have next : ∃ s ∈ (candidate q).references q, Reaches candidate s r := by
      cases reached with
      | refl => exact cycle
      | step hs further => exact ⟨_, hs, further⟩
    obtain ⟨s, hs, further⟩ := next
    obtain ⟨trail, length, follows⟩ := ih further
    exact ⟨s :: trail, by rw [List.length_cons, length], hs, follows⟩

theorem mem_faults_of_cycle {e : Expr} {q r : Pair} (hq : q ∈ e.references p)
    (reached : Reaches candidate q r) (cycle : OnCycle candidate r) :
    .tooManyNestedCalls ∈ (flatten candidate p e).2.faults := by
  obtain ⟨trail, length, follows⟩ := exists_trail_of_reaches cycle reached maxReferences
  exact (mem_faults_flatten_iff e).mpr ⟨q :: trail, by rw [List.length_cons, length], hq, follows⟩

/-- A trail depends on an expression by its references alone. -/
theorem isTrail_congr {e e' : Expr} (same : e.references p = e'.references p) (trail : List Pair) :
    IsTrail candidate p e trail ↔ IsTrail candidate p e' trail := by
  cases trail with
  | nil => exact Iff.rfl
  | cons q more => rw [IsTrail, IsTrail, same]

end Expr

open RateRules.Expr

namespace Rulebook

/-- The multiplier adds nothing to the trails of a rule. -/
theorem isTrail_start_iff (book : Rulebook) (p : Pair) (trail : List Pair) :
    IsTrail book.table.candidate p (book.start p) trail ↔
      IsTrail book.table.candidate p (book.table.candidate p) trail :=
  isTrail_congr (references_start book p) trail

/-- Flattening comes to an end and is too deep exactly if there is a trail of nine references. So a
rule whose trails have at most eight pairs is flattened without a fault, and one that reaches a
cycle is too deep. A reciprocal has one reference. -/
theorem too_deep_iff_trail_of_nine (candidate : Pair → Expr) (p : Pair)
    (concrete : p.isPattern = false)
    (e : Expr) :
    (∃ flattened found, flatten candidate p e = (flattened, found) ∧
      (.tooManyNestedCalls ∈ found.faults ↔
        ∃ trail : List Pair, trail.length = 9 ∧ IsTrail candidate p e trail) ∧
      ((∀ trail, IsTrail candidate p e trail → trail.length ≤ 8) → found.faults = []) ∧
      ∀ q ∈ e.references p, ∀ r, Reaches candidate q r → OnCycle candidate r →
        .tooManyNestedCalls ∈ found.faults) ∧
    (∀ q, (reciprocal q).references p = [q.filledFrom p]) ∧
    ∀ book : Rulebook, ∃ rule, book.rule p = .ok rule ∧
      (.tooManyNestedCalls ∈ rule.faults ↔ ∃ trail : List Pair, trail.length = 9 ∧
        IsTrail book.table.candidate p (book.table.candidate p) trail) ∧
      ((∀ trail, IsTrail book.table.candidate p (book.table.candidate p) trail → trail.length ≤ 8) →
        rule.faults = []) ∧
      ∀ r, Reaches book.table.candidate p r → OnCycle book.table.candidate r →
        .tooManyNestedCalls ∈ rule.faults := by
  refine ⟨⟨_, _, rfl, mem_faults_flatten_iff e, faults_flatten_eq_nil, ?_⟩, fun q => rfl, ?_⟩
  · intro q hq r reached cycle
    exact mem_faults_of_cycle hq reached cycle
  · intro book
    have deep : .tooManyNestedCalls ∈ (book.ruleAt p).faults ↔ ∃ trail : List Pair,
      trail.length = 9 ∧
        IsTrail book.table.candidate p (book.table.candidate p) trail := by
      have started := @mem_faults_flatten_iff book.table.candidate p (book.start p)
      simp only [isTrail_start_iff] at started
      exact started
    refine ⟨book.ruleAt p, rule_eq_ok book concrete, deep, ?_, ?_⟩
    · intro short
      apply faults_flatten_eq_nil
      intro trail follows
      exact short trail ((isTrail_start_iff book p trail).mp follows)
    · intro r reached cycle
      obtain ⟨trail, length, follows⟩ := exists_trail_of_reaches cycle reached 9
      exact deep.mpr ⟨trail, length, follows⟩

/-- A rule that refers to its own reciprocal: every second pair of the trail is priced as one. -/
theorem too_deep_through_reciprocal :
    ∃ (book : Rulebook) (p : Pair) (rule : RateRule) (trail : List Pair),
      parse "BTC_X = 2 * USD_BTC" (.decimal .one) = .ok book ∧ p.isPattern = false ∧
      book.rule p = .ok rule ∧
      trail.map Pair.text = ["USD_BTC", "BTC_USD", "USD_BTC", "BTC_USD", "USD_BTC", "BTC_USD",
        "USD_BTC", "BTC_USD", "USD_BTC"] ∧
      IsTrail book.table.candidate p (book.table.candidate p) trail ∧
      .tooManyNestedCalls ∈ rule.faults := by
  let p : Pair := ⟨⟨"BTC", by decide⟩, ⟨"EUR", by decide⟩⟩
  let q : Pair := ⟨⟨"BTC", by decide⟩, ⟨"USD", by decide⟩⟩
  let trail : List Pair := [q.inverse, q, q.inverse, q, q.inverse, q, q.inverse, q, q.inverse]
  have facts : passes (fun book : Rulebook =>
      decide (IsTrail book.table.candidate p (book.table.candidate p) trail))
      (parse "BTC_X = 2 * USD_BTC" (.decimal .one)) = true := by decide +kernel
  obtain ⟨book, accepted, follows⟩ := passes_iff.mp facts
  rw [decide_eq_true_eq] at follows
  obtain ⟨_, _, rules⟩ :=
    too_deep_iff_trail_of_nine book.table.candidate p (by decide) (book.start p)
  obtain ⟨rule, hrule, deep, _⟩ := rules book
  exact ⟨book, p, rule, trail, accepted, by decide, hrule, by decide +kernel, follows,
    deep.mpr ⟨trail, rfl, follows⟩⟩

end Rulebook
end RateRules
