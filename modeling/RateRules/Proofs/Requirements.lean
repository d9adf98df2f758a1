import RateRules.Proofs.Rule

/-!
# Required rates and lookups

Whatever an evaluation looks up is among the requirements that flattening found, even where
references were too deep. If flattening found no fault and each exchange is called with one pair
alone, then the requirements are the lookups in their order, each once.
-/
namespace RateRules

namespace Expr

theorem asks_subset_needs (e : Expr) : e.asks ⊆ e.needs := by
  cases e with
  | call callee args =>
    unfold asks
    split
    · exact List.nil_subset _
    · next plain =>
      split
      · next p more =>
        simp only [needs, needsIn, needsInAll, plain, Bool.false_eq_true, if_false]
        exact List.subset_append_left _ _
      · exact List.nil_subset _
  | unary op operand => exact asks_subset_needs operand
  | binary op left right =>
    intro r hr
    rcases List.mem_append.mp hr with hr | hr
    · exact List.mem_append_left _ (asks_subset_needs left hr)
    · exact List.mem_append_right _ (asks_subset_needs right hr)
  | parenthesized inner => exact asks_subset_needs inner
  | number d => exact List.nil_subset _
  | name word => exact List.nil_subset _
  | pair p => exact List.nil_subset _
  | exchange venue => exact List.nil_subset _

/-- An outcome keeps the requirements that were found before and has all that its expression
needs. -/
def Covers (found : Findings) (outcome : Expr × Findings) : Prop :=
  found.requirements ⊆ outcome.2.requirements ∧ outcome.1.needs ⊆ outcome.2.requirements

theorem covers_of_needs_eq_nil {found : Findings} {e : Expr} (h : e.needs = []) :
    Covers found (e, found) :=
  ⟨fun _ hr => hr, h ▸ List.nil_subset _⟩

theorem flattenWith_covers {inline : Pair → Findings → Expr × Findings}
    (covered : ∀ p found, Covers found (inline p found)) (context : Pair) (e : Expr)
    (found : Findings) :
    Covers found (flattenWith inline context none e found) := by
  cases e with
  | pair p => exact covered _ found
  | call callee args =>
    rw [flattenWith_call]
    constructor
    · intro r hr
      exact Findings.mem_requireAll.mpr (Or.inl hr)
    · intro r hr
      exact Findings.mem_requireAll.mpr (Or.inr hr)
  | unary op operand => exact flattenWith_covers covered context operand found
  | binary op left right =>
    obtain ⟨keepsLeft, hasLeft⟩ := flattenWith_covers covered context left found
    obtain ⟨keepsRight, hasRight⟩ :=
      flattenWith_covers covered context right (flattenWith inline context none left found).2
    constructor
    · exact List.Subset.trans keepsLeft keepsRight
    · exact List.append_subset.mpr ⟨List.Subset.trans hasLeft keepsRight, hasRight⟩
  | parenthesized inner => exact flattenWith_covers covered context inner found
  | number d => exact covers_of_needs_eq_nil rfl
  | name word => exact covers_of_needs_eq_nil rfl
  | exchange venue => exact covers_of_needs_eq_nil rfl

theorem needs_tooDeepMarker (p : Pair) : (tooDeepMarker p).needs = [] := by
  have marks : isMarkerName (exchange ("ERR_" ++ "TOO_MUCH_NESTED_CALLS")).render =
    true := by decide
  simp only [tooDeepMarker, marker, needs, needsIn, needsInAll, marks, if_true, List.append_nil]

theorem inlined_covers (candidate : Pair → Expr) (room : Nat) (p : Pair) (found : Findings) :
    Covers found (inlined candidate room p found) := by
  induction room generalizing p found with
  | zero => exact ⟨fun _ hr => hr, needs_tooDeepMarker p ▸ List.nil_subset _⟩
  | succ room ih =>
    obtain ⟨keeps, has⟩ := flattenWith_covers ih p (candidate p) found
    simp only [inlined]
    split
    · exact ⟨keeps, needs_tooDeepMarker p ▸ List.nil_subset _⟩
    · exact ⟨keeps, (needs_enclosed _).symm ▸ has⟩

/-- Flattening requires every rate that is looked up in what it leaves, with or without faults. -/
theorem asks_flatten_subset (candidate : Pair → Expr) (p : Pair) (e : Expr) :
    (flatten candidate p e).1.asks ⊆ (flatten candidate p e).2.requirements := by
  intro r hr
  have covered := flattenWith_covers (inlined_covers candidate maxReferences) p e .empty
  have needed : r ∈ (flatten candidate p e).1.needs := asks_subset_needs _ hr
  exact covered.2 needed

end Expr

namespace Findings

theorem require_of_eraseDups {found : Findings} {known : List Requirement}
    (h : found.requirements = known.eraseDups) (r : Requirement) :
    (found.require r).requirements = (known ++ [r]).eraseDups := by
  rw [List.eraseDups_append, require, h]
  by_cases old : r ∈ known
  · simp [List.removeAll, old, h]
  · simp [List.removeAll, old, List.eraseDups_cons]

theorem requireAll_of_eraseDups {found : Findings} {known : List Requirement}
    (h : found.requirements = known.eraseDups) (rs : List Requirement) :
    (found.requireAll rs).requirements = (known ++ rs).eraseDups := by
  induction rs generalizing found known with
  | nil => rw [requireAll_nil, h, List.append_nil]
  | cons r more ih =>
    rw [requireAll_cons, ih (require_of_eraseDups h r), List.append_assoc, List.singleton_append]

end Findings

namespace Expr

def isOnePair : List Expr → Bool
  | [pair _] => true
  | _ => false

/-- If the expression calls an exchange, then with one pair alone. -/
def isOnePairCall : Expr → Bool
  | call callee args => isMarkerName callee.render || isOnePair args
  | _ => true

/-- Every exchange is called with one pair alone. -/
def callsOnePair (e : Expr) : Bool := e.leaves.all isOnePairCall

theorem eq_pair_of_isOnePair {es : List Expr} (h : isOnePair es = true) : ∃ p, es = [pair p] := by
  unfold isOnePair at h
  split at h
  · next p => exact ⟨p, rfl⟩
  · cases h

theorem isOnePairCall_filled (context : Pair) {e : Expr} (h : e.isOnePairCall = true) :
    (e.filled context).isOnePairCall = true := by
  cases e with
  | call callee args =>
    rw [isOnePairCall, Bool.or_eq_true] at h
    rw [filled, isOnePairCall, Bool.or_eq_true]
    rcases h with marks | single
    · exact Or.inl marks
    · obtain ⟨p, rfl⟩ := eq_pair_of_isOnePair single
      exact Or.inr rfl
  | _ => rfl

mutual

/-- Without calls inside, a marker needs no rate. -/
theorem needsIn_marker {venue : String} (marks : isMarkerName venue = true) (e : Expr)
    (normal : e.isNormal true = true) : e.needsIn (some venue) = [] := by
  cases e with
  | pair p => simp only [needsIn, marks, if_true]
  | unary op operand => exact needsIn_marker marks operand normal
  | binary op left right =>
    rw [isNormal, Bool.and_eq_true] at normal
    rw [needsIn, needsIn_marker marks left normal.1, needsIn_marker marks right normal.2,
      List.append_nil]
  | number d => rfl
  | name word => rfl
  | exchange other => rfl
  | call callee args => cases (isNormal_call normal).1
  | parenthesized inner => cases normal

theorem needsInAll_marker {venue : String} (marks : isMarkerName venue = true) (es : List Expr)
    (normal : allNormal es = true) : needsInAll venue es = [] := by
  cases es with
  | nil => rfl
  | cons e more =>
    rw [allNormal, Bool.and_eq_true] at normal
    rw [needsInAll, needsIn_marker marks e normal.1, needsInAll_marker marks more normal.2,
      List.append_nil]

end

/-- A normal expression that calls exchanges with one pair each looks up what it needs. -/
theorem asks_eq_needs (e : Expr) (normal : ∀ x ∈ e.leaves, x.isNormal false = true)
    (single : ∀ x ∈ e.leaves, x.isOnePairCall = true) : e.asks = e.needs := by
  cases e with
  | call callee args =>
    have whole := single (call callee args) (List.mem_singleton.mpr rfl)
    rw [isOnePairCall, Bool.or_eq_true] at whole
    cases marks : isMarkerName callee.render with
    | true =>
      have args_normal :=
        (isNormal_call (normal (call callee args) (List.mem_singleton.mpr rfl))).2.2
      unfold asks
      rw [if_pos marks, needs, needsIn, needsInAll_marker marks args args_normal]
    | false =>
      rw [marks, Bool.false_eq_true, false_or] at whole
      obtain ⟨p, rfl⟩ := eq_pair_of_isOnePair whole
      simp [asks, needs, needsIn, needsInAll, marks]
  | unary op operand => exact asks_eq_needs operand normal single
  | binary op left right =>
    have hleft : left.asks = left.needs :=
      asks_eq_needs left (fun x hx => normal x (List.mem_append_left _ hx))
        fun x hx => single x (List.mem_append_left _ hx)
    have hright : right.asks = right.needs :=
      asks_eq_needs right (fun x hx => normal x (List.mem_append_right _ hx))
        fun x hx => single x (List.mem_append_right _ hx)
    rw [asks, hleft, hright]
    rfl
  | parenthesized inner => exact asks_eq_needs inner normal single
  | number d => rfl
  | name word => rfl
  | pair p => rfl
  | exchange venue => rfl

end Expr

namespace Rulebook

variable {book : Rulebook} {p : Pair}

theorem asks_subset_requirements (book : Rulebook) (p : Pair) :
    (book.ruleAt p).expr.asks ⊆ (book.ruleAt p).requirements :=
  Expr.asks_flatten_subset book.table.candidate p (book.start p)

theorem requirements_eq_eraseDups_needs (resolved : (book.ruleAt p).faults = []) :
    (book.ruleAt p).requirements = (book.ruleAt p).expr.needs.eraseDups := by
  obtain ⟨x, _, flattened⟩ := Expr.expandedWith_of_faults_eq_nil resolved
  simp only [ruleAt, flattened]
  exact @Findings.requireAll_of_eraseDups .empty [] rfl x.needs

/-- Flattening brings in no call but those of the rules that are reached, and markers. -/
theorem isOnePairCall_of_mem_leaves_rule
    (single : ∀ q, Expr.Reaches book.table.candidate p q →
      (book.table.candidate q).callsOnePair = true)
    (x : Expr) (hx : x ∈ (book.ruleAt p).expr.leaves) : x.isOnePairCall = true := by
  rcases Expr.mem_leaves_flatten book.table.candidate p (book.start p) x hx with
    ⟨y, hy, _, rfl⟩ | ⟨q, ⟨r, hr, reached⟩, rfl | ⟨y, hy, _, rfl⟩⟩
  · rcases mem_leaves_start hy with hy | rfl
    · exact Expr.isOnePairCall_filled p (List.all_eq_true.mp (single p (.refl p)) y hy)
    · rfl
  · rfl
  · rw [references_start] at hr
    exact Expr.isOnePairCall_filled q (List.all_eq_true.mp (single q (.step hr reached)) y hy)

/-- It is enough to look at the definitions of the table. -/
theorem callsOnePair_candidate {table : RuleTable}
    (single : ∀ d ∈ table.definitions, d.expr.callsOnePair = true) (q : Pair) :
    (table.candidate q).callsOnePair = true := by
  rcases table.candidate_cases q with h | h | ⟨d, hd, h⟩
  · rw [h]
    rfl
  · rw [h]
    rfl
  · rw [h]
    exact single d hd

/-- An evaluation looks up nothing that is not required. If no reference was too deep and the rules
that are reached call exchanges with one pair each, the requirements are the lookups in order, each
once. -/
theorem requirements_cover_lookups (script : String) (given : Given) (book : Rulebook)
    (accepted : parse script given = .ok book) (p : Pair) (concrete : p.isPattern = false)
    (source : RateSource) :
    ∃ rule evaluation lookups, book.rule p = .ok rule ∧
      rule.evaluate source = .ok (evaluation, lookups) ∧ lookups ⊆ rule.requirements ∧
      (rule.faults = [] →
        (∀ q, Expr.Reaches book.table.candidate p q →
          (book.table.candidate q).callsOnePair = true) →
        rule.requirements = lookups.eraseDups) := by
  have normal := isNormal_of_tableOf (parse_eq_ok accepted)
  obtain ⟨evaluation, evaluated⟩ := evaluate_of_isNormal normal p source
  refine ⟨book.ruleAt p, evaluation, (book.ruleAt p).expr.asks, rule_eq_ok book concrete, evaluated,
    asks_subset_requirements book p, ?_⟩
  intro resolved single
  have needed : (book.ruleAt p).expr.asks = (book.ruleAt p).expr.needs :=
    Expr.asks_eq_needs _ (isNormal_of_mem_leaves_rule normal)
      (isOnePairCall_of_mem_leaves_rule single)
  rw [requirements_eq_eraseDups_needs resolved, needed]

/-- A rate that is looked up twice is required once. -/
theorem requirements_of_repeated_lookup :
    ∃ book rule evaluation lookups,
      parse "BTC_X = kraken(BTC_USD) * USD_X + kraken(BTC_USD); USD_X = bitpay(USD_X);"
        (.decimal .one) = .ok book ∧
      book.rule ⟨⟨"BTC", by decide⟩, ⟨"EUR", by decide⟩⟩ = .ok rule ∧
      rule.evaluate (fun _ _ => none) = .ok (evaluation, lookups) ∧
      lookups.map Requirement.text = ["kraken(BTC_USD)", "bitpay(USD_EUR)", "kraken(BTC_USD)"] ∧
      rule.requirements = lookups.eraseDups := by
  let p : Pair := ⟨⟨"BTC", by decide⟩, ⟨"EUR", by decide⟩⟩
  have facts : passes (fun book : Rulebook =>
    book.table.definitions.all (fun d => d.expr.callsOnePair) &&
      passes (fun rule : RateRule => decide (rule.faults = []) && passes (fun outcome =>
        decide (outcome.2.map Requirement.text =
          ["kraken(BTC_USD)", "bitpay(USD_EUR)", "kraken(BTC_USD)"]))
          (rule.evaluate fun _ _ => none)) (book.rule p))
      (parse "BTC_X = kraken(BTC_USD) * USD_X + kraken(BTC_USD); USD_X = bitpay(USD_X);"
        (.decimal .one)) = true := by decide +kernel
  obtain ⟨book, accepted, facts⟩ := passes_iff.mp facts
  obtain ⟨rule, evaluation, lookups, hrule, evaluated, _, same⟩ :=
    requirements_cover_lookups _ _ book accepted p (by decide) fun _ _ => none
  simp only [hrule, evaluated, passes, Bool.and_eq_true, decide_eq_true_eq] at facts
  obtain ⟨single, resolved, order⟩ := facts
  exact ⟨book, rule, evaluation, lookups, accepted, hrule, evaluated, order,
    same resolved fun q _ => callsOnePair_candidate (List.all_eq_true.mp single) q⟩

end Rulebook
end RateRules
