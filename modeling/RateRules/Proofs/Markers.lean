import RateRules.Proofs.Choice
import RateRules.Proofs.Gathered
import RateRules.Proofs.Held
import RateRules.Proofs.Reported
import RateRules.Proofs.Trails

/-!
# Markers in a rule

An evaluation reports the markers of its rule. Resolving a pair puts one in for a reference without
a rule and for a reference that is too deep. A call of an exchange whose name starts as markers do
is taken for one, too: its rate is neither required nor looked up, while that of every other call
is.
-/
namespace RateRules

namespace Expr

variable {candidate : Pair → Expr} {p : Pair} {x : Expr}

/-- The leaves of an expansion are the leaves of the expression, filled, and those that its
references expand to. -/
theorem mem_leaves_expandedWith_iff {expand : Pair → Option Expr} {context : Pair} (e z : Expr)
    (h : e.expandedWith expand context = some z) :
    x ∈ z.leaves ↔ (∃ y ∈ e.leaves, y.reference? context = none ∧ x = y.filled context) ∨
      ∃ q ∈ e.references context, ∃ w, expand q = some w ∧ x ∈ w.leaves := by
  cases e with
  | pair p =>
    have h : expand (p.filledFrom context) = some z := h
    simp [leaves, references, reference?, h]
  | call callee args =>
    cases h
    simp [leaves, references, reference?, filled]
  | unary op operand =>
    obtain ⟨z, hz, rfl⟩ := expandedWith_unary.mp h
    exact mem_leaves_expandedWith_iff operand z hz
  | binary op left right =>
    obtain ⟨y, z, hy, hz, rfl⟩ := expandedWith_binary.mp h
    rw [leaves, List.mem_append, mem_leaves_expandedWith_iff left y hy,
      mem_leaves_expandedWith_iff right z hz,
      references_binary]
    simp only [leaves, List.mem_append, or_and_right, exists_or]
    exact or_or_or_comm
  | parenthesized inner =>
    obtain ⟨z, hz, rfl⟩ := expandedWith_parenthesized.mp h
    exact mem_leaves_expandedWith_iff inner z hz
  | number _ | name _ | exchange _ =>
    cases h
    simp [leaves, references, reference?, filled]

/-- Each reference of an expression that expands does so itself. -/
theorem exists_of_mem_references {expand : Pair → Option Expr} {context q : Pair} {e z : Expr}
    (h : e.expandedWith expand context = some z) (hq : q ∈ e.references context) :
    ∃ w, expand q = some w := by
  cases hw : expand q with
  | none =>
    have none := (expandedWith_eq_none_iff e).mpr ⟨q, hq, hw⟩
    cases none.symm.trans h
  | some w => exact ⟨w, rfl⟩

/-- The leaves of what a reference expands to are those of all rules that it reaches, filled. -/
theorem mem_leaves_expanded_iff (room : Nat) (p : Pair) (z : Expr)
    (h : expanded candidate room p = some z) :
    x ∈ z.leaves ↔ ∃ q, Reaches candidate p q ∧
      ∃ y ∈ (candidate q).leaves, y.reference? q = none ∧ x = y.filled q := by
  induction room generalizing p z with
  | zero => cases h
  | succ room ih =>
    obtain ⟨z, hz, rfl⟩ := expanded_succ.mp h
    rw [leaves_enclosed, mem_leaves_expandedWith_iff _ z hz]
    constructor
    · rintro (own | ⟨q, hq, w, hw, hx⟩)
      · exact ⟨p, .refl p, own⟩
      · obtain ⟨r, reached, own⟩ := (ih q w hw).mp hx
        exact ⟨r, .step hq reached, own⟩
    · rintro ⟨r, reached, own⟩
      cases reached with
      | refl => exact Or.inl own
      | @step _ q _ hq further =>
        obtain ⟨w, hw⟩ := exists_of_mem_references hz hq
        exact Or.inr ⟨q, hq, w, hw, (ih q w hw).mpr ⟨r, further, own⟩⟩

theorem inlined_of_deep {room : Nat} {found : Findings}
    (deep : (inlined candidate room p found).2.isTooDeep = true) :
    (inlined candidate room p found).1 = tooDeepMarker p := by
  cases room with
  | zero => rfl
  | succ room =>
    simp only [inlined] at deep ⊢
    split
    · rfl
    · next shallow =>
      rw [if_neg shallow] at deep
      exact absurd deep shallow

/-- Where flattening gets too deep it leaves a marker. -/
theorem exists_tooDeepMarker {inline : Pair → Findings → Expr × Findings} (context : Pair)
    (marks : ∀ q found, (inline q found).2.isTooDeep = true → (inline q found).1 = tooDeepMarker q)
    (e : Expr) (found : Findings) (shallow : found.isTooDeep = false)
    (deep : (flattenWith inline context none e found).2.isTooDeep = true) :
    ∃ q, tooDeepMarker q ∈ (flattenWith inline context none e found).1.leaves := by
  cases e with
  | pair p =>
    refine ⟨p.filledFrom context, ?_⟩
    change _ ∈ (inline (p.filledFrom context) found).1.leaves
    rw [marks _ found deep]
    exact List.mem_singleton_self _
  | call callee args =>
    rw [flattenWith_call, Findings.requireAll_isTooDeep, shallow] at deep
    cases deep
  | unary op operand => exact exists_tooDeepMarker context marks operand found shallow deep
  | binary op left right =>
    cases first : (flattenWith inline context none left found).2.isTooDeep with
    | true =>
      obtain ⟨q, hq⟩ := exists_tooDeepMarker context marks left found shallow first
      exact ⟨q, List.mem_append_left _ hq⟩
    | false =>
      obtain ⟨q, hq⟩ := exists_tooDeepMarker context marks right _ first deep
      exact ⟨q, List.mem_append_right _ hq⟩
  | parenthesized inner => exact exists_tooDeepMarker context marks inner found shallow deep
  | number _ | name _ | exchange _ =>
    have deep : found.isTooDeep = true := deep
    rw [shallow] at deep
    cases deep

theorem exists_tooDeepMarker_flatten {e : Expr}
    (deep : .tooManyNestedCalls ∈ (flatten candidate p e).2.faults) :
    ∃ q, tooDeepMarker q ∈ (flatten candidate p e).1.leaves := by
  have isDeep : (flatten candidate p e).2.isTooDeep = true := by
    simpa [Findings.isTooDeep] using deep
  exact exists_tooDeepMarker p (fun _ _ => inlined_of_deep) e .empty rfl isDeep

mutual

theorem not_isMarkerName_of_mem_needsIn (venue : Option String) (e : Expr) (r : Requirement)
    (h : r ∈ e.needsIn venue) : isMarkerName r.exchange = false := by
  cases e with
  | pair p =>
    cases venue with
    | none => cases h
    | some venue =>
      simp only [needsIn] at h
      split at h
      · cases h
      · next plain =>
        rw [List.mem_singleton.mp h]
        simpa using plain
  | call callee args => exact not_isMarkerName_of_mem_needsInAll callee.render args r h
  | unary op operand => exact not_isMarkerName_of_mem_needsIn venue operand r h
  | binary op left right =>
    rcases List.mem_append.mp h with h | h
    · exact not_isMarkerName_of_mem_needsIn venue left r h
    · exact not_isMarkerName_of_mem_needsIn venue right r h
  | parenthesized inner => exact not_isMarkerName_of_mem_needsIn venue inner r h
  | number _ | name _ | exchange _ => cases h

theorem not_isMarkerName_of_mem_needsInAll (venue : String) (es : List Expr) (r : Requirement)
    (h : r ∈ needsInAll venue es) : isMarkerName r.exchange = false := by
  cases es with
  | nil => cases h
  | cons e more =>
    rcases List.mem_append.mp h with h | h
    · exact not_isMarkerName_of_mem_needsIn (some venue) e r h
    · exact not_isMarkerName_of_mem_needsInAll venue more r h

end

/-- No rate of a marker is required. -/
def RequiresPlain (found : Findings) : Prop :=
  ∀ r ∈ found.requirements, isMarkerName r.exchange = false

theorem requiresPlain_flatten (candidate : Pair → Expr) (p : Pair) (e : Expr) :
    RequiresPlain (flatten candidate p e).2 := by
  intro r hr
  rcases exists_reached_of_mem_requirements hr with ⟨x, _, needed⟩ | ⟨q, _, x, _, needed⟩
  · exact not_isMarkerName_of_mem_needsIn none _ r needed
  · exact not_isMarkerName_of_mem_needsIn none _ r needed

/-- The expression calls an exchange whose name starts as those of markers do. -/
def CallsMarker (e : Expr) : Prop :=
  ∃ callee args, call callee args ∈ e.leaves ∧ isMarkerName callee.render = true

theorem isMarkerName_marker (code : String) :
    isMarkerName (exchange ("ERR_" ++ code)).render = true := by
  simp [render, isMarkerName, String.toList_append]

theorem callsMarker_marker (code : String) (args : List Expr) : (marker code args).CallsMarker :=
  ⟨_, args, List.mem_singleton_self _, isMarkerName_marker code⟩

theorem not_callsMarker_reciprocal (p : Pair) : ¬ (reciprocal p).CallsMarker := by
  rintro ⟨callee, args, call, _⟩
  simp [reciprocal, leaves] at call

theorem filled_eq_call {context : Pair} {e callee : Expr} {args : List Expr}
    (h : e.filled context = call callee args) :
    ∃ own, e = call callee own ∧ args = filledAll context own := by
  cases e with
  | call callee own =>
    cases h
    exact ⟨own, rfl, rfl⟩
  | _ => cases h

theorem firstPair?_filledAll (context : Pair) (args : List Expr) :
    firstPair? (filledAll context args) = (firstPair? args).map fun p => p.filledFrom context := by
  cases args with
  | nil => rfl
  | cons x more => cases x <;> rfl

end Expr

namespace RuleTable

variable {table : RuleTable} {p : Pair}

/-- The candidate for a pair calls a marker if the pair has no rule or its definition does so
itself. -/
theorem callsMarker_candidate_iff
    (unmarked : ∀ d ∈ table.definitions, d.expr ≠ .marker "NO_RULE_MATCH" [.pair p]) :
    (table.candidate p).CallsMarker ↔
    (∀ q ∈ (Pattern.all p).map Pattern.pair, table.find? q = none) ∨
      ∃ d ∈ table.definitions, table.candidate p = d.expr ∧ d.expr.CallsMarker := by
  rw [← candidate_eq_marker_iff unmarked]
  constructor
  · intro marks
    rcases table.candidate_cases p with h | h | ⟨d, hd, h⟩
    · exact Or.inl h
    · rw [h] at marks
      exact absurd marks (Expr.not_callsMarker_reciprocal _)
    · exact Or.inr ⟨d, hd, h, h ▸ marks⟩
  · rintro (h | ⟨d, hd, h, marks⟩)
    · rw [h]
      exact Expr.callsMarker_marker _ _
    · rwa [h]

end RuleTable

namespace Rulebook

variable {book : Rulebook} {p : Pair}

theorem mem_leaves_start_of_candidate {x : Expr} (h : x ∈ (book.table.candidate p).leaves) :
    x ∈ (book.start p).leaves := by
  unfold start
  simp only
  split
  · exact h
  · exact List.mem_append_left _ h

/-- The calls of a rule that is resolved are those of all rules that it reaches, filled. -/
theorem call_mem_leaves_rule_iff (resolved : (book.ruleAt p).faults = []) {callee : Expr}
    {args : List Expr} :
    .call callee args ∈ (book.ruleAt p).expr.leaves ↔ ∃ q, Expr.Reaches book.table.candidate p q ∧
      ∃ own, .call callee own ∈ (book.table.candidate q).leaves ∧ args = Expr.filledAll q own := by
  obtain ⟨x, hx, flattened⟩ := Expr.expandedWith_of_faults_eq_nil resolved
  have expr : (book.ruleAt p).expr = x := congrArg Prod.fst flattened
  rw [expr, Expr.mem_leaves_expandedWith_iff _ x hx, references_start]
  constructor
  · rintro (⟨y, hy, _, same⟩ | ⟨q, hq, w, hw, hleaf⟩)
    · obtain ⟨own, rfl, filled⟩ := Expr.filled_eq_call same.symm
      rcases mem_leaves_start hy with hy | number
      · exact ⟨p, .refl p, own, hy, filled⟩
      · cases number
    · obtain ⟨r, reached, y, hy, _, same⟩ := (Expr.mem_leaves_expanded_iff _ q w hw).mp hleaf
      obtain ⟨own, rfl, filled⟩ := Expr.filled_eq_call same.symm
      exact ⟨r, .step hq reached, own, hy, filled⟩
  · rintro ⟨r, reached, own, hown, rfl⟩
    cases reached with
    | refl => exact Or.inl ⟨_, mem_leaves_start_of_candidate hown, rfl, rfl⟩
    | @step _ q _ hq further =>
      obtain ⟨w, hw⟩ := Expr.exists_of_mem_references hx (by rw [references_start]; exact hq)
      have leaf := (Expr.mem_leaves_expanded_iff _ q w hw).mpr ⟨r, further, _, hown, rfl, rfl⟩
      exact Or.inr ⟨q, hq, w, hw, leaf⟩

/-- Flattening has a fault only where it is too deep. -/
theorem resolved_or_deep (book : Rulebook) (p : Pair) :
    (book.ruleAt p).faults = [] ∨ .tooManyNestedCalls ∈ (book.ruleAt p).faults := by
  have deep := Expr.onlyDeep_flatten book.table.candidate p (book.start p)
  cases faults : (book.ruleAt p).faults with
  | nil => exact Or.inl rfl
  | cons f more =>
    have first : f ∈ (book.ruleAt p).faults := by
      rw [faults]
      exact List.mem_cons_self
    rw [deep f first]
    exact Or.inr List.mem_cons_self

/-- The rule for a pair calls a marker if it is too deep or reaches a rule that does so. -/
theorem callsMarker_rule_iff (book : Rulebook) (p : Pair) :
    (book.ruleAt p).expr.CallsMarker ↔ .tooManyNestedCalls ∈ (book.ruleAt p).faults ∨
      ∃ q, Expr.Reaches book.table.candidate p q ∧ (book.table.candidate q).CallsMarker := by
  rcases resolved_or_deep book p with resolved | deep
  · rw [or_iff_right (by rw [resolved]; exact List.not_mem_nil)]
    constructor
    · rintro ⟨callee, args, call, marks⟩
      obtain ⟨q, reached, own, hown, _⟩ := (call_mem_leaves_rule_iff resolved).mp call
      exact ⟨q, reached, callee, own, hown, marks⟩
    · rintro ⟨q, reached, callee, own, hown, marks⟩
      exact ⟨callee, _, (call_mem_leaves_rule_iff resolved).mpr ⟨q, reached, own, hown, rfl⟩, marks⟩
  · obtain ⟨q, leaf⟩ := Expr.exists_tooDeepMarker_flatten deep
    exact iff_of_true ⟨_, _, leaf, Expr.isMarkerName_marker _⟩ (Or.inl deep)

theorem tooManyNestedCalls_mem_faults_iff (book : Rulebook) (p : Pair) :
    .tooManyNestedCalls ∈ (book.ruleAt p).faults ↔ ∃ trail : List Pair, trail.length = 9 ∧
      Expr.IsTrail book.table.candidate p (book.table.candidate p) trail := by
  have started := @Expr.mem_faults_flatten_iff book.table.candidate p (book.start p)
  simp only [isTrail_start_iff] at started
  exact started

/-- An evaluation reports a marker if the pair reaches one without a rule, if a trail of references
is too deep, or if a definition that is reached calls an exchange whose name is taken for that of a
marker. No rate of such an exchange is required or looked up. In a rule that is resolved the rate of
every other call is both. -/
theorem preprocess_errors_come_from_markers (script : String) (given : Given) (book : Rulebook)
    (accepted : parse script given = .ok book) (p : Pair) (concrete : p.isPattern = false)
    (source : RateSource) :
    ∃ rule evaluation lookups, book.rule p = .ok rule ∧
    rule.evaluate source = .ok (evaluation, lookups) ∧
      (.preprocessError ∈ evaluation.faults ↔
        (∃ q, Expr.Reaches book.table.candidate p q ∧
          ∀ r ∈ (Pattern.all q).map Pattern.pair, book.table.find? r = none) ∨
        (∃ trail : List Pair, trail.length = 9 ∧
          Expr.IsTrail book.table.candidate p (book.table.candidate p) trail) ∨
        ∃ q, Expr.Reaches book.table.candidate p q ∧
          ∃ d ∈ book.table.definitions, book.table.candidate q = d.expr ∧ d.expr.CallsMarker) ∧
      (∀ r ∈ rule.requirements, Expr.isMarkerName r.exchange = false) ∧
      lookups ⊆ rule.requirements ∧
      (rule.faults = [] → ∀ q, Expr.Reaches book.table.candidate p q → ∀ callee args r,
        .call callee args ∈ (book.table.candidate q).leaves →
        Expr.isMarkerName callee.render = false →
        Expr.firstPair? args = some r →
          ⟨callee.render, r.filledFrom q⟩ ∈ rule.requirements ∧
            ⟨callee.render, r.filledFrom q⟩ ∈ lookups) := by
  have table := parse_eq_ok accepted
  have normal := isNormal_of_tableOf table
  have looked := asks_subset_requirements book p
  obtain ⟨evaluation, evaluated⟩ := evaluate_of_isNormal normal p source
  have own : .preprocessError ∉ (book.ruleAt p).faults := fun hf =>
    Fault.noConfusion (Expr.onlyDeep_flatten book.table.candidate p (book.start p) _ hf)
  have marks : .preprocessError ∈ evaluation.faults ↔ (book.ruleAt p).expr.CallsMarker := by
    rw [RateRule.mem_faults_of_evaluate evaluated rfl, or_iff_right own,
      Expr.preprocessError_mem_rateFaults_iff]
    rfl
  refine ⟨book.ruleAt p, evaluation, _, rule_eq_ok book concrete, evaluated, ?_,
    Expr.requiresPlain_flatten book.table.candidate p (book.start p), looked, ?_⟩
  · have candidates : ∀ q, (book.table.candidate q).CallsMarker ↔ _ := fun q =>
      RuleTable.callsMarker_candidate_iff fun d hd => expr_ne_marker table hd q
    simp only [marks, callsMarker_rule_iff, tooManyNestedCalls_mem_faults_iff, candidates,
      and_or_left, exists_or]
    exact or_left_comm
  · intro resolved q reached callee args r call plain hr
    have ask : ⟨callee.render, r.filledFrom q⟩ ∈ (book.ruleAt p).expr.asks := by
      refine (Expr.mem_asks_iff _).mpr ⟨callee, Expr.filledAll q args, ?_, plain, ?_, rfl⟩
      · exact (call_mem_leaves_rule_iff resolved).mpr ⟨q, reached, args, call, rfl⟩
      · rw [Expr.firstPair?_filledAll, hr]
        rfl
    exact ⟨looked ask, ask⟩

/-- A pair without a rule leaves a marker beside a call whose rate is looked up. -/
theorem preprocess_error_beside_lookup :
    ∃ book rule evaluation lookups,
      parse "BTC_X = kraken(BTC_X) * USD_X" (.decimal .one) = .ok book ∧
      book.rule ⟨⟨"BTC", by decide⟩, ⟨"EUR", by decide⟩⟩ = .ok rule ∧
      rule.evaluate (fun _ _ => some (.whole 50000)) = .ok (evaluation, lookups) ∧
      lookups.map Requirement.text = ["kraken(BTC_EUR)"] ∧
      rule.text = "kraken(BTC_EUR) * ERR_NO_RULE_MATCH(USD_EUR)" ∧
      .preprocessError ∈ evaluation.faults := by
  let p : Pair := ⟨⟨"BTC", by decide⟩, ⟨"EUR", by decide⟩⟩
  let q : Pair := ⟨⟨"USD", by decide⟩, ⟨"EUR", by decide⟩⟩
  have facts : passes (fun book : Rulebook => decide (q ∈ (book.table.candidate p).references p) &&
      ((Pattern.all q).map Pattern.pair).all (fun r => (book.table.find? r).isNone) &&
      passes (fun rule : RateRule =>
        decide (rule.text = "kraken(BTC_EUR) * ERR_NO_RULE_MATCH(USD_EUR)") &&
        passes (fun outcome => decide (outcome.2.map Requirement.text = ["kraken(BTC_EUR)"]))
          (rule.evaluate fun _ _ => some (.whole 50000))) (book.rule p))
      (parse "BTC_X = kraken(BTC_X) * USD_X" (.decimal .one)) = true := by decide +kernel
  obtain ⟨book, accepted, facts⟩ := passes_iff.mp facts
  obtain ⟨rule, evaluation, lookups, hrule, evaluated, marked, -⟩ :=
    preprocess_errors_come_from_markers _ _ book accepted p (by decide) fun _ _ =>
      some (.whole 50000)
  simp only [hrule, evaluated, passes, Bool.and_eq_true, decide_eq_true_eq, List.all_eq_true,
    Option.isNone_iff_eq_none] at facts
  obtain ⟨⟨reference, missing⟩, text, looked⟩ := facts
  refine ⟨book, rule, evaluation, lookups, accepted, hrule, evaluated, looked, text, ?_⟩
  exact marked.mpr (Or.inl ⟨q, .step reference (.refl q), missing⟩)

/-- An exchange whose name starts as those of markers do is taken for one: although the pair has a
rule that refers to nothing, its evaluation reports a marker, and the rate of the exchange is never
asked for. -/
theorem exchange_may_be_taken_for_marker :
    ∃ (p : Pair) (book : Rulebook) (rule : RateRule) (evaluation : Evaluation),
      p.text = "BTC_USD" ∧ parse "BTC_USD = err_fx_feed(BTC_USD);" (.decimal .one) = .ok book ∧
      (book.table.find? p).isSome = true ∧ (∀ q, Expr.Reaches book.table.candidate p q → q = p) ∧
      (∀ trail : List Pair, trail.length = 9 →
        ¬ Expr.IsTrail book.table.candidate p (book.table.candidate p) trail) ∧
      book.rule p = .ok rule ∧ rule.requirements = [] ∧
      rule.evaluate (fun _ _ => some (.whole 50000)) = .ok (evaluation, []) ∧
      evaluation.value = none ∧ evaluation.faults = [.preprocessError] := by
  let p : Pair := ⟨⟨"BTC", by decide⟩, ⟨"USD", by decide⟩⟩
  have facts : passes (fun book : Rulebook => (book.table.find? p).isSome &&
      decide ((book.table.candidate p).references p = []) &&
      passes (fun rule : RateRule => decide (rule.requirements = []) &&
        passes (fun outcome => decide (outcome.1.value = none ∧
          outcome.1.faults = [.preprocessError] ∧
          outcome.2 = [])) (rule.evaluate fun _ _ => some (.whole 50000))) (book.rule p))
      (parse "BTC_USD = err_fx_feed(BTC_USD);" (.decimal .one)) = true := by decide +kernel
  obtain ⟨book, accepted, facts⟩ := passes_iff.mp facts
  simp only [Bool.and_eq_true, decide_eq_true_eq, passes_iff] at facts
  obtain ⟨⟨defined, alone⟩, rule, hrule, required, ⟨evaluation, lookups⟩, evaluated, value,
    faults, rfl⟩ := facts
  refine ⟨p, book, rule, evaluation,
    by decide, accepted, defined, fun q reached => ?_, fun trail length follows => ?_,
    hrule, required, evaluated, value, faults⟩
  · cases reached with
    | refl => rfl
    | step hq further =>
      rw [alone] at hq
      cases hq
  · cases trail with
    | nil => cases length
    | cons q more =>
      have first := follows.1
      rw [alone] at first
      cases first

end Rulebook
end RateRules
