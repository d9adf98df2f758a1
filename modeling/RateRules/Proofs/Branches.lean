import RateRules.Proofs.Gathered
import RateRules.Proofs.Markers

/-!
# Operands one after the other

What flattening finds in an operation is what it finds in its operands, one after the other. The
left operand becomes what it becomes alone. So does the right one, unless the left one was too deep:
then all its references become markers, also those that have room enough.
-/
namespace RateRules

namespace Expr

/-- Every reference outside calls becomes a marker. -/
def marked (context : Pair) : Expr → Expr
  | pair p => tooDeepMarker (p.filledFrom context)
  | call callee args => call callee (filledAll context args)
  | unary op operand => unary op (operand.marked context)
  | binary op left right => binary op (left.marked context) (right.marked context)
  | parenthesized inner => parenthesized (inner.marked context)
  | number value => number value
  | name word => name word
  | exchange venue => exchange venue

variable {inline : Pair → Findings → Expr × Findings} {bring : Pair → List Requirement}
  {fail : Pair → List Fault} {candidate : Pair → Expr}

theorem flattenWith_of_deep (context : Pair)
    (stays : ∀ q found, found.isTooDeep = true → (inline q found).2.isTooDeep = true)
    (marks : ∀ q found, found.isTooDeep = true → (inline q found).1 = tooDeepMarker q)
    (e : Expr) (found : Findings) (deep : found.isTooDeep = true) :
    (flattenWith inline context none e found).1 = e.marked context := by
  cases e with
  | pair p => exact marks _ found deep
  | call callee args =>
    rw [flattenWith_call]
    rfl
  | unary op operand =>
    have inner := flattenWith_of_deep context stays marks operand found deep
    exact congrArg (unary op) inner
  | binary op left right =>
    have first := flattenWith_of_deep context stays marks left found deep
    have still := flattenWith_stays_deep context stays left found deep
    have second := flattenWith_of_deep context stays marks right _ still
    exact congr (congrArg (binary op) first) second
  | parenthesized inner =>
    have within := flattenWith_of_deep context stays marks inner found deep
    exact congrArg parenthesized within
  | number _ | name _ | exchange _ => rfl

theorem inlined_of_found_deep (candidate : Pair → Expr) (room : Nat) (p : Pair) (found : Findings)
    (deep : found.isTooDeep = true) : (inlined candidate room p found).1 = tooDeepMarker p := by
  cases room with
  | zero => rfl
  | succ room =>
    have still :=
      flattenWith_stays_deep p (inlined_stays_deep candidate room) (candidate p) found deep
    simp only [inlined, still, if_true]

/-- Rates alone that were found before change nothing. -/
theorem flattenWith_of_shallow (context : Pair)
    (gains : ∀ q found, (inline q found).2 = found.gain (bring q) (fail q))
    (stays : ∀ q found, found.isTooDeep = true → (inline q found).2.isTooDeep = true)
    (marks : ∀ q found, found.isTooDeep = true → (inline q found).1 = tooDeepMarker q)
    (alike : ∀ q found, found.isTooDeep = false → (inline q found).1 = (inline q .empty).1)
    (e : Expr) (found : Findings) (shallow : found.isTooDeep = false) :
    (flattenWith inline context none e found).1 = (flattenWith inline context none e .empty).1 := by
  cases e with
  | pair p => exact alike _ found shallow
  | call callee args => rw [flattenWith_call, flattenWith_call]
  | unary op operand =>
    have inner := flattenWith_of_shallow context gains stays marks alike operand found shallow
    exact congrArg (unary op) inner
  | binary op left right =>
    have first := flattenWith_of_shallow context gains stays marks alike left found shallow
    -- The right operand is flattened behind the left one, in either run with the same faults before
    -- it.
    have second :
      (flattenWith inline context none right (flattenWith inline context none left found).2).1 =
        (flattenWith inline context none right
          (flattenWith inline context none left .empty).2).1 := by
      have before : (flattenWith inline context none left found).2.isTooDeep =
          (flattenWith inline context none left .empty).2.isTooDeep := by
        rw [flattenWith_gains gains, flattenWith_gains gains, Findings.isTooDeep_gain,
          Findings.isTooDeep_gain,
          shallow]
        rfl
      cases deep : (flattenWith inline context none left .empty).2.isTooDeep with
      | true =>
        rw [flattenWith_of_deep context stays marks right _ (before.trans deep),
          flattenWith_of_deep context stays marks right _ deep]
      | false =>
        rw [flattenWith_of_shallow context gains stays marks alike right _ (before.trans deep),
          flattenWith_of_shallow context gains stays marks alike right _ deep]
    simp only [flattenWith, first, second]
  | parenthesized inner =>
    have within := flattenWith_of_shallow context gains stays marks alike inner found shallow
    exact congrArg parenthesized within
  | number _ | name _ | exchange _ => rfl

theorem inlined_of_found_shallow (candidate : Pair → Expr) (room : Nat) (p : Pair)
    (found : Findings)
    (shallow : found.isTooDeep = false) :
    (inlined candidate room p found).1 = (inlined candidate room p .empty).1 := by
  induction room generalizing p found with
  | zero => rfl
  | succ room ih =>
    have same :=
      flattenWith_of_shallow p (inlined_gains candidate room) (inlined_stays_deep candidate room)
      (inlined_of_found_deep candidate room) ih (candidate p) found shallow
    have faults : (flattenWith (inlined candidate room) p none (candidate p) found).2.isTooDeep =
        (flattenWith (inlined candidate room) p none (candidate p) .empty).2.isTooDeep := by
      rw [flattenWith_gains (inlined_gains candidate room),
        flattenWith_gains (inlined_gains candidate room),
        Findings.isTooDeep_gain, Findings.isTooDeep_gain, shallow]
      rfl
    simp only [inlined, faults, same]
    split
    · rfl
    · rfl

theorem faults_flatten_binary (candidate : Pair → Expr) (p : Pair) (op : BinaryOp) (l r : Expr) :
    (flatten candidate p (binary op l r)).2.faults =
      (flatten candidate p l).2.faults ++ (flatten candidate p r).2.faults := by
  rw [faults_flatten, faults_flatten, faults_flatten, references_binary, List.flatMap_append]

theorem requirements_flatten_binary (candidate : Pair → Expr) (p : Pair)
    (op : BinaryOp) (l r : Expr) :
    (flatten candidate p (binary op l r)).2.requirements = (flatten candidate p l).2.requirements ++
      (flatten candidate p r).2.requirements.filter (fun s =>
        s ∉ (flatten candidate p l).2.requirements) := by
  rw [requirements_flatten, requirements_flatten, requirements_flatten, requiredWith_binary,
    List.eraseDups_append,
    List.removeAll, eraseDups_filter]
  simp

theorem flatten_binary_of_shallow {p : Pair} {l : Expr} (op : BinaryOp) (r : Expr)
    (shallow : .tooManyNestedCalls ∉ (flatten candidate p l).2.faults) :
    (flatten candidate p (binary op l r)).1 =
      binary op (flatten candidate p l).1 (flatten candidate p r).1 := by
  have before : (flatten candidate p l).2.isTooDeep = false :=
    Bool.eq_false_iff.mpr fun deep => shallow (Findings.isTooDeep_iff.mp deep)
  have second := flattenWith_of_shallow p (inlined_gains candidate maxReferences)
    (inlined_stays_deep candidate maxReferences) (inlined_of_found_deep candidate maxReferences)
    (inlined_of_found_shallow candidate maxReferences) r _ before
  exact congrArg (binary op (flatten candidate p l).1) second

theorem flatten_binary_of_deep {p : Pair} {l : Expr} (op : BinaryOp) (r : Expr)
    (deep : .tooManyNestedCalls ∈ (flatten candidate p l).2.faults) :
    (flatten candidate p (binary op l r)).1 = binary op (flatten candidate p l).1 (r.marked p) := by
  have second := flattenWith_of_deep p (inlined_stays_deep candidate maxReferences)
    (inlined_of_found_deep candidate maxReferences) r _ (Findings.isTooDeep_iff.mpr deep)
  exact congrArg (binary op (flatten candidate p l).1) second

/-- An operation has the faults of its left operand and then those of its right one. It requires
what the left operand requires and then what the right one requires besides. Each operand becomes
what it becomes alone, unless the left one is too deep: then every reference of the right one
becomes a marker. A reference alone is too deep if nine references follow one another from it on,
and then it becomes a marker itself. -/
theorem operands_are_flattened_in_turn (candidate : Pair → Expr) (p : Pair)
    (op : BinaryOp) (l r : Expr) :
    (flatten candidate p (binary op l r)).2.faults =
      (flatten candidate p l).2.faults ++ (flatten candidate p r).2.faults ∧
    (flatten candidate p (binary op l r)).2.requirements = (flatten candidate p l).2.requirements ++
      (flatten candidate p r).2.requirements.filter (fun s =>
        s ∉ (flatten candidate p l).2.requirements) ∧
    (.tooManyNestedCalls ∉ (flatten candidate p l).2.faults →
      (flatten candidate p (binary op l r)).1 =
        binary op (flatten candidate p l).1 (flatten candidate p r).1) ∧
    (.tooManyNestedCalls ∈ (flatten candidate p l).2.faults →
      (flatten candidate p (binary op l r)).1 = binary op (flatten candidate p l).1 (r.marked p)) ∧
    ∀ q, (.tooManyNestedCalls ∈ (flatten candidate p (pair q)).2.faults ↔
        ∃ trail : List Pair, trail.length = 9 ∧ IsTrail candidate p (pair q) trail) ∧
      (.tooManyNestedCalls ∈ (flatten candidate p (pair q)).2.faults →
        (flatten candidate p (pair q)).1 = (pair q).marked p) := by
  refine ⟨faults_flatten_binary candidate p op l r, requirements_flatten_binary candidate p op l r,
    flatten_binary_of_shallow op r, flatten_binary_of_deep op r, fun q =>
      ⟨mem_faults_flatten_iff _, ?_⟩⟩
  intro deep
  exact inlined_of_deep (Findings.isTooDeep_iff.mpr deep)

end Expr

open RateRules.Expr

namespace Rulebook

/-- A pair that refers to itself behind one with a rule of its own, and in front of it. -/
theorem operands_beside_cycle :
    ∃ (book : Rulebook) (p : Pair) (l r : Expr),
      parse "BTC_USD = BTC_USD; LTC_USD = kraken(LTC_USD);" (.decimal .one) = .ok book ∧
      l.render = "LTC_USD" ∧ r.render = "BTC_USD" ∧
      .tooManyNestedCalls ∉ (flatten book.table.candidate p l).2.faults ∧
      .tooManyNestedCalls ∈ (flatten book.table.candidate p r).2.faults ∧
      (flatten book.table.candidate p (.binary .sub l r)).1 =
        .binary .sub (flatten book.table.candidate p l).1 (r.marked p) ∧
      (flatten book.table.candidate p (.binary .sub r l)).1 =
        .binary .sub (flatten book.table.candidate p r).1 (l.marked p) := by
  let p : Pair := ⟨⟨"ETH", by decide⟩, ⟨"USD", by decide⟩⟩
  let cyclic : Pair := ⟨⟨"BTC", by decide⟩, ⟨"USD", by decide⟩⟩
  let l : Expr := .pair ⟨⟨"LTC", by decide⟩, ⟨"USD", by decide⟩⟩
  let r : Expr := .pair cyclic
  have facts : passes (fun book : Rulebook =>
      decide (.tooManyNestedCalls ∉ (flatten book.table.candidate p l).2.faults ∧
        .tooManyNestedCalls ∈ (flatten book.table.candidate p r).2.faults))
      (parse "BTC_USD = BTC_USD; LTC_USD = kraken(LTC_USD);" (.decimal .one)) = true := by
        decide +kernel
  obtain ⟨book, accepted, facts⟩ := passes_iff.mp facts
  obtain ⟨shallow, deep⟩ := of_decide_eq_true facts
  obtain ⟨_, _, behind, _, alone⟩ := operands_are_flattened_in_turn book.table.candidate p .sub l r
  obtain ⟨_, _, _, before, _⟩ := operands_are_flattened_in_turn book.table.candidate p .sub r l
  refine ⟨book, p, l, r, accepted, rfl, rfl, shallow, deep, ?_, before deep⟩
  rw [behind shallow, (alone cyclic).2 deep]

/-- Alone the right operand is priced by its rule, behind one that is too deep it becomes a marker,
and in front of it it does not. -/
theorem operands_may_be_marked :
    ∃ (book : Rulebook) (p : Pair) (l r : Expr),
      parse "BTC_USD = BTC_USD; LTC_USD = kraken(LTC_USD);" (.decimal .one) = .ok book ∧
      p.isPattern = false ∧ l.render = "BTC_USD" ∧ r.render = "LTC_USD" ∧
      (flatten book.table.candidate p r).2.faults = [] ∧
      (flatten book.table.candidate p r).1.render = "kraken(LTC_USD)" ∧
      (flatten book.table.candidate p (.binary .add l r)).1.render =
        "ERR_TOO_MUCH_NESTED_CALLS(BTC_USD) + ERR_TOO_MUCH_NESTED_CALLS(LTC_USD)" ∧
      (flatten book.table.candidate p (.binary .add l r)).1 ≠
        .binary .add (flatten book.table.candidate p l).1 (flatten book.table.candidate p r).1 ∧
      (flatten book.table.candidate p (.binary .add r l)).1.render =
        "kraken(LTC_USD) + ERR_TOO_MUCH_NESTED_CALLS(BTC_USD)" := by
  let p : Pair := ⟨⟨"ETH", by decide⟩, ⟨"USD", by decide⟩⟩
  let l : Expr := .pair ⟨⟨"BTC", by decide⟩, ⟨"USD", by decide⟩⟩
  let r : Expr := .pair ⟨⟨"LTC", by decide⟩, ⟨"USD", by decide⟩⟩
  have facts : passes (fun book : Rulebook =>
      decide ((flatten book.table.candidate p r).2.faults = [] ∧
        (flatten book.table.candidate p r).1.render = "kraken(LTC_USD)" ∧
        (flatten book.table.candidate p (.binary .add l r)).1.render =
          "ERR_TOO_MUCH_NESTED_CALLS(BTC_USD) + ERR_TOO_MUCH_NESTED_CALLS(LTC_USD)" ∧
        (flatten book.table.candidate p (.binary .add l r)).1.render ≠
          (Expr.binary .add (flatten book.table.candidate p l).1
            (flatten book.table.candidate p r).1).render ∧
        (flatten book.table.candidate p (.binary .add r l)).1.render =
          "kraken(LTC_USD) + ERR_TOO_MUCH_NESTED_CALLS(BTC_USD)"))
      (parse "BTC_USD = BTC_USD; LTC_USD = kraken(LTC_USD);" (.decimal .one)) = true := by
        decide +kernel
  obtain ⟨book, accepted, facts⟩ := passes_iff.mp facts
  obtain ⟨clean, alone, beside, differs, before⟩ := of_decide_eq_true facts
  refine ⟨book, p, l, r, accepted, by decide, rfl, rfl, clean, alone, beside, ?_, before⟩
  intro same
  exact differs (congrArg render same)

end Rulebook
end RateRules
