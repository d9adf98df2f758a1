import RateRules.Proofs.Requirements

/-!
# What flattening finds

Whatever was found before, flattening an expression goes through all its references and finds the
same: the rates that its calls need and those that its references bring in, in order, and a fault
for each reference that there is no room for. What becomes of a reference, on the other hand,
depends on what was found before: once a reference was too deep, every later one is replaced by a
marker.
-/
namespace RateRules

namespace Findings

/-- Further rates and faults, each rate once. -/
def gain (found : Findings) (rs : List Requirement) (fs : List Fault) : Findings :=
  ⟨(found.requireAll rs).requirements, found.faults ++ fs⟩

@[simp] theorem gain_faults (found : Findings) (rs : List Requirement) (fs : List Fault) :
    (found.gain rs fs).faults = found.faults ++ fs := rfl

theorem requireAll_eq_gain (found : Findings) (rs : List Requirement) :
    found.requireAll rs = found.gain rs [] := by
  have faults : (found.requireAll rs).faults = found.faults ++ [] := by
    rw [requireAll_faults, List.append_nil]
  rw [gain, ← faults]

theorem fail_eq_gain (found : Findings) (f : Fault) : found.fail f = found.gain [] [f] := rfl

theorem gain_nil (found : Findings) : found.gain [] [] = found := (requireAll_eq_gain found []).symm

theorem requirements_requireAll_congr {found found' : Findings}
    (same : found.requirements = found'.requirements)
    (rs : List Requirement) :
    (found.requireAll rs).requirements = (found'.requireAll rs).requirements := by
  induction rs generalizing found found' with
  | nil => exact same
  | cons r more ih =>
    rw [requireAll_cons, requireAll_cons]
    apply ih
    rw [require, require, same]
    split
    · exact same
    · rfl

theorem gain_gain (found : Findings) (rs more : List Requirement) (fs gs : List Fault) :
    (found.gain rs fs).gain more gs = found.gain (rs ++ more) (fs ++ gs) := by
  have same : (found.gain rs fs).requirements = (found.requireAll rs).requirements := rfl
  have requirements : ((found.gain rs fs).requireAll more).requirements =
      (found.requireAll (rs ++ more)).requirements := by
    rw [requireAll_append, requirements_requireAll_congr same]
  have faults : (found.gain rs fs).faults ++ gs = found.faults ++ (fs ++ gs) :=
    List.append_assoc _ _ _
  rw [gain, requirements, faults, ← gain]

theorem isTooDeep_iff {found : Findings} :
    found.isTooDeep = true ↔ .tooManyNestedCalls ∈ found.faults :=
  List.contains_iff_mem

theorem isTooDeep_gain (found : Findings) (rs : List Requirement) (fs : List Fault) :
    (found.gain rs fs).isTooDeep = (found.isTooDeep || fs.contains .tooManyNestedCalls) := by
  rw [isTooDeep, isTooDeep, gain_faults, List.contains_append]

end Findings

namespace Expr

/-- The rates that an expression in the rule for `context` needs, in order: those of its own calls
and those that its references bring in. -/
def requiredWith (bring : Pair → List Requirement) (context : Pair) (e : Expr) : List Requirement :=
  e.leaves.flatMap fun x => (x.reference? context).elim (x.filled context).needs bring

/-- The rates that a reference brings in when there is room for so many references in one
another. -/
def requiredBy (candidate : Pair → Expr) : Nat → Pair → List Requirement
  | 0, _ => []
  | room + 1, p => (candidate p).requiredWith (requiredBy candidate room) p

/-- The faults that a reference brings in: one for each reference that there is no room for. -/
def faultsBy (candidate : Pair → Expr) : Nat → Pair → List Fault
  | 0, _ => [.tooManyNestedCalls]
  | room + 1, p => ((candidate p).references p).flatMap (faultsBy candidate room)

theorem requiredWith_binary (bring : Pair → List Requirement) (context : Pair)
    (op : BinaryOp) (l r : Expr) :
    (binary op l r).requiredWith bring context =
      l.requiredWith bring context ++ r.requiredWith bring context :=
  List.flatMap_append

variable {inline : Pair → Findings → Expr × Findings} {bring : Pair → List Requirement}
  {fail : Pair → List Fault} {candidate : Pair → Expr}

/-- What is found before changes nothing of what is found. -/
theorem flattenWith_gains (gains : ∀ q found, (inline q found).2 = found.gain (bring q) (fail q))
    (context : Pair)
    (e : Expr) (found : Findings) :
    (flattenWith inline context none e found).2 =
      found.gain (e.requiredWith bring context) ((e.references context).flatMap fail) := by
  cases e with
  | pair p =>
    have brought : (inline (p.filledFrom context) found).2 =
        found.gain (bring (p.filledFrom context)) (fail (p.filledFrom context)) := gains _ found
    simpa [flattenWith, requiredWith, references, leaves, reference?] using brought
  | call callee args =>
    have own : (call callee args).requiredWith bring context =
        (call callee (filledAll context args)).needs :=
      List.append_nil _
    rw [flattenWith_call, Findings.requireAll_eq_gain, own]
    rfl
  | unary op operand => exact flattenWith_gains gains context operand found
  | binary op left right =>
    have first := flattenWith_gains gains context left found
    have second :=
      flattenWith_gains gains context right (flattenWith inline context none left found).2
    rw [requiredWith_binary, references_binary, List.flatMap_append, ← Findings.gain_gain, ← first]
    exact second
  | parenthesized inner => exact flattenWith_gains gains context inner found
  | number _ | name _ | exchange _ => exact (Findings.gain_nil found).symm

theorem inlined_gains (candidate : Pair → Expr) (room : Nat) (p : Pair) (found : Findings) :
    (inlined candidate room p found).2 = found.gain (requiredBy candidate room p)
    (faultsBy candidate room p) := by
  induction room generalizing p found with
  | zero => exact Findings.fail_eq_gain found .tooManyNestedCalls
  | succ room ih =>
    have inner := flattenWith_gains ih p (candidate p) found
    simp only [inlined]
    split
    · exact inner
    · exact inner

/-- The rates and the faults that flattening an expression finds. -/
theorem flatten_gains (candidate : Pair → Expr) (p : Pair) (e : Expr) :
    (flatten candidate p e).2 =
      Findings.empty.gain (e.requiredWith (requiredBy candidate maxReferences) p)
      ((e.references p).flatMap (faultsBy candidate maxReferences)) :=
  flattenWith_gains (inlined_gains candidate maxReferences) p e .empty

theorem faults_flatten (candidate : Pair → Expr) (p : Pair) (e : Expr) :
    (flatten candidate p e).2.faults =
      (e.references p).flatMap (faultsBy candidate maxReferences) := by
  rw [flatten_gains]
  rfl

theorem requirements_flatten (candidate : Pair → Expr) (p : Pair) (e : Expr) :
    (flatten candidate p e).2.requirements =
      (e.requiredWith (requiredBy candidate maxReferences) p).eraseDups := by
  rw [flatten_gains]
  exact @Findings.requireAll_of_eraseDups .empty [] rfl _

variable {p : Pair} {r : Requirement}

theorem mem_requiredWith_iff {context : Pair} {e : Expr} :
    r ∈ e.requiredWith bring context ↔
      (∃ x ∈ e.leaves, x.reference? context = none ∧ r ∈ (x.filled context).needs) ∨
        ∃ q ∈ e.references context, r ∈ bring q := by
  rw [requiredWith, List.mem_flatMap]
  constructor
  · rintro ⟨x, hx, hr⟩
    cases reference : x.reference? context with
    | none =>
      rw [reference] at hr
      exact Or.inl ⟨x, hx, reference, hr⟩
    | some q =>
      rw [reference] at hr
      exact Or.inr ⟨q, List.mem_filterMap.mpr ⟨x, hx, reference⟩, hr⟩
  · rintro (⟨x, hx, reference, hr⟩ | ⟨q, hq, hr⟩)
    · refine ⟨x, hx, ?_⟩
      rw [reference]
      exact hr
    · obtain ⟨x, hx, reference⟩ := List.mem_filterMap.mp hq
      refine ⟨x, hx, ?_⟩
      rw [reference]
      exact hr

/-- A rate that a reference brings in is needed by a rule that it reaches. -/
theorem exists_reached_of_mem_requiredBy {room : Nat} (h : r ∈ requiredBy candidate room p) :
    ∃ q, Reaches candidate p q ∧ ∃ x ∈ (candidate q).leaves, r ∈ (x.filled q).needs := by
  induction room generalizing p with
  | zero => cases h
  | succ room ih =>
    rcases mem_requiredWith_iff.mp h with ⟨x, hx, _, own⟩ | ⟨q, hq, brought⟩
    · exact ⟨p, .refl p, x, hx, own⟩
    · obtain ⟨s, reached, needed⟩ := ih brought
      exact ⟨s, .step hq reached, needed⟩

/-- A rate that flattening requires is needed by the expression itself or by a rule that is
reached. -/
theorem exists_reached_of_mem_requirements {e : Expr}
    (h : r ∈ (flatten candidate p e).2.requirements) :
    (∃ x ∈ e.leaves, r ∈ (x.filled p).needs) ∨
      ∃ q, (∃ s ∈ e.references p, Reaches candidate s q) ∧
        ∃ x ∈ (candidate q).leaves, r ∈ (x.filled q).needs := by
  rw [requirements_flatten, List.mem_eraseDups] at h
  rcases mem_requiredWith_iff.mp h with ⟨x, hx, _, own⟩ | ⟨s, hs, brought⟩
  · exact Or.inl ⟨x, hx, own⟩
  · obtain ⟨q, reached, needed⟩ := exists_reached_of_mem_requiredBy brought
    exact Or.inr ⟨q, ⟨s, hs, reached⟩, needed⟩

end Expr
end RateRules
