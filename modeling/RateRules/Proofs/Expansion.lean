import RateRules.Flattening
import RateRules.Proofs.Substitution

/-!
# What references expand to

Apart from what is found on the way, flattening is an expansion: each reference outside calls stands
for the expansion of its candidate, as long as there is room for so many references in one another.
Flattening gives this expansion and adds the rates that it needs, in order; where there is no
expansion it is too deep.
-/
namespace RateRules

namespace Findings

theorem isTooDeep_fail (found : Findings) : (found.fail .tooManyNestedCalls).isTooDeep = true := by
  simp [fail, isTooDeep]

/-- Several requirements, one after the other. -/
def requireAll (found : Findings) (rs : List Requirement) : Findings := rs.foldl require found

@[simp] theorem require_faults (found : Findings) (r : Requirement) :
    (found.require r).faults = found.faults := by
  rw [require]
  split <;> rfl

@[simp] theorem requireAll_nil (found : Findings) : found.requireAll [] = found := rfl

@[simp] theorem requireAll_cons (found : Findings) (r : Requirement) (rs : List Requirement) :
    found.requireAll (r :: rs) = (found.require r).requireAll rs := rfl

theorem requireAll_append (found : Findings) (rs more : List Requirement) :
    found.requireAll (rs ++ more) = (found.requireAll rs).requireAll more :=
  List.foldl_append

@[simp] theorem requireAll_faults (found : Findings) (rs : List Requirement) :
    (found.requireAll rs).faults = found.faults := by
  induction rs generalizing found with
  | nil => rfl
  | cons r more ih => rw [requireAll_cons, ih, require_faults]

@[simp] theorem requireAll_isTooDeep (found : Findings) (rs : List Requirement) :
    (found.requireAll rs).isTooDeep = found.isTooDeep := by
  simp [isTooDeep]

theorem mem_require {found : Findings} {r s : Requirement} :
    s ∈ (found.require r).requirements ↔ s ∈ found.requirements ∨ s = r := by
  rw [require]
  split
  · next known =>
    constructor
    · exact Or.inl
    · rintro (h | rfl)
      · exact h
      · exact known
  · simp

theorem mem_requireAll {found : Findings} {rs : List Requirement} {s : Requirement} :
    s ∈ (found.requireAll rs).requirements ↔ s ∈ found.requirements ∨ s ∈ rs := by
  induction rs generalizing found with
  | nil => simp
  | cons r more ih => rw [requireAll_cons, ih, mem_require, List.mem_cons, or_assoc]

end Findings

namespace Expr

mutual

/-- Every pair takes its wildcards from `context`; callees are left alone. -/
def filled (context : Pair) : Expr → Expr
  | pair p => pair (p.filledFrom context)
  | call callee args => call callee (filledAll context args)
  | unary op operand => unary op (operand.filled context)
  | binary op left right => binary op (left.filled context) (right.filled context)
  | parenthesized inner => parenthesized (inner.filled context)
  | number value => number value
  | name word => name word
  | exchange venue => exchange venue

def filledAll (context : Pair) : List Expr → List Expr
  | [] => []
  | e :: more => e.filled context :: filledAll context more

end

mutual

/-- The rate of every pair inside a call on what the nearest call around it calls, unless that is a
marker; `venue` is what the nearest call around the expression calls. -/
def needsIn (venue : Option String) : Expr → List Requirement
  | pair p => match venue with
    | some venue => if isMarkerName venue then [] else [⟨venue, p⟩]
    | none => []
  | call callee args => needsInAll callee.render args
  | unary _ operand => operand.needsIn venue
  | binary _ left right => left.needsIn venue ++ right.needsIn venue
  | parenthesized inner => inner.needsIn venue
  | _ => []

def needsInAll (venue : String) : List Expr → List Requirement
  | [] => []
  | e :: more => e.needsIn (some venue) ++ needsInAll venue more

end

/-- The rates that an expression outside calls needs. -/
def needs (e : Expr) : List Requirement := e.needsIn none

theorem needs_enclosed (e : Expr) : (enclosed e).needs = e.needs := by
  rw [enclosed]
  split <;> rfl

theorem argument_eq (venue : String) (p : Pair) (found : Findings) :
    argument venue p found = (pair p, found.requireAll ((pair p).needsIn (some venue))) := by
  rw [argument]
  cases h : isMarkerName venue with
  | true => simp [needsIn, h]
  | false => simp [needsIn, h]

mutual

/-- Inside a call nothing is inlined: pairs are filled and the rates they need are found. -/
theorem flattenWith_in_call (inline : Pair → Findings → Expr × Findings) (context : Pair)
    (venue : String) (e : Expr) (found : Findings) :
    flattenWith inline context (some venue) e found =
      (e.filled context, found.requireAll ((e.filled context).needsIn (some venue))) := by
  cases e with
  | pair p => exact argument_eq venue (p.filledFrom context) found
  | call callee args =>
    simp only [flattenWith, filled, needsIn, flattenAllWith_eq inline context callee.render args]
  | unary op operand =>
    simp only [flattenWith, filled, needsIn, flattenWith_in_call inline context venue operand]
  | binary op left right =>
    simp only [flattenWith, filled, needsIn, flattenWith_in_call inline context venue left,
      flattenWith_in_call inline context venue right, Findings.requireAll_append]
  | parenthesized inner =>
    simp only [flattenWith, filled, needsIn, flattenWith_in_call inline context venue inner]
  | number value => rfl
  | name word => rfl
  | exchange other => rfl

theorem flattenAllWith_eq (inline : Pair → Findings → Expr × Findings) (context : Pair)
    (venue : String) (es : List Expr) (found : Findings) :
    flattenAllWith inline context venue es found =
      (filledAll context es, found.requireAll (needsInAll venue (filledAll context es))) := by
  cases es with
  | nil => rfl
  | cons e more =>
    simp only [flattenAllWith, filledAll, needsInAll, flattenWith_in_call inline context venue e,
      flattenAllWith_eq inline context venue more, Findings.requireAll_append]

end

theorem flattenWith_call (inline : Pair → Findings → Expr × Findings) (context : Pair)
    (venue : Option String) (callee : Expr) (args : List Expr) (found : Findings) :
    flattenWith inline context venue (call callee args) found =
      (call callee (filledAll context args),
        found.requireAll (call callee (filledAll context args)).needs) := by
  simp only [flattenWith, flattenAllWith_eq, needs, needsIn]

/-- The expression with each reference outside calls replaced by what it expands to, if they all
expand. -/
def expandedWith (expand : Pair → Option Expr) (context : Pair) : Expr → Option Expr
  | pair p => expand (p.filledFrom context)
  | call callee args => some (call callee (filledAll context args))
  | unary op operand => do
    let operand ← operand.expandedWith expand context
    return unary op operand
  | binary op left right => do
    let left ← left.expandedWith expand context
    let right ← right.expandedWith expand context
    return binary op left right
  | parenthesized inner => do
    let inner ← inner.expandedWith expand context
    return parenthesized inner
  | number value => some (number value)
  | name word => some (name word)
  | exchange venue => some (exchange venue)

/-- What a reference expands to when there is room for so many references in one another. -/
def expanded (candidate : Pair → Expr) : Nat → Pair → Option Expr
  | 0, _ => none
  | room + 1, p => ((candidate p).expandedWith (expanded candidate room) p).map enclosed

variable {expand expand' : Pair → Option Expr} {context : Pair}

theorem expandedWith_unary_eq (op : UnaryOp) (e : Expr) :
    (unary op e).expandedWith expand context = (e.expandedWith expand context).map (unary op) :=
  Option.map_eq_bind.symm

theorem expandedWith_parenthesized_eq (e : Expr) :
    (parenthesized e).expandedWith expand context =
      (e.expandedWith expand context).map parenthesized :=
  Option.map_eq_bind.symm

theorem expandedWith_unary {op : UnaryOp} {e e' : Expr} :
    (unary op e).expandedWith expand context = some e' ↔
      ∃ x, e.expandedWith expand context = some x ∧ unary op x = e' := by
  rw [expandedWith_unary_eq, Option.map_eq_some_iff]

theorem expandedWith_binary {op : BinaryOp} {l r e' : Expr} :
    (binary op l r).expandedWith expand context = some e' ↔
      ∃ x y, l.expandedWith expand context = some x ∧ r.expandedWith expand context = some y ∧
        binary op x y = e' := by
  simp only [expandedWith, bind, pure, Option.bind_eq_some_iff, Option.some.injEq]
  constructor
  · rintro ⟨x, hx, y, hy, rfl⟩
    exact ⟨x, y, hx, hy, rfl⟩
  · rintro ⟨x, y, hx, hy, rfl⟩
    exact ⟨x, hx, y, hy, rfl⟩

theorem expandedWith_parenthesized {e e' : Expr} :
    (parenthesized e).expandedWith expand context = some e' ↔
      ∃ x, e.expandedWith expand context = some x ∧ parenthesized x = e' := by
  rw [expandedWith_parenthesized_eq, Option.map_eq_some_iff]

theorem expanded_succ {candidate : Pair → Expr} {room : Nat} {p : Pair} {e' : Expr} :
    expanded candidate (room + 1) p = some e' ↔
      ∃ x, (candidate p).expandedWith (expanded candidate room) p = some x ∧ enclosed x = e' := by
  simp only [expanded, Option.map_eq_some_iff]

theorem expandedWith_mono (mono : ∀ p x, expand p = some x → expand' p = some x) (e e' : Expr)
    (h : e.expandedWith expand context = some e') : e.expandedWith expand' context = some e' := by
  cases e with
  | pair p => exact mono _ _ h
  | call callee args => exact h
  | unary op operand =>
    obtain ⟨x, hx, rfl⟩ := expandedWith_unary.mp h
    exact expandedWith_unary.mpr ⟨x, expandedWith_mono mono operand x hx, rfl⟩
  | binary op left right =>
    obtain ⟨x, y, hx, hy, rfl⟩ := expandedWith_binary.mp h
    exact expandedWith_binary.mpr
      ⟨x, y, expandedWith_mono mono left x hx, expandedWith_mono mono right y hy, rfl⟩
  | parenthesized inner =>
    obtain ⟨x, hx, rfl⟩ := expandedWith_parenthesized.mp h
    exact expandedWith_parenthesized.mpr ⟨x, expandedWith_mono mono inner x hx, rfl⟩
  | number value => exact h
  | name word => exact h
  | exchange venue => exact h

/-- More room changes no expansion. -/
theorem expanded_room_succ (candidate : Pair → Expr) (room : Nat) (p : Pair) (x : Expr)
    (h : expanded candidate room p = some x) : expanded candidate (room + 1) p = some x := by
  induction room generalizing p x with
  | zero => cases h
  | succ room ih =>
    obtain ⟨y, hy, rfl⟩ := expanded_succ.mp h
    exact expanded_succ.mpr ⟨y, expandedWith_mono ih (candidate p) y hy, rfl⟩

/-- What flattening comes to where there is an expansion, and where there is none. -/
def Flattens (outcome : Expr × Findings) (found : Findings) : Option Expr → Prop
  | some e => outcome = (e, found.requireAll e.needs)
  | none => outcome.2.isTooDeep = true

theorem flattens_some {outcome : Expr × Findings} {found : Findings} {e : Expr} :
    Flattens outcome found (some e) ↔ outcome = (e, found.requireAll e.needs) := Iff.rfl

theorem flattens_none {outcome : Expr × Findings} {found : Findings} :
    Flattens outcome found none ↔ outcome.2.isTooDeep = true := Iff.rfl

/-- What is written around an expansion needs no rates. -/
theorem Flattens.wrapped (wrap : Expr → Expr) (same : ∀ e, (wrap e).needs = e.needs)
    {outcome : Expr × Findings} {found : Findings} {expansion : Option Expr}
    (h : Flattens outcome found expansion) :
    Flattens (wrap outcome.1, outcome.2) found (expansion.map wrap) := by
  cases expansion with
  | none => exact h
  | some e =>
    rw [flattens_some] at h
    rw [h, Option.map_some, flattens_some, same]

variable {inline : Pair → Findings → Expr × Findings}

/-- Nothing that is found later takes a fault away. -/
theorem flattenWith_stays_deep (context : Pair)
    (stays : ∀ p found, found.isTooDeep = true → (inline p found).2.isTooDeep = true)
    (e : Expr) (found : Findings) (deep : found.isTooDeep = true) :
    (flattenWith inline context none e found).2.isTooDeep = true := by
  cases e with
  | pair p => exact stays _ found deep
  | call callee args =>
    rw [flattenWith_call, Findings.requireAll_isTooDeep]
    exact deep
  | unary op operand => exact flattenWith_stays_deep context stays operand found deep
  | binary op left right =>
    exact flattenWith_stays_deep context stays right _
      (flattenWith_stays_deep context stays left found deep)
  | parenthesized inner => exact flattenWith_stays_deep context stays inner found deep
  | number value => exact deep
  | name word => exact deep
  | exchange venue => exact deep

theorem inlined_stays_deep (candidate : Pair → Expr) (room : Nat) (p : Pair) (found : Findings)
    (deep : found.isTooDeep = true) : (inlined candidate room p found).2.isTooDeep = true := by
  induction room generalizing p found with
  | zero => exact Findings.isTooDeep_fail found
  | succ room ih =>
    have inner := flattenWith_stays_deep p ih (candidate p) found deep
    simp only [inlined, inner, if_true]

theorem flattenWith_flattens (context : Pair)
    (stays : ∀ p found, found.isTooDeep = true → (inline p found).2.isTooDeep = true)
    (inlines : ∀ p found, found.isTooDeep = false → Flattens (inline p found) found (expand p))
    (e : Expr) (found : Findings) (shallow : found.isTooDeep = false) :
    Flattens (flattenWith inline context none e found) found (e.expandedWith expand context) := by
  cases e with
  | pair p => exact inlines _ found shallow
  | call callee args => exact flattenWith_call inline context none callee args found
  | unary op operand =>
    have inner := flattenWith_flattens context stays inlines operand found shallow
    rw [expandedWith_unary_eq]
    exact inner.wrapped (unary op) fun e => rfl
  | binary op left right =>
    have first := flattenWith_flattens context stays inlines left found shallow
    cases hleft : left.expandedWith expand context with
    | none =>
      rw [hleft, flattens_none] at first
      rw [expandedWith, hleft]
      exact flattens_none.mpr (flattenWith_stays_deep context stays right _ first)
    | some x =>
      rw [hleft, flattens_some] at first
      have second := flattenWith_flattens context stays inlines right (found.requireAll x.needs)
        (by rw [Findings.requireAll_isTooDeep]; exact shallow)
      cases hright : right.expandedWith expand context with
      | none =>
        rw [hright, flattens_none] at second
        rw [expandedWith, hleft, hright]
        apply flattens_none.mpr
        rw [flattenWith, first]
        exact second
      | some y =>
        rw [hright, flattens_some] at second
        rw [expandedWith, hleft, hright]
        apply flattens_some.mpr
        rw [flattenWith, first]
        simp only [second]
        exact congrArg (Prod.mk _) (Findings.requireAll_append found x.needs y.needs).symm
  | parenthesized inner =>
    have within := flattenWith_flattens context stays inlines inner found shallow
    rw [expandedWith_parenthesized_eq]
    exact within.wrapped parenthesized fun e => rfl
  | number value => rfl
  | name word => rfl
  | exchange venue => rfl

theorem inlined_flattens (candidate : Pair → Expr) (room : Nat) (p : Pair) (found : Findings)
    (shallow : found.isTooDeep = false) :
    Flattens (inlined candidate room p found) found (expanded candidate room p) := by
  induction room generalizing p found with
  | zero => exact Findings.isTooDeep_fail found
  | succ room ih =>
    have whole := flattenWith_flattens p (inlined_stays_deep candidate room) ih (candidate p) found
      shallow
    cases h : (candidate p).expandedWith (expanded candidate room) p with
    | none =>
      rw [h, flattens_none] at whole
      rw [expanded, h]
      apply flattens_none.mpr
      simp only [inlined, whole, if_true]
    | some x =>
      rw [h, flattens_some] at whole
      rw [expanded, h]
      apply flattens_some.mpr
      simp only [inlined, whole, Findings.requireAll_isTooDeep, shallow]
      exact congrArg (fun needs => (enclosed x, found.requireAll needs)) (needs_enclosed x).symm

/-- Flattening gives the expansion of an expression and finds what that needs, or is too deep. -/
theorem flatten_flattens (candidate : Pair → Expr) (p : Pair) (e : Expr) :
    Flattens (flatten candidate p e) .empty
      (e.expandedWith (expanded candidate maxReferences) p) :=
  flattenWith_flattens p (inlined_stays_deep candidate maxReferences)
    (inlined_flattens candidate maxReferences) e .empty rfl

/-- Flattening without a fault gives an expansion. -/
theorem expandedWith_of_faults_eq_nil {candidate : Pair → Expr} {p : Pair} {e : Expr}
    (h : (flatten candidate p e).2.faults = []) :
    ∃ x, e.expandedWith (expanded candidate maxReferences) p = some x ∧
      flatten candidate p e = (x, Findings.empty.requireAll x.needs) := by
  have whole := flatten_flattens candidate p e
  cases hx : e.expandedWith (expanded candidate maxReferences) p with
  | none =>
    rw [hx, flattens_none, Findings.isTooDeep, h] at whole
    cases whole
  | some x =>
    rw [hx, flattens_some] at whole
    exact ⟨x, rfl, whole⟩

end Expr
end RateRules
