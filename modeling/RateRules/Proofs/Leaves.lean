import RateRules.Proofs.Expansion

/-!
# The leaves of flattened rules

The leaves of an expression are its parts outside calls that are no operations. A leaf of a
flattened rule is a leaf of some rule that was reached, with its wildcards filled, or it marks a
reference that was too deep.
-/
namespace RateRules.Expr

/-- The parts outside calls that are no operations, from left to right. -/
def leaves : Expr → List Expr
  | unary _ operand => operand.leaves
  | binary _ left right => left.leaves ++ right.leaves
  | parenthesized inner => inner.leaves
  | number value => [number value]
  | name word => [name word]
  | pair p => [pair p]
  | exchange venue => [exchange venue]
  | call callee args => [call callee args]

/-- The pair that a reference in a rule for `context` stands for. -/
def reference? (context : Pair) : Expr → Option Pair
  | pair p => some (p.filledFrom context)
  | _ => none

/-- The references outside calls of a rule for `context`. -/
def references (context : Pair) (e : Expr) : List Pair := e.leaves.filterMap (reference? context)

/-- The rule for one pair refers, through other rules, to another pair. -/
inductive Reaches (candidate : Pair → Expr) : Pair → Pair → Prop
  | refl (p : Pair) : Reaches candidate p p
  | step {p q r : Pair} :
      q ∈ (candidate p).references p → Reaches candidate q r → Reaches candidate p r

theorem leaves_enclosed (e : Expr) : (enclosed e).leaves = e.leaves := by
  rw [enclosed]
  split <;> rfl

theorem references_binary (context : Pair) (op : BinaryOp) (l r : Expr) :
    (binary op l r).references context = l.references context ++ r.references context :=
  List.filterMap_append

theorem references_number (context : Pair) (d : Decimal) : (number d).references context = [] := rfl

theorem references_parenthesized (context : Pair) (e : Expr) :
    (parenthesized e).references context = e.references context := rfl

/-- A leaf that no reference brought in is a leaf of the expression itself. -/
theorem mem_leaves_flattenWith {inline : Pair → Findings → Expr × Findings} {context : Pair}
    (e : Expr) (found : Findings) (x : Expr)
    (h : x ∈ (flattenWith inline context none e found).1.leaves) :
    (∃ y ∈ e.leaves, y.reference? context = none ∧ x = y.filled context) ∨
      ∃ q ∈ e.references context, ∃ found', x ∈ (inline q found').1.leaves := by
  cases e with
  | pair p => exact Or.inr ⟨p.filledFrom context, List.mem_singleton.mpr rfl, found, h⟩
  | call callee args =>
    rw [flattenWith_call] at h
    exact Or.inl ⟨call callee args, List.mem_singleton.mpr rfl, rfl, List.mem_singleton.mp h⟩
  | unary op operand => exact mem_leaves_flattenWith operand found x h
  | binary op left right =>
    rw [references_binary]
    rcases List.mem_append.mp h with h | h
    · rcases mem_leaves_flattenWith left found x h with ⟨y, hy, own⟩ | ⟨q, hq, brought⟩
      · exact Or.inl ⟨y, List.mem_append_left _ hy, own⟩
      · exact Or.inr ⟨q, List.mem_append_left _ hq, brought⟩
    · rcases mem_leaves_flattenWith right _ x h with ⟨y, hy, own⟩ | ⟨q, hq, brought⟩
      · exact Or.inl ⟨y, List.mem_append_right _ hy, own⟩
      · exact Or.inr ⟨q, List.mem_append_right _ hq, brought⟩
  | parenthesized inner => exact mem_leaves_flattenWith inner found x h
  | number d => exact Or.inl ⟨number d, List.mem_singleton.mpr rfl, rfl, List.mem_singleton.mp h⟩
  | name word => exact Or.inl ⟨name word, List.mem_singleton.mpr rfl, rfl, List.mem_singleton.mp h⟩
  | exchange venue =>
    exact Or.inl ⟨exchange venue, List.mem_singleton.mpr rfl, rfl, List.mem_singleton.mp h⟩

/-- Where a leaf of a flattened rule comes from. -/
theorem mem_leaves_inlined (candidate : Pair → Expr) (room : Nat) (p : Pair) (found : Findings)
    (x : Expr) (h : x ∈ (inlined candidate room p found).1.leaves) :
    ∃ q, Reaches candidate p q ∧
      (x = tooDeepMarker q ∨
        ∃ y ∈ (candidate q).leaves, y.reference? q = none ∧ x = y.filled q) := by
  induction room generalizing p found with
  | zero => exact ⟨p, .refl p, Or.inl (List.mem_singleton.mp h)⟩
  | succ room ih =>
    simp only [inlined] at h
    split at h
    · exact ⟨p, .refl p, Or.inl (List.mem_singleton.mp h)⟩
    · rw [leaves_enclosed] at h
      rcases mem_leaves_flattenWith _ found x h with own | ⟨q, hq, found', brought⟩
      · exact ⟨p, .refl p, Or.inr own⟩
      · obtain ⟨r, hr, origin⟩ := ih q found' brought
        exact ⟨r, .step hq hr, origin⟩

/-- Where a leaf of a flattened expression comes from. -/
theorem mem_leaves_flatten (candidate : Pair → Expr) (p : Pair) (e x : Expr)
    (h : x ∈ (flatten candidate p e).1.leaves) :
    (∃ y ∈ e.leaves, y.reference? p = none ∧ x = y.filled p) ∨
      ∃ q, (∃ r ∈ e.references p, Reaches candidate r q) ∧
        (x = tooDeepMarker q ∨
          ∃ y ∈ (candidate q).leaves, y.reference? q = none ∧ x = y.filled q) := by
  rcases mem_leaves_flattenWith e .empty x h with own | ⟨r, hr, found, brought⟩
  · exact Or.inl own
  · obtain ⟨q, hq, origin⟩ := mem_leaves_inlined candidate maxReferences r found x brought
    exact Or.inr ⟨q, ⟨r, hr, hq⟩, origin⟩

end RateRules.Expr
