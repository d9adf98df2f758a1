import RateRules.Expr.Render
import RateRules.Proofs.NumberTokens
import RateRules.Proofs.Parser
import RateRules.Script.Grammar.Expression
import RateRules.Script.Statement

/-!
# What every level reads

The levels of the grammar hand an operand on to each other: what one level reads is read by all the
looser ones, if no operator of theirs stands behind it.
-/
namespace RateRules.Script

namespace Token

variable {t : Token} {text : String}

theorem isBroken_of_sign (h : t.lexeme = .sign text) : t.isBroken = false := by
  rw [isBroken, h]
  rfl

theorem is_of_sign (h : t.lexeme = .sign text) (word : String) : t.is word = (text == word) := by
  rw [is, h]

theorem is_of_lexeme (h : t.lexeme = .sign text) : t.is text = true := by
  rw [is_of_sign h]
  exact beq_self_eq_true text

end Token

namespace Parser

variable {α β : Type} {tokens mid rest more : List Token} {t : Token} {word : String}

theorem Reads.bind {p : Parser α} {f : α → Parser β} {a : α} {b : β} (hp : Reads p tokens a mid)
    (hf : Reads (f a) mid b rest) : Reads (p >>= f) tokens b rest :=
  reads_bind.mpr ⟨a, mid, hp, hf⟩

theorem reads_return (a : α) (tokens : List Token) : Reads (pure a) tokens a tokens :=
  reads_pure.mpr ⟨rfl, rfl⟩

theorem reads_peek_cons (whole : t.isBroken = false) : Reads peek (t :: more) t (t :: more) := by
  refine Reads.bind (reads_remaining.mpr ⟨rfl, rfl⟩) (reads_ite.mpr (Or.inr ⟨?_, reads_return _ _⟩))
  rw [whole]
  decide

theorem reads_advance_cons : Reads advance (t :: more) () more := reads_advance.mpr rfl

theorem reads_peekSecond : Reads peekSecond tokens tokens[1]? tokens :=
  Reads.bind (reads_remaining.mpr ⟨rfl, rfl⟩) (reads_return _ _)

theorem reads_sees_cons (whole : t.isBroken = false) :
    Reads (sees word) (t :: more) (t.is word) (t :: more) :=
  (reads_peek_cons whole).bind (reads_return _ _)

theorem reads_sees_not (whole : t.isBroken = false) (other : t.is word = false) :
    Reads (sees word) (t :: more) false (t :: more) := by
  rw [← other]
  exact reads_sees_cons whole

theorem reads_skip_not (whole : t.isBroken = false) (other : t.is word = false) :
    Reads (skip? word) (t :: more) false (t :: more) :=
  (reads_sees_not whole other).bind (reads_return _ _)

theorem reads_skip_cons (whole : t.isBroken = false) (same : t.is word = true) :
    Reads (skip? word) (t :: more) true more := by
  have seen : Reads (sees word) (t :: more) true (t :: more) := by
    rw [← same]
    exact reads_sees_cons whole
  exact seen.bind (reads_advance_cons.bind (reads_return _ _))

theorem reads_expect (whole : t.isBroken = false) (same : t.is word = true) :
    Reads (expect word) (t :: more) () more :=
  (reads_skip_cons whole same).bind (reads_return _ _)

/-- Steps that each take tokens lead from one value to another. -/
inductive Reaches (step : α → Parser (Option α)) : α → List Token → α → List Token → Prop
  | refl (a : α) (tokens : List Token) : Reaches step a tokens a tokens
  | tail {a b c : α} {tokens mid rest : List Token} : Reaches step a tokens b mid →
      Reads (step b) mid (some c) rest → rest.length < mid.length → Reaches step a tokens c rest

variable {step : α → Parser (Option α)} {a b c : α}

theorem Reaches.head (read : Reads (step a) tokens (some b) mid)
    (shorter : mid.length < tokens.length)
    (h : Reaches step b mid c rest) : Reaches step a tokens c rest := by
  induction h with
  | refl => exact (Reaches.refl a tokens).tail read shorter
  | tail _ next less ih => exact (ih read shorter).tail next less

theorem Reaches.repeatFrom (h : Reaches step a tokens b mid) {fuel : Nat}
    (enough : tokens.length ≤ fuel) :
    ∃ fuel', mid.length ≤ fuel' ∧
      ∀ c rest, Reads (repeatFrom step fuel' b) mid c rest →
      Reads (repeatFrom step fuel a) tokens c rest := by
  induction h with
  | refl => exact ⟨fuel, enough, fun _ _ further => further⟩
  | tail _ read shorter ih =>
    obtain ⟨fuel', enough', before⟩ := ih enough
    obtain ⟨k, rfl⟩ : ∃ k, fuel' = k + 1 := ⟨fuel' - 1, by omega⟩
    exact ⟨k, by omega, fun d last further => before d last (read.bind further)⟩

/-- A repetition ends with the step that gives nothing. -/
theorem Reaches.reads_iterate (h : Reaches step a tokens b mid)
    (last : Reads (step b) mid none rest) :
    Reads (iterate step a) tokens b rest := by
  obtain ⟨fuel, enough, before⟩ := h.repeatFrom (Nat.le_refl _)
  refine Reads.bind (reads_remaining.mpr ⟨rfl, rfl⟩) (before b rest ?_)
  cases fuel with
  | zero =>
    have empty : mid = [] := List.length_eq_zero_iff.mp (Nat.le_zero.mp enough)
    rw [empty] at last ⊢
    rw [List.suffix_nil.mp last.isSuffix]
    exact reads_return b []
  | succ k => exact last.bind (reads_return _ _)

end Parser

namespace Grammar

open RateRules.Script.Parser

/-- What an operand starts with. -/
def startsOperand : Lexeme → Bool
  | .name _ => true
  | .number _ => true
  | .sign text => ["(", "+", "-", "~"].contains text
  | _ => false

/-- What stands behind a whole expression. -/
def closers : List Lexeme := [.sign ")", .sign ",", .sign ";", .sign "=", .lineEnd, .textEnd]

/-- What may stand behind an operand of a strength. -/
def followers (strength : Nat) : List Lexeme :=
  closers ++ ([BinaryOp.add, .sub, .mul, .div, .mod, .pow].filter fun op =>
    op.strength < strength).map
    fun op => .sign op.text

variable {inner : Inner} {p : Parser Tree} {tokens more rest : List Token} {t : Token}
  {word : String} {e : Expr}

/-- A token is none of the words that its lexeme is not. -/
theorem is_of_mem {lexemes : List Lexeme} (h : t.lexeme ∈ lexemes)
    (none : ∀ lexeme ∈ lexemes, (Token.mk lexeme default 0).is word = false) : t.is word = false :=
  none t.lexeme h

theorem is_of_startsOperand (h : startsOperand t.lexeme = true)
    (other : word ∉ ["(", "+", "-", "~"]) :
    t.is word = false := by
  obtain ⟨lexeme, place, depth⟩ := t
  cases lexeme with
  | sign text =>
    simp only [startsOperand, List.contains_eq_mem, decide_eq_true_eq] at h
    simp only [Token.is, beq_eq_false_iff_ne]
    rintro rfl
    exact other h
  | name | number => rfl
  | _ => cases h

theorem isBroken_of_startsOperand (h : startsOperand t.lexeme = true) : t.isBroken = false := by
  obtain ⟨lexeme, place, depth⟩ := t
  cases lexeme with
  | broken => cases h
  | _ => rfl

/-- The parser reads an operand that stands for `e` and stops before `rest`. -/
structure Operand (p : Parser Tree) (tokens : List Token) (e : Expr)
    (rest : List Token) : Prop where
  reads : ∃ tree, tree.expr = .ok e ∧ Reads p tokens tree rest
  starts : ∃ first tail, tokens = first :: tail ∧ startsOperand first.lexeme = true

/-- One operator and one more operand. -/
def joinStep (operand : Parser Tree) (operation? : Token → Option Operation) (start : Place)
    (left : Tree) :
    Parser (Option Tree) := do
  match operation? (← peek) with
  | some op =>
    advance
    return some (.binary start op left (← operand))
  | none => return none

/-- Operands that are joined from left to right so far. -/
def Joining (operand : Parser Tree) (operation? : Token → Option Operation)
    (tokens : List Token) (e : Expr)
    (rest : List Token) : Prop :=
  ∃ first tail, tokens = first :: tail ∧ startsOperand first.lexeme = true ∧
    ∃ left mid tree, tree.expr = .ok e ∧ Reads operand tokens left mid ∧
      Reaches (joinStep operand operation? first.place) left mid tree rest

variable {operation? : Token → Option Operation} {mid : List Token} {l r : Expr}

theorem Operand.joining (h : Operand p tokens e rest) : Joining p operation? tokens e rest := by
  obtain ⟨⟨tree, hexpr, read⟩, first, tail, rfl, starts⟩ := h
  exact ⟨first, tail, rfl, starts, tree, rest, tree, hexpr, read, .refl tree rest⟩

theorem Joining.step {op : BinaryOp} (h : Joining p operation? tokens l (t :: mid))
    (whole : t.isBroken = false) (hop : operation? t = some (.ok op))
    (right : Operand p mid r rest) :
    Joining p operation? tokens (.binary op l r) rest := by
  obtain ⟨first, tail, hfirst, starts, left, before, tree, hexpr, read, reached⟩ := h
  obtain ⟨⟨rightTree, hright, readRight⟩, _⟩ := right
  have value : (Tree.binary first.place (.ok op) tree rightTree).expr = .ok (.binary op l r) := by
    simp only [Tree.expr, hexpr, hright]
    rfl
  have step : Reads (joinStep p operation? first.place tree) (t :: mid)
      (some (.binary first.place (.ok op) tree rightTree)) rest := by
    refine (reads_peek_cons whole).bind ?_
    rw [hop]
    exact reads_advance_cons.bind (readRight.bind (reads_return _ _))
  have shorter : rest.length < (t :: mid).length := by
    have := readRight.isSuffix.length_le
    rw [List.length_cons]
    omega
  exact ⟨first, tail, hfirst, starts, left, before, _, value, read, reached.tail step shorter⟩

/-- The operands are joined where no further operator comes. -/
theorem Joining.joined (h : Joining p operation? tokens e (t :: more)) (whole : t.isBroken = false)
    (none : operation? t = none) : Operand (Grammar.joined p operation?) tokens e (t :: more) := by
  obtain ⟨first, tail, rfl, starts, left, before, tree, hexpr, read, reached⟩ := h
  refine ⟨⟨tree, hexpr, ?_⟩, first, tail, rfl, starts⟩
  have last : Reads (joinStep p operation? first.place tree) (t :: more) Option.none
      (t :: more) := by
    refine (reads_peek_cons whole).bind ?_
    rw [none]
    exact reads_return _ _
  exact (reads_peek_cons (isBroken_of_startsOperand starts)).bind
    (read.bind (reached.reads_iterate last))

/-- One operand alone is what is joined. -/
theorem Operand.joined (h : Operand p tokens e (t :: more)) (whole : t.isBroken = false)
    (none : operation? t = none) : Operand (Grammar.joined p operation?) tokens e (t :: more) :=
  h.joining.joined whole none

theorem isBroken_of_mem_followers (h : t.lexeme ∈ followers 5) : t.isBroken = false := by
  have none : ∀ lexeme ∈ followers 5, (Token.mk lexeme default 0).isBroken = false := by decide
  exact none t.lexeme h

theorem mem_followers {n : Nat} (h : t.lexeme ∈ closers) : t.lexeme ∈ followers n :=
  List.mem_append_left _ h

theorem Operand.bitOr (h : Operand (sum inner) tokens e (t :: more)) (closes : t.lexeme ∈ closers) :
    Operand (bitOr inner) tokens e (t :: more) := by
  have whole := isBroken_of_mem_followers (mem_followers closes)
  have none : ∀ lexeme ∈ closers, shiftOperation? ⟨lexeme, default, 0⟩ = none ∧
      (Token.mk lexeme default 0).is "&" = false ∧ (Token.mk lexeme default 0).is "^" = false ∧
      (Token.mk lexeme default 0).is "|" = false := by decide
  obtain ⟨noShift, noAnd, noXor, noOr⟩ := none t.lexeme closes
  have bitAnd : signOf "&" .bitAnd t = Option.none := if_neg (ne_true_of_eq_false noAnd)
  have bitXor : signOf "^" .bitXor t = Option.none := if_neg (ne_true_of_eq_false noXor)
  have bitOr : signOf "|" .bitOr t = Option.none := if_neg (ne_true_of_eq_false noOr)
  exact (((h.joined whole noShift).joined whole bitAnd).joined whole bitXor).joined whole bitOr

theorem reads_comparison_none (closes : t.lexeme ∈ closers) :
    Reads comparison? (t :: more) false (t :: more) := by
  have whole := isBroken_of_mem_followers (mem_followers closes)
  have none : ∀ lexeme ∈ closers, (Token.mk lexeme default 0).isOneOf
      ["==", "!=", "<", "<=", ">", ">=", "in"] = false := by decide
  have noSign : Reads (seesOneOf ["==", "!=", "<", "<=", ">", ">=", "in"]) (t :: more) false
      (t :: more) := by
    rw [← none t.lexeme closes]
    exact (reads_peek_cons whole).bind (reads_return _ _)
  have noIs := @reads_skip_not more t "is" whole (is_of_mem closes (by decide))
  have noNot := @reads_sees_not more t "not" whole (is_of_mem closes (by decide))
  exact noSign.bind (noIs.bind (noNot.bind (reads_peekSecond.bind (reads_return _ _))))

theorem Operand.comparison (h : Operand (Grammar.bitOr inner) tokens e (t :: more))
    (closes : t.lexeme ∈ closers) : Operand (comparison inner) tokens e (t :: more) := by
  obtain ⟨⟨tree, hexpr, read⟩, first, tail, rfl, starts⟩ := h
  refine ⟨⟨tree, hexpr, ?_⟩, first, tail, rfl, starts⟩
  exact (reads_peek_cons (isBroken_of_startsOperand starts)).bind
    (read.bind ((Reaches.refl tree (t :: more)).reads_iterate
      ((reads_comparison_none closes).bind (reads_return _ _))))

theorem Operand.inversion (h : Operand (Grammar.comparison inner) tokens e rest) :
    Operand (inversion inner) tokens e rest := by
  obtain ⟨⟨tree, hexpr, read⟩, first, tail, rfl, starts⟩ := h
  have whole := isBroken_of_startsOperand starts
  have noNot : Reads (skip? "not") (first :: tail) false (first :: tail) :=
    reads_skip_not whole (is_of_startsOperand starts (by decide))
  exact ⟨⟨tree, hexpr, (reads_peek_cons whole).bind (noNot.bind read)⟩, first, tail, rfl, starts⟩

theorem Operand.boolean (h : Operand p tokens e (t :: more)) (whole : t.isBroken = false)
    (other : t.is word = false) : Operand (boolean word p) tokens e (t :: more) := by
  obtain ⟨⟨tree, hexpr, read⟩, first, tail, rfl, starts⟩ := h
  refine ⟨⟨tree, hexpr, ?_⟩, first, tail, rfl, starts⟩
  exact (reads_peek_cons (isBroken_of_startsOperand starts)).bind
    (read.bind ((Reaches.refl tree (t :: more)).reads_iterate
      ((reads_skip_not whole other).bind (reads_return _ _))))

theorem Operand.disjunction (h : Operand (Grammar.inversion inner) tokens e (t :: more))
    (closes : t.lexeme ∈ closers) : Operand (disjunction inner) tokens e (t :: more) := by
  have whole := isBroken_of_mem_followers (mem_followers closes)
  exact (h.boolean whole (is_of_mem closes (by decide))).boolean whole
    (is_of_mem closes (by decide))

theorem Operand.expression (h : Operand (Grammar.disjunction inner) tokens e (t :: more))
    (closes : t.lexeme ∈ closers) : Operand (expression inner) tokens e (t :: more) := by
  obtain ⟨⟨tree, hexpr, read⟩, first, tail, rfl, starts⟩ := h
  have whole := isBroken_of_mem_followers (mem_followers closes)
  have noLambda : first.is "lambda" = false := is_of_startsOperand starts (by decide)
  have noIf := @reads_skip_not more t "if" whole (is_of_mem closes (by decide))
  have apart : ∀ lexeme ∈ closers, standsAlone ⟨lexeme, default, 0⟩ = false := by decide
  have alone : standsAlone t = false := apart t.lexeme closes
  have neighbour : ∀ second, Reads (refuseNeighbour inner first second) (t :: more) ()
      (t :: more) := by
    intro second
    refine (reads_peek_cons whole).bind ?_
    rw [alone, Bool.and_false, Bool.false_and]
    exact reads_return _ _
  refine ⟨⟨tree, hexpr, ?_⟩, first, tail, rfl, starts⟩
  refine (reads_peek_cons (isBroken_of_startsOperand starts)).bind ?_
  rw [noLambda]
  exact reads_peekSecond.bind (read.bind (noIf.bind ((neighbour _).bind (reads_return _ _))))

/-- What is read as a sum before the end of an expression is read as an expression. -/
theorem Operand.of_sum (h : Operand (sum inner) tokens e (t :: more))
    (closes : t.lexeme ∈ closers) :
    Operand (Grammar.expression inner) tokens e (t :: more) :=
  (((h.bitOr closes).comparison closes).inversion.disjunction closes).expression closes

theorem reads_trailer_none (start : Place) (tree : Tree) (follows : t.lexeme ∈ followers 5) :
    Reads (trailer? inner start tree) (t :: more) none (t :: more) := by
  have whole := isBroken_of_mem_followers follows
  have noPoint := @reads_skip_not more t "." whole (is_of_mem follows (by decide))
  have noIndex := @reads_skip_not more t "[" whole (is_of_mem follows (by decide))
  have noCall := @reads_skip_not more t "(" whole (is_of_mem follows (by decide))
  exact (reads_peek_cons whole).bind (noPoint.bind (noIndex.bind (noCall.bind (reads_return _ _))))

/-- An atom with the calls behind it so far. -/
def Calling (inner : Inner) (tokens : List Token) (e : Expr) (rest : List Token) : Prop :=
  ∃ first tail, tokens = first :: tail ∧ startsOperand first.lexeme = true ∧
    ∃ left mid tree, tree.expr = .ok e ∧ Reads (atom inner) tokens left mid ∧
      Reaches (trailer? inner first.place) left mid tree rest

theorem Operand.calling (h : Operand (atom inner) tokens e rest) : Calling inner tokens e rest := by
  obtain ⟨⟨tree, hexpr, read⟩, first, tail, rfl, starts⟩ := h
  exact ⟨first, tail, rfl, starts, tree, rest, tree, hexpr, read, .refl tree rest⟩

/-- Calls behind which no trailer stands. -/
theorem Calling.primary (h : Calling inner tokens e (t :: more))
    (follows : t.lexeme ∈ followers 5) :
    Operand (primary inner) tokens e (t :: more) := by
  obtain ⟨first, tail, rfl, starts, left, before, tree, hexpr, read, reached⟩ := h
  refine ⟨⟨tree, hexpr, ?_⟩, first, tail, rfl, starts⟩
  exact (reads_peek_cons (isBroken_of_startsOperand starts)).bind
    (read.bind (reached.reads_iterate (reads_trailer_none _ _ follows)))

theorem Operand.awaited (h : Operand (Grammar.primary inner) tokens e rest) :
    Operand (awaited inner) tokens e rest := by
  obtain ⟨⟨tree, hexpr, read⟩, first, tail, rfl, starts⟩ := h
  have whole := isBroken_of_startsOperand starts
  have noAwait : Reads (skip? "await") (first :: tail) false (first :: tail) :=
    reads_skip_not whole (is_of_startsOperand starts (by decide))
  exact ⟨⟨tree, hexpr, (reads_peek_cons whole).bind (noAwait.bind read)⟩, first, tail, rfl, starts⟩

theorem Operand.power (h : Operand (Grammar.primary inner) tokens e (t :: more))
    (follows : t.lexeme ∈ followers 4) : Operand (power inner) tokens e (t :: more) := by
  obtain ⟨⟨tree, hexpr, read⟩, first, tail, rfl, starts⟩ := h.awaited
  have whole : t.isBroken = false := by
    have none : ∀ lexeme ∈ followers 4, (Token.mk lexeme default 0).isBroken = false := by decide
    exact none t.lexeme follows
  have noPower := @reads_skip_not more t "**" whole (is_of_mem follows (by decide))
  refine ⟨⟨tree, hexpr, ?_⟩, first, tail, rfl, starts⟩
  exact (reads_peek_cons (isBroken_of_startsOperand starts)).bind
    (read.bind (noPower.bind (reads_return _ _)))

/-- A power of two operands. -/
theorem Operand.raised (h : Operand (Grammar.primary inner) tokens l (t :: mid))
    (sign : t.lexeme = .sign "**")
    (right : Operand (inner .factor) mid r rest) :
    Operand (Grammar.power inner) tokens (.binary .pow l r) rest := by
  obtain ⟨⟨tree, hexpr, read⟩, first, tail, rfl, starts⟩ := h.awaited
  obtain ⟨⟨rightTree, hright, readRight⟩, _⟩ := right
  have whole := Token.isBroken_of_sign sign
  have power : t.is "**" = true := Token.is_of_sign sign _
  have value : (Tree.binary first.place (.ok .pow) tree rightTree).expr =
      .ok (.binary .pow l r) := by
    simp only [Tree.expr, hexpr, hright]
    rfl
  refine ⟨⟨_, value, ?_⟩, first, tail, rfl, starts⟩
  exact (reads_peek_cons (isBroken_of_startsOperand starts)).bind
    (read.bind ((reads_skip_cons whole power).bind (readRight.bind (reads_return _ _))))

theorem Operand.factor (h : Operand (Grammar.power inner) tokens e rest)
    (noSign : ∀ first ∈ tokens.head?, signOperator? first = none) :
    Operand (factor inner) tokens e rest := by
  obtain ⟨⟨tree, hexpr, read⟩, first, tail, rfl, starts⟩ := h
  refine ⟨⟨tree, hexpr, ?_⟩, first, tail, rfl, starts⟩
  refine (reads_peek_cons (isBroken_of_startsOperand starts)).bind ?_
  rw [noSign first rfl]
  exact read

/-- An operator before its operand. -/
theorem Operand.signed {op : UnaryOp} (h : Operand (inner .factor) tokens e rest)
    (sign : signOperator? t = some op) (starts : startsOperand t.lexeme = true) :
    Operand (Grammar.factor inner) (t :: tokens) (.unary op e) rest := by
  obtain ⟨⟨tree, hexpr, read⟩, _⟩ := h
  have value : (Tree.unary t.place (.ok op) tree).expr = .ok (.unary op e) := by
    simp only [Tree.expr, hexpr]
    rfl
  refine ⟨⟨_, value, ?_⟩, t, tokens, rfl, starts⟩
  refine (reads_peek_cons (isBroken_of_startsOperand starts)).bind ?_
  rw [sign]
  exact reads_advance_cons.bind (read.bind (reads_return _ _))

theorem operand_number {d : Decimal} (literal : d.isLiteral = true)
    (token : t.lexeme = .number d.text)
    (rest : List Token) : Operand (atom inner) (t :: rest) (.number d) rest := by
  obtain ⟨finite, unsigned, storable, _⟩ := Decimal.isLiteral_iff.mp literal
  obtain ⟨_, _, short, real⟩ := Decimal.exists_numeral literal
  have starts : startsOperand t.lexeme = true := by rw [token]; rfl
  have value : (Tree.number t.place d.text).expr = .ok (.number d) := by
    simp only [Tree.expr, numberOf, Decimal.ofText?_text finite unsigned storable, finite, if_true]
  refine ⟨⟨_, value, ?_⟩, t, rest, rfl, starts⟩
  refine (reads_peek_cons (isBroken_of_startsOperand starts)).bind ?_
  simp only [token, Grammar.number, short, real, Bool.false_eq_true, if_false]
  exact reads_advance_cons.bind (reads_return _ _)

theorem operand_name {word : String} (token : t.lexeme = .name word) (rest : List Token) :
    Operand (atom inner) (t :: rest) (.name word) rest := by
  have starts : startsOperand t.lexeme = true := by rw [token]; rfl
  refine ⟨⟨.name t.place word, rfl, ?_⟩, t, rest, rfl, starts⟩
  refine (reads_peek_cons (isBroken_of_startsOperand starts)).bind ?_
  simp only [token]
  exact reads_advance_cons.bind (reads_return _ _)

theorem isStarred_of_expr {tree : Tree} (h : tree.expr = .ok e) : tree.isStarred = false := by
  cases tree with
  | starred place inner => cases h
  | _ => rfl

/-- No name with a colon and an equals sign stands before the expression. -/
theorem reads_nameBefore_none {first : Token} {tail : List Token}
    (starts : startsOperand first.lexeme = true)
    (second : ∀ u ∈ tail.head?, u.is ":=" = false) :
    Reads (nameBefore? inner) (first :: tail) none (first :: tail) := by
  have absent : ((first :: tail)[1]?.any fun u => u.is ":=") = false := by
    rw [Option.any_eq_false]
    intro u hu
    have same : tail.head? = some u := by simpa [List.head?_eq_getElem?] using hu
    exact second u same
  refine (reads_peek_cons (isBroken_of_startsOperand starts)).bind (reads_peekSecond.bind ?_)
  rw [absent, Bool.and_false]
  exact reads_return _ _

theorem reads_refuseAssignment (tree : Tree) (closes : t.lexeme ∈ closers)
    (other : t.is "=" = false) :
    Reads (refuseAssignment inner tree) (t :: more) () (t :: more) := by
  have whole := isBroken_of_mem_followers (mem_followers closes)
  have noSign := @reads_sees_not more t ":=" whole (is_of_mem closes (by decide))
  exact noSign.bind ((reads_sees_not whole other).bind (reads_return _ _))

theorem operand_parentheses {opening closing : Token}
    (h : Operand (inner .expression) tokens e (closing :: rest))
    (opens : opening.lexeme = .sign "(")
    (closes : closing.lexeme = .sign ")") (second : ∀ u ∈ tokens.tail.head?, u.is ":=" = false) :
    Operand (atom inner) (opening :: tokens) e rest := by
  obtain ⟨⟨tree, hexpr, read⟩, first, tail, rfl, starts⟩ := h
  have startsOpening : startsOperand opening.lexeme = true := by rw [opens]; rfl
  have whole := isBroken_of_startsOperand starts
  have wholeClosing := Token.isBroken_of_sign closes
  have mem : closing.lexeme ∈ closers := by rw [closes]; decide
  have noTuple : Reads (skip? ")") (first :: tail) false (first :: tail) :=
    reads_skip_not whole (is_of_startsOperand starts (by decide))
  have noYield : Reads (sees "yield") (first :: tail) false (first :: tail) :=
    reads_sees_not whole (is_of_startsOperand starts (by decide))
  have noStar : Reads (sees "*") (first :: tail) false (first :: tail) :=
    reads_sees_not whole (is_of_startsOperand starts (by decide))
  have named : Reads (starNamed inner) (first :: tail) tree (closing :: rest) :=
    noStar.bind ((reads_nameBefore_none starts second).bind
      (read.bind ((reads_refuseAssignment tree mem (Token.is_of_sign closes _)).bind
        (reads_return _ _))))
  have noComma : closing.is "," = false := Token.is_of_sign closes _
  have noRound : startsComprehension closing = false := by
    rw [startsComprehension, Token.is, Token.is, closes]
    rfl
  have shut : closing.is ")" = true := Token.is_of_sign closes _
  refine ⟨⟨tree, hexpr, ?_⟩, opening, first :: tail, rfl, startsOpening⟩
  refine (reads_peek_cons (isBroken_of_startsOperand startsOpening)).bind ?_
  simp only [opens]
  refine reads_advance_cons.bind (noTuple.bind (noYield.bind (named.bind
    ((reads_peek_cons wholeClosing).bind ?_))))
  simp only [noComma, noRound, isStarred_of_expr hexpr, Bool.false_and,
    Bool.false_eq_true, if_false]
  exact (reads_expect wholeClosing shut).bind (reads_return _ _)

/-- One argument of a call, and the comma behind it. -/
def argumentStep (inner : Inner) (bracket : Place) (read : Arguments) :
    Parser (Option Arguments) := do
  if read.closed || (← sees ")") then return none
  else
    let t ← peek
    let read ← argument inner bracket read
    let read := { read with start := some (read.start.getD t.place) }
    if ← skip? "," then return some read
    else return some { read with closed := true }

/-- No argument has a name so far. -/
structure Arguments.Plain (read : Arguments) : Prop where
  named : read.named = false
  doubled : read.doubled = false

variable {bracket : Place} {read : Arguments}

theorem Operand.argument (h : Operand (inner .expression) tokens e (t :: more))
    (closes : t.lexeme ∈ [.sign ",", .sign ")"])
    (second : ∀ u ∈ tokens.tail.head?, u.is ":=" = false ∧ u.is "=" = false) (plain : read.Plain) :
    ∃ tree, tree.expr = .ok e ∧ Reads (argument inner bracket read) tokens
      { read with args := tree :: read.args, closed := false } (t :: more) := by
  obtain ⟨⟨tree, hexpr, reads⟩, first, tail, rfl, starts⟩ := h
  have whole := isBroken_of_startsOperand starts
  have mem : t.lexeme ∈ closers := by
    have sub : ∀ lexeme ∈ [Lexeme.sign ",", .sign ")"], lexeme ∈ closers := by decide
    exact sub t.lexeme closes
  have wholeBehind := isBroken_of_mem_followers (mem_followers mem)
  have noPowers : Reads (skip? "**") (first :: tail) false (first :: tail) :=
    reads_skip_not whole (is_of_startsOperand starts (by decide))
  have noStar : first.is "*" = false := is_of_startsOperand starts (by decide)
  have unnamed : ((first :: tail)[1]?.any fun u => u.is "=") = false := by
    rw [Option.any_eq_false]
    intro u hu
    have same : tail.head? = some u := by simpa [List.head?_eq_getElem?] using hu
    exact (second u same).2
  have noName := @reads_nameBefore_none inner first tail starts fun u hu => (second u hu).1
  have noEquals := @reads_sees_not more t "=" wholeBehind (is_of_mem closes (by decide))
  have noRound : startsComprehension t = false := by
    have none : ∀ lexeme ∈ closers, startsComprehension ⟨lexeme, default, 0⟩ = false := by decide
    exact none t.lexeme mem
  refine ⟨tree, hexpr, (reads_peek_cons whole).bind (reads_peekSecond.bind (noPowers.bind ?_))⟩
  simp only [noStar, unnamed, Bool.false_and, Bool.false_eq_true, if_false]
  refine (reads_peek_cons whole).bind (noName.bind (reads.bind (noEquals.bind
    ((reads_peek_cons wholeBehind).bind ?_))))
  simp only [noRound, plain.named, Bool.false_eq_true, if_false]
  exact reads_return _ _

/-- From these tokens the arguments `es` are read, up to the closing parenthesis. -/
def ReadsArguments (inner : Inner) (bracket : Place) (tokens : List Token) (es : List Expr)
    (rest : List Token) : Prop :=
  ∀ read : Arguments, read.Plain → read.closed = false → ∃ read' trees, exprsOf trees = .ok es ∧
    read'.args = trees.reverse ++ read.args ∧ read'.named = false ∧
      Reaches (argumentStep inner bracket) read tokens read' rest

theorem readsArguments_nil (tokens : List Token) : ReadsArguments inner bracket tokens [] tokens :=
  fun read plain _ => ⟨read, [], rfl, rfl, plain.named, .refl read tokens⟩

/-- One more argument, which may be the last one. -/
def Arguments.add (read : Arguments) (tree : Tree) (place : Place) (closed : Bool) : Arguments :=
  { read with args := tree :: read.args, start := some (read.start.getD place), closed }

/-- An operand is read to its end, which is no operand. -/
theorem Operand.length_lt (h : Operand p tokens e (t :: more)) (closes : t.lexeme ∈ closers) :
    (t :: more).length < tokens.length := by
  obtain ⟨⟨tree, _, read⟩, first, tail, rfl, starts⟩ := h
  have none : ∀ lexeme ∈ closers, startsOperand lexeme = false := by decide
  refine Nat.lt_of_le_of_ne read.isSuffix.length_le fun same => ?_
  have equal := read.isSuffix.eq_of_length same
  rw [List.cons.injEq] at equal
  rw [← equal.1, none t.lexeme closes] at starts
  cases starts

theorem reads_argumentStep {read' : Arguments} {first : Token} {tail : List Token} {comma : Bool}
    (starts : startsOperand first.lexeme = true) (goesOn : read.closed = false)
    (h : Reads (argument inner bracket read) (first :: tail) read' mid)
    (hcomma : Reads (skip? ",") mid comma rest) :
    Reads (argumentStep inner bracket read) (first :: tail) (some (if comma
      then { read' with start := some (read'.start.getD first.place) }
      else { read' with start := some (read'.start.getD first.place), closed := true })) rest := by
  have whole := isBroken_of_startsOperand starts
  have noEnd : Reads (sees ")") (first :: tail) false (first :: tail) :=
    reads_sees_not whole (is_of_startsOperand starts (by decide))
  refine noEnd.bind ?_
  simp only [goesOn, Bool.or_false, Bool.false_eq_true, if_false]
  refine (reads_peek_cons whole).bind (h.bind (hcomma.bind ?_))
  cases comma <;> exact reads_return _ _

theorem exprsOf_cons {tree : Tree} {trees : List Tree} {es : List Expr} (first : tree.expr = .ok e)
    (behind : exprsOf trees = .ok es) : exprsOf (tree :: trees) = .ok (e :: es) := by
  simp only [exprsOf, first, behind]
  rfl

theorem Operand.lastArgument (h : Operand (inner .expression) tokens e (t :: more))
    (closes : t.lexeme = .sign ")")
    (second : ∀ u ∈ tokens.tail.head?, u.is ":=" = false ∧ u.is "=" = false) :
    ReadsArguments inner bracket tokens [e] (t :: more) := by
  intro read plain goesOn
  have whole := Token.isBroken_of_sign closes
  have noComma := @reads_skip_not more t "," whole (Token.is_of_sign closes _)
  have shorter := h.length_lt (by rw [closes]; decide)
  obtain ⟨tree, hexpr, argument⟩ :=
    @Operand.argument _ _ _ _ _ bracket read h (by rw [closes]; decide) second plain
  obtain ⟨_, first, tail, rfl, starts⟩ := h
  have step := reads_argumentStep starts goesOn argument noComma
  exact ⟨read.add tree first.place true, [tree], exprsOf_cons hexpr rfl, rfl, plain.named,
    (Reaches.refl read _).tail step shorter⟩

theorem Operand.furtherArguments {es : List Expr}
    (h : Operand (inner .expression) tokens e (t :: mid))
    (comma : t.lexeme = .sign ",")
    (second : ∀ u ∈ tokens.tail.head?, u.is ":=" = false ∧ u.is "=" = false)
    (further : ReadsArguments inner bracket mid es rest) :
    ReadsArguments inner bracket tokens (e :: es) rest := by
  intro read plain goesOn
  have whole := Token.isBroken_of_sign comma
  have skipped := @reads_skip_cons mid t "," whole (Token.is_of_sign comma _)
  have shorter : mid.length < tokens.length := by
    have := h.length_lt (by rw [comma]; decide)
    rw [List.length_cons] at this
    omega
  obtain ⟨tree, hexpr, argument⟩ :=
    @Operand.argument _ _ _ _ _ bracket read h (by rw [comma]; decide) second plain
  obtain ⟨_, first, tail, rfl, starts⟩ := h
  have step := reads_argumentStep starts goesOn argument skipped
  obtain ⟨read', trees, hexprs, args, named, reached⟩ :=
    further (read.add tree first.place false) ⟨plain.named, plain.doubled⟩ rfl
  refine ⟨read', tree :: trees, exprsOf_cons hexpr hexprs, ?_, named, reached.head step shorter⟩
  rw [args, List.reverse_cons, List.append_assoc]
  rfl

theorem reads_arguments {es : List Expr} {closing : Token}
    (h : ReadsArguments inner bracket tokens es (closing :: rest))
    (closes : closing.lexeme = .sign ")") :
    ∃ trees, exprsOf trees = .ok es ∧
    Reads (arguments inner bracket) tokens (trees, false) rest := by
  obtain ⟨read, trees, hexprs, args, named, reached⟩ :=
    h ⟨[], false, false, none, false⟩ ⟨rfl, rfl⟩ rfl
  have whole := Token.isBroken_of_sign closes
  have shut : closing.is ")" = true := Token.is_of_sign closes _
  have last : Reads (argumentStep inner bracket read) (closing :: rest) none (closing :: rest) := by
    refine (reads_sees_cons whole).bind ?_
    rw [shut, Bool.or_true]
    exact reads_return _ _
  have answer : (read.args.reverse, read.named) = (trees, false) := by
    rw [args, named, List.append_nil, List.reverse_reverse]
  refine ⟨trees, hexprs, (reached.reads_iterate last).bind ((reads_expect whole shut).bind ?_)⟩
  rw [answer]
  exact reads_return _ _

/-- Whatever is called so far can be called once more. -/
theorem Calling.call {es : List Expr} {opening closing : Token}
    (h : Calling inner tokens e (opening :: mid))
    (opens : opening.lexeme = .sign "(") (closes : closing.lexeme = .sign ")")
    (args : ReadsArguments inner opening.place mid es (closing :: rest)) :
    Calling inner tokens (.call e es) rest := by
  obtain ⟨first, tail, same, starts, left, before, tree, hexpr, read, reached⟩ := h
  obtain ⟨trees, hexprs, arguments⟩ := reads_arguments args closes
  have whole := Token.isBroken_of_sign opens
  have noPoint := @reads_skip_not mid opening "." whole (Token.is_of_sign opens _)
  have noIndex := @reads_skip_not mid opening "[" whole (Token.is_of_sign opens _)
  have call := @reads_skip_cons mid opening "(" whole (Token.is_of_sign opens _)
  have trailer : Reads (trailer? inner first.place tree) (opening :: mid)
      (some (.call first.place tree trees false)) rest :=
    (reads_peek_cons whole).bind (noPoint.bind (noIndex.bind (call.bind
      (arguments.bind (reads_return _ _)))))
  have value : (Tree.call first.place tree trees false).expr = .ok (.call e es) := by
    simp only [Tree.expr, hexpr, hexprs, Bool.false_eq_true, if_false]
    rfl
  have shorter : rest.length < (opening :: mid).length := by
    have := arguments.isSuffix.length_le
    rw [List.length_cons (a := opening)]
    omega
  exact ⟨first, tail, same, starts, left, before, _, value, read, reached.tail trailer shorter⟩

end Grammar
end RateRules.Script
