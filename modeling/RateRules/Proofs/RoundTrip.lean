import RateRules.Proofs.Operands
import RateRules.Proofs.Rendering

/-!
# Rendered expressions are read back

Tokens are a wording of an expression if each operand stands where it is tight enough, in
parentheses if need be. A wording is read as its expression. The tokens of a rendered expression are
a wording of the expression without its parentheses, with the text of a pair or of an exchange as a
name. A power must not stand on the left of another one and nothing with an operator may be called,
since they are written without the parentheses that they need there.
-/
namespace RateRules

namespace Expr

mutual

/-- What the text of an expression is read as. -/
def written : Expr → Expr
  | number d => number d
  | name word => name word
  | pair p => name p.text
  | exchange venue => name venue
  | unary op operand => unary op operand.written
  | binary op left right => binary op left.written right.written
  | parenthesized inner => inner.written
  | call callee args => call callee.written (allWrittenOf args)

def allWrittenOf : List Expr → List Expr
  | [] => []
  | e :: more => e.written :: allWrittenOf more

end

def isPower : Expr → Bool
  | binary .pow _ _ => true
  | _ => false

def hasOperator : Expr → Bool
  | unary .. => true
  | binary .. => true
  | _ => false

mutual

/-- The text binds operands and callees as the expression does: no power is the left operand of a
power, and nothing with an operator is called. -/
def bindsAsShown : Expr → Bool
  | unary _ operand => operand.bindsAsShown
  | binary op left right => !(op == .pow && left.isPower) && left.bindsAsShown && right.bindsAsShown
  | parenthesized inner => inner.bindsAsShown
  | call callee args => !callee.hasOperator && callee.bindsAsShown && allBindAsShown args
  | _ => true

def allBindAsShown : List Expr → Bool
  | [] => true
  | e :: more => e.bindsAsShown && allBindAsShown more

end

end Expr

namespace Script.Grammar

open RateRules.Script.Parser

variable {inner : Inner} {tokens more rest : List Token} {t : Token} {e : Expr}

/-- Tokens are read as an operand of a strength. Sums, products and calls may go on behind it. -/
def LeadsTo (inner : Inner) : Nat → List Token → Expr → List Token → Prop
  | 1 => Joining (term inner) sumOperation?
  | 2 => Joining (factor inner) termOperation?
  | 3 => Operand (factor inner)
  | 4 => Operand (power inner)
  | _ => Calling inner

/-- What may stand behind an operand of a strength that is not read to its end. -/
def behind : Nat → List Lexeme
  | 1 => followers 2
  | 2 => followers 3
  | 3 => followers 4
  | 4 => followers 4
  | _ => .sign "(" :: followers 5

theorem behind_subset_succ (n : Nat) (h : 0 < n) : behind n ⊆ behind (n + 1) := by
  have low : ∀ n ∈ [1, 2, 3, 4], behind n ⊆ behind (n + 1) := by decide
  by_cases small : n ≤ 4
  · exact low n (by simp; omega)
  · obtain ⟨k, rfl⟩ : ∃ k, n = k + 5 := ⟨n - 5, by omega⟩
    exact List.Subset.refl _

theorem no_term_of_mem_followers (h : t.lexeme ∈ followers 2) :
    t.isBroken = false ∧ termOperation? t = none := by
  have none : ∀ lexeme ∈ followers 2, (Token.mk lexeme default 0).isBroken = false ∧
      termOperation? ⟨lexeme, default, 0⟩ = none := by decide
  exact none t.lexeme h

theorem LeadsTo.of_succ {n : Nat} (h : 0 < n) (lead : LeadsTo inner (n + 1) tokens e (t :: more))
    (follows : t.lexeme ∈ behind n)
    (noSign : n = 3 → ∀ first ∈ tokens.head?, signOperator? first = none) :
    LeadsTo inner n tokens e (t :: more) := by
  rcases n with _ | _ | _ | _ | _ | n
  · cases h
  · obtain ⟨whole, none⟩ := no_term_of_mem_followers follows
    exact (Joining.joined lead whole none).joining
  · exact Operand.joining lead
  · exact Operand.factor lead (noSign rfl)
  · have tighter : followers 4 ⊆ followers 5 := by decide
    exact (Calling.primary lead (tighter follows)).power follows
  · exact lead

/-- A sum before the end of an expression is an expression. -/
theorem LeadsTo.expression (lead : LeadsTo inner 1 tokens e (t :: more))
    (closes : t.lexeme ∈ closers) :
    Operand (expression inner) tokens e (t :: more) := by
  have none : ∀ lexeme ∈ closers, (Token.mk lexeme default 0).isBroken = false ∧
      sumOperation? ⟨lexeme, default, 0⟩ = none := by decide
  obtain ⟨whole, none⟩ := none t.lexeme closes
  exact (Joining.joined lead whole none).of_sum closes

/-- What can be put into words: an operand that binds at least so tightly, or the arguments of a
call. -/
inductive Subject where
  | operand (least : Nat) (e : Expr)
  | arguments (es : List Expr)

/-- The lexemes say what the subject is. The number of an operand is how tightly the lexemes
bind. -/
inductive Wording : Subject → List Lexeme → Prop
  | number {d : Decimal} (literal : d.isLiteral = true) :
      Wording (.operand 5 (.number d)) [.number d.text]
  | name (word : String) : Wording (.operand 5 (.name word)) [.name word]
  | group {n : Nat} {e : Expr} {ls : List Lexeme} (inside : Wording (.operand n e) ls) :
      Wording (.operand 5 e) (.sign "(" :: ls ++ [.sign ")"])
  | call {callee : Expr} {args : List Expr} {ls ls' : List Lexeme}
      (before : Wording (.operand 5 callee) ls)
      (inside : Wording (.arguments args) ls') :
      Wording (.operand 5 (.call callee args)) (ls ++ (.sign "(" :: ls' ++ [.sign ")"]))
  | power {n : Nat} {left right : Expr} {ls ls' : List Lexeme}
      (before : Wording (.operand 5 left) ls)
      (behind : Wording (.operand n right) ls') (tight : 3 ≤ n) :
      Wording (.operand 4 (.binary .pow left right)) (ls ++ .sign "**" :: ls')
  | unary {op : UnaryOp} {n : Nat} {e : Expr} {ls : List Lexeme} (known : op.isKnown = true)
      (inside : Wording (.operand n e) ls) (tight : 3 ≤ n) :
      Wording (.operand 3 (.unary op e)) (.sign op.text :: ls)
  | joined {op : BinaryOp} {m n : Nat} {left right : Expr} {ls ls' : List Lexeme}
      (strength : op.strength = 1 ∨ op.strength = 2) (before : Wording (.operand m left) ls)
      (behind : Wording (.operand n right) ls') (tightBefore : op.strength ≤ m)
      (tightBehind : op.strength < n) :
      Wording (.operand op.strength (.binary op left right)) (ls ++ .sign op.text :: ls')
  | none : Wording (.arguments []) []
  | last {n : Nat} {e : Expr} {ls : List Lexeme} (inside : Wording (.operand n e) ls) :
      Wording (.arguments [e]) ls
  | further {n : Nat} {e next : Expr} {es : List Expr} {ls ls' : List Lexeme}
      (first : Wording (.operand n e) ls)
      (others : Wording (.arguments (next :: es)) ls') :
      Wording (.arguments (e :: next :: es)) (ls ++ .sign "," :: ls')

variable {ls : List Lexeme} {subject : Subject} {least n : Nat}

theorem Wording.pos (h : Wording (.operand n e) ls) : 0 < n := by
  generalize same : Subject.operand n e = subject at h
  cases h with
  | joined strength =>
    cases same
    omega
  | none | last | further => cases same
  | _ =>
    cases same
    decide

theorem Wording.le_five (h : Wording (.operand n e) ls) : n ≤ 5 := by
  generalize same : Subject.operand n e = subject at h
  cases h with
  | joined strength =>
    cases same
    omega
  | none | last | further => cases same
  | _ =>
    cases same
    decide

theorem Wording.ne_nil (h : Wording (.operand n e) ls) : ls ≠ [] := by
  generalize same : Subject.operand n e = subject at h
  cases h with
  | number | name | group | unary => exact List.cons_ne_nil _ _
  | call | power | joined => exact List.append_ne_nil_of_right_ne_nil _ (List.cons_ne_nil _ _)
  | none | last | further => cases same

/-- What stands in an expression. -/
def isInner : Lexeme → Bool
  | .name _ => true
  | .number _ => true
  | .sign text => ["(", ")", ",", "+", "-", "~", "*", "/", "%", "**"].contains text
  | _ => false

theorem is_of_isInner {word : String} (h : isInner t.lexeme = true)
    (other : word ∉ ["(", ")", ",", "+", "-", "~", "*", "/", "%", "**"]) : t.is word = false := by
  obtain ⟨lexeme, place, depth⟩ := t
  cases lexeme with
  | sign text =>
    simp only [isInner, List.contains_eq_mem, decide_eq_true_eq] at h
    simp only [Token.is, beq_eq_false_iff_ne]
    rintro rfl
    exact other h
  | name | number => rfl
  | _ => cases h

theorem Wording.isInner (h : Wording subject ls) : ∀ l ∈ ls, isInner l = true := by
  induction h with
  | number | name => exact List.forall_mem_singleton.mpr rfl
  | group _ ih =>
    refine List.forall_mem_append.mpr ⟨List.forall_mem_cons.mpr ⟨by decide, ih⟩, by decide⟩
  | call _ _ callee args =>
    refine List.forall_mem_append.mpr ⟨callee, List.forall_mem_append.mpr ⟨?_, by decide⟩⟩
    exact List.forall_mem_cons.mpr ⟨by decide, args⟩
  | power _ _ _ left right =>
    exact List.forall_mem_append.mpr ⟨left, List.forall_mem_cons.mpr ⟨by decide, right⟩⟩
  | @unary op _ _ _ known _ _ ih =>
    refine List.forall_mem_cons.mpr ⟨?_, ih⟩
    cases op with
    | other sign => cases known
    | _ => decide
  | @joined op _ _ _ _ _ _ strength _ _ _ _ left right =>
    refine List.forall_mem_append.mpr ⟨left, List.forall_mem_cons.mpr ⟨?_, right⟩⟩
    cases op with
    | other sign => simp [BinaryOp.strength] at strength
    | _ => decide
  | none => exact List.forall_mem_nil _
  | last _ ih => exact ih
  | further _ _ first others =>
    exact List.forall_mem_append.mpr ⟨first, List.forall_mem_cons.mpr ⟨by decide, others⟩⟩

theorem Wording.ne_lineEnd (h : Wording subject ls) : ∀ l ∈ ls, l ≠ .lineEnd := by
  rintro _ hl rfl
  exact absurd (h.isInner _ hl) (by decide)

/-- A tight operand does not start with an operator. -/
theorem Wording.noSign (h : Wording (.operand n e) ls) (tight : 4 ≤ n) :
    ∀ l ∈ ls.head?, signOperator? ⟨l, default, 0⟩ = Option.none := by
  have first : ∀ {ls ls' : List Lexeme}, ls ≠ [] →
    (∀ l ∈ ls.head?, signOperator? ⟨l, default, 0⟩ = Option.none) →
      ∀ l ∈ (ls ++ ls').head?, signOperator? ⟨l, default, 0⟩ = Option.none := by
    intro ls ls' some noSign l hl
    obtain ⟨x, more, rfl⟩ := List.exists_cons_of_ne_nil some
    exact noSign l hl
  generalize same : Subject.operand n e = subject at h
  induction h generalizing n e with
  | number | name | group =>
    rintro l ⟨⟩
    rfl
  | call before _ ih => exact first before.ne_nil (ih (by decide) rfl)
  | power before _ _ ih => exact first before.ne_nil (ih (by decide) rfl)
  | unary =>
    cases same
    exact absurd tight (by decide)
  | joined strength =>
    cases same
    exact absurd tight (by omega)
  | none | last | further => cases same

/-- However deep the levels are nested, tokens with these lexemes are read as what the subject
is. -/
def Subject.IsReadFrom (ls : List Lexeme) : Subject → Prop
  | operand least e => ∀ (depth : Nat) (tokens : List Token) (t : Token) (more : List Token),
      tokens.map Token.lexeme = ls → tokens.length ≤ depth → t.lexeme ∈ behind least →
        LeadsTo (nested depth) least (tokens ++ t :: more) e (t :: more)
  | arguments es =>
    ∀ (depth : Nat) (tokens : List Token) (closing : Token) (more : List Token) (bracket : Place),
      tokens.map Token.lexeme = ls → tokens.length ≤ depth → closing.lexeme = .sign ")" →
        ReadsArguments (nested (depth + 1)) bracket (tokens ++ closing :: more) es (closing :: more)

variable {depth : Nat}

theorem noSign_of_lexemes (h : tokens.map Token.lexeme = ls) (some : ls ≠ [])
    (none : ∀ l ∈ ls.head?, signOperator? ⟨l, default, 0⟩ = none) :
    ∀ first ∈ (tokens ++ rest).head?, signOperator? first = Option.none := by
  intro first hfirst
  cases tokens with
  | nil => exact absurd h.symm some
  | cons u tail =>
    obtain rfl := Option.some.inj hfirst
    refine none u.lexeme ?_
    rw [← h]
    rfl

/-- Tokens that bind tightly can stand where looser ones may. -/
theorem Wording.isReadFrom_loosened (h : Wording (.operand n e) ls)
    (read : (Subject.operand n e).IsReadFrom ls)
    (pos : 0 < least) (le : least ≤ n) : (Subject.operand least e).IsReadFrom ls := by
  induction gap : n - least generalizing least with
  | zero =>
    obtain rfl : least = n := by omega
    exact read
  | succ k ih =>
    have next : (Subject.operand (least + 1) e).IsReadFrom ls := ih (by omega) (by omega) (by omega)
    intro depth tokens t more same enough follows
    refine (next depth tokens t more same enough (behind_subset_succ _ pos follows)).of_succ pos
      follows ?_
    exact fun three => noSign_of_lexemes same h.ne_nil (h.noSign (by omega))

theorem Subject.IsReadFrom.expression (h : (Subject.operand 1 e).IsReadFrom ls)
    (same : tokens.map Token.lexeme = ls)
    (enough : tokens.length ≤ depth) (closes : t.lexeme ∈ closers) :
    Operand (Grammar.expression (nested depth)) (tokens ++ t :: more) e (t :: more) :=
  (h depth tokens t more same enough (mem_followers closes)).expression closes

/-- The second token is one of the expression or the one behind it. -/
theorem is_of_mem_tail {word : String} (h : Wording (.operand n e) ls)
    (same : tokens.map Token.lexeme = ls)
    (other : word ∉ ["(", ")", ",", "+", "-", "~", "*", "/", "%", "**"])
    (otherBehind : t.is word = false) :
    ∀ u ∈ (tokens ++ t :: more).tail.head?, u.is word = false := by
  intro u hu
  have inside : ∀ v ∈ tokens, v.is word = false := by
    intro v hv
    refine is_of_isInner (h.isInner v.lexeme ?_) other
    rw [← same]
    exact List.mem_map_of_mem hv
  cases tokens with
  | nil => exact absurd same.symm h.ne_nil
  | cons v tail =>
    rw [List.cons_append, List.tail_cons] at hu
    cases tail with
    | nil =>
      obtain rfl := Option.some.inj hu
      exact otherBehind
    | cons w further =>
      obtain rfl := Option.some.inj hu
      exact inside w (by simp)

theorem isReadFrom_group (h : Wording (.operand n e) ls)
    (inside : (Subject.operand 1 e).IsReadFrom ls) :
    (Subject.operand 5 e).IsReadFrom (.sign "(" :: ls ++ [.sign ")"]) := by
  intro depth tokens t more same enough _
  obtain ⟨opened, closed, rfl, hopened, hclosed⟩ := List.map_eq_append_iff.mp same
  obtain ⟨opening, tokens, rfl, opens, hinner⟩ := List.map_eq_cons_iff.mp hopened
  obtain ⟨closing, rfl, closes⟩ := List.map_eq_singleton_iff.mp hclosed
  simp only [List.length_append, List.length_cons, List.length_nil] at enough
  obtain ⟨k, rfl⟩ : ∃ k, depth = k + 1 := ⟨depth - 1, by omega⟩
  have read : Operand (Grammar.expression (nested k)) (tokens ++ closing :: t :: more) e
      (closing :: t :: more) :=
    inside.expression hinner (by omega) (by rw [closes]; decide)
  have second :=
    @is_of_mem_tail tokens (t :: more) closing e ls n ":=" h hinner (by decide)
    (Token.is_of_sign closes _)
  have whole : opening :: tokens ++ [closing] ++ t :: more =
    opening :: (tokens ++ closing :: t :: more) := by simp
  rw [whole]
  exact (operand_parentheses read opens closes second).calling

theorem isReadFrom_call {callee : Expr} {args : List Expr} {ls' : List Lexeme}
    (before : (Subject.operand 5 callee).IsReadFrom ls)
    (inside : (Subject.arguments args).IsReadFrom ls') :
    (Subject.operand 5 (.call callee args)).IsReadFrom
    (ls ++ (.sign "(" :: ls' ++ [.sign ")"])) := by
  intro depth tokens t more same enough _
  obtain ⟨own, others, rfl, hown, hothers⟩ := List.map_eq_append_iff.mp same
  obtain ⟨opened, closed, rfl, hopened, hclosed⟩ := List.map_eq_append_iff.mp hothers
  obtain ⟨opening, tokens, rfl, opens, hargs⟩ := List.map_eq_cons_iff.mp hopened
  obtain ⟨closing, rfl, closes⟩ := List.map_eq_singleton_iff.mp hclosed
  simp only [List.length_append, List.length_cons, List.length_nil] at enough
  obtain ⟨k, rfl⟩ : ∃ k, depth = k + 1 := ⟨depth - 1, by omega⟩
  have whole : own ++ (opening :: tokens ++ [closing]) ++ t :: more =
      own ++ opening :: (tokens ++ closing :: t :: more) := by simp
  rw [whole]
  have called : Calling (nested (k + 1)) (own ++ opening :: (tokens ++ closing :: t :: more)) callee
      (opening :: (tokens ++ closing :: t :: more)) :=
    before (k + 1) own opening _ hown (by omega) (by rw [opens]; decide)
  exact called.call opens closes (inside k tokens closing (t :: more) opening.place hargs
    (by omega) closes)

theorem isReadFrom_power {left right : Expr} {ls' : List Lexeme}
    (before : (Subject.operand 5 left).IsReadFrom ls)
    (after : (Subject.operand 3 right).IsReadFrom ls') :
    (Subject.operand 4 (.binary .pow left right)).IsReadFrom (ls ++ .sign "**" :: ls') := by
  intro depth tokens t more same enough follows
  obtain ⟨first, others, rfl, hfirst, hothers⟩ := List.map_eq_append_iff.mp same
  obtain ⟨sign, second, rfl, token, hsecond⟩ := List.map_eq_cons_iff.mp hothers
  rw [List.length_append, List.length_cons] at enough
  obtain ⟨k, rfl⟩ : ∃ k, depth = k + 1 := ⟨depth - 1, by omega⟩
  have called : Calling (nested (k + 1)) (first ++ sign :: (second ++ t :: more)) left
      (sign :: (second ++ t :: more)) :=
    before (k + 1) first sign _ hfirst (by omega) (by rw [token]; decide)
  have readRight : Operand (factor (nested k)) (second ++ t :: more) right (t :: more) :=
    after k second t more hsecond (by omega) follows
  have whole : first ++ sign :: second ++ t :: more = first ++ sign :: (second ++ t :: more) := by
    simp
  rw [whole]
  exact (called.primary (by rw [token]; decide)).raised token readRight

theorem isReadFrom_unary {op : UnaryOp} (known : op.isKnown = true)
    (inside : (Subject.operand 3 e).IsReadFrom ls) :
    (Subject.operand 3 (.unary op e)).IsReadFrom (.sign op.text :: ls) := by
  intro depth tokens t more same enough follows
  obtain ⟨sign, tokens, rfl, token, hinner⟩ := List.map_eq_cons_iff.mp same
  rw [List.length_cons] at enough
  obtain ⟨k, rfl⟩ : ∃ k, depth = k + 1 := ⟨depth - 1, by omega⟩
  have operand : Operand (factor (nested k)) (tokens ++ t :: more) e (t :: more) :=
    inside k tokens t more hinner (by omega) follows
  have operator : signOperator? sign = some op ∧ startsOperand sign.lexeme = true := by
    rw [signOperator?, token]
    cases op with
    | other sign => cases known
    | _ => exact ⟨rfl, by decide⟩
  have read : Operand (nested (k + 1) .factor) (tokens ++ t :: more) e (t :: more) := operand
  exact read.signed operator.1 operator.2

theorem termOperation?_of_text {op : BinaryOp} (h : op.strength = 2)
    (token : t.lexeme = .sign op.text) :
    termOperation? t = some (.ok op) := by
  rw [termOperation?, token]
  cases op with
  | mul | div | mod => rfl
  | add | sub | pow | other sign => cases h

theorem sumOperation?_of_text {op : BinaryOp} (h : op.strength = 1)
    (token : t.lexeme = .sign op.text) :
    sumOperation? t = some (.ok op) := by
  rw [sumOperation?, token]
  cases op with
  | add | sub => rfl
  | mul | div | mod | pow | other sign => cases h

/-- An operation whose operands are joined from left to right. -/
theorem leadsTo_joined {op : BinaryOp} {l r : Expr} {left right : List Token} {sign : Token}
    (token : sign.lexeme = .sign op.text) (strength : op.strength = 1 ∨ op.strength = 2)
    (first : LeadsTo inner op.strength (left ++ sign :: (right ++ t :: more)) l
      (sign :: (right ++ t :: more)))
    (second : LeadsTo inner (op.strength + 1) (right ++ t :: more) r (t :: more))
    (follows : t.lexeme ∈ behind op.strength) :
    LeadsTo inner op.strength (left ++ sign :: (right ++ t :: more)) (.binary op l r)
    (t :: more) := by
  have whole := Token.isBroken_of_sign token
  rcases strength with one | two
  · have operation := sumOperation?_of_text one token
    rw [one] at first second follows ⊢
    obtain ⟨wholeBehind, none⟩ := no_term_of_mem_followers follows
    have product : Operand (term inner) (right ++ t :: more) r (t :: more) :=
      Joining.joined second wholeBehind none
    exact Joining.step first whole operation product
  · have operation := termOperation?_of_text two token
    rw [two] at first second ⊢
    exact Joining.step first whole operation second

theorem isReadFrom_joined {op : BinaryOp} {left right : Expr} {ls' : List Lexeme}
    (strength : op.strength = 1 ∨ op.strength = 2)
    (before : (Subject.operand op.strength left).IsReadFrom ls)
    (after : (Subject.operand (op.strength + 1) right).IsReadFrom ls') :
    (Subject.operand op.strength (.binary op left right)).IsReadFrom
    (ls ++ .sign op.text :: ls') := by
  intro depth tokens t more same enough follows
  obtain ⟨first, others, rfl, hfirst, hothers⟩ := List.map_eq_append_iff.mp same
  obtain ⟨sign, second, rfl, token, hsecond⟩ := List.map_eq_cons_iff.mp hothers
  rw [List.length_append, List.length_cons] at enough
  have signFollows : sign.lexeme ∈ behind op.strength := by
    rw [token]
    cases op with
    | add | sub | mul | div | mod => decide
    | pow | other sign => simp [BinaryOp.strength] at strength
  have readLeft := before depth first sign (second ++ t :: more) hfirst (by omega) signFollows
  have readRight :=
    after depth second t more hsecond (by omega) (behind_subset_succ op.strength (by omega) follows)
  have whole : first ++ sign :: second ++ t :: more = first ++ sign :: (second ++ t :: more) := by
    simp
  rw [whole]
  exact leadsTo_joined token strength readLeft readRight follows

/-- Neither the first argument nor the token behind it gives a name. -/
theorem isUnnamed_of_wording {own : List Token} (h : Wording (.operand n e) ls)
    (same : own.map Token.lexeme = ls)
    (noNamed : t.is ":=" = false) (noEquals : t.is "=" = false) :
    ∀ u ∈ (own ++ t :: more).tail.head?, u.is ":=" = false ∧ u.is "=" = false :=
  fun u hu => ⟨is_of_mem_tail h same (by decide) noNamed u hu,
    is_of_mem_tail h same (by decide) noEquals u hu⟩

theorem isReadFrom_last (h : Wording (.operand n e) ls)
    (inside : (Subject.operand 1 e).IsReadFrom ls) :
    (Subject.arguments [e]).IsReadFrom ls := by
  intro depth tokens closing more bracket same enough closes
  have operand : Operand (nested (depth + 1) .expression) (tokens ++ closing :: more) e
      (closing :: more) :=
    inside.expression same enough (by rw [closes]; decide)
  exact operand.lastArgument closes
    (isUnnamed_of_wording h same (Token.is_of_sign closes _) (Token.is_of_sign closes _))

theorem isReadFrom_further {es : List Expr} {ls' : List Lexeme} (h : Wording (.operand n e) ls)
    (first : (Subject.operand 1 e).IsReadFrom ls) (others : (Subject.arguments es).IsReadFrom ls') :
    (Subject.arguments (e :: es)).IsReadFrom (ls ++ .sign "," :: ls') := by
  intro depth tokens closing more bracket same enough closes
  obtain ⟨own, behind, rfl, hown, hbehind⟩ := List.map_eq_append_iff.mp same
  obtain ⟨comma, tokens, rfl, token, hfurther⟩ := List.map_eq_cons_iff.mp hbehind
  rw [List.length_append, List.length_cons] at enough
  have operand : Operand (nested (depth + 1) .expression)
    (own ++ comma :: (tokens ++ closing :: more)) e
      (comma :: (tokens ++ closing :: more)) :=
        first.expression hown (by omega) (by rw [token]; decide)
  have further := others depth tokens closing more bracket hfurther (by omega) closes
  have whole : own ++ comma :: tokens ++ closing :: more =
    own ++ comma :: (tokens ++ closing :: more) := by simp
  rw [whole]
  exact operand.furtherArguments token
    (isUnnamed_of_wording h hown (Token.is_of_sign token _) (Token.is_of_sign token _)) further

/-- A wording is read as its subject. -/
theorem Wording.isReadFrom (h : Wording subject ls) : subject.IsReadFrom ls := by
  induction h with
  | number literal =>
    intro depth tokens t more same enough _
    obtain ⟨u, rfl, token⟩ := List.map_eq_singleton_iff.mp same
    exact (operand_number literal token (t :: more)).calling
  | name word =>
    intro depth tokens t more same enough _
    obtain ⟨u, rfl, token⟩ := List.map_eq_singleton_iff.mp same
    exact (operand_name token (t :: more)).calling
  | group inside ih =>
    exact isReadFrom_group inside (inside.isReadFrom_loosened ih Nat.one_pos inside.pos)
  | call _ _ callee args => exact isReadFrom_call callee args
  | power _ behind tight left right =>
    exact isReadFrom_power left (behind.isReadFrom_loosened right (by decide) tight)
  | unary known inside tight ih =>
    exact isReadFrom_unary known (inside.isReadFrom_loosened ih (by decide) tight)
  | joined strength before behind tightBefore tightBehind left right =>
    exact isReadFrom_joined strength (before.isReadFrom_loosened left (by omega) tightBefore)
      (behind.isReadFrom_loosened right (by omega) tightBehind)
  | none =>
    intro depth tokens closing more bracket same _ _
    rw [List.map_eq_nil_iff.mp same]
    exact readsArguments_nil _
  | last inside ih =>
    exact isReadFrom_last inside (inside.isReadFrom_loosened ih Nat.one_pos inside.pos)
  | further first _ ihFirst ihOthers =>
    exact isReadFrom_further first (first.isReadFrom_loosened ihFirst Nat.one_pos first.pos)
      ihOthers

/-- A wording is read as a whole expression. -/
theorem Wording.isRead (h : Wording (.operand n e) ls) : (Subject.operand 1 e).IsReadFrom ls :=
  h.isReadFrom_loosened h.isReadFrom Nat.one_pos h.pos

end Script.Grammar

namespace Expr

open Script Script.Grammar

/-- Powers alone are of their strength. -/
theorem strength_ne_four {e : Expr} (spellable : e.isSpellable = true) (h : e.isPower = false) :
    e.strength ≠ 4 := by
  cases e with
  | number d =>
    rw [strength]
    split <;> decide
  | binary op left right =>
    have known := (isSpellable_binary spellable).1
    cases op with
    | pow => cases h
    | other sign => cases known
    | add | sub => exact (by decide : 1 ≠ 4)
    | mul | div | mod => exact (by decide : 2 ≠ 4)
  | unary op operand => exact (by decide : 3 ≠ 4)
  | _ => exact (by decide : 10 ≠ 4)

/-- Whatever has no operator can be called. -/
theorem five_le_strength {e : Expr} (spellable : e.isSpellable = true) (h : e.hasOperator = false) :
    5 ≤ e.strength := by
  cases e with
  | number d =>
    rw [strength, (Decimal.isLiteral_iff.mp spellable).2.1]
    decide
  | unary | binary => cases h
  | _ => exact (by decide : 5 ≤ 10)

variable {e : Expr} {least : Nat}

/-- An operand stands in parentheses if it has to. -/
theorem wording_enclosed {n : Nat} {x : Expr} (h : Wording (.operand n x) e.lexemes)
    (tight : min e.strength 5 ≤ n)
    (le : least ≤ 5) :
    ∃ m, least ≤ m ∧ Wording (.operand m x) (enclosedLexemes least e.strength e.lexemes) := by
  rw [enclosedLexemes]
  split
  · exact ⟨5, le, .group h⟩
  · exact ⟨n, by omega, h⟩

/-- An operand that is no power stands to the left of a power as a callee does. -/
theorem enclosedLexemes_power (spellable : e.isSpellable = true) (h : e.isPower = false) :
    enclosedLexemes BinaryOp.pow.strength e.strength e.lexemes =
      enclosedLexemes 5 e.strength e.lexemes := by
  have other := strength_ne_four spellable h
  have same : e.strength < BinaryOp.pow.strength ↔ e.strength < 5 := by
    rw [BinaryOp.strength]
    omega
  simp only [enclosedLexemes, same]

theorem wording_power {left right x y : Expr}
    (before : Wording (.operand (min left.strength 5) x) left.lexemes)
    (behind : Wording (.operand (min right.strength 5) y) right.lexemes)
    (spellable : left.isSpellable = true)
    (apart : left.isPower = false) :
    Wording (.operand 4 (.binary .pow x y)) (binary .pow left right).lexemes := by
  obtain ⟨m, tight, hleft⟩ := wording_enclosed before (Nat.le_refl _) (by decide : 5 ≤ 5)
  obtain rfl : m = 5 := Nat.le_antisymm hleft.le_five tight
  obtain ⟨n, tightBehind, hright⟩ :=
    wording_enclosed behind (Nat.le_refl _) (by decide : BinaryOp.pow.strength + 1 ≤ 5)
  rw [lexemes, enclosedLexemes_power spellable apart]
  exact .power hleft hright (Nat.le_trans (by decide) tightBehind)

theorem wording_joined {op : BinaryOp} {left right x y : Expr}
    (strength : op.strength = 1 ∨ op.strength = 2)
    (before : Wording (.operand (min left.strength 5) x) left.lexemes)
    (behind : Wording (.operand (min right.strength 5) y) right.lexemes) :
    Wording (.operand op.strength (.binary op x y)) (binary op left right).lexemes := by
  obtain ⟨m, tightBefore, hleft⟩ :=
    wording_enclosed before (Nat.le_refl _) (by omega : op.strength ≤ 5)
  obtain ⟨n, tightBehind, hright⟩ :=
    wording_enclosed behind (Nat.le_refl _) (by omega : op.strength + 1 ≤ 5)
  exact .joined strength hleft hright tightBefore tightBehind

mutual

/-- The tokens of a rendered expression are a wording of what it is written as. -/
theorem wording_lexemes (e : Expr) (spellable : e.isSpellable = true)
    (binds : e.bindsAsShown = true) :
    Wording (.operand (min e.strength 5) e.written) e.lexemes := by
  cases e with
  | number d =>
    have tight : (number d).strength = 10 := by
      rw [strength, (Decimal.isLiteral_iff.mp spellable).2.1]; rfl
    rw [tight]
    exact .number spellable
  | name word => exact .name word
  | pair p => exact .name p.text
  | exchange venue => exact .name venue
  | parenthesized inner => exact .group (wording_lexemes inner spellable binds)
  | call callee args =>
    rw [isSpellable, Bool.and_eq_true] at spellable
    simp only [bindsAsShown, Bool.and_eq_true, Bool.not_eq_true'] at binds
    have before := wording_lexemes callee spellable.1 binds.1.2
    rw [Nat.min_eq_right (five_le_strength spellable.1 binds.1.1)] at before
    exact .call before (wording_argLexemes args spellable.2 binds.2)
  | unary op operand =>
    rw [isSpellable, Bool.and_eq_true] at spellable
    obtain ⟨n, tight, inside⟩ :=
      wording_enclosed (wording_lexemes operand spellable.2 binds) (Nat.le_refl _)
      (by decide : unaryStrength ≤ 5)
    exact .unary spellable.1 inside tight
  | binary op left right =>
    obtain ⟨known, spellableLeft, spellableRight⟩ := isSpellable_binary spellable
    rw [bindsAsShown, Bool.and_eq_true, Bool.and_eq_true] at binds
    obtain ⟨⟨apart, bindsLeft⟩, bindsRight⟩ := binds
    have before := wording_lexemes left spellableLeft bindsLeft
    have behind := wording_lexemes right spellableRight bindsRight
    cases op with
    | pow => exact wording_power before behind spellableLeft (by simpa using apart)
    | add => exact @wording_joined .add _ _ _ _ (.inl rfl) before behind
    | sub => exact @wording_joined .sub _ _ _ _ (.inl rfl) before behind
    | mul => exact @wording_joined .mul _ _ _ _ (.inr rfl) before behind
    | div => exact @wording_joined .div _ _ _ _ (.inr rfl) before behind
    | mod => exact @wording_joined .mod _ _ _ _ (.inr rfl) before behind
    | other sign => cases known

/-- The tokens of the arguments of a call. -/
theorem wording_argLexemes (es : List Expr) (spellable : allSpellable es = true)
    (binds : allBindAsShown es = true) :
    Wording (.arguments (allWrittenOf es)) (argLexemes es) := by
  cases es with
  | nil => exact .none
  | cons e more =>
    rw [allSpellable, Bool.and_eq_true] at spellable
    rw [allBindAsShown, Bool.and_eq_true] at binds
    have first := wording_lexemes e spellable.1 binds.1
    cases more with
    | nil => exact .last first
    | cons next others =>
      rw [argLexemes]
      · exact .further first (wording_argLexemes (next :: others) spellable.2 binds.2)
      · exact List.cons_ne_nil next others

end

end Expr
end RateRules
