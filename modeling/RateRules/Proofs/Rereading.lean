import RateRules.Proofs.Literals
import RateRules.Proofs.Readback

/-!
# What the text of an expression is read as

The text of every expression is read as some expression. Where the text leaves out parentheses that
it needs, an operator behind a callee or a power is taken into its last operand. So fewer parts are
left to be called or raised, and the expression that is read is another one. It is the same one
exactly if the text binds as the expression does.
-/
namespace RateRules

namespace Expr

mutual

/-- How many names, numbers, operations and calls there are. -/
def size : Expr → Nat
  | unary _ operand => operand.size + 1
  | binary _ left right => left.size + right.size + 1
  | parenthesized inner => inner.size
  | call callee args => callee.size + sizeOfAll args + 1
  | _ => 1

def sizeOfAll : List Expr → Nat
  | [] => 0
  | e :: more => e.size + sizeOfAll more

end

mutual

/-- How many parts are called or raised to a power, each as often as it is. -/
def exposed : Expr → Nat
  | unary _ operand => operand.exposed
  | binary op left right => (if op = .pow then left.size else 0) + left.exposed + right.exposed
  | parenthesized inner => inner.exposed
  | call callee args => callee.size + callee.exposed + exposedInAll args
  | _ => 0

def exposedInAll : List Expr → Nat
  | [] => 0
  | e :: more => e.exposed + exposedInAll more

end

theorem exposed_unary (op : UnaryOp) (operand : Expr) :
    (unary op operand).exposed = operand.exposed := by
  rw [exposed]

theorem exposed_call (callee : Expr) (args : List Expr) :
    (call callee args).exposed = callee.size + callee.exposed + exposedInAll args := by
  rw [exposed]

theorem exposed_power (left right : Expr) :
    (binary .pow left right).exposed = left.size + left.exposed + right.exposed := by
  rw [exposed, if_pos rfl]

theorem ne_pow {op : BinaryOp} (strength : op.strength = 1 ∨ op.strength = 2) : op ≠ .pow := by
  rintro rfl
  exact absurd strength (by decide)

theorem exposed_joined {op : BinaryOp} (strength : op.strength = 1 ∨ op.strength = 2)
    (left right : Expr) :
    (binary op left right).exposed = left.exposed + right.exposed := by
  rw [exposed, if_neg (ne_pow strength), Nat.zero_add]

end Expr

namespace Script.Grammar

open RateRules.Expr

variable {ls ls' : List Lexeme} {x y e : Expr} {m n : Nat}

/-- An operand can be called or has an operator outside all parentheses. -/
@[elab_as_elim] theorem Wording.operandInduction
    {motive : (n : Nat) → (x : Expr) → (ls : List Lexeme) → Wording (.operand n x) ls → Prop}
    (callable : ∀ {x : Expr} {ls : List Lexeme} (h : Wording (.operand 5 x) ls), motive 5 x ls h)
    (power :
    ∀ {n : Nat} {left right : Expr} {ls ls' : List Lexeme} (before : Wording (.operand 5 left) ls)
      (behind : Wording (.operand n right) ls') (tight : 3 ≤ n), motive n right ls' behind →
        motive 4 (.binary .pow left right) (ls ++ .sign "**" :: ls') (.power before behind tight))
    (unary : ∀ {op : UnaryOp} {n : Nat} {x : Expr} {ls : List Lexeme} (known : op.isKnown = true)
      (inside : Wording (.operand n x) ls) (tight : 3 ≤ n), motive n x ls inside →
        motive 3 (.unary op x) (.sign op.text :: ls) (.unary known inside tight))
    (joined : ∀ {op : BinaryOp} {m n : Nat} {left right : Expr} {ls ls' : List Lexeme}
      (strength : op.strength = 1 ∨ op.strength = 2) (before : Wording (.operand m left) ls)
      (behind : Wording (.operand n right) ls') (tightBefore : op.strength ≤ m)
      (tightBehind : op.strength < n),
      motive m left ls before → motive n right ls' behind →
        motive op.strength (.binary op left right) (ls ++ .sign op.text :: ls')
          (.joined strength before behind tightBefore tightBehind))
    {n : Nat} {x : Expr} {ls : List Lexeme} (h : Wording (.operand n x) ls) : motive n x ls h := by
  suffices all :
    ∀ {subject : Subject} {ls : List Lexeme} (h : Wording subject ls) {n : Nat} {x : Expr}
      (same : subject = .operand n x), motive n x ls (same ▸ h) from all h rfl
  intro subject ls h
  induction h with
  | number literal =>
    rintro _ _ ⟨⟩
    exact callable (.number literal)
  | name word =>
    rintro _ _ ⟨⟩
    exact callable (.name word)
  | group inside =>
    rintro _ _ ⟨⟩
    exact callable (.group inside)
  | call before inside =>
    rintro _ _ ⟨⟩
    exact callable (.call before inside)
  | power before behind tight _ ih =>
    rintro _ _ ⟨⟩
    exact power before behind tight (ih rfl)
  | unary known inside tight ih =>
    rintro _ _ ⟨⟩
    exact unary known inside tight (ih rfl)
  | joined strength before behind tightBefore tightBehind ih ih' =>
    rintro _ _ ⟨⟩
    exact joined strength before behind tightBefore tightBehind (ih rfl) (ih' rfl)
  | none | last | further => rintro _ _ ⟨⟩

/-- The lexemes bind this tightly and word an expression as large as `e`. No more parts are exposed
in it, and fewer if an operand is `taken` from its place. -/
def Rewords (n : Nat) (ls : List Lexeme) (e : Expr) (taken : Prop) : Prop :=
  ∃ x, Wording (.operand n x) ls ∧ x.size = e.size ∧ x.exposed ≤ e.exposed ∧
    (taken → x.exposed < e.exposed)

theorem Wording.rewords (h : Wording (.operand n x) ls) {taken : Prop} (not : ¬ taken) :
    Rewords n ls x taken :=
  ⟨x, h, rfl, Nat.le_refl _, fun yes => absurd yes not⟩

/-- Behind an operator the arguments belong to the last operand. -/
theorem Wording.called {args : List Expr} (h : Wording (.operand n x) ls)
    (inside : Wording (.arguments args) ls') :
    Rewords n (ls ++ (.sign "(" :: ls' ++ [.sign ")"])) (.call x args) (n < 5) := by
  induction h using Wording.operandInduction with
  | callable h => exact (Wording.call h inside).rewords (by decide)
  | @power _ left _ _ _ before _ tight ih =>
    obtain ⟨y, worded, size, exposed, -⟩ := ih
    rw [List.append_assoc, List.cons_append]
    refine ⟨.binary .pow left y, .power before worded tight, ?_, ?_, fun _ => ?_⟩
    all_goals
      simp only [Expr.size, exposed_call, exposed_power] at *
      omega
  | @unary op _ _ _ known _ tight ih =>
    obtain ⟨y, worded, size, exposed, -⟩ := ih
    refine ⟨.unary op y, .unary known worded tight, ?_, ?_, fun _ => ?_⟩
    all_goals
      simp only [Expr.size, exposed_call, exposed_unary] at *
      omega
  | @joined op _ _ left _ _ _ strength before _ tightBefore tightBehind _ ih =>
    obtain ⟨y, worded, size, exposed, -⟩ := ih
    rw [List.append_assoc, List.cons_append]
    refine ⟨.binary op left y, .joined strength before worded tightBefore tightBehind, ?_,
      ?_, fun _ => ?_⟩
    all_goals
      simp only [Expr.size, exposed_call, exposed_joined strength] at *
      omega

/-- A sign before a sum or a product belongs to the first operand. -/
theorem Wording.signed {op : UnaryOp} (known : op.isKnown = true) (h : Wording (.operand n x) ls) :
    Rewords (min n 3) (.sign op.text :: ls) (.unary op x) False := by
  have direct : ∀ {n : Nat} {x : Expr} {ls : List Lexeme}, Wording (.operand n x) ls → 3 ≤ n →
      Rewords (min n 3) (.sign op.text :: ls) (.unary op x) False := by
    intro n x ls h tight
    rw [Nat.min_eq_right tight]
    exact (Wording.unary known h tight).rewords not_false
  induction h using Wording.operandInduction with
  | callable h => exact direct h (by decide)
  | power before behind tight => exact direct (.power before behind tight) (by decide)
  | unary known' inside tight => exact direct (.unary known' inside tight) (by decide)
  | @joined op' _ _ _ right _ _ strength before behind tightBefore tightBehind ih _ =>
    obtain ⟨y, worded, size, exposed, -⟩ := ih
    rw [Nat.min_eq_left (by omega : op'.strength ≤ 3), ← List.cons_append]
    refine ⟨.binary op' y right, .joined strength worded behind (by omega) tightBehind, ?_, ?_,
      not_false.elim⟩
    all_goals
      simp only [Expr.size, exposed_unary, exposed_joined strength] at *
      omega

/-- Before a tight operand, a sum or a product takes the last operand of a looser one. -/
theorem Wording.joinedTight {op : BinaryOp} (strength : op.strength = 1 ∨ op.strength = 2)
    (h : Wording (.operand m x) ls) (behind : Wording (.operand n y) ls')
    (tight : op.strength < n) :
    Rewords (min m op.strength) (ls ++ .sign op.text :: ls') (.binary op x y) False := by
  have direct : ∀ {m : Nat} {x : Expr} {ls : List Lexeme}, Wording (.operand m x) ls →
    op.strength ≤ m →
      Rewords (min m op.strength) (ls ++ .sign op.text :: ls') (.binary op x y) False := by
    intro m x ls h tightBefore
    rw [Nat.min_eq_right tightBefore]
    exact (Wording.joined strength h behind tightBefore tight).rewords not_false
  induction h using Wording.operandInduction with
  | callable h => exact direct h (by omega)
  | power before between tight' => exact direct (.power before between tight') (by omega)
  | unary known inside tight' => exact direct (.unary known inside tight') (by omega)
  | @joined op' _ _ left _ _ _ strength' before between tightBefore tightBehind _ ih =>
    by_cases loose : op.strength ≤ op'.strength
    · exact direct (.joined strength' before between tightBefore tightBehind) loose
    obtain ⟨z, worded, size, exposed, -⟩ := ih
    rw [Nat.min_eq_left (by omega), List.append_assoc, List.cons_append]
    refine ⟨.binary op' left z, .joined strength' before worded tightBefore (by omega), ?_, ?_,
      not_false.elim⟩
    all_goals
      simp only [Expr.size, exposed_joined strength, exposed_joined strength'] at *
      omega

/-- A sum or a product takes the last operand of what stands before it and the first one of what
stands behind. -/
theorem Wording.joinedWith {op : BinaryOp} (strength : op.strength = 1 ∨ op.strength = 2)
    (before : Wording (.operand m x) ls) (h : Wording (.operand n y) ls') :
    ∃ k < 5, Rewords k (ls ++ .sign op.text :: ls') (.binary op x y) False := by
  have direct : ∀ {n : Nat} {y : Expr} {ls' : List Lexeme}, Wording (.operand n y) ls' →
    op.strength < n →
      ∃ k < 5, Rewords k (ls ++ .sign op.text :: ls') (.binary op x y) False :=
    fun h tight => ⟨_, by omega, before.joinedTight strength h tight⟩
  induction h using Wording.operandInduction with
  | callable h => exact direct h (by omega)
  | power between behind tight => exact direct (.power between behind tight) (by omega)
  | unary known inside tight => exact direct (.unary known inside tight) (by omega)
  | @joined op' _ _ _ right _ _ strength' between behind tightBefore tightBehind ih _ =>
    by_cases tight : op.strength < op'.strength
    · exact direct (.joined strength' between behind tightBefore tightBehind) tight
    obtain ⟨k, -, z, worded, size, exposed, -⟩ := ih
    obtain ⟨w, whole, size', exposed', -⟩ := worded.joinedTight strength' behind tightBehind
    rw [← List.cons_append, ← List.append_assoc]
    refine ⟨_, by omega, w, whole, ?_, ?_, not_false.elim⟩
    all_goals
      simp only [Expr.size, exposed_joined strength, exposed_joined strength'] at *
      omega

/-- A tight operand becomes the power of the last operand of what stands before it. -/
theorem Wording.raisedTight (h : Wording (.operand m x) ls) (behind : Wording (.operand n y) ls')
    (tight : 3 ≤ n) :
    Rewords (min m 4) (ls ++ .sign "**" :: ls') (.binary .pow x y) (m < 5) := by
  induction h using Wording.operandInduction with
  | callable h => exact (Wording.power h behind tight).rewords (by decide)
  | @power _ left _ _ _ before _ tight' ih =>
    obtain ⟨z, worded, size, exposed, -⟩ := ih
    rw [List.append_assoc, List.cons_append]
    refine ⟨.binary .pow left z, .power before worded (by omega), ?_, ?_, fun _ => ?_⟩
    all_goals
      simp only [Expr.size, exposed_power] at *
      omega
  | @unary op _ _ _ known _ tight' ih =>
    obtain ⟨z, worded, size, exposed, -⟩ := ih
    refine ⟨.unary op z, .unary known worded (by omega), ?_, ?_, fun _ => ?_⟩
    all_goals
      simp only [Expr.size, exposed_power, exposed_unary] at *
      omega
  | @joined op _ _ left _ _ _ strength before _ tightBefore tightBehind _ ih =>
    obtain ⟨z, worded, size, exposed, -⟩ := ih
    rw [Nat.min_eq_left (by omega), List.append_assoc, List.cons_append]
    refine ⟨.binary op left z, .joined strength before worded tightBefore (by omega), ?_,
      ?_, fun _ => ?_⟩
    all_goals
      simp only [Expr.size, exposed_power, exposed_joined strength] at *
      omega

/-- The last operand of what stands before is raised to the power of the first one of what stands
behind. -/
theorem Wording.raisedWith (before : Wording (.operand m x) ls) (h : Wording (.operand n y) ls') :
    ∃ k < 5, Rewords k (ls ++ .sign "**" :: ls') (.binary .pow x y) (m < 5) := by
  have direct : ∀ {n : Nat} {y : Expr} {ls' : List Lexeme}, Wording (.operand n y) ls' → 3 ≤ n →
      ∃ k < 5, Rewords k (ls ++ .sign "**" :: ls') (.binary .pow x y) (m < 5) :=
    fun h tight => ⟨_, by omega, before.raisedTight h tight⟩
  induction h using Wording.operandInduction with
  | callable h => exact direct h (by decide)
  | power between behind tight => exact direct (.power between behind tight) (by decide)
  | unary known inside tight => exact direct (.unary known inside tight) (by decide)
  | @joined op _ _ _ right _ _ strength between behind tightBefore tightBehind ih _ =>
    obtain ⟨k, -, z, worded, size, exposed, fewer⟩ := ih
    obtain ⟨w, whole, size', exposed', -⟩ := worded.joinedTight strength behind tightBehind
    rw [← List.cons_append, ← List.append_assoc]
    refine ⟨_, by omega, w, whole, ?_, ?_, fun loose => ?_⟩
    · simp only [Expr.size] at *
      omega
    · simp only [exposed_power, exposed_joined strength] at *
      omega
    · have fewer := fewer loose
      simp only [exposed_power, exposed_joined strength] at *
      omega

/-- In the other expression no more parts are exposed, and fewer if an operand is `taken` from its
place. -/
theorem Rewords.trans {taken taken' : Prop} (h : Rewords n ls x taken') (size : x.size = e.size)
    (exposed : x.exposed ≤ e.exposed)
    (fewer : taken → x.exposed < e.exposed ∨ x.exposed ≤ e.exposed ∧ taken') :
    Rewords n ls e taken := by
  obtain ⟨y, worded, size', exposed', fewer'⟩ := h
  refine ⟨y, worded, size'.trans size, Nat.le_trans exposed' exposed, fun yes => ?_⟩
  rcases fewer yes with less | ⟨le, yes'⟩
  · exact Nat.lt_of_le_of_lt exposed' less
  · exact Nat.lt_of_lt_of_le (fewer' yes') le

end Script.Grammar

namespace Expr

open Script Script.Grammar

variable {e : Expr}

theorem rewords_enclosed {least n : Nat} {taken : Prop} (h : Rewords n e.lexemes e taken) :
    ∃ m, Rewords m (enclosedLexemes least e.strength e.lexemes) e taken ∧
    (least ≤ e.strength → m = n) := by
  rw [enclosedLexemes]
  split
  · next weak =>
    obtain ⟨x, worded, others⟩ := h
    exact ⟨5, ⟨x, .group worded, others⟩, fun strong => absurd weak (by omega)⟩
  · exact ⟨n, h, fun _ => rfl⟩

theorem of_isPower (h : e.isPower = true) :
    e.hasOperator = true ∧ e.strength = BinaryOp.pow.strength := by
  cases e with
  | binary op left right =>
    cases op with
    | pow => exact ⟨rfl, rfl⟩
    | _ => cases h
  | _ => cases h

theorem bindsAsShown_joined {op : BinaryOp} (strength : op.strength = 1 ∨ op.strength = 2)
    (left right : Expr) :
    (binary op left right).bindsAsShown = (left.bindsAsShown && right.bindsAsShown) := by
  have other : (op == .pow) = false := beq_false_of_ne (ne_pow strength)
  rw [bindsAsShown, other, Bool.false_and, Bool.not_false, Bool.true_and]

theorem bindsAsShown_power_eq_false {left right : Expr} :
    (binary .pow left right).bindsAsShown = false ↔
      left.isPower = true ∨ left.bindsAsShown = false ∨ right.bindsAsShown = false := by
  rw [bindsAsShown, Bool.and_eq_false_iff, Bool.and_eq_false_iff, or_assoc,
    beq_self_eq_true, Bool.true_and,
    Bool.not_eq_false']

theorem bindsAsShown_call_eq_false {callee : Expr} {args : List Expr} :
    (call callee args).bindsAsShown = false ↔
      callee.hasOperator = true ∨ callee.bindsAsShown = false ∨ allBindAsShown args = false := by
  rw [bindsAsShown, Bool.and_eq_false_iff, Bool.and_eq_false_iff, or_assoc, Bool.not_eq_false']

theorem rewords_joined {op : BinaryOp} {left right : Expr} {k k' : Nat}
    (strength : op.strength = 1 ∨ op.strength = 2)
    (before : Rewords k left.lexemes left (left.bindsAsShown = false))
    (behind : Rewords k' right.lexemes right (right.bindsAsShown = false)) :
    ∃ n < 5, Rewords n (binary op left right).lexemes (binary op left right)
      ((binary op left right).bindsAsShown = false) := by
  obtain ⟨m, ⟨x, wordedLeft, sizeLeft, exposedLeft, fewerLeft⟩, -⟩ :=
    @rewords_enclosed left op.strength _ _ before
  obtain ⟨m', ⟨y, wordedRight, sizeRight, exposedRight, fewerRight⟩, -⟩ :=
    @rewords_enclosed right (op.strength + 1) _ _ behind
  obtain ⟨n, loose, worded⟩ := wordedLeft.joinedWith strength wordedRight
  refine ⟨n, loose, worded.trans ?_ ?_ fun other => .inl ?_⟩
  · simp only [size]
    omega
  · simp only [exposed_joined strength]
    omega
  · rw [bindsAsShown_joined strength, Bool.and_eq_false_iff] at other
    simp only [exposed_joined strength]
    rcases other with other | other
    · exact Nat.add_lt_add_of_lt_of_le (fewerLeft other) exposedRight
    · exact Nat.add_lt_add_of_le_of_lt exposedLeft (fewerRight other)

/-- To the left of a power stands an operator if a power does. -/
theorem rewords_power {left right : Expr} {k k' : Nat}
    (before : Rewords k left.lexemes left (left.bindsAsShown = false))
    (loose : left.hasOperator = true → k < 5)
    (behind : Rewords k' right.lexemes right (right.bindsAsShown = false)) :
    ∃ n < 5, Rewords n (binary .pow left right).lexemes (binary .pow left right)
      ((binary .pow left right).bindsAsShown = false) := by
  obtain ⟨m, ⟨x, wordedLeft, sizeLeft, exposedLeft, fewerLeft⟩, bare⟩ :=
    @rewords_enclosed left BinaryOp.pow.strength _ _ before
  obtain ⟨m', ⟨y, wordedRight, sizeRight, exposedRight, fewerRight⟩, -⟩ :=
    @rewords_enclosed right (BinaryOp.pow.strength + 1) _ _ behind
  obtain ⟨n, open', worded⟩ := wordedLeft.raisedWith wordedRight
  refine ⟨n, open', worded.trans ?_ ?_ fun other => ?_⟩
  · simp only [size]
    omega
  · simp only [exposed_power]
    omega
  · simp only [exposed_power]
    rcases bindsAsShown_power_eq_false.mp other with power | other | other
    · obtain ⟨hasOperator, strength⟩ := of_isPower power
      rw [bare (Nat.le_of_eq strength.symm)]
      exact .inr ⟨by omega, loose hasOperator⟩
    · have fewer := fewerLeft other
      exact .inl (by omega)
    · have fewer := fewerRight other
      exact .inl (by omega)

theorem rewords_call {callee : Expr} {args xs : List Expr} {ls : List Lexeme} {k : Nat}
    (before : Rewords k callee.lexemes callee (callee.bindsAsShown = false))
    (loose : callee.hasOperator = true → k < 5) (inside : Wording (.arguments xs) ls)
    (size : sizeOfAll xs = sizeOfAll args) (exposed : exposedInAll xs ≤ exposedInAll args)
    (fewer : allBindAsShown args = false → exposedInAll xs < exposedInAll args) :
    Rewords k (callee.lexemes ++ (.sign "(" :: ls ++ [.sign ")"])) (call callee args)
      ((call callee args).bindsAsShown = false) := by
  obtain ⟨x, worded, sizeCallee, exposedCallee, fewerCallee⟩ := before
  refine (worded.called inside).trans ?_ ?_ fun other => ?_
  · simp only [Expr.size]
    omega
  · simp only [exposed_call]
    omega
  · simp only [exposed_call]
    rcases bindsAsShown_call_eq_false.mp other with hasOperator | other | other
    · exact .inr ⟨by omega, loose hasOperator⟩
    · have fewer := fewerCallee other
      exact .inl (by omega)
    · have fewer := fewer other
      exact .inl (by omega)

theorem wording_arguments {more xs : List Expr} {x : Expr} {n : Nat}
    (first : Wording (.operand n x) e.lexemes)
    (behind : Wording (.arguments xs) (argLexemes more)) (length : xs.length = more.length) :
    Wording (.arguments (x :: xs)) (argLexemes (e :: more)) := by
  cases more with
  | nil =>
    rw [List.length_eq_zero_iff.mp length]
    exact .last first
  | cons next others =>
    obtain ⟨y, ys, rfl⟩ := List.exists_cons_of_length_eq_add_one length
    rw [argLexemes]
    · exact .further first behind
    · exact List.cons_ne_nil next others

mutual

/-- The tokens of a rendered expression word one as large. If the text does not bind as the
expression does, an operand is taken from its place. -/
theorem rewords_lexemes (e : Expr) (spellable : e.isSpellable = true) :
    ∃ n, Rewords n e.lexemes e (e.bindsAsShown = false) ∧ (e.hasOperator = true → n < 5) := by
  cases e with
  | number d => exact ⟨5, (Wording.number spellable).rewords Bool.noConfusion, Bool.noConfusion⟩
  | name word => exact ⟨5, (Wording.name word).rewords Bool.noConfusion, Bool.noConfusion⟩
  | pair p => exact ⟨5, ⟨_, .name p.text, rfl, Nat.le_refl _, Bool.noConfusion⟩, Bool.noConfusion⟩
  | exchange venue =>
    exact ⟨5, ⟨_, .name venue, rfl, Nat.le_refl _, Bool.noConfusion⟩, Bool.noConfusion⟩
  | parenthesized inner =>
    obtain ⟨n, ⟨x, worded, others⟩, -⟩ := rewords_lexemes inner spellable
    exact ⟨5, ⟨x, .group worded, others⟩, Bool.noConfusion⟩
  | call callee args =>
    rw [isSpellable, Bool.and_eq_true] at spellable
    obtain ⟨n, before, loose⟩ := rewords_lexemes callee spellable.1
    obtain ⟨xs, inside, -, size, exposed, fewer⟩ := rewords_argLexemes args spellable.2
    exact ⟨n, rewords_call before loose inside size exposed fewer, Bool.noConfusion⟩
  | unary op operand =>
    rw [isSpellable, Bool.and_eq_true] at spellable
    obtain ⟨n, inside, -⟩ := rewords_lexemes operand spellable.2
    obtain ⟨m, ⟨x, worded, size, exposed, fewer⟩, -⟩ :=
      @rewords_enclosed operand unaryStrength _ _ inside
    refine ⟨_, (worded.signed spellable.1).trans ?_ ?_ fun other => .inl ?_, fun _ => by omega⟩
    · simp only [Expr.size]
      omega
    · simp only [exposed_unary]
      exact exposed
    · simp only [exposed_unary]
      exact fewer other
  | binary op left right =>
    obtain ⟨known, spellableLeft, spellableRight⟩ := isSpellable_binary spellable
    obtain ⟨k, before, loose⟩ := rewords_lexemes left spellableLeft
    obtain ⟨k', behind, -⟩ := rewords_lexemes right spellableRight
    have all : ∃ n < 5, Rewords n (binary op left right).lexemes (binary op left right)
        ((binary op left right).bindsAsShown = false) := by
      cases op with
      | pow => exact rewords_power before loose behind
      | add | sub => exact rewords_joined (.inl rfl) before behind
      | mul | div | mod => exact rewords_joined (.inr rfl) before behind
      | other sign => cases known
    obtain ⟨n, low, worded⟩ := all
    exact ⟨n, worded, fun _ => low⟩

/-- The tokens of the arguments of a call. -/
theorem rewords_argLexemes (es : List Expr) (spellable : allSpellable es = true) :
    ∃ xs, Wording (.arguments xs) (argLexemes es) ∧ xs.length = es.length ∧
    sizeOfAll xs = sizeOfAll es ∧
      exposedInAll xs ≤ exposedInAll es ∧
      (allBindAsShown es = false → exposedInAll xs < exposedInAll es) := by
  cases es with
  | nil => exact ⟨[], .none, rfl, rfl, Nat.le_refl _, Bool.noConfusion⟩
  | cons e more =>
    rw [allSpellable, Bool.and_eq_true] at spellable
    obtain ⟨n, ⟨x, worded, size, exposed, fewer⟩, -⟩ := rewords_lexemes e spellable.1
    obtain ⟨xs, behind, length, sizes, exposedBehind, fewerBehind⟩ :=
      rewords_argLexemes more spellable.2
    refine ⟨x :: xs, wording_arguments worded behind length, congrArg (· + 1) length, ?_, ?_,
      fun other => ?_⟩
    · simp only [sizeOfAll]
      omega
    · simp only [exposedInAll]
      omega
    · rw [allBindAsShown, Bool.and_eq_false_iff] at other
      simp only [exposedInAll]
      rcases other with other | other
      · exact Nat.add_lt_add_of_lt_of_le (fewer other) exposedBehind
      · exact Nat.add_lt_add_of_le_of_lt exposed (fewerBehind other)

end

mutual

theorem written_of_isWritten (e : Expr) (h : e.isWritten = true) : e.written = e := by
  cases e with
  | number d => rfl
  | name word => rfl
  | unary op operand => rw [written, written_of_isWritten operand h]
  | binary op left right =>
    rw [isWritten, Bool.and_eq_true] at h
    rw [written, written_of_isWritten left h.1, written_of_isWritten right h.2]
  | call callee args =>
    rw [isWritten, Bool.and_eq_true] at h
    rw [written, written_of_isWritten callee h.1, allWrittenOf_of_allWritten args h.2]
  | pair p => cases h
  | exchange venue => cases h
  | parenthesized inner => cases h

theorem allWrittenOf_of_allWritten (es : List Expr) (h : allWritten es = true) :
    allWrittenOf es = es := by
  cases es with
  | nil => rfl
  | cons e more =>
    rw [allWritten, Bool.and_eq_true] at h
    rw [allWrittenOf, written_of_isWritten e h.1, allWrittenOf_of_allWritten more h.2]

end

/-- A name stays a name when it is read again, and a whole number is not too long for a script. -/
def isSpelled : Expr → Bool
  | name word => isName word
  | number d => d.isShort
  | _ => true

mutual

theorem isSpellable_of_isSpelled (e : Expr) (written : e.isWritten = true)
    (ofScript : e.isOfScript = true)
    (spelled : ∀ x ∈ e.nodes, x.isSpelled = true) : e.isSpellable = true := by
  cases e with
  | number d =>
    rw [isOfScript, Bool.and_eq_true, Bool.not_eq_true'] at ofScript
    exact Decimal.isLiteral_iff.mpr ⟨written, ofScript.1, ofScript.2, spelled _ List.mem_cons_self⟩
  | name word => exact spelled _ List.mem_cons_self
  | unary op operand =>
    rw [isOfScript, Bool.and_eq_true] at ofScript
    have inside := List.forall_mem_cons.mp spelled
    rw [isSpellable, ofScript.1, isSpellable_of_isSpelled operand written ofScript.2 inside.2]
    rfl
  | binary op left right =>
    rw [isWritten, Bool.and_eq_true] at written
    rw [isOfScript, Bool.and_eq_true, Bool.and_eq_true] at ofScript
    have inside := List.forall_mem_append.mp (List.forall_mem_cons.mp spelled).2
    rw [isSpellable, ofScript.1.1, isSpellable_of_isSpelled left written.1 ofScript.1.2 inside.1,
      isSpellable_of_isSpelled right written.2 ofScript.2 inside.2]
    rfl
  | call callee args =>
    rw [isWritten, Bool.and_eq_true] at written
    rw [isOfScript, Bool.and_eq_true] at ofScript
    have inside := List.forall_mem_append.mp (List.forall_mem_cons.mp spelled).2
    rw [isSpellable, isSpellable_of_isSpelled callee written.1 ofScript.1 inside.1,
      allSpellable_of_isSpelled args written.2 ofScript.2 inside.2]
    rfl
  | pair p => cases written
  | exchange venue => cases written
  | parenthesized inner => cases written

theorem allSpellable_of_isSpelled (es : List Expr) (written : allWritten es = true)
    (ofScript : allOfScript es = true)
    (spelled : ∀ x ∈ nodesOfAll es, x.isSpelled = true) : allSpellable es = true := by
  cases es with
  | nil => rfl
  | cons e more =>
    rw [allWritten, Bool.and_eq_true] at written
    rw [allOfScript, Bool.and_eq_true] at ofScript
    have inside := List.forall_mem_append.mp spelled
    rw [allSpellable, isSpellable_of_isSpelled e written.1 ofScript.1 inside.1,
      allSpellable_of_isSpelled more written.2 ofScript.2 inside.2]
    rfl

end

end Expr

namespace Script

open Grammar RateRules.Expr

theorem of_expression {text : String} {e : Expr} (h : expression text = .ok e) :
    e.isWritten = true ∧ e.isOfScript = true := by
  simp only [expression, bind_eq_ok] at h
  obtain ⟨tree, read, h⟩ := h
  have ofScript := @yields_readWith Tree (fun t => t.isOfScript = true) _ _ _
    (fun depth => yieldsTree_wholeExpression (yieldsTrees_nested depth)) read
  exact ⟨isWritten_of_tree tree e h, isOfScript_of_tree tree ofScript e h⟩

/-- The text of an expression that was read from a text is read again if its names and numbers can
be. It is read as the same expression exactly if the text binds as the expression does. -/
theorem rendered_text_reads_back_iff (text : String) (e : Expr) (read : expression text = .ok e)
    (spelled : ∀ x ∈ e.nodes, x.isSpelled = true) (fits : Fits 0 e.render.toList) :
    (∃ x, expression e.render = .ok x) ∧ (expression e.render = .ok e ↔ e.bindsAsShown = true) := by
  obtain ⟨written, ofScript⟩ := of_expression read
  have spellable := isSpellable_of_isSpelled e written ofScript spelled
  obtain ⟨n, ⟨x, worded, size, exposed, fewer⟩, -⟩ := rewords_lexemes e spellable
  have readAgain : expression e.render = .ok x := expression_of_wording spellable fits worded
  refine ⟨⟨x, readAgain⟩, fun same => ?_, fun binds => ?_⟩
  · obtain rfl : x = e := Except.ok.inj (readAgain.symm.trans same)
    rw [← Bool.not_eq_false]
    exact fun other => Nat.lt_irrefl _ (fewer other)
  · have own := expression_render ⟨spellable, binds, fits⟩
    rwa [written_of_isWritten e written] at own

/-- Powers, signs and calls of calls are shown as they bind. -/
theorem rendered_text_of_calls_reads_back :
    ∃ e : Expr, expression "-a(b, 2)(c) ** -(d % 3) ** +e - (f - (g)(~h ** 2))" = .ok e ∧
      e.render = "-a(b, 2)(c) ** (-(d % 3) ** (+e)) - (f - g(~h ** 2))" ∧
      expression e.render = .ok e := by
  have facts : passes (fun e : Expr =>
    e.render == "-a(b, 2)(c) ** (-(d % 3) ** (+e)) - (f - g(~h ** 2))"
      && e.bindsAsShown && e.nodes.all isSpelled)
      (expression "-a(b, 2)(c) ** -(d % 3) ** +e - (f - (g)(~h ** 2))") = true := by decide +kernel
  obtain ⟨e, read, facts⟩ := passes_iff.mp facts
  simp only [Bool.and_eq_true, beq_iff_eq, List.all_eq_true] at facts
  obtain ⟨⟨shown, binds⟩, spelled⟩ := facts
  have fits : Fits 0 e.render.toList := by
    rw [shown]
    exact fits_of_count_le (by decide +kernel)
  exact ⟨e, read, shown, (rendered_text_reads_back_iff _ e read spelled fits).2.mpr binds⟩

/-- A power that is raised and a callee with an operator are shown without the parentheses that they
need. -/
theorem rendered_text_may_not_read_back :
    (∃ e x : Expr, expression "(2 ** 3) ** 4" = .ok e ∧ e.render = "2 ** 3 ** 4" ∧
      expression e.render = .ok x ∧ x.render = "2 ** (3 ** 4)" ∧ x ≠ e) ∧
    ∃ e x : Expr, expression "(-a)(b)" = .ok e ∧ e.hasOperator = false ∧ e.render = "-a(b)" ∧
      expression e.render = .ok x ∧ x.hasOperator = true ∧ x ≠ e := by
  constructor
  · have facts : passes (fun e : Expr => e.render == "2 ** 3 ** 4") (expression "(2 ** 3) ** 4") =
        true := by
      decide +kernel
    have others : passes (fun x : Expr => x.render == "2 ** (3 ** 4)") (expression "2 ** 3 ** 4") =
        true := by
      decide +kernel
    obtain ⟨e, read, shown⟩ := passes_iff.mp facts
    obtain ⟨x, readAgain, shownAgain⟩ := passes_iff.mp others
    rw [beq_iff_eq] at shown shownAgain
    refine ⟨e, x, read, shown, shown ▸ readAgain, shownAgain, ?_⟩
    rintro rfl
    rw [shown] at shownAgain
    exact absurd shownAgain (by decide)
  · have facts : passes (fun e : Expr => !e.hasOperator && e.render == "-a(b)")
        (expression "(-a)(b)") = true := by
      decide +kernel
    have others : passes hasOperator (expression "-a(b)") = true := by decide +kernel
    obtain ⟨e, read, facts⟩ := passes_iff.mp facts
    obtain ⟨x, readAgain, operator⟩ := passes_iff.mp others
    rw [Bool.and_eq_true, Bool.not_eq_true', beq_iff_eq] at facts
    refine ⟨e, x, read, facts.1, facts.2, facts.2 ▸ readAgain, operator, ?_⟩
    rintro rfl
    exact absurd (facts.1.symm.trans operator) (by decide)

end Script

end RateRules
