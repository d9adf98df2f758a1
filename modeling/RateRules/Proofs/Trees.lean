import RateRules.Proofs.Parser
import RateRules.Proofs.Rendering
import RateRules.Proofs.Tokens
import RateRules.Script.Reading

/-!
# What the trees of a script hold

Number tokens start with a digit or a point, never with a sign, and the grammar gives no operator
that it does not name. The parser of every level hands both on to the trees that it reads.
-/
namespace RateRules.Script

namespace Tree

mutual

/-- The numbers of a tree start as number tokens do, and its operators are known ones if rules may
use them at all. -/
def isOfScript : Tree → Bool
  | number _ text => startsNumeral text
  | unary _ op operand => op.toOption.all UnaryOp.isKnown && operand.isOfScript
  | binary _ op left right =>
    op.toOption.all BinaryOp.isKnown && left.isOfScript && right.isOfScript
  | call _ callee args _ => callee.isOfScript && allOfScript args
  | _ => true

/-- Arguments of a call. -/
def allOfScript : List Tree → Bool
  | [] => true
  | t :: more => t.isOfScript && allOfScript more

end

theorem allOfScript_eq_all (ts : List Tree) : allOfScript ts = ts.all isOfScript := by
  induction ts with
  | nil => rfl
  | cons t more ih => rw [allOfScript, ih, List.all_cons]

end Tree

/-- A plain assignment, without an operator. -/
def Clause.isAssignment : Clause → Bool
  | assign .. => true
  | _ => false

/-- The value of an assignment. -/
def Clause.isOfScript : Clause → Bool
  | assign _ value => value.isOfScript
  | _ => true

namespace Parser

variable {α β : Type} {good : α → Prop} {good' : β → Prop}

/-- Whatever the parser reads from tokens of a script is good. -/
def Yields (good : α → Prop) (p : Parser α) : Prop :=
  ∀ tokens a rest, (∀ t ∈ tokens, t.isOfScript = true) → Reads p tokens a rest → good a

theorem yields_trivial (p : Parser α) : Yields (fun _ => True) p := fun _ _ _ _ _ => trivial

theorem yields_pure {a : α} (h : good a) : Yields good (pure a) := by
  intro tokens b rest _ read
  rw [(reads_pure.mp read).1]
  exact h

theorem yields_bind {p : Parser α} {f : α → Parser β} (hp : Yields good p)
    (hf : ∀ a, good a → Yields good' (f a)) : Yields good' (p >>= f) := by
  intro tokens b rest ofScript read
  obtain ⟨a, mid, ha, hb⟩ := reads_bind.mp read
  have behind : ∀ t ∈ mid, t.isOfScript = true := fun t ht => ofScript t (ha.isSuffix.subset ht)
  exact hf a (hp tokens a mid ofScript ha) mid b rest behind hb

theorem yields_then {p : Parser α} {f : α → Parser β} (hf : ∀ a, Yields good' (f a)) :
    Yields good' (p >>= f) := by
  intro tokens b rest ofScript read
  obtain ⟨a, mid, ha, hb⟩ := reads_bind.mp read
  exact hf a mid b rest (fun t ht => ofScript t (ha.isSuffix.subset ht)) hb

theorem yields_ite {c : Prop} [Decidable c] {p q : Parser α} (hp : Yields good p)
    (hq : Yields good q) :
    Yields good (if c then p else q) := by
  split
  · exact hp
  · exact hq

/-- Something may be checked first. -/
theorem yields_check {c : Prop} [Decidable c] {p : Parser β} {q : Parser α} (hq : Yields good q) :
    Yields good (if c then p >>= fun _ => q else q) :=
  yields_ite (yields_then fun _ => hq) hq

theorem yields_throw (refusal : Refusal) : Yields good (throw refusal : Parser α) :=
  fun _ _ _ _ read => absurd read not_reads_throw

theorem yields_refuse : Yields good (refuse : Parser α) := yields_then fun _ => yields_throw _

theorem yields_refuseAt (line : Nat) : Yields good (refuseAt line : Parser α) :=
  yields_then fun _ => yields_throw _

theorem yields_peek : Yields (fun t => t.isOfScript = true) peek := by
  intro tokens t rest ofScript read
  obtain ⟨_, more, rfl⟩ := reads_peek read
  exact ofScript t List.mem_cons_self

/-- A repetition gives something good if each of its steps does. -/
theorem yields_iterate {step : α → Parser (Option α)}
    (h : ∀ a, good a → Yields (fun next => ∀ b ∈ next, good b) (step a)) {a : α} (start : good a) :
    Yields good (iterate step a) := by
  intro tokens b rest ofScript read
  have kept := @iterate_induction α tokens rest step
    (fun a tokens => good a ∧ ∀ t ∈ tokens, t.isOfScript = true) ?_ a b ⟨start, ofScript⟩ read
  · exact kept.1
  · rintro a tokens next rest ⟨ha, ofScript⟩ read
    refine ⟨?_, fun t ht => ofScript t (read.isSuffix.subset ht)⟩
    cases next with
    | none => exact ha
    | some b => exact h a ha tokens (some b) rest ofScript read b rfl

end Parser

namespace Grammar

open RateRules.Script.Parser

/-- The parser reads trees of a script. -/
abbrev YieldsTree (p : Parser Tree) : Prop := Yields (fun t => t.isOfScript = true) p

def YieldsTrees (inner : Inner) : Prop := ∀ level, YieldsTree (inner level)

/-- A step of a repetition goes on with a tree of a script, if it goes on. -/
abbrev YieldsNext (p : Parser (Option Tree)) : Prop :=
  Yields (fun next => ∀ t ∈ next, t.isOfScript = true) p

variable {inner : Inner}

theorem ofScript_some {t : Tree} (h : t.isOfScript = true) : ∀ u ∈ some t, u.isOfScript = true := by
  rintro _ ⟨⟩
  exact h

theorem ofScript_none : ∀ u ∈ (none : Option Tree), u.isOfScript = true := fun _ h => nomatch h

theorem yieldsTree_starred (level : Level) : YieldsTree (starred inner level) :=
  yields_then fun _ => yields_then fun _ => yields_pure rfl

theorem yieldsTree_tupleOf (starts : Token → Bool) {item : Parser Tree} (hitem : YieldsTree item) :
    YieldsTree (tupleOf starts item) := by
  refine yields_then fun start => yields_bind hitem fun first ofScript => ?_
  refine yields_then fun _ => yields_ite (yields_then fun _ => ?_) (yields_pure ofScript)
  exact yields_pure rfl

theorem yieldsTree_starExpressions (hinner : YieldsTrees inner) :
    YieldsTree (starExpressions inner) :=
  yieldsTree_tupleOf startsItem
    (yields_then fun _ => yields_ite (yieldsTree_starred .bitOr) (hinner .expression))

theorem yieldsTree_yieldExpression : YieldsTree (yieldExpression inner) := by
  refine yields_then fun start => yields_then fun _ =>
    yields_ite ?_ (yields_then fun _ => yields_ite ?_ ?_)
  · exact yields_then fun _ => yields_pure rfl
  · exact yields_then fun _ => yields_pure rfl
  · exact yields_pure rfl

theorem yieldsTree_yieldOrExpressions (hinner : YieldsTrees inner) :
    YieldsTree (yieldOrExpressions inner) :=
  yields_then fun _ => yields_ite yieldsTree_yieldExpression (yieldsTree_starExpressions hinner)

theorem yieldsNext_nameBefore? : YieldsNext (nameBefore? inner) := by
  refine yields_then fun first => yields_then fun _ => yields_ite ?_ (yields_pure ofScript_none)
  exact yields_then fun _ => yields_then fun _ => yields_then fun _ =>
    yields_pure (ofScript_some rfl)

theorem yieldsTree_named (hinner : YieldsTrees inner) : YieldsTree (named inner) := by
  refine yields_bind yieldsNext_nameBefore? fun before ofScript => ?_
  cases before with
  | some t => exact yields_pure (ofScript t rfl)
  | none =>
    exact yields_bind (hinner .expression) fun t ht => yields_then fun _ => yields_pure ht

theorem yieldsTree_starNamed (hinner : YieldsTrees inner) : YieldsTree (starNamed inner) :=
  yields_then fun _ => yields_ite (yieldsTree_starred .bitOr) (yieldsTree_named hinner)

theorem yieldsTree_number {t : Token} {text : String} (h : startsNumeral text = true) :
    YieldsTree (number t text) := by
  refine yields_ite yields_refuse (yields_then fun _ => yields_pure ?_)
  split
  · rfl
  · exact h

theorem yieldsTree_quotationFrom (start : Place) (bytes : Bool) (run : List (Token × Quotation))
    (templated : Bool) (codes : List Nat) :
    YieldsTree (quotationFrom inner start bytes run templated codes) := by
  induction run generalizing templated codes with
  | nil =>
    refine yields_pure ?_
    split <;> rfl
  | cons quoted more ih =>
    obtain ⟨t, q⟩ := quoted
    rw [quotationFrom]
    refine yields_check ?_
    split
    · exact yields_refuse
    · exact yields_check (yields_check (ih _ _))

theorem yieldsTree_quotations : YieldsTree (quotations inner) := by
  refine yields_then fun run => ?_
  split
  · exact yields_refuse
  · exact yieldsTree_quotationFrom _ _ _ _ _

theorem yieldsTree_group (hinner : YieldsTrees inner) (start : Place) :
    YieldsTree (group inner start) := by
  refine yields_then fun _ => yields_ite (yields_pure rfl) (yields_then fun _ => yields_ite ?_ ?_)
  · exact yields_bind yieldsTree_yieldExpression fun t ht => yields_then fun _ => yields_pure ht
  · refine yields_bind (yieldsTree_starNamed hinner) fun first ofScript =>
      yields_then fun after => ?_
    refine yields_ite ?_ (yields_ite ?_ ?_)
    · exact yields_then fun _ => yields_then fun _ =>
        yields_check (yields_then fun _ => yields_pure rfl)
    · exact yields_check (yields_then fun _ => yields_then fun _ => yields_pure rfl)
    · exact yields_check (yields_then fun _ => yields_pure ofScript)

theorem yieldsTree_listDisplay (start : Place) : YieldsTree (listDisplay inner start) := by
  refine yields_then fun _ => yields_ite (yields_pure rfl) (yields_then fun _ =>
    yields_then fun items => ?_)
  cases items with
  | some items => exact yields_pure rfl
  | none => exact yields_pure rfl

theorem yieldsTree_dictionary (start : Place) : YieldsTree (dictionary inner start) :=
  yields_then fun _ => yields_then fun _ => yields_pure rfl

theorem yieldsTree_braceDisplay (start : Place) : YieldsTree (braceDisplay inner start) := by
  refine yields_then fun _ => yields_ite (yields_pure rfl) (yields_then fun _ => yields_ite ?_ ?_)
  · exact yields_then fun _ => yieldsTree_dictionary start
  · refine yields_then fun first => yields_then fun _ => yields_ite ?_ (yields_then fun items => ?_)
    · refine yields_then fun _ => yields_then fun _ => yields_ite ?_ (yieldsTree_dictionary start)
      exact yields_then fun _ => yields_then fun _ => yields_pure rfl
    · cases items with
      | some items => exact yields_pure rfl
      | none => exact yields_pure rfl

theorem yieldsTree_atom (hinner : YieldsTrees inner) : YieldsTree (atom inner) := by
  refine yields_bind yields_peek fun t ht => ?_
  split
  · exact yields_then fun _ => yields_pure rfl
  · next text same =>
    refine yieldsTree_number ?_
    rw [Token.isOfScript, Token.isEnd, Token.isLineEnd, same] at ht
    exact ht
  · exact yieldsTree_quotations
  · exact yields_ite (yields_then fun _ => yields_pure rfl) yields_refuse
  · exact yields_then fun _ => yieldsTree_group hinner t.place
  · exact yields_then fun _ => yieldsTree_listDisplay t.place
  · exact yields_then fun _ => yieldsTree_braceDisplay t.place
  · exact yields_then fun _ => yields_pure rfl
  · exact yields_refuse

/-- The arguments that were read are trees of a script. -/
abbrev YieldsArguments (p : Parser Arguments) : Prop :=
  Yields (fun read => Tree.allOfScript read.args = true) p

theorem allOfScript_cons {t : Tree} {ts : List Tree} (ht : t.isOfScript = true)
    (hts : Tree.allOfScript ts = true) : Tree.allOfScript (t :: ts) = true := by
  rw [Tree.allOfScript, ht, hts, Bool.and_self]

theorem yields_plainArgument (hinner : YieldsTrees inner) (bracket : Place) {read : Arguments}
    (h : Tree.allOfScript read.args = true) :
    YieldsArguments (plainArgument inner bracket read) := by
  have answer : ∀ (isGenerator : Bool) (t : Tree), t.isOfScript = true →
      Tree.allOfScript ((if isGenerator then .foreign bracket .generator else t) :: read.args) =
        true := by
    intro isGenerator t ht
    refine allOfScript_cons ?_ h
    split
    · rfl
    · exact ht
  refine yields_then fun first => yields_bind yieldsNext_nameBefore? fun before ofScript => ?_
  cases before with
  | some t =>
    have taken : YieldsTree (pure t) := yields_pure (ofScript t rfl)
    refine yields_bind taken fun t ht => yields_then fun _ => yields_check ?_
    refine yields_then fun after => yields_ite (yields_then fun _ => yields_then fun _ =>
      yields_check ?_) ?_
    all_goals exact yields_check (yields_pure (answer _ t ht))
  | none =>
    refine yields_bind (hinner .expression) fun t ht => yields_then fun _ => yields_check ?_
    refine yields_then fun after => yields_ite (yields_then fun _ => yields_then fun _ =>
      yields_check ?_) ?_
    all_goals exact yields_check (yields_pure (answer _ t ht))

theorem yields_argument (hinner : YieldsTrees inner) (bracket : Place) {read : Arguments}
    (h : Tree.allOfScript read.args = true) : YieldsArguments (argument inner bracket read) := by
  refine yields_then fun t => yields_then fun second => yields_then fun _ => yields_ite ?_ ?_
  · exact yields_then fun _ => yields_pure h
  · refine yields_ite (yields_check ?_) (yields_ite ?_ (yields_ite (yields_refuseAt _) ?_))
    · exact yields_bind (yieldsTree_starred .expression) fun arg harg =>
        yields_pure (allOfScript_cons harg h)
    · refine yields_then fun _ => yields_then fun _ => yields_then fun _ => yields_then fun _ => ?_
      exact yields_check (yields_pure h)
    · exact yields_plainArgument hinner bracket h

theorem yields_arguments (hinner : YieldsTrees inner) (bracket : Place) :
    Yields (fun read => Tree.allOfScript read.1 = true) (arguments inner bracket) := by
  refine yields_bind (@yields_iterate Arguments (fun read => Tree.allOfScript read.args = true) _
    (fun read h => ?_) _ rfl) fun read h => yields_then fun _ => yields_pure ?_
  · have stop : Yields (fun next => ∀ b ∈ next, Tree.allOfScript b.args = true)
        (pure (none : Option Arguments)) := yields_pure fun _ hb => nomatch hb
    have goOn : ∀ read : Arguments, Tree.allOfScript read.args = true →
        Yields (fun next => ∀ b ∈ next, Tree.allOfScript b.args = true) (pure (some read)) := by
      intro read h
      refine yields_pure ?_
      rintro _ ⟨⟩
      exact h
    refine yields_then fun _ => yields_ite stop (yields_then fun t => ?_)
    refine yields_bind (yields_argument hinner bracket h) fun read h => yields_then fun _ => ?_
    exact yields_ite (goOn _ h) (goOn _ h)
  · rw [Tree.allOfScript_eq_all, List.all_reverse, ← Tree.allOfScript_eq_all]
    exact h

theorem yieldsNext_trailer? (hinner : YieldsTrees inner) (start : Place) {t : Tree}
    (ht : t.isOfScript = true) : YieldsNext (trailer? inner start t) := by
  refine yields_then fun sign => yields_then fun _ =>
    yields_ite ?_ (yields_then fun _ => yields_ite ?_ ?_)
  · exact yields_then fun _ => yields_pure (ofScript_some rfl)
  · exact yields_then fun _ => yields_pure (ofScript_some rfl)
  · refine yields_then fun _ => yields_ite ?_ (yields_pure ofScript_none)
    refine yields_bind (yields_arguments hinner sign.place) fun read h =>
      yields_pure (ofScript_some ?_)
    rw [Tree.isOfScript, ht, h, Bool.and_self]

theorem yieldsTree_primary (hinner : YieldsTrees inner) : YieldsTree (primary inner) :=
  yields_then fun start => yields_bind (yieldsTree_atom hinner) fun _ ht =>
    yields_iterate (fun _ ht => yieldsNext_trailer? hinner start.place ht) ht

theorem yieldsTree_awaited (hinner : YieldsTrees inner) : YieldsTree (awaited inner) :=
  yields_then fun _ => yields_then fun _ =>
    yields_ite (yields_then fun _ => yields_pure rfl) (yieldsTree_primary hinner)

theorem yieldsTree_power (hinner : YieldsTrees inner) : YieldsTree (power inner) := by
  refine yields_then fun start => yields_bind (yieldsTree_awaited hinner) fun base hbase => ?_
  refine yields_then fun _ => yields_ite ?_ (yields_pure hbase)
  refine yields_bind (hinner .factor) fun exponent hexponent => yields_pure ?_
  rw [Tree.isOfScript, hbase, hexponent]
  rfl

theorem isKnown_of_signOperator? {t : Token} {op : UnaryOp} (h : signOperator? t = some op) :
    op.isKnown = true := by
  unfold signOperator? at h
  split at h
  all_goals cases h
  all_goals rfl

theorem yieldsTree_factor (hinner : YieldsTrees inner) : YieldsTree (factor inner) := by
  refine yields_then fun t => ?_
  split
  · next op hop =>
    refine yields_then fun _ => yields_bind (hinner .factor) fun operand h => yields_pure ?_
    have known : (Except.ok op : Except ForeignOperator UnaryOp).toOption.all UnaryOp.isKnown =
        true :=
      isKnown_of_signOperator? hop
    rw [Tree.isOfScript, known, h, Bool.and_self]
  · exact yieldsTree_power hinner

/-- The operators that a level joins operands with are known or foreign. -/
def JoinsKnown (operation? : Token → Option Operation) : Prop :=
  ∀ t op, operation? t = some op → op.toOption.all BinaryOp.isKnown = true

theorem joinsKnown_term : JoinsKnown termOperation? := by
  intro t op h
  unfold termOperation? at h
  split at h
  all_goals cases h
  all_goals rfl

theorem joinsKnown_sum : JoinsKnown sumOperation? := by
  intro t op h
  unfold sumOperation? at h
  split at h
  all_goals cases h
  all_goals rfl

theorem joinsKnown_shift : JoinsKnown shiftOperation? := by
  intro t op h
  unfold shiftOperation? at h
  split at h
  all_goals cases h
  all_goals rfl

theorem joinsKnown_signOf (sign : String) (op : ForeignOperator) : JoinsKnown (signOf sign op) := by
  intro t operation h
  rw [signOf] at h
  split at h
  · cases h
    rfl
  · cases h

theorem yieldsTree_joined {operand : Parser Tree} (ho : YieldsTree operand)
    {operation? : Token → Option Operation} (known : JoinsKnown operation?) :
    YieldsTree (joined operand operation?) := by
  refine yields_then fun start => yields_bind ho fun first hfirst =>
    yields_iterate (fun left hleft => yields_then fun t => ?_) hfirst
  split
  · next op hop =>
    refine yields_then fun _ => yields_bind ho fun right hright => yields_pure (ofScript_some ?_)
    rw [Tree.isOfScript, known t op hop, hleft, hright, Bool.and_self, Bool.and_self]
  · exact yields_pure ofScript_none

theorem yieldsTree_bitOr (hinner : YieldsTrees inner) : YieldsTree (bitOr inner) := by
  have term := yieldsTree_joined (yieldsTree_factor hinner) joinsKnown_term
  have sum := yieldsTree_joined term joinsKnown_sum
  have shift := yieldsTree_joined sum joinsKnown_shift
  have bitAnd := yieldsTree_joined shift (joinsKnown_signOf "&" .bitAnd)
  have bitXor := yieldsTree_joined bitAnd (joinsKnown_signOf "^" .bitXor)
  exact yieldsTree_joined bitXor (joinsKnown_signOf "|" .bitOr)

theorem yieldsTree_comparison (hinner : YieldsTrees inner) : YieldsTree (comparison inner) := by
  refine yields_then fun start => yields_bind (yieldsTree_bitOr hinner) fun first hfirst =>
    yields_iterate (fun _ _ => yields_then fun _ =>
      yields_ite ?_ (yields_pure ofScript_none)) hfirst
  exact yields_then fun _ => yields_pure (ofScript_some rfl)

theorem yieldsTree_inversion (hinner : YieldsTrees inner) : YieldsTree (inversion inner) := by
  refine yields_then fun t => yields_then fun _ => yields_ite ?_ (yieldsTree_comparison hinner)
  refine yields_bind (hinner .inversion) fun operand h => yields_pure ?_
  rw [Tree.isOfScript, h]
  rfl

theorem yieldsTree_boolean (word : String) {condition : Parser Tree} (hc : YieldsTree condition) :
    YieldsTree (boolean word condition) := by
  refine yields_then fun start => yields_bind hc fun first hfirst =>
    yields_iterate (fun _ _ => yields_then fun _ =>
      yields_ite ?_ (yields_pure ofScript_none)) hfirst
  exact yields_then fun _ => yields_pure (ofScript_some rfl)

theorem yieldsTree_disjunction (hinner : YieldsTrees inner) : YieldsTree (disjunction inner) :=
  yieldsTree_boolean "or" (yieldsTree_boolean "and" (yieldsTree_inversion hinner))

theorem yieldsTree_function : YieldsTree (function inner) :=
  yields_then fun _ => yields_then fun _ => yields_then fun _ => yields_then fun _ =>
    yields_pure rfl

theorem yieldsTree_expression (hinner : YieldsTrees inner) : YieldsTree (expression inner) := by
  refine yields_then fun first => yields_ite yieldsTree_function (yields_then fun second => ?_)
  refine yields_bind (yieldsTree_disjunction hinner) fun t ht => yields_then fun _ =>
    yields_ite ?_ ?_
  · refine yields_then fun _ => yields_then fun _ => yields_ite ?_ ?_
    · exact yields_then fun _ => yields_pure rfl
    · exact yields_then fun _ => yields_ite yields_refuse (yields_refuseAt _)
  · exact yields_then fun _ => yields_pure ht

theorem yieldsTree_atLevel (hinner : YieldsTrees inner) (level : Level) :
    YieldsTree (atLevel inner level) := by
  cases level with
  | expression => exact yieldsTree_expression hinner
  | disjunction => exact yieldsTree_disjunction hinner
  | inversion => exact yieldsTree_inversion hinner
  | bitOr => exact yieldsTree_bitOr hinner
  | factor => exact yieldsTree_factor hinner
  | primary => exact yieldsTree_primary hinner

/-- However deep the levels are nested, the trees that they read are trees of a script. -/
theorem yieldsTrees_nested (depth : Nat) : YieldsTrees (nested depth) := by
  induction depth with
  | zero => exact fun _ => yields_refuse
  | succ depth ih => exact yieldsTree_atLevel ih

theorem yieldsTree_wholeExpression (hinner : YieldsTrees inner) :
    YieldsTree (wholeExpression inner) := by
  refine yields_bind (yieldsTree_tupleOf startsExpression (yieldsTree_expression hinner))
    fun t ht => ?_
  exact yields_then fun _ => yields_then fun _ => yields_ite (yields_pure ht) yields_refuse

section Clauses

variable {good : Clause → Prop}

/-- Of all clauses only the plain assignments have to be looked at. -/
theorem yields_annotated (others : ∀ c : Clause, c.isAssignment = false → good c) (start : Place)
    (target : Tree) :
    Yields good (annotated inner start target) := by
  refine yields_then fun _ => yields_ite ?_ (yields_then fun _ => yields_refuseAt _)
  refine yields_then fun _ => yields_then fun _ => yields_ite ?_ (yields_pure (others _ rfl))
  exact yields_then fun _ => yields_pure (others _ rfl)

theorem yields_augmented (others : ∀ c : Clause, c.isAssignment = false → good c) (start : Place)
    (target : Tree)
    (op : Operation) : Yields good (augmented inner start target op) :=
  yields_then fun _ => yields_then fun _ =>
    yields_ite (yields_pure (others _ rfl)) (yields_refuseAt _)

theorem yields_expressionClause (others : ∀ c : Clause, c.isAssignment = false → good c)
    {goodTree : Tree → Prop}
    (trees : Yields goodTree (yieldOrExpressions inner))
    (assigned : ∀ t, goodTree t → Yields good (assignment inner t)) :
    Yields good (expressionClause inner) := by
  refine yields_then fun start => yields_bind trees fun t ht => ?_
  refine yields_then fun _ => yields_ite (yields_annotated others _ _) (yields_then fun sign => ?_)
  split
  · exact yields_augmented others _ _ _
  · exact assigned t ht

/-- What starts with a word assigns nothing. -/
theorem yields_afterWord (others : ∀ c : Clause, c.isAssignment = false → good c) (start : Place)
    (word : String) :
    Yields good (afterWord inner start word) := by
  unfold afterWord
  split
  · exact yields_pure (others _ rfl)
  · exact yields_pure (others _ rfl)
  · exact yields_pure (others _ rfl)
  · exact yields_then fun _ => yields_check (yields_pure (others _ rfl))
  all_goals first | exact yields_then fun _ => yields_pure (others _ rfl) | exact yields_refuse

theorem yields_simpleClause (others : ∀ c : Clause, c.isAssignment = false → good c)
    (expressions : Yields good (expressionClause inner)) : Yields good (simpleClause inner) := by
  refine yields_then fun t => ?_
  split
  · exact yields_then fun _ => yields_afterWord others _ _
  · exact expressions

theorem yields_simpleClauses (simple : Yields good (simpleClause inner)) :
    Yields (fun cs => ∀ c ∈ cs, good c) (simpleClauses inner) := by
  refine yields_bind simple fun first hfirst => ?_
  refine yields_bind (@yields_iterate (List Clause) (fun cs => ∀ c ∈ cs, good c) _
    (fun cs hcs => ?_) [first] (List.forall_mem_singleton.mpr hfirst)) fun cs hcs => ?_
  · have stop : Yields (fun next => ∀ b ∈ next, ∀ c ∈ b, good c)
        (pure (none : Option (List Clause))) := yields_pure fun _ hb => nomatch hb
    refine yields_then fun _ => yields_ite (yields_then fun _ => yields_ite stop ?_) stop
    refine yields_bind simple fun c hc => yields_pure ?_
    rintro _ ⟨⟩
    exact List.forall_mem_cons.mpr ⟨hc, hcs⟩
  · refine yields_then fun t => yields_ite (yields_then fun _ => yields_pure ?_) yields_refuse
    exact fun c hc => hcs c (List.mem_reverse.mp hc)

theorem yields_decorated (others : ∀ c : Clause, c.isAssignment = false → good c) :
    Yields good (decorated inner) := by
  refine yields_then fun _ => yields_then fun t => yields_then fun _ => yields_ite ?_ ?_
  · exact yields_then fun _ => yields_pure (others _ rfl)
  · refine yields_then fun _ => yields_ite ?_ ?_
    · exact yields_then fun _ => yields_pure (others _ rfl)
    · exact yields_then fun _ => yields_then fun _ => yields_then fun _ =>
        yields_pure (others _ rfl)

theorem yields_clauses (others : ∀ c : Clause, c.isAssignment = false → good c)
    (expressions : Yields good (expressionClause inner)) :
    Yields (fun cs => ∀ c ∈ cs, good c) (clauses inner) := by
  refine yields_then fun t => yields_ite ?_ ?_
  · exact yields_bind (yields_decorated others) fun c hc =>
      yields_pure (List.forall_mem_singleton.mpr hc)
  · split
    · exact yields_then fun _ => yields_then fun _ =>
        yields_pure (List.forall_mem_singleton.mpr (others _ rfl))
    · exact yields_then fun _ => yields_simpleClauses (yields_simpleClause others expressions)

/-- The clauses of a whole script are good if its plain assignments are. -/
theorem yields_wholeScript (others : ∀ c : Clause, c.isAssignment = false → good c)
    (expressions : Yields good (expressionClause inner)) :
    Yields (fun cs => ∀ c ∈ cs, good c) (wholeScript inner) := by
  refine yields_bind (@yields_iterate (List (List Clause))
    (fun lines => ∀ cs ∈ lines, ∀ c ∈ cs, good c)
    _ (fun lines hlines => ?_) [] fun _ h => nomatch h) fun lines hlines =>
      yields_pure fun c hc => ?_
  · refine yields_then fun t => yields_ite (yields_pure fun _ hb => nomatch hb) ?_
    refine yields_bind (yields_clauses others expressions) fun cs hcs => yields_pure ?_
    rintro _ ⟨⟩
    exact List.forall_mem_cons.mpr ⟨hcs, hlines⟩
  · obtain ⟨cs, hcs, hc⟩ := List.mem_flatten.mp hc
    exact hlines cs (List.mem_reverse.mp hcs) c hc

end Clauses

theorem yields_isOfScript_assignment (hinner : YieldsTrees inner) {first : Tree}
    (h : first.isOfScript = true) :
    Yields (fun c => c.isOfScript = true) (assignment inner first) := by
  refine yields_bind (@yields_iterate (List Tree × Tree) (fun read => read.2.isOfScript = true) _
    (fun read _ => ?_) ([], first) h) fun read hread => yields_pure ?_
  · refine yields_then fun _ => yields_ite (yields_then fun _ => yields_then fun _ => ?_)
      (yields_pure fun _ hb => nomatch hb)
    refine yields_bind (yieldsTree_yieldOrExpressions hinner) fun value hvalue => yields_pure ?_
    rintro _ ⟨⟩
    exact hvalue
  · obtain ⟨targets, value⟩ := read
    simp only
    split
    · rfl
    · exact hread

theorem isOfScript_of_isAssignment {c : Clause} (h : c.isAssignment = false) :
    c.isOfScript = true := by
  cases c with
  | assign targets value => cases h
  | _ => rfl

end Grammar

/-- Whatever a parser gives at every depth for tokens of a script is read from a text. -/
theorem yields_readWith {α : Type} {good : α → Prop} {p : Grammar.Inner → Parser α}
    {cs : List Char} {a : α}
    (h : ∀ depth, Parser.Yields good (p (Grammar.nested depth)))
    (read : readWith p cs = .ok a) : good a := by
  simp only [readWith] at read
  split at read
  · cases read
  · split at read
    · next parsed hparsed =>
      cases read
      exact h _ _ _ _ (isOfScript_scanFrom [] true ⟨1, 0⟩ cs) ⟨parsed.isSuffix, hparsed⟩
    · cases read

/-- The clauses that a text is read as are good if the plain assignments at every depth are. -/
theorem forall_of_readWith {good : Clause → Prop}
    (others : ∀ c : Clause, c.isAssignment = false → good c)
    (expressions : ∀ depth, Parser.Yields good (Grammar.expressionClause (Grammar.nested depth)))
    {cs : List Char} {clauses : List Clause} (h : readWith Grammar.wholeScript cs = .ok clauses) :
    ∀ c ∈ clauses, good c :=
  yields_readWith (fun depth => Grammar.yields_wholeScript others (expressions depth)) h

/-- The clauses that a script is read as. -/
theorem isOfScript_of_readWith {cs : List Char} {clauses : List Clause}
    (h : readWith Grammar.wholeScript cs = .ok clauses) : ∀ c ∈ clauses, c.isOfScript = true :=
  forall_of_readWith (fun _ => Grammar.isOfScript_of_isAssignment)
    (fun depth => Grammar.yields_expressionClause (fun _ => Grammar.isOfScript_of_isAssignment)
      (Grammar.yieldsTree_yieldOrExpressions (Grammar.yieldsTrees_nested depth))
      fun _ => Grammar.yields_isOfScript_assignment (Grammar.yieldsTrees_nested depth)) h

end RateRules.Script
