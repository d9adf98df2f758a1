import RateRules.Proofs.Agreement
import RateRules.Proofs.ClauseDerivations

/-!
# Scripts that differ in places alone

The grammar of statements does not mind places either. So two scripts whose tokens differ in their
places alone are both refused, or have the same statements apart from their positions.
-/
namespace RateRules.Script

open Placeless

instance : Placeless Clause where
  placeless
    | .assign targets value => .assign (placeless targets) (placeless value)
    | .augment _ op target value => .augment .origin op (placeless target) (placeless value)
    | .expression t => .expression (placeless t)
    | .pass => .pass
    | .foreign _ command => .foreign .origin command

instance : Placeless Statement where
  placeless
    | .assign op target value _ => .assign op target value .origin
    | .expression e => .expression e

theorem assign_congr {targets targets' : List Tree} {value value' : Tree}
    (ht : placeless targets = placeless targets')
    (hv : placeless value = placeless value') :
    placeless (Clause.assign targets value) = placeless (Clause.assign targets' value') := by
  show Clause.assign (placeless targets) (placeless value) =
    Clause.assign (placeless targets') (placeless value')
  rw [ht, hv]

theorem augment_congr {place place' : Place} {op : Except ForeignOperator BinaryOp}
    {target target' value value' : Tree}
    (ht : placeless target = placeless target') (hv : placeless value = placeless value') :
    placeless (Clause.augment place op target value) =
      placeless (Clause.augment place' op target' value') := by
  show Clause.augment .origin op (placeless target) (placeless value) =
    Clause.augment .origin op (placeless target') (placeless value')
  rw [ht, hv]

namespace Grammar

open RateRules.Script.Parser

variable {inner : Inner}

theorem isSingleTarget_congr {t t' : Tree} (h : placeless t = placeless t') :
    t.isSingleTarget = t'.isSingleTarget := by
  rw [← Tree.isSingleTarget_placeless t, ← Tree.isSingleTarget_placeless t']
  exact congrArg Tree.isSingleTarget h

theorem agree_assignment (hinner : AgreeAll inner) {first first' : Tree}
    (h : placeless first = placeless first') :
    Agree (assignment inner first) (assignment inner first') := by
  refine agree_bind (agree_iterate ?_ (fun read read' same => ?_) (Prod.ext rfl h))
    fun read read' same => ?_
  · rintro ⟨targets, value⟩ tokens
    refine ensures_sees (fun sign more same _ => ?_) (ensures_pure nofun)
    refine ensures_bind (takesNothing_refuseTarget value tokens) fun _ mid kept => ?_
    rw [kept, same]
    exact ensures_advance takes_behind
  · obtain ⟨targets, value⟩ := read
    obtain ⟨targets', value'⟩ := read'
    obtain ⟨ht, hv⟩ : placeless targets = placeless targets' ∧ placeless value = placeless value' :=
      Prod.mk.inj same
    refine agree_ifSees (fun sign isEqual => ?_) (agree_pure rfl)
    refine agree_refuseTargetThen hv (agree_advance (Token.isStop_of_is isEqual (by decide)) ?_)
    refine agree_bind (agree_yieldOrExpressions hinner) fun next next' hnext => agree_pure ?_
    exact congrArg some (Prod.ext (cons_congr hv ht) hnext)
  · obtain ⟨targets, value⟩ := read
    obtain ⟨targets', value'⟩ := read'
    obtain ⟨ht, hv⟩ : placeless targets = placeless targets' ∧ placeless value = placeless value' :=
      Prod.mk.inj same
    refine agree_pure ?_
    cases targets with
    | nil =>
      rw [eq_nil_of_placeless_eq ht]
      exact congrArg Clause.expression hv
    | cons t more =>
      obtain ⟨t', more', rfl, _, _⟩ := cons_of_placeless_eq ht
      exact assign_congr (reverse_congr ht) hv

theorem agree_annotated (hinner : AgreeAll inner) (start start' : Place) {t t' : Tree}
    (h : placeless t = placeless t') :
    Agree ( annotated inner start t) ( annotated inner start' t') := by
  refine agree_then (agree_expect ":" (by decide)) fun _ => ?_
  rw [isSingleTarget_congr h]
  refine agree_ite ?_ ?_
  · refine agree_bind (hinner.agree .expression) fun _ _ _ => ?_
    refine agree_then (agree_skip "=" (by decide)) fun _ => ?_
    exact agree_check (agree_yieldOrExpressions hinner) (agree_pure rfl)
  · exact agree_bind (hinner.agree .expression) fun _ _ _ => agree_refuseAt _ _

theorem isStop_of_augmentation? {sign : Token} {op : Operation}
    (h : augmentation? sign = some op) : sign.isStop = false := by
  unfold augmentation? at h
  split at h
  all_goals cases h
  all_goals next lexeme => exact Token.isStop_of_sign lexeme (by decide)

theorem agree_augmented (hinner : AgreeAll inner) (start start' : Place) {t t' : Tree}
    (h : placeless t = placeless t') {sign : Token} {op : Operation}
    (signed : augmentation? sign = some op) :
    AgreeOn [sign] (augmented inner start t op) (augmented inner start' t' op) := by
  refine agree_advance (isStop_of_augmentation? signed)
    (agree_bind (agree_yieldOrExpressions hinner) fun value value' same => ?_)
  rw [isSingleTarget_congr h]
  exact agree_ite (agree_pure (augment_congr h same)) (agree_refuseAt _ _)

theorem agree_expressionClause (hinner : AgreeAll inner) :
    Agree (expressionClause inner) (expressionClause inner) := by
  refine agree_peekThen fun start place => agree_bind (agree_yieldOrExpressions hinner)
    fun t t' same => ?_
  refine agree_then (agree_sees ":") fun _ =>
    agree_ite (agree_annotated hinner _ _ same) (agree_look fun u place' => ?_)
  have op : augmentation? { u with place := place' } = augmentation? u := rfl
  rw [op]
  cases signed : augmentation? u with
  | some op => exact agree_augmented hinner _ _ same signed
  | none => exact AgreeOn.of_agree (agree_assignment hinner same)

mutual

theorem badDeletion?_placeless (t : Tree) :
    t.placeless.badDeletion? = t.badDeletion?.map placeless := by
  cases t with
  | tuple place items => exact badDeletionOf?_placeless items
  | list place items => exact badDeletionOf?_placeless items
  | foreign place construct => cases construct <;> rfl
  | _ => rfl

theorem badDeletionOf?_placeless (ts : List Tree) :
    Tree.badDeletionOf? (Tree.placelessAll ts) = (Tree.badDeletionOf? ts).map placeless := by
  cases ts with
  | nil => rfl
  | cons t more =>
    rw [Tree.placelessAll, Tree.badDeletionOf?, Tree.badDeletionOf?, badDeletion?_placeless t,
      badDeletionOf?_placeless more]
    cases t.badDeletion? <;> rfl

end

theorem agree_deletion (hinner : AgreeAll inner) : Agree (deletion inner) (deletion inner) := by
  refine agree_bind (agree_starExpressions hinner) fun t t' h => ?_
  have same : placeless t.badDeletion? = placeless t'.badDeletion? := by
    have := congrArg Tree.badDeletion? h
    exact (badDeletion?_placeless t).symm.trans (this.trans (badDeletion?_placeless t'))
  rcases option_cases same with ⟨none, none'⟩ | ⟨bad, bad', found, found', _⟩
  · rw [none, none']
    exact agree_peekThen fun u place => agree_ite agree_refuse (agree_pure rfl)
  · rw [found, found']
    exact agree_refuseAt _ _

theorem agree_raising (hinner : AgreeAll inner) : Agree (raising inner) (raising inner) := by
  refine agree_peekThen fun t place => agree_ite ?_ (agree_pure rfl)
  refine agree_bind (hinner.agree .expression) fun _ _ _ => ?_
  refine agree_then (agree_skip "from" (by decide)) fun _ => agree_ite ?_ (agree_pure rfl)
  exact agree_bind (hinner.agree .expression) fun _ _ _ => agree_pure rfl

theorem agree_assertion (hinner : AgreeAll inner) : Agree (assertion inner) (assertion inner) :=
  agree_bind (hinner.agree .expression) fun _ _ _ => agree_then (agree_skip "," (by decide))
      fun _ =>
    agree_ite (agree_bind (hinner.agree .expression) fun _ _ _ => agree_pure rfl) (agree_pure rfl)

theorem agree_dottedName : Agree dottedName dottedName := by
  refine agree_then agree_name fun _ => agree_iterate takes_skip (fun _ _ _ => ?_) rfl
  exact agree_then (agree_skip "." (by decide)) fun _ => agree_ite (agree_then agree_name fun _ =>
    agree_pure rfl) (agree_pure rfl)

theorem agree_renamed {p : Parser Unit} (hp : Agree p p) : Agree (renamed p) (renamed p) :=
  agree_then hp fun _ => agree_then (agree_skip "as" (by decide)) fun _ =>
    agree_ite (agree_then agree_name fun _ => agree_pure rfl) (agree_pure rfl)

theorem agree_dots : Agree dots dots := by
  refine agree_iterate (fun _ tokens => ?_) (fun _ _ _ => ?_) rfl
  · refine ensures_seesOneOfThen ?_
    rintro t more rfl
    exact ensures_ite (fun _ => ensures_advance takes_behind) fun _ => ensures_pure nofun
  · exact agree_seenOneOf fun t => agree_if (fun isDots =>
      agree_advance (Token.isStop_of_isOneOf isDots (by decide)) (agree_pure rfl))
        fun _ => agree_pure rfl

theorem agree_importedNames : Agree importedNames importedNames := by
  have item := agree_renamed (p := do let _ ← name) (agree_then agree_name fun _ => agree_pure rfl)
  refine agree_then (agree_skip "*" (by decide)) fun _ => agree_ite (agree_pure rfl) ?_
  refine agree_then (agree_skip "(" (by decide)) fun _ => agree_ite ?_ ?_
  · refine agree_then item fun _ => agree_bind (agree_furtherItems (fun _ _ => rfl) item)
      fun _ _ _ => agree_expect ")" (by decide)
  · exact agree_bind (agree_itemsOf item) fun _ _ _ => agree_pure rfl

theorem agree_importFrom : Agree importFrom importFrom := by
  refine agree_then agree_dots fun _ => agree_then (agree_sees "import") fun _ => ?_
  refine agree_check agree_dottedName ?_
  exact agree_then (agree_expect "import" (by decide)) fun _ => agree_importedNames

theorem agree_afterWord (hinner : AgreeAll inner) (start start' : Place) (word : String) :
    Agree (afterWord inner start word) (afterWord inner start' word) := by
  have names : Agree (itemsOf name) (itemsOf name) := agree_itemsOf agree_name
  unfold afterWord
  split
  · exact agree_pure rfl
  · exact agree_pure rfl
  · exact agree_pure rfl
  · exact agree_peekThen fun t place => agree_check (agree_starExpressions hinner) (agree_pure rfl)
  · exact agree_then (agree_raising hinner) fun _ => agree_pure rfl
  · exact agree_bind names fun _ _ _ => agree_pure rfl
  · exact agree_bind names fun _ _ _ => agree_pure rfl
  · exact agree_then (agree_deletion hinner) fun _ => agree_pure rfl
  · exact agree_then (agree_assertion hinner) fun _ => agree_pure rfl
  · exact agree_bind (agree_itemsOf (agree_renamed agree_dottedName)) fun _ _ _ => agree_pure rfl
  · exact agree_then agree_importFrom fun _ => agree_pure rfl
  · exact agree_refuse

theorem agree_simpleClause (hinner : AgreeAll inner) :
    Agree (simpleClause inner) (simpleClause inner) := by
  refine agree_look fun t place => ?_
  have word : simpleWords.find? ({ t with place := place } : Token).is = simpleWords.find? t.is :=
    rfl
  rw [word]
  cases found : simpleWords.find? t.is with
  | some word =>
    have isWord : t.isOneOf simpleWords = true :=
      List.any_eq_true.mpr ⟨word, List.mem_of_find?_eq_some found, List.find?_some found⟩
    exact agree_advance (Token.isStop_of_isOneOf isWord (by decide))
      (agree_afterWord hinner _ _ word)
  | none => exact AgreeOn.of_agree (agree_expressionClause hinner)

end Grammar

/-- What is read, whatever is blamed where nothing is. -/
def answer? {α : Type} [Placeless α] (result : Except Problem α) : Option α :=
  result.toOption.map placeless

instance : Placeless Expr := ⟨id⟩

instance : Placeless UnaryOp := ⟨id⟩

instance : Placeless BinaryOp := ⟨id⟩

instance : PlaceFree Expr := ⟨fun _ => rfl⟩

instance : PlaceFree UnaryOp := ⟨fun _ => rfl⟩

instance : PlaceFree BinaryOp := ⟨fun _ => rfl⟩

variable {α β : Type} [Placeless α] [Placeless β]

theorem answer?_bind {r r' : Except Problem α} {f f' : α → Except Problem β}
    (h : answer? r = answer? r')
    (hf : ∀ a a', placeless a = placeless a' → answer? (f a) = answer? (f' a')) :
    answer? (r >>= f) = answer? (r' >>= f') := by
  cases r with
  | error problem =>
    cases r' with
    | error problem' => rfl
    | ok a' => cases h
  | ok a =>
    cases r' with
    | error problem' => cases h
    | ok a' => exact hf a a' (Option.some.inj h)

/-- What is read first holds no place, so it is the same. -/
theorem answer?_then [PlaceFree α] {r r' : Except Problem α} {f f' : α → Except Problem β}
    (h : answer? r = answer? r')
    (hf : ∀ a, answer? (f a) = answer? (f' a)) : answer? (r >>= f) = answer? (r' >>= f') := by
  refine answer?_bind h fun a a' same => ?_
  rw [PlaceFree.placeless_eq, PlaceFree.placeless_eq] at same
  rw [same]
  exact hf a'

theorem answer?_knownOperator (place place' : Place) (op : Except ForeignOperator α) :
    answer? (knownOperator place op) = answer? (knownOperator place' op) := by
  cases op <;> rfl

theorem answer?_numberOf (place place' : Place) (text : String) :
    answer? (numberOf place text) = answer? (numberOf place' text) := by
  rw [numberOf, numberOf]
  cases Decimal.ofText? text with
  | none => rfl
  | some d =>
    simp only
    split <;> rfl

mutual

/-- The expression of a tree does not depend on places. -/
theorem answer?_expr_placeless (t : Tree) : answer? t.placeless.expr = answer? t.expr := by
  cases t with
  | number place text => exact answer?_numberOf .origin place text
  | unary place op operand =>
    exact answer?_then (answer?_knownOperator _ _ op) fun _ =>
      answer?_then (answer?_expr_placeless operand) fun _ => rfl
  | binary place op left right =>
    exact answer?_then (answer?_knownOperator _ _ op) fun _ =>
        answer?_then (answer?_expr_placeless left) fun _ =>
      answer?_then (answer?_expr_placeless right) fun _ => rfl
  | call place callee args named =>
    cases named with
    | true => rfl
    | false =>
      exact answer?_then (answer?_expr_placeless callee) fun _ =>
        answer?_then (answer?_exprsOf_placeless args) fun _ => rfl
  | _ => rfl

theorem answer?_exprsOf_placeless (ts : List Tree) :
    answer? (exprsOf (Tree.placelessAll ts)) = answer? (exprsOf ts) := by
  cases ts with
  | nil => rfl
  | cons t more =>
    exact answer?_then (answer?_expr_placeless t) fun _ =>
      answer?_then (answer?_exprsOf_placeless more) fun _ => rfl

end

theorem answer?_expr {t t' : Tree} (h : placeless t = placeless t') :
    answer? t.expr = answer? t'.expr := by
  rw [← answer?_expr_placeless t, ← answer?_expr_placeless t']
  exact congrArg (fun t => answer? (Tree.expr t)) h

theorem answer?_exprsOf {ts ts' : List Tree} (h : placeless ts = placeless ts') :
    answer? (exprsOf ts) = answer? (exprsOf ts') := by
  rw [← answer?_exprsOf_placeless ts, ← answer?_exprsOf_placeless ts', Tree.placelessAll_eq_map,
    Tree.placelessAll_eq_map]
  exact congrArg (fun ts => answer? (exprsOf ts)) h

theorem answer?_statements {c c' : Clause} (h : placeless c = placeless c') :
    answer? c.statements = answer? c'.statements := by
  cases c with
  | assign targets value =>
    cases c' with
    | assign targets' value' =>
      obtain ⟨ht, hv⟩ : placeless targets = placeless targets' ∧
        placeless value = placeless value' := Clause.assign.inj h
      refine answer?_then (answer?_expr hv) fun e => answer?_then (answer?_exprsOf ht) fun es => ?_
      refine congrArg some ?_
      show (es.map fun target => Statement.assign none target e value.place).map placeless =
        (es.map fun target => Statement.assign none target e value'.place).map placeless
      rw [List.map_map, List.map_map]
      rfl
    | _ => cases h
  | augment place op target value =>
    cases c' with
    | augment place' op' target' value' =>
      obtain ⟨_, rfl, ht, hv⟩ := Clause.augment.inj h
      refine answer?_then (answer?_knownOperator _ _ op) fun op => answer?_then (answer?_expr ht)
        fun target => ?_
      exact answer?_then (answer?_expr hv) fun value => rfl
    | _ => cases h
  | expression t =>
    cases c' with
    | expression t' => exact answer?_then (answer?_expr (Clause.expression.inj h)) fun _ => rfl
    | _ => cases h
  | pass =>
    cases c' with
    | pass => rfl
    | _ => cases h
  | foreign place command =>
    cases c' with
    | foreign place' command' => rfl
    | _ => cases h

theorem append_congr {as as' bs bs' : List α} (h : placeless as = placeless as')
    (h' : placeless bs = placeless bs') :
    placeless (as ++ bs) = placeless (as' ++ bs') := by
  have whole : ∀ xs ys : List α, placeless (xs ++ ys) = placeless xs ++ placeless ys :=
    fun _ _ => List.map_append
  rw [whole, whole, h, h']

theorem answer?_statementsOf {cs cs' : List Clause} (h : placeless cs = placeless cs') :
    answer? (statementsOf cs) = answer? (statementsOf cs') := by
  induction cs generalizing cs' with
  | nil =>
    rw [eq_nil_of_placeless_eq h]
  | cons c more ih =>
    obtain ⟨c', more', rfl, hc, hmore⟩ := cons_of_placeless_eq h
    refine answer?_bind (answer?_statements hc) fun first first' hfirst => ?_
    exact answer?_bind (ih hmore) fun rest rest' hrest => congrArg some (append_congr hfirst hrest)

end RateRules.Script
