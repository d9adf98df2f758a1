import RateRules.Proofs.Derivations
import RateRules.Proofs.Placeless

/-!
# The grammar of expressions does not mind places

Each production looks at the lexemes of the tokens and hands their places on, to the trees or to the
lines that it blames, and it takes no token that ends a clause. If the parsers of the levels inside
agree on tokens that differ in their places alone up to such a token, so does each production, and
then the parsers of every depth do.
-/
namespace RateRules.Script

open Placeless

variable {α : Type} [Placeless α]

theorem option_cases {o o' : Option α} (h : placeless o = placeless o') :
    (o = none ∧ o' = none) ∨ ∃ a a', o = some a ∧ o' = some a' ∧ placeless a = placeless a' := by
  cases o with
  | none =>
    cases o' with
    | none => exact Or.inl ⟨rfl, rfl⟩
    | some a' => cases h
  | some a =>
    cases o' with
    | none => cases h
    | some a' => exact Or.inr ⟨a, a', rfl, rfl, Option.some.inj h⟩

namespace Grammar

open RateRules.Script.Parser

/-- The parsers of all levels do not mind places, and what they read is derived. -/
structure AgreeAll (inner : Inner) : Prop where
  agree : ∀ level, Agree (inner level) (inner level)
  spells : SpellsAll inner

variable {inner : Inner} {front : List Token} {t : Token}

theorem agree_starred (hinner : AgreeAll inner) (inside : t.isStop = false) (level : Level) :
    AgreeOn (t :: front) (starred inner level) (starred inner level) :=
  agree_next inside fun _ => agree_bind (AgreeOn.of_agree (hinner.agree level)) fun _ _ same =>
    agree_pure (congrArg (Tree.starred _) same)

theorem agree_starredOr (hinner : AgreeAll inner) (level : Level) {p p' : Parser Tree}
    (hp : Agree p p') :
    Agree (do if ← sees "*" then starred inner level else p)
      (do if ← sees "*" then starred inner level else p') :=
  agree_ifSees (fun _ isStar =>
    agree_starred hinner (Token.isStop_of_is isStar (by decide)) level) hp

theorem agree_tupleOf {starts : Token → Bool}
    (hstarts : ∀ (t : Token) place, starts { t with place := place } = starts t)
    {item : Parser Tree}
    (hitem : Agree item item) : Agree (tupleOf starts item) (tupleOf starts item) := by
  refine agree_peekThen fun t place => agree_bind hitem fun first first' hfirst => ?_
  refine agree_then (agree_sees ",") fun _ => agree_ite ?_ (agree_pure hfirst)
  refine agree_bind (agree_furtherItems hstarts hitem) fun more more' hmore => agree_pure ?_
  exact Tree.tuple_congr (cons_congr hfirst hmore)

theorem agree_starExpressions (hinner : AgreeAll inner) :
    Agree (starExpressions inner) (starExpressions inner) :=
  agree_tupleOf (fun _ _ => rfl) (agree_starredOr hinner .bitOr (hinner.agree .expression))

theorem agree_yieldExpression (hinner : AgreeAll inner) (inside : t.isStop = false) :
    AgreeOn (t :: front) (yieldExpression inner) (yieldExpression inner) := by
  refine agree_next inside fun place => agree_then (agree_skip "from" (by decide)) fun _ =>
    agree_ite ?_ ?_
  · exact agree_bind (hinner.agree .expression) fun _ _ _ => agree_pure rfl
  · refine agree_peekThen fun t place => agree_ite ?_ (agree_pure rfl)
    exact agree_bind (agree_starExpressions hinner) fun _ _ _ => agree_pure rfl

theorem agree_yieldOrExpressions (hinner : AgreeAll inner) :
    Agree (yieldOrExpressions inner) (yieldOrExpressions inner) :=
  agree_ifSees (fun _ isYield =>
    agree_yieldExpression hinner (Token.isStop_of_is isYield (by decide)))
    (agree_starExpressions hinner)

theorem isAssignable_placeless (t : Tree) : isAssignable t.placeless = isAssignable t := by
  cases t with
  | unary place op operand => cases op <;> rfl
  | _ => rfl

theorem isAssignable_congr {t t' : Tree} (h : placeless t = placeless t') :
    isAssignable t = isAssignable t' := by
  rw [← isAssignable_placeless t, ← isAssignable_placeless t']
  exact congrArg isAssignable h

theorem agree_refuseAssignment (hinner : AgreeAll inner) {t t' : Tree}
    (h : placeless t = placeless t') :
    Agree (refuseAssignment inner t) (refuseAssignment inner t') := by
  rw [refuseAssignment, refuseAssignment, isAssignable_congr h]
  refine agree_ifSees (fun sign isSign => ?_) (agree_seen fun sign => agree_if (fun isSign => ?_)
    fun _ => agree_pure rfl)
  · refine agree_peekKnown fun place => agree_advance (Token.isStop_of_is isSign (by decide)) ?_
    refine agree_bind (agree_attempt (hinner.agree .expression)) fun o o' same => ?_
    rcases option_cases same with ⟨rfl, rfl⟩ | ⟨a, a', rfl, rfl, same⟩
    · exact agree_throw _ _
    · exact agree_refuseAt _ _
  · have isEqual : sign.is "=" = true := (Bool.and_eq_true_iff.mp isSign).1
    refine agree_peekKnown fun place => agree_advance (Token.isStop_of_is isEqual (by decide)) ?_
    refine agree_bind (agree_attempt (hinner.agree .bitOr)) fun o o' same => ?_
    rcases option_cases same with ⟨rfl, rfl⟩ | ⟨a, a', rfl, rfl, same⟩
    · exact agree_throw _ _
    · exact agree_then (agree_seesOneOf _) fun _ => agree_ite (agree_throw _ _) (agree_refuseAt _ _)

theorem agree_nameBefore? (hinner : AgreeAll inner) :
    Agree (nameBefore? inner) (nameBefore? inner) := by
  refine agree_look fun first place => agree_peekSecond (fun stops second second' => ?_)
    fun inside second place' => ?_
  · -- A stop is no name.
    have noName : ∀ place, ({ first with place := place } : Token).name? = none :=
      fun _ => Token.name?_of_isStop stops
    simp only [Token.name?_of_isStop stops, noName, Option.isSome_none, Bool.false_and,
      Bool.false_eq_true, if_false]
    exact agree_pure rfl
  · refine agree_if (fun isNamed => ?_) fun _ => agree_pure rfl
    have isSign : second.is ":=" = true := (Bool.and_eq_true_iff.mp isNamed).2
    refine agree_advance inside (agree_advance (Token.isStop_of_is isSign (by decide)) ?_)
    exact agree_bind (hinner.agree .expression) fun _ _ _ => agree_pure rfl

theorem agree_namedWith (hinner : AgreeAll inner) {expression : Parser Tree}
    (he : Agree expression expression) :
    Agree (namedWith expression inner) (namedWith expression inner) := by
  refine agree_bind (agree_nameBefore? hinner) fun before before' same => ?_
  rcases option_cases same with ⟨rfl, rfl⟩ | ⟨t, t', rfl, rfl, inside⟩
  · exact agree_bind he fun t t' same => agree_then (agree_refuseAssignment hinner same) fun _ =>
      agree_pure same
  · exact agree_pure inside

theorem agree_named (hinner : AgreeAll inner) : Agree (named inner) (named inner) :=
  agree_namedWith hinner (hinner.agree .expression)

theorem agree_starNamed (hinner : AgreeAll inner) : Agree (starNamed inner) (starNamed inner) :=
  agree_starredOr hinner .bitOr (agree_named hinner)

theorem agree_annotation (hinner : AgreeAll inner) (annotated : Bool) :
    Agree ( annotation inner annotated) ( annotation inner annotated) :=
  agree_ite (agree_then (agree_skip ":" (by decide)) fun _ =>
    agree_ite (agree_bind (hinner.agree .expression) fun _ _ _ => agree_pure rfl) (agree_pure rfl))
      (agree_pure rfl)

theorem agree_parameter? (hinner : AgreeAll inner) (annotated : Bool) (ps : Parameters) :
    Agree (parameter? inner annotated ps) (parameter? inner annotated ps) := by
  refine agree_look fun t place => agree_if (fun isName => ?_) fun _ => agree_if (fun isSlash => ?_)
    fun _ => agree_if (fun isStar => ?_) fun _ => agree_if (fun isDouble => ?_) fun _ =>
      agree_pure rfl
  · refine agree_advance (Token.isStop_of_name? isName)
      (agree_then ( agree_annotation hinner annotated) fun _ => ?_)
    refine agree_then (agree_skip "=" (by decide)) fun _ =>
      agree_check (hinner.agree .expression) ?_
    exact agree_check agree_refuse (agree_pure rfl)
  · exact agree_unless (agree_advance (Token.isStop_of_is isSlash (by decide)) (agree_pure rfl))
  · refine agree_unless (agree_advance (Token.isStop_of_is isStar (by decide))
        (agree_look fun u place' =>
      agree_if (fun isName => ?_) fun _ => ?_))
    · refine agree_advance (Token.isStop_of_name? isName) (agree_ite ?_ (agree_pure rfl))
      refine agree_then (agree_skip ":" (by decide)) fun _ => agree_ite ?_ (agree_pure rfl)
      refine agree_ifSees (fun v isStar => ?_) ?_
      · exact agree_bind (agree_starred hinner (Token.isStop_of_is isStar (by decide)) .bitOr)
          fun _ _ _ => agree_pure rfl
      · exact agree_bind (hinner.agree .expression) fun _ _ _ => agree_pure rfl
    · exact agree_then (agree_sees ",") fun _ => agree_ite (agree_pure rfl) agree_refuse
  · refine agree_unless (agree_advance (Token.isStop_of_is isDouble (by decide))
      (agree_then agree_name fun _ => ?_))
    exact agree_then ( agree_annotation hinner annotated) fun _ => agree_pure rfl

/-- A parameter takes a token. -/
theorem takes_parameter? (annotated : Bool) (ps : Parameters) (tokens : List Token) :
    Ensures tokens (parameter? inner annotated ps) fun found rest =>
      found.isSome → rest.length < tokens.length := by
  refine ensures_peek ?_
  rintro t more rfl
  refine ensures_ite (fun _ => ensures_advance takes_behind) fun _ =>
    ensures_ite (fun _ => ?_) fun _ => ensures_ite (fun _ => ?_) fun _ =>
    ensures_ite (fun _ => ?_) fun _ => ensures_pure nofun
  all_goals
    exact ensures_check (fun _ => ensures_refuse) fun _ => ensures_advance takes_behind

theorem agree_parameters (hinner : AgreeAll inner) (annotated : Bool) (closing : String) :
    Agree (parameters inner annotated closing) (parameters inner annotated closing) := by
  refine agree_then (agree_iterate ?_ (fun read read' same => ?_) rfl) fun last => ?_
  · rintro ⟨ps, more⟩ tokens
    refine ensures_seen fun _ => ensures_ite (fun _ => ensures_pure nofun) fun _ => ?_
    refine ensures_bind (takes_parameter? annotated ps tokens) fun found mid taken => ?_
    cases found with
    | none => exact ensures_refuse
    | some found => exact takes_from (taken rfl)
  · obtain rfl : read = read' := same
    obtain ⟨ps, more⟩ := read
    refine agree_then (agree_sees closing) fun _ => agree_ite (agree_pure rfl) ?_
    refine agree_then (agree_parameter? hinner annotated ps) fun found => ?_
    cases found with
    | none => exact agree_refuse
    | some found =>
      obtain ⟨ps, more⟩ := found
      exact agree_then (agree_skip "," (by decide)) fun _ =>
        agree_ite (agree_pure rfl) (agree_pure rfl)
  · exact agree_ite agree_refuse (agree_pure rfl)

mutual

theorem badTarget?_placeless (t : Tree) : t.placeless.badTarget? = t.badTarget?.map placeless := by
  cases t with
  | tuple place items => exact badTargetOf?_placeless items
  | list place items => exact badTargetOf?_placeless items
  | starred place inside => exact badTarget?_placeless inside
  | foreign place construct => cases construct <;> rfl
  | _ => rfl

theorem badTargetOf?_placeless (ts : List Tree) :
    Tree.badTargetOf? (Tree.placelessAll ts) = (Tree.badTargetOf? ts).map placeless := by
  cases ts with
  | nil => rfl
  | cons t more =>
    rw [Tree.placelessAll, Tree.badTargetOf?, Tree.badTargetOf?, badTarget?_placeless t,
      badTargetOf?_placeless more]
    cases t.badTarget? <;> rfl

end

theorem badTarget?_congr {t t' : Tree} (h : placeless t = placeless t') :
    placeless t.badTarget? = placeless t'.badTarget? := by
  have same := congrArg Tree.badTarget? h
  exact (badTarget?_placeless t).symm.trans (same.trans (badTarget?_placeless t'))

theorem agree_refuseTarget {t t' : Tree} (h : placeless t = placeless t') :
    Agree (refuseTarget t) (refuseTarget t') := by
  rw [refuseTarget, refuseTarget]
  rcases option_cases (badTarget?_congr h) with ⟨none, none'⟩ | ⟨bad, bad', found, found', _⟩
  · rw [none, none']
    exact agree_pure rfl
  · rw [found, found']
    exact agree_refuseAt _ _

/-- The first tokens stay known if the target is not refused. -/
theorem agree_refuseTargetThen {β : Type} [Placeless β] {t t' : Tree}
    (h : placeless t = placeless t') {q q' : Parser β} (hq : AgreeOn front q q') :
    AgreeOn front (refuseTarget t >>= fun _ => q) (refuseTarget t' >>= fun _ => q') := by
  rw [refuseTarget, refuseTarget]
  rcases option_cases (badTarget?_congr h) with ⟨none, none'⟩ | ⟨bad, bad', found, found', _⟩
  · rw [none, none']
    exact agree_pure_then hq
  · rw [found, found']
    exact agree_refuseAt_then _ _

theorem agree_roundTargets (hinner : AgreeAll inner) :
    Agree (roundTargets inner) (roundTargets inner) := by
  have item := agree_starredOr hinner .bitOr (hinner.agree .bitOr)
  refine agree_bind (agree_tupleOf (fun _ _ => rfl) item) fun t t' same => ?_
  exact agree_then (agree_refuseTarget same) fun _ => agree_pure same

theorem agree_comprehension (hinner : AgreeAll inner) :
    Agree (comprehension inner) (comprehension inner) := by
  refine agree_iterate (fun _ tokens => ?_) (fun _ _ _ => agree_peekThen fun t place =>
    agree_ite ?_ (agree_pure rfl)) rfl
  · refine ensures_peek fun _ _ _ => ensures_ite (fun _ => ?_) fun _ => ensures_pure nofun
    refine ensures_then fun _ mid skipped => ensures_expect ?_
    rintro word more rfl _
    exact takes_from (List.IsSuffix.length_le skipped)
  · refine agree_then (agree_skip "async" (by decide)) fun _ =>
      agree_then (agree_expect "for" (by decide)) fun _ => ?_
    refine agree_bind (agree_roundTargets hinner) fun _ _ _ =>
      agree_then (agree_expect "in" (by decide)) fun _ => ?_
    refine agree_bind (hinner.agree .disjunction) fun _ _ _ =>
      agree_then (agree_iterate takes_skip (fun _ _ _ => ?_) rfl) fun _ => agree_pure rfl
    exact agree_then (agree_skip "if" (by decide)) fun _ =>
      agree_ite (agree_bind (hinner.agree .disjunction) fun _ _ _ => agree_pure rfl)
        (agree_pure rfl)

theorem agree_number (inside : t.isStop = false) (place : Place) (text : String) :
    AgreeOn (t :: front) (number t text) (number { t with place := place } text) := by
  refine agree_ite agree_refuse (agree_advance inside (agree_pure ?_))
  split <;> rfl

/-- A field is read from its own tokens, which are the same wherever the field stands. -/
theorem agree_field (hinner : AgreeAll inner) (line line' : Nat) (f : Field) :
    Agree (field inner line f) (field inner line' f) := by
  have tokens := placeless_scanFrom [] true ⟨line + f.linesBefore, 0⟩ ('(' :: f.text ++ [')', '\n'])
    ⟨line' + f.linesBefore, 0⟩ rfl
  obtain ⟨stop, behind, behind', _, alike⟩ := exists_alike tokens (ends_scanFrom _ _ _ _)
  have read := hinner.agree .primary alike
  rw [field, field]
  simp only [outcome?, scan, List.nil_append] at read ⊢
  split
  · next hread =>
    rw [hread] at read
    split
    · exact agree_pure rfl
    · next hread' =>
      rw [hread'] at read
      cases read
  · next hread =>
    rw [hread] at read
    split
    · next hread' =>
      rw [hread'] at read
      cases read
    · exact agree_refuseAt _ _

theorem agree_template (hinner : AgreeAll inner) (t : Token) (place : Place) (q : Quotation) :
    Agree (template inner t q) (template inner { t with place := place } q) := by
  have fields :=
    agree_forIn (Template.ofQuotation q).fields fun f => agree_field hinner t.line place.line f
  exact agree_then fields fun _ => agree_ite agree_refuse (agree_pure rfl)

theorem agree_quotationRun : Agree quotationRun quotationRun := by
  refine agree_bind (@agree_iterate (List (Token × Quotation)) _ _ _ (fun run tokens => ?_)
    (fun run run' same => ?_) [] [] rfl) fun run run' same => agree_pure (reverse_congr same)
  · refine ensures_peek ?_
    rintro t more rfl
    split
    · exact ensures_advance takes_behind
    · exact ensures_pure nofun
  · refine agree_look fun t place => ?_
    obtain ⟨lexeme, place', depth⟩ := t
    cases lexeme with
    | quotation q =>
      exact agree_advance rfl (agree_pure (congrArg some (cons_congr rfl same)))
    | _ => exact agree_pure rfl

theorem agree_quotationFrom (hinner : AgreeAll inner) (start start' : Place) (bytes : Bool)
    (run run' : List (Token × Quotation)) (same : placeless run = placeless run') (templated : Bool)
    (codes : List Nat) :
    Agree (quotationFrom inner start bytes run templated codes)
      (quotationFrom inner start' bytes run' templated codes) := by
  induction run generalizing run' templated codes with
  | nil =>
    rw [eq_nil_of_placeless_eq same]
    exact agree_pure (by split <;> rfl)
  | cons quoted more ih =>
    obtain ⟨⟨t', q'⟩, more', rfl, first, behind⟩ := cons_of_placeless_eq same
    obtain ⟨t, q⟩ := quoted
    obtain ⟨ht, rfl⟩ : placeless t = placeless t' ∧ q = q' := Prod.mk.inj first
    obtain ⟨place, rfl⟩ := Token.eq_of_placeless_eq ht
    rw [quotationFrom, quotationFrom]
    refine agree_check (agree_refuseAt _ _) ?_
    cases if q.formatted then some [] else Literal.codes? q with
    | none => exact agree_refuse
    | some found =>
      exact agree_check agree_refuse (agree_check (agree_template hinner t place q)
        (ih _ behind _ _))

theorem agree_quotations (hinner : AgreeAll inner) :
    Agree (quotations inner) (quotations inner) := by
  refine agree_bind agree_quotationRun fun run run' same => ?_
  cases run with
  | nil =>
    rw [eq_nil_of_placeless_eq same]
    exact agree_refuse
  | cons quoted more =>
    obtain ⟨⟨t', q'⟩, more', rfl, first, behind⟩ := cons_of_placeless_eq same
    obtain ⟨t, q⟩ := quoted
    obtain ⟨_, rfl⟩ : placeless t = placeless t' ∧ q = q' := Prod.mk.inj first
    exact agree_quotationFrom hinner _ _ _ _ _ same _ _

theorem isStarred_congr {t t' : Tree} (h : placeless t = placeless t') :
    t.isStarred = t'.isStarred := by
  rw [← Tree.isStarred_placeless t, ← Tree.isStarred_placeless t']
  exact congrArg Tree.isStarred h

theorem agree_group (hinner : AgreeAll inner) (start start' : Place) :
    Agree (group inner start) (group inner start') := by
  refine agree_then (agree_skip ")" (by decide)) fun _ => agree_ite (agree_pure rfl) ?_
  refine agree_ifSees (fun t isYield => ?_) ?_
  · exact agree_bind (agree_yieldExpression hinner (Token.isStop_of_is isYield (by decide)))
        fun _ _ same =>
      agree_then (agree_expect ")" (by decide)) fun _ => agree_pure same
  · refine agree_bind (agree_starNamed hinner) fun first first' same =>
      agree_peekThen fun after place => ?_
    rw [isStarred_congr same]
    refine agree_ite ?_ (agree_ite ?_ ?_)
    · refine agree_bind (agree_furtherItems (fun _ _ => rfl) (agree_starNamed hinner))
        fun more more' hmore => ?_
      refine agree_peekThen fun t place =>
        agree_check agree_refuse (agree_then (agree_expect ")" (by decide)) fun _ => ?_)
      exact agree_pure (Tree.tuple_congr (cons_congr same hmore))
    · refine agree_check (agree_refuseAt _ _) (agree_then (agree_comprehension hinner) fun _ => ?_)
      exact agree_then (agree_expect ")" (by decide)) fun _ => agree_pure rfl
    · exact agree_check (agree_refuseAt _ _) (agree_then (agree_expect ")" (by decide)) fun _ =>
        agree_pure same)

theorem agree_displayItems? (hinner : AgreeAll inner) {first first' : Tree}
    (h : placeless first = placeless first') (closing : String) (other : closing ≠ ";") :
    Agree (displayItems? inner first closing) (displayItems? inner first' closing) := by
  rw [displayItems?, displayItems?, isStarred_congr h]
  refine agree_peekThen fun t place => agree_ite ?_ ?_
  · refine agree_check (agree_refuseAt _ _) (agree_then (agree_comprehension hinner) fun _ => ?_)
    exact agree_then (agree_expect closing other) fun _ => agree_pure rfl
  · refine agree_bind (agree_furtherItems (fun _ _ => rfl) (agree_starNamed hinner))
      fun more more' hmore => ?_
    refine agree_peekThen fun t place =>
      agree_check (agree_refuseAt _ _) (agree_then (agree_expect closing other) fun _ => ?_)
    exact agree_pure (congrArg some (cons_congr h hmore))

theorem agree_listDisplay (hinner : AgreeAll inner) (start start' : Place) :
    Agree (listDisplay inner start) (listDisplay inner start') := by
  refine agree_then (agree_skip "]" (by decide)) fun _ => agree_ite (agree_pure rfl) ?_
  refine agree_bind (agree_starNamed hinner) fun first first' same => ?_
  refine agree_bind (agree_displayItems? hinner same "]" (by decide)) fun items items' hitems => ?_
  rcases option_cases hitems with ⟨rfl, rfl⟩ | ⟨ts, ts', rfl, rfl, inside⟩
  · exact agree_pure rfl
  · exact agree_pure (Tree.list_congr inside)

theorem agree_entryValue (hinner : AgreeAll inner) (inside : t.isStop = false) :
    AgreeOn (t :: front) (entryValue inner) (entryValue inner) := by
  refine agree_peekKnown fun place => agree_advance inside (AgreeOn.of_agree ?_)
  refine agree_then (agree_seesOneOf _) fun _ => agree_check (agree_refuseAt _ _) ?_
  refine agree_then (agree_sees "*") fun _ => agree_check agree_refuse ?_
  exact agree_bind (hinner.agree .expression) fun _ _ _ => agree_pure rfl

theorem agree_entry (hinner : AgreeAll inner) : Agree (entry inner) (entry inner) := by
  refine agree_then (agree_skip "**" (by decide)) fun _ => agree_ite ?_ ?_
  · exact agree_bind (hinner.agree .bitOr) fun _ _ _ => agree_pure rfl
  · refine agree_peekThen fun start place => agree_bind (hinner.agree .expression) fun _ _ _ => ?_
    refine agree_seen fun colon => agree_if (fun _ => agree_refuseAt_then _ _) fun isColon => ?_
    exact agree_entryValue hinner (Token.isStop_of_is (by simpa using isColon) (by decide))

theorem agree_dictionary (hinner : AgreeAll inner) (start start' : Place) :
    Agree (dictionary inner start) (dictionary inner start') :=
  agree_bind (agree_furtherItems (fun _ _ => rfl) (agree_entry hinner)) fun _ _ _ =>
    agree_then (agree_expect "\x7d" (by decide)) fun _ => agree_pure rfl

theorem agree_braceDisplay (hinner : AgreeAll inner) (start start' : Place) :
    Agree (braceDisplay inner start) (braceDisplay inner start') := by
  refine agree_then (agree_skip "\x7d" (by decide)) fun _ => agree_ite (agree_pure rfl) ?_
  refine agree_then (agree_skip "**" (by decide)) fun _ => agree_ite ?_ ?_
  · exact agree_bind (hinner.agree .bitOr) fun _ _ _ => agree_dictionary hinner start start'
  · refine agree_bind (agree_starNamed hinner) fun first first' same => agree_seen fun colon => ?_
    rw [isStarred_congr same]
    refine agree_if (fun isValue => ?_) fun _ => AgreeOn.of_agree ?_
    · have isColon : colon.is ":" = true := (Bool.and_eq_true_iff.mp isValue).1
      refine agree_then (agree_entryValue hinner (Token.isStop_of_is isColon (by decide))) fun _ =>
        agree_peekThen fun t place => agree_ite ?_ ?_
      · exact agree_then (agree_comprehension hinner) fun _ =>
          agree_then (agree_expect "\x7d" (by decide))
          fun _ => agree_pure rfl
      · exact agree_dictionary hinner start start'
    · refine agree_bind (agree_displayItems? hinner same "\x7d" (by decide))
        fun items items' hitems => ?_
      rcases option_cases hitems with ⟨rfl, rfl⟩ | ⟨ts, ts', rfl, rfl, _⟩
      · exact agree_pure rfl
      · exact agree_pure rfl

theorem agree_atom (hinner : AgreeAll inner) : Agree (atom inner) (atom inner) := by
  refine agree_look fun t place => ?_
  obtain ⟨lexeme, place', depth⟩ := t
  cases lexeme with
  | name word => exact agree_advance rfl (agree_pure rfl)
  | number text => exact agree_number rfl _ _
  | quotation q => exact AgreeOn.of_agree (agree_quotations hinner)
  | keyword word =>
    refine agree_if (fun known => ?_) fun _ => agree_refuse
    have other : word ≠ ";" := by
      rintro rfl
      exact absurd known (by decide)
    have inside : Token.isStop ⟨.keyword word, place', depth⟩ = false :=
      Token.isStop_of_is (beq_self_eq_true word) other
    exact agree_advance inside (agree_pure rfl)
  | sign text =>
    by_cases opening : text = "("
    · subst opening
      exact agree_advance rfl (AgreeOn.of_agree (agree_group hinner _ _))
    · by_cases bracket : text = "["
      · subst bracket
        exact agree_advance rfl (AgreeOn.of_agree (agree_listDisplay hinner _ _))
      · by_cases brace : text = "\x7b"
        · subst brace
          exact agree_advance rfl (AgreeOn.of_agree (agree_braceDisplay hinner _ _))
        · by_cases dots : text = "..."
          · subst dots
            exact agree_advance rfl (agree_pure rfl)
          · simpa [opening, bracket, brace, dots] using agree_refuse
  | _ => exact agree_refuse

instance : Placeless Arguments :=
  ⟨fun read => { read with args := placeless read.args, start := placeless read.start }⟩

theorem arguments_congr {read read' : Arguments} (h : placeless read = placeless read') :
    placeless read.args = placeless read'.args ∧ read.named = read'.named ∧
    read.doubled = read'.doubled ∧
      placeless read.start = placeless read'.start ∧ read.closed = read'.closed :=
  Arguments.mk.inj h

theorem arguments_eq {read read' : Arguments} (args : placeless read.args = placeless read'.args)
    (named : read.named = read'.named) (doubled : read.doubled = read'.doubled)
    (start : placeless read.start = placeless read'.start) (closed : read.closed = read'.closed) :
    placeless read = placeless read' :=
  Arguments.mk.injEq .. ▸ ⟨args, named, doubled, start, closed⟩

/-- What may have been read before, or is read now. -/
theorem agree_unlessRead {level : Level} (hinner : AgreeAll inner) {f f' : Tree → Parser Arguments}
    (hf : ∀ t t', placeless t = placeless t' → Agree (f t) (f' t')) (before before' : Option Tree) :
    placeless before = placeless before' →
      Agree (match before with
          | some t => pure t >>= f
          | none => inner level >>= f)
        (match before' with
          | some t => pure t >>= f'
          | none => inner level >>= f') := by
  intro h
  rcases option_cases h with ⟨rfl, rfl⟩ | ⟨t, t', rfl, rfl, same⟩
  · exact agree_bind (hinner.agree level) hf
  · exact agree_bind (agree_pure same) hf

theorem agree_plainArgument (hinner : AgreeAll inner) (bracket bracket' : Place)
    {read read' : Arguments}
    (h : placeless read = placeless read') :
    Agree (plainArgument inner bracket read) (plainArgument inner bracket' read') := by
  obtain ⟨args, named, doubled, start, closed⟩ := arguments_congr h
  refine agree_peekThen fun first place => agree_bind (agree_nameBefore? hinner)
    fun before before' same => ?_
  refine agree_unlessRead hinner (fun t t' ht => ?_) before before' same
  refine agree_then (agree_sees "=") fun _ =>
    agree_check (agree_refuseAt _ _) (agree_peekThen fun u place' => ?_)
  have isFirst : read.start.isNone = read'.start.isNone := by
    rcases option_cases start with ⟨none, none'⟩ | ⟨_, _, some, some', _⟩
    · rw [none, none']
    · rw [some, some']
      rfl
  have value : ∀ isGenerator : Bool,
      placeless (if isGenerator then Tree.foreign bracket .generator else t) =
        placeless (if isGenerator then Tree.foreign bracket' .generator else t') := by
    intro isGenerator
    cases isGenerator with
    | true => rfl
    | false => exact ht
  have last : ∀ isGenerator : Bool,
      Agree (do
          if read.named then refuse
          let arg := if isGenerator then Tree.foreign bracket .generator else t
          return { read with args := arg :: read.args, closed := isGenerator })
        (do
          if read'.named then refuse
          let arg := if isGenerator then Tree.foreign bracket' .generator else t'
          return { read' with args := arg :: read'.args, closed := isGenerator }) := by
    intro isGenerator
    rw [named]
    exact agree_check agree_refuse
      (agree_pure (arguments_eq (cons_congr (value isGenerator) args) rfl doubled start rfl))
  refine agree_ite ?_ (last _)
  refine agree_then (agree_comprehension hinner) fun _ => agree_then (agree_sees ")") fun _ => ?_
  rw [isFirst]
  exact agree_check (agree_refuseAt _ _) (last _)

theorem agree_argument (hinner : AgreeAll inner) (bracket bracket' : Place) {read read' : Arguments}
    (h : placeless read = placeless read') :
    Agree (argument inner bracket read) (argument inner bracket' read') := by
  obtain ⟨args, named, doubled, start, closed⟩ := arguments_congr h
  have plain := agree_plainArgument hinner bracket bracket' h
  have keywords : Agree (do
        let _ ← inner .expression
        return { read with named := true, doubled := true })
      (do
        let _ ← inner .expression
        return { read' with named := true, doubled := true }) :=
    agree_bind (hinner.agree .expression) fun _ _ _ =>
      agree_pure (arguments_eq args rfl rfl start closed)
  refine agree_look fun t place => agree_peekSecond (fun stops second second' => ?_)
    fun inside second place' => agree_ifSkips (by decide) keywords
      (agree_if (fun isStar => ?_) fun _ => ?_)
  · -- A stop starts no argument that has a sign or a name in front of it.
    refine agree_ifSkips (by decide) keywords ?_
    have words : ({ t with place := place } : Token).is "*" = t.is "*" ∧
        ({ t with place := place } : Token).name? = t.name? ∧
        ({ t with place := place } : Token).isOneOf ["True", "False", "None"] =
          t.isOneOf ["True", "False", "None"] := ⟨rfl, rfl, rfl⟩
    have noStar : t.is "*" = false := Token.is_of_isStop stops (by decide)
    have noWord : t.isOneOf ["True", "False", "None"] = false :=
      Token.isOneOf_of_isStop stops (by decide)
    simp only [words, noStar, noWord, Token.name?_of_isStop stops, Option.isSome_none,
      Bool.and_false, Bool.false_eq_true, if_false]
    exact AgreeOn.of_agree plain
  · rw [doubled]
    refine agree_unlessAt (agree_bind (agree_starred hinner inside .expression)
      fun arg arg' harg => ?_)
    exact agree_pure (arguments_eq (cons_congr harg args) named rfl start closed)
  · refine agree_if (fun isNamed => ?_) fun _ => agree_ite (agree_refuseAt _ _)
      (AgreeOn.of_agree plain)
    have isEqual : second.is "=" = true := (Bool.and_eq_true_iff.mp isNamed).1
    refine agree_advance inside (agree_advance (Token.isStop_of_is isEqual (by decide)) ?_)
    refine agree_bind (hinner.agree .expression) fun _ _ _ => agree_peekThen fun u place' => ?_
    exact agree_check (agree_refuseAt _ _) (agree_pure (arguments_eq args rfl doubled start closed))

theorem takes_starred (level : Level) (tokens : List Token) :
    Ensures tokens (starred inner level) fun _ rest => rest.length < tokens.length := by
  refine ensures_next ?_
  rintro t more rfl
  exact fun _ _ read => Nat.lt_succ_of_le read.isSuffix.length_le

theorem length_lt_of_derives {tokens rest : List Token} {tree : Tree}
    (h : Derives tokens (.tree tree) rest) : rest.length < tokens.length := by
  obtain ⟨_, _, rfl, _, suffix⟩ := h.exists_first
  exact Nat.lt_succ_of_le suffix.length_le

/-- An argument takes a token. -/
theorem takes_argument (hinner : AgreeAll inner) (bracket : Place) (read : Arguments)
    (tokens : List Token) :
    Ensures tokens (argument inner bracket read) fun _ rest => rest.length < tokens.length := by
  -- What is read behind a part that takes a token takes it, too.
  have shorter : ∀ {p : Parser Arguments} {mid : List Token}, mid.length < tokens.length →
      Ensures mid p fun _ rest => rest.length < tokens.length :=
    fun taken _ _ read => Nat.lt_of_le_of_lt read.isSuffix.length_le taken
  refine ensures_peek ?_
  rintro t more rfl
  refine ensures_peekSecond fun second => ensures_skip ?_ (ensures_ite (fun _ => ?_)
    fun _ => ensures_ite (fun _ => ?_) fun _ => ensures_ite (fun _ => ensures_refuseAt _) fun _ =>
      ensures_peek fun _ _ _ => ?_)
  · rintro _ _ ⟨⟩ _
    exact shorter (Nat.lt_succ_self _)
  · refine ensures_ite (fun _ => ensures_refuseAt_then _) fun _ => ?_
    exact ensures_bind (takes_starred .expression _) fun _ _ => shorter
  · exact ensures_advance (shorter (Nat.lt_succ_self _))
  · refine ensures_bind (ensures_nameBefore? _) fun found mid taken => ?_
    cases found with
    | some t => exact shorter (length_lt_of_derives (taken.1 t rfl))
    | none =>
      obtain rfl := taken.2 rfl
      exact ensures_bind (hinner.spells .expression _) fun _ _ h => shorter (length_lt_of_derives h)

theorem agree_arguments (hinner : AgreeAll inner) (bracket bracket' : Place) :
    Agree (arguments inner bracket) (arguments inner bracket') := by
  refine agree_bind (agree_iterate (fun read tokens => ?_) (fun read read' h => ?_) rfl)
    fun read read' h => ?_
  · refine ensures_seen fun _ => ensures_ite (fun _ => ensures_pure nofun) fun _ =>
      ensures_peek fun _ _ _ => ?_
    exact ensures_bind (takes_argument hinner bracket read tokens) fun _ _ taken => takes_from taken
  · obtain ⟨_, _, _, start, closed⟩ := arguments_congr h
    rw [closed]
    refine agree_then (agree_sees ")") fun _ =>
      agree_ite (agree_pure rfl) (agree_peekThen fun t place => ?_)
    refine agree_bind (agree_argument hinner bracket bracket' h) fun read read' h => ?_
    obtain ⟨args, named, doubled, _, closed⟩ := arguments_congr h
    refine agree_then (agree_skip "," (by decide)) fun _ =>
      agree_ite (agree_pure ?_) (agree_pure ?_)
    · exact congrArg some (arguments_eq args named doubled rfl closed)
    · exact congrArg some (arguments_eq args named doubled rfl rfl)
  · obtain ⟨args, named, doubled, start, closed⟩ := arguments_congr h
    refine agree_then (agree_expect ")" (by decide)) fun _ => agree_pure ?_
    exact Prod.ext (reverse_congr args) named

theorem agree_slice (hinner : AgreeAll inner) : Agree (slice inner) (slice inner) := by
  have bounds : Agree (do
        let _ ← iterate (fun (colons : Nat) => do
          if colons < 2 && (← sees ":") then
            advance
            if startsExpression (← peek) then
              let _ ← inner .expression
            return some (colons + 1)
          else return none) 0)
      (do
        let _ ← iterate (fun (colons : Nat) => do
          if colons < 2 && (← sees ":") then
            advance
            if startsExpression (← peek) then
              let _ ← inner .expression
            return some (colons + 1)
          else return none) 0) := by
    refine agree_then (agree_iterate (fun colons tokens => ?_) (fun colons colons' same => ?_) rfl)
      fun _ => agree_pure rfl
    · refine ensures_seesThen ?_
      rintro colon more rfl
      exact ensures_ite (fun _ => ensures_advance takes_behind) fun _ => ensures_pure nofun
    · obtain rfl : colons = colons' := same
      refine agree_seen fun colon => agree_if (fun goes => ?_) fun _ => agree_pure rfl
      have isColon : colon.is ":" = true := (Bool.and_eq_true_iff.mp goes).2
      refine agree_advance (Token.isStop_of_is isColon (by decide)) ?_
      exact agree_peekThen fun t place => agree_check (hinner.agree .expression) (agree_pure rfl)
  refine agree_ifSees (fun t isStar => ?_) ?_
  · exact agree_bind (agree_starred hinner (Token.isStop_of_is isStar (by decide)) .expression)
      fun _ _ _ => agree_pure rfl
  · exact agree_then (agree_sees ":") fun _ => agree_check (agree_named hinner) bounds

theorem agree_subscript (hinner : AgreeAll inner) : Agree (subscript inner) (subscript inner) :=
  agree_then (agree_slice hinner) fun _ =>
    agree_bind (agree_furtherItems (fun _ _ => rfl) (agree_slice hinner)) fun _ _ _ =>
      agree_expect "]" (by decide)

theorem agree_trailer? (hinner : AgreeAll inner) (start start' : Place) {t t' : Tree}
    (h : placeless t = placeless t') :
    Agree (trailer? inner start t) (trailer? inner start' t') := by
  refine agree_peekThen fun sign place => agree_then (agree_skip "." (by decide)) fun _ =>
    agree_ite ?_ ?_
  · exact agree_then agree_name fun _ => agree_pure rfl
  · refine agree_then (agree_skip "[" (by decide)) fun _ => agree_ite ?_ ?_
    · exact agree_then (agree_subscript hinner) fun _ => agree_pure rfl
    · refine agree_then (agree_skip "(" (by decide)) fun _ => agree_ite ?_ (agree_pure rfl)
      refine agree_bind (agree_arguments hinner _ _) fun read read' same => ?_
      obtain ⟨args, hasNames⟩ := read
      obtain ⟨args', hasNames'⟩ := read'
      obtain ⟨inside, rfl⟩ : placeless args = placeless args' ∧ hasNames = hasNames' :=
        Prod.mk.inj same
      exact agree_pure (congrArg some (Tree.call_congr h inside))

theorem takes_trailer? (start : Place) : Takes (trailer? inner start) := by
  intro t tokens
  refine ensures_then fun _ mid peeked => ensures_skip ?_ (ensures_skip ?_ (ensures_skip ?_
    (ensures_pure nofun)))
  all_goals
    rintro sign more rfl _
    exact takes_from (Nat.lt_of_lt_of_le (Nat.lt_succ_self _) peeked.length_le)

theorem agree_primary (hinner : AgreeAll inner) : Agree (primary inner) (primary inner) := by
  refine agree_peekThen fun start place => agree_bind (agree_atom hinner) fun t t' same => ?_
  exact agree_iterate (takes_trailer? start.place) (fun t t' h => agree_trailer? hinner _ _ h) same

theorem agree_awaited (hinner : AgreeAll inner) : Agree (awaited inner) (awaited inner) :=
  agree_peekThen fun _ _ => agree_then (agree_skip "await" (by decide)) fun _ =>
    agree_ite (agree_bind (hinner.agree .primary) fun _ _ _ => agree_pure rfl)
      (agree_primary hinner)

theorem unary_congr {place place' : Place} {op : Except ForeignOperator UnaryOp} {t t' : Tree}
    (h : placeless t = placeless t') :
    placeless (Tree.unary place op t) = placeless (Tree.unary place' op t') :=
  congrArg (Tree.unary .origin op) h

theorem binary_congr {place place' : Place} {op : Operation} {l l' r r' : Tree}
    (hl : placeless l = placeless l')
    (hr : placeless r = placeless r') :
    placeless (Tree.binary place op l r) = placeless (Tree.binary place' op l' r') := by
  show Tree.binary .origin op (placeless l) (placeless r) =
    Tree.binary .origin op (placeless l') (placeless r')
  rw [hl, hr]

theorem agree_power (hinner : AgreeAll inner) : Agree (power inner) (power inner) := by
  refine agree_peekThen fun start place => agree_bind (agree_awaited hinner)
    fun base base' same => ?_
  refine agree_then (agree_skip "**" (by decide)) fun _ => agree_ite ?_ (agree_pure same)
  refine agree_bind (hinner.agree .factor) fun _ _ exponent => agree_pure ?_
  exact binary_congr same exponent

theorem isStop_of_signOperator? {op : UnaryOp} (h : signOperator? t = some op) :
    t.isStop = false := by
  obtain ⟨isSign, _⟩ := is_of_signOperator? h
  refine Token.isStop_of_is isSign ?_
  unfold signOperator? at h
  split at h
  all_goals cases h
  all_goals decide

theorem agree_factor (hinner : AgreeAll inner) : Agree (factor inner) (factor inner) := by
  refine agree_look fun t place => ?_
  have same : signOperator? { t with place := place } = signOperator? t := rfl
  rw [same]
  cases found : signOperator? t with
  | some op =>
    exact agree_advance (isStop_of_signOperator? found)
      (agree_bind (hinner.agree .factor) fun _ _ same => agree_pure (unary_congr same))
  | none => exact AgreeOn.of_agree (agree_power hinner)

/-- An operator is found by its lexeme, which ends no clause. -/
structure IsInside (operation? : Token → Option Operation) : Prop where
  placeless : ∀ (t : Token) place, operation? { t with place := place } = operation? t
  inside : ∀ t op, operation? t = some op → t.isStop = false

theorem isInside_term : IsInside termOperation? := by
  refine ⟨fun _ _ => rfl, fun t op h => ?_⟩
  unfold termOperation? at h
  split at h
  all_goals cases h
  all_goals next lexeme => exact Token.isStop_of_sign lexeme (by decide)

theorem isInside_sum : IsInside sumOperation? := by
  refine ⟨fun _ _ => rfl, fun t op h => ?_⟩
  unfold sumOperation? at h
  split at h
  all_goals cases h
  all_goals next lexeme => exact Token.isStop_of_sign lexeme (by decide)

theorem isInside_shift : IsInside shiftOperation? := by
  refine ⟨fun _ _ => rfl, fun t op h => ?_⟩
  unfold shiftOperation? at h
  split at h
  all_goals cases h
  all_goals next lexeme => exact Token.isStop_of_sign lexeme (by decide)

theorem isInside_signOf (sign : String) (op : ForeignOperator) (other : sign ≠ ";") :
    IsInside (signOf sign op) := by
  refine ⟨fun _ _ => rfl, fun t found h => ?_⟩
  rw [signOf] at h
  split at h
  · next isSign => exact Token.isStop_of_is isSign other
  · cases h

theorem agree_joined {operand : Parser Tree} (ho : Agree operand operand)
    {operation? : Token → Option Operation} (h : IsInside operation?) :
    Agree (joined operand operation?) (joined operand operation?) := by
  refine agree_peekThen fun start place => agree_bind ho fun first first' same => ?_
  refine agree_iterate (fun left tokens => ?_)
    (fun left left' hleft => agree_look fun t place => ?_) same
  · refine ensures_peek ?_
    rintro t more rfl
    split
    · exact ensures_advance takes_behind
    · exact ensures_pure nofun
  · rw [h.placeless t place]
    cases found : operation? t with
    | some op =>
      exact agree_advance (h.inside t op found) (agree_bind ho fun _ _ hright =>
        agree_pure (congrArg some (binary_congr hleft hright)))
    | none => exact agree_pure rfl

theorem agree_bitOr (hinner : AgreeAll inner) : Agree (bitOr inner) (bitOr inner) := by
  have term := agree_joined (agree_factor hinner) isInside_term
  have sum := agree_joined term isInside_sum
  have shift := agree_joined sum isInside_shift
  have bitAnd := agree_joined shift (isInside_signOf "&" .bitAnd (by decide))
  have bitXor := agree_joined bitAnd (isInside_signOf "^" .bitXor (by decide))
  exact agree_joined bitXor (isInside_signOf "|" .bitOr (by decide))

theorem agree_comparison? : Agree comparison? comparison? := by
  refine agree_seenOneOf fun t => agree_if (fun isSign => ?_) fun _ =>
    agree_ifSkips (by decide) ?_ ?_
  · exact agree_advance (Token.isStop_of_isOneOf isSign (by decide)) (agree_pure rfl)
  · exact agree_then (agree_skip "not" (by decide)) fun _ => agree_pure rfl
  · refine agree_seenKnown (agree_peekSecond (fun stops second second' => ?_)
      fun inside second place => agree_if (fun isNotIn => ?_) fun _ => agree_pure rfl)
    · rw [Token.is_of_isStop stops (by decide)]
      exact agree_pure rfl
    · have isIn : second.is "in" = true := (Bool.and_eq_true_iff.mp isNotIn).2
      exact agree_advance inside (agree_advance (Token.isStop_of_is isIn (by decide))
        (agree_pure rfl))

theorem takes_comparison? (tokens : List Token) :
    Ensures tokens comparison? fun found rest => found = true → rest.length < tokens.length := by
  refine ensures_seesOneOfThen ?_
  rintro t more rfl
  refine ensures_ite (fun _ => ensures_advance (ensures_pure fun _ => Nat.lt_succ_self _)) fun _ =>
    ensures_skip ?_ (ensures_seen fun _ => ensures_peekSecond fun _ => ensures_ite (fun _ => ?_)
      fun _ => ensures_pure nofun)
  · rintro _ _ ⟨⟩ _
    exact fun _ _ read _ => Nat.lt_succ_of_le read.isSuffix.length_le
  · exact ensures_advance fun _ _ read _ => Nat.lt_succ_of_le read.isSuffix.length_le

theorem agree_comparison (hinner : AgreeAll inner) :
    Agree (comparison inner) (comparison inner) := by
  refine agree_peekThen fun start place => agree_bind (agree_bitOr hinner)
    fun first first' same => ?_
  refine agree_iterate (fun _ tokens => ?_) (fun _ _ _ => ?_) same
  · refine ensures_bind (takes_comparison? tokens) fun found mid taken => ?_
    exact ensures_ite (fun yes => takes_from (taken yes)) fun _ => ensures_pure nofun
  · refine agree_then agree_comparison? fun _ => agree_ite ?_ (agree_pure rfl)
    exact agree_bind (agree_bitOr hinner) fun _ _ _ => agree_pure rfl

theorem agree_inversion (hinner : AgreeAll inner) : Agree (inversion inner) (inversion inner) := by
  refine agree_peekThen fun t place => agree_then (agree_skip "not" (by decide)) fun _ =>
    agree_ite ?_ (agree_comparison hinner)
  exact agree_bind (hinner.agree .inversion) fun _ _ same => agree_pure (unary_congr same)

theorem agree_boolean (word : String) (other : word ≠ ";") {condition : Parser Tree}
    (hc : Agree condition condition) : Agree (boolean word condition) (boolean word condition) := by
  refine agree_peekThen fun start place => agree_bind hc fun first first' same => ?_
  refine agree_iterate takes_skip (fun _ _ _ => ?_) same
  refine agree_then (agree_skip word other) fun _ => agree_ite ?_ (agree_pure rfl)
  exact agree_bind hc fun _ _ _ => agree_pure rfl

theorem agree_disjunction (hinner : AgreeAll inner) :
    Agree (disjunction inner) (disjunction inner) :=
  agree_boolean "or" (by decide) (agree_boolean "and" (by decide) (agree_inversion hinner))

theorem agree_function (hinner : AgreeAll inner) (inside : t.isStop = false) :
    AgreeOn (t :: front) (function inner) (function inner) :=
  agree_next inside fun _ => AgreeOn.of_agree (agree_then (agree_parameters hinner false ":")
    fun _ => agree_then (agree_expect ":" (by decide)) fun _ =>
      agree_bind (hinner.agree .expression)
      fun _ _ _ => agree_pure rfl)

theorem agree_refuseNeighbour (hinner : AgreeAll inner) (first : Token) (place : Place)
    {second second' : Option Token}
    (alone : mayStandAlone first second = mayStandAlone { first with place := place } second') :
    Agree (refuseNeighbour inner first second)
    (refuseNeighbour inner { first with place := place } second') := by
  refine agree_look fun t place' => ?_
  rw [← alone]
  refine agree_ite ?_ (agree_pure rfl)
  -- The first token is blamed if an expression can be read here.
  have blamed : ∀ (isExpression : Bool),
      Agree (if isExpression then throw (Refusal.refused first.line t.line)
        else pure () : Parser Unit)
        (if isExpression then throw (Refusal.refused ({ first with place := place } : Token).line
          ({ t with place := place' } : Token).line) else pure ()) :=
    fun _ => agree_ite (agree_throw _ _) (agree_pure rfl)
  have tried : ∀ {front : List Token} {p : Parser Tree}, AgreeOn front p p →
      AgreeOn front (do
          let isExpression ← pure (← attempt p).isSome
          if isExpression then throw (Refusal.refused first.line t.line) else pure () : Parser Unit)
        (do
          let isExpression ← pure (← attempt p).isSome
          if isExpression then throw (Refusal.refused ({ first with place := place } : Token).line
            ({ t with place := place' } : Token).line) else pure ()) := by
    intro front p hp
    refine agree_bind (agree_attempt hp) fun o o' same => ?_
    rcases option_cases same with ⟨rfl, rfl⟩ | ⟨_, _, rfl, rfl, _⟩
    · exact agree_then (agree_pure rfl) fun _ => blamed _
    · exact agree_then (agree_pure rfl) fun _ => blamed _
  have behind : ∀ {t : Token} level, t.isStop = false →
      AgreeOn [t] (do advance; inner level) (do advance; inner level) :=
    fun level inside => agree_advance inside (hinner.agree level)
  have taken : AgreeOn [t] (do
          let isExpression ← pure true
          if isExpression then throw (Refusal.refused first.line t.line) else pure () : Parser Unit)
        (do
          let isExpression ← pure true
          if isExpression then throw (Refusal.refused ({ first with place := place } : Token).line
            ({ t with place := place' } : Token).line) else pure ()) :=
    agree_then (agree_pure (Eq.refl (placeless true))) blamed
  obtain ⟨lexeme, _, depth⟩ := t
  cases lexeme with
  | keyword word =>
    by_cases not : word = "not"
    · subst not
      exact tried (behind .inversion rfl)
    · by_cases await : word = "await"
      · subst await
        exact tried (behind .primary rfl)
      · by_cases lambda : word = "lambda"
        · subst lambda
          exact tried (agree_function hinner rfl)
        · simpa [not, await, lambda] using taken
  | sign text =>
    by_cases tilde : text = "~"
    · subst tilde
      exact tried (behind .factor rfl)
    · by_cases brace : text = "\x7b"
      · subst brace
        exact tried (AgreeOn.of_agree (agree_atom hinner))
      · simpa [tilde, brace] using taken
  | _ => exact taken

theorem agree_expression (hinner : AgreeAll inner) :
    Agree (expression inner) (expression inner) := by
  refine agree_look fun first place => agree_if (fun isLambda =>
    agree_function hinner (Token.isStop_of_is isLambda (by decide))) fun _ => ?_
  have whole : ∀ {second second' : Option Token},
      mayStandAlone first second = mayStandAlone { first with place := place } second' →
      Agree (do
          let t ← disjunction inner
          if ← skip? "if" then
            let _ ← inner .disjunction
            if ← skip? "else" then
              let _ ← inner .expression
              return .foreign first.place .conditional
            else if ← sees ":" then refuse
            else refuseAt first.line
          else
            refuseNeighbour inner first second
            return t)
        (do
          let t ← disjunction inner
          if ← skip? "if" then
            let _ ← inner .disjunction
            if ← skip? "else" then
              let _ ← inner .expression
              return .foreign place .conditional
            else if ← sees ":" then refuse
            else refuseAt place.line
          else
            refuseNeighbour inner { first with place := place } second'
            return t) := by
    intro second second' alone
    refine agree_bind (agree_disjunction hinner) fun t t' same =>
      agree_then (agree_skip "if" (by decide))
      fun _ => agree_ite ?_ ?_
    · refine agree_bind (hinner.agree .disjunction) fun _ _ _ =>
        agree_then (agree_skip "else" (by decide))
        fun _ => agree_ite ?_ ?_
      · exact agree_bind (hinner.agree .expression) fun _ _ _ => agree_pure rfl
      · exact agree_then (agree_sees ":") fun _ => agree_ite agree_refuse (agree_refuseAt _ _)
    · exact agree_then (agree_refuseNeighbour hinner first place alone) fun _ => agree_pure same
  refine agree_peekSecond (fun stops second second' => AgreeOn.of_agree (whole ?_))
    fun _ second place' => AgreeOn.of_agree (whole ?_)
  · have noName : first.name? = none := Token.name?_of_isStop stops
    have noName' : ({ first with place := place } : Token).name? = none := noName
    simp only [mayStandAlone, noName, noName']
  · have word : ({ first with place := place } : Token).name? = first.name? := rfl
    simp only [mayStandAlone, word]
    cases first.name? <;> rfl

theorem agree_atLevel (hinner : AgreeAll inner) (level : Level) :
    Agree (atLevel inner level) (atLevel inner level) := by
  cases level with
  | expression => exact agree_expression hinner
  | disjunction => exact agree_disjunction hinner
  | inversion => exact agree_inversion hinner
  | bitOr => exact agree_bitOr hinner
  | factor => exact agree_factor hinner
  | primary => exact agree_primary hinner

/-- However deep the levels are nested, the parsers do not mind places. -/
theorem agreeAll_nested (depth : Nat) : AgreeAll (nested depth) := by
  induction depth with
  | zero => exact ⟨fun _ => agree_refuse, spellsAll_nested 0⟩
  | succ depth ih => exact ⟨fun level => agree_atLevel ih level, spellsAll_nested (depth + 1)⟩

end Grammar
end RateRules.Script
