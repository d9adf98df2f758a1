import RateRules.Proofs.Ensures
import RateRules.Proofs.Operands
import RateRules.Proofs.Positions
import RateRules.Proofs.Rendering

/-!
# What the grammar derives

The grammar of expressions is told once more as a relation between tokens, the tree that they spell
and the tokens behind it. Trees that no rule may have are derived from whatever follows their first
token, so the relation says about them only where they stand. Every tree that the parsers read is
derived, and what holds of all derivations need not look at the parsers again.
-/
namespace RateRules.Script

/-- The token has characters of the text: it is no end of a line and no mark of the end. -/
def Token.hasText (t : Token) : Bool := !t.isEnd && !t.isLineEnd

namespace Tree

/-- No rule may have the tree, whatever stands inside it. -/
def isRefused : Tree → Bool
  | literal .. | tuple .. | list .. | starred .. | foreign .. => true
  | unary _ (.error _) _ | binary _ (.error _) _ _ => true
  | call _ _ _ named => named
  | _ => false

theorem expr_of_isRefused {t : Tree} (h : t.isRefused = true) :
    ∃ reason, t.expr = .error (.construct reason t.place) := by
  cases t with
  | number | name => cases h
  | unary place op operand =>
    cases op with
    | error op => exact ⟨.operator op, by rw [expr]; rfl⟩
    | ok op => cases h
  | binary place op left right =>
    cases op with
    | error op => exact ⟨.operator op, by rw [expr]; rfl⟩
    | ok op => cases h
  | call place callee args named =>
    obtain rfl : named = true := h
    exact ⟨.namedArguments, by rw [expr]; rfl⟩
  | literal | tuple | list | starred | foreign => exact ⟨_, by rw [expr]; rfl⟩

end Tree

theorem Token.hasText_of_is {t : Token} {word : String} (h : t.is word = true) :
    t.hasText = true := by
  obtain ⟨lexeme, place, depth⟩ := t
  cases lexeme with
  | lineEnd | textEnd | broken => cases h
  | _ => rfl

theorem Token.isLineEnd_of_hasText {t : Token} (h : t.hasText = true) : t.isLineEnd = false := by
  rw [Token.hasText, Bool.and_eq_true, Bool.not_eq_true', Bool.not_eq_true'] at h
  exact h.2

theorem Token.ne_textEnd_of_hasText {t : Token} (h : t.hasText = true) : t.lexeme ≠ .textEnd := by
  intro isEnd
  rw [Token.hasText, Token.isEnd, isEnd] at h
  cases h

theorem Token.isBroken_of_hasText {t : Token} (h : t.hasText = true) : t.isBroken = false := by
  refine beq_eq_false_iff_ne.mpr fun broken => ?_
  rw [Token.hasText, Token.isEnd, broken] at h
  cases h

theorem Token.hasText_of_sign {t : Token} {text : String} (h : t.lexeme = .sign text) :
    t.hasText = true := by
  rw [hasText, isEnd, isLineEnd, h]
  rfl

theorem Token.hasText_of_name? {t : Token} (h : t.name?.isSome = true) : t.hasText = true := by
  obtain ⟨lexeme, place, depth⟩ := t
  cases lexeme with
  | name => rfl
  | _ => cases h

/-- The tree stands at this place, and no rule may have it. -/
def Tree.IsRefusedAt (place : Place) (t : Tree) : Prop := t.isRefused = true ∧ t.place = place

namespace Grammar

open RateRules.Script.Parser

/-- What tokens spell: a tree, or the arguments behind a bracket at a place, the last one first. -/
inductive Phrase where
  | tree (t : Tree)
  | arguments (bracket : Place) (args : List Tree)

/-- The first tokens spell the phrase, and these tokens follow them. A comma may stand behind each
argument. -/
inductive Derives : List Token → Phrase → List Token → Prop
  | number {t : Token} {text : String} {rest : List Token} (lexeme : t.lexeme = .number text) :
      Derives (t :: rest) (.tree (.number t.place text)) rest
  | name {t : Token} {word : String} {rest : List Token} (lexeme : t.lexeme = .name word) :
      Derives (t :: rest) (.tree (.name t.place word)) rest
  | group {opening closing : Token} {more rest : List Token} {t : Tree}
      (opens : opening.is "(" = true)
      (inside : Derives more (.tree t) (closing :: rest)) (closes : closing.is ")" = true) :
      Derives (opening :: more) (.tree t) rest
  | unary {sign : Token} {more rest : List Token} {op : UnaryOp} {operand : Tree}
      (signed : sign.is op.text = true) (known : op.isKnown = true)
      (inside : Derives more (.tree operand) rest) :
      Derives (sign :: more) (.tree (.unary sign.place (.ok op) operand)) rest
  | binary {first sign : Token} {more mid rest : List Token} {op : BinaryOp} {left right : Tree}
      (before : Derives (first :: more) (.tree left) (sign :: mid))
      (signed : sign.is op.text = true)
      (known : op.isKnown = true) (behind : Derives mid (.tree right) rest) :
      Derives (first :: more) (.tree (.binary first.place (.ok op) left right)) rest
  | call {first opening closing : Token} {more mid rest : List Token} {callee : Tree}
      {args : List Tree}
      (before : Derives (first :: more) (.tree callee) (opening :: mid))
      (opens : opening.is "(" = true)
      (inside : Derives mid (.arguments opening.place args) (closing :: rest))
      (closes : closing.is ")" = true) :
      Derives (first :: more) (.tree (.call first.place callee args.reverse false)) rest
  | refused {first : Token} {more rest : List Token} {t : Tree} (hasText : first.hasText = true)
      (refused : t.IsRefusedAt first.place) (suffix : rest <:+ more) :
      Derives (first :: more) (.tree t) rest
  | noArgument {bracket : Place} {tokens : List Token} :
      Derives tokens (.arguments bracket []) tokens
  | argument {bracket : Place} {tokens mid rest : List Token} {args : List Tree} {arg : Tree}
      (before : Derives tokens (.arguments bracket args) mid)
      (behind : Derives mid (.tree arg) rest) :
      Derives tokens (.arguments bracket (arg :: args)) rest
  | comma {bracket : Place} {t : Token} {tokens rest : List Token} {args : List Tree}
      (before : Derives tokens (.arguments bracket args) (t :: rest)) (isComma : t.is "," = true) :
      Derives tokens (.arguments bracket args) rest
  | refusedArgument {bracket : Place} {tokens mid rest : List Token} {args : List Tree} {arg : Tree}
      (before : Derives tokens (.arguments bracket args) mid) (refused : arg.IsRefusedAt bracket)
      (suffix : rest <:+ mid) : Derives tokens (.arguments bracket (arg :: args)) rest

/-- From these tokens the parser reads a tree that they derive. -/
abbrev Spells (tokens : List Token) (p : Parser Tree) : Prop :=
  Ensures tokens p fun t rest => Derives tokens (.tree t) rest

variable {inner : Inner} {tokens more rest : List Token} {first t : Token} {tree : Tree}
  {phrase : Phrase}

theorem Derives.isSuffix (h : Derives tokens phrase rest) : rest <:+ tokens := by
  induction h with
  | number | name => exact List.suffix_cons _ _
  | group _ _ _ ih => exact (List.suffix_cons _ _).trans (ih.trans (List.suffix_cons _ _))
  | unary _ _ _ ih => exact ih.trans (List.suffix_cons _ _)
  | binary _ _ _ _ left right => exact right.trans ((List.suffix_cons _ _).trans left)
  | call _ _ _ _ callee args =>
    exact (List.suffix_cons _ _).trans (args.trans ((List.suffix_cons _ _).trans callee))
  | refused _ _ suffix => exact suffix.trans (List.suffix_cons _ _)
  | noArgument => exact List.suffix_rfl
  | argument _ _ args arg => exact arg.trans args
  | comma _ _ ih => exact (List.suffix_cons _ _).trans ih
  | refusedArgument _ _ suffix ih => exact suffix.trans ih

/-- A tree takes at least one token, and the first one has text. -/
theorem Derives.exists_first (h : Derives tokens (.tree tree) rest) :
    ∃ first more, tokens = first :: more ∧ first.hasText = true ∧ rest <:+ more := by
  generalize same : Phrase.tree tree = phrase at h
  induction h generalizing tree with
  | number lexeme | name lexeme =>
    exact ⟨_, _, rfl,
      by rw [Token.hasText, Token.isEnd, Token.isLineEnd, lexeme]; rfl, List.suffix_rfl⟩
  | group opens inside =>
    exact ⟨_, _, rfl, Token.hasText_of_is opens, (List.suffix_cons _ _).trans inside.isSuffix⟩
  | unary signed _ inside => exact ⟨_, _, rfl, Token.hasText_of_is signed, inside.isSuffix⟩
  | binary before _ _ behind ih =>
    obtain ⟨_, _, ⟨⟩, hasText, left⟩ := ih rfl
    exact ⟨_, _, rfl, hasText, behind.isSuffix.trans ((List.suffix_cons _ _).trans left)⟩
  | call before opens inside closes ih =>
    obtain ⟨_, _, ⟨⟩, hasText, callee⟩ := ih rfl
    have args := inside.isSuffix.trans ((List.suffix_cons _ _).trans callee)
    exact ⟨_, _, rfl, hasText, (List.suffix_cons _ _).trans args⟩
  | refused hasText _ suffix => exact ⟨_, _, rfl, hasText, suffix⟩
  | noArgument | argument | comma | refusedArgument => cases same

theorem spells_starred (hasText : first.hasText = true) (level : Level) :
    Spells (first :: more) (starred inner level) := by
  refine ensures_next ?_
  rintro _ _ ⟨⟩
  exact ensures_then fun _ _ suffix => ensures_pure (.refused hasText ⟨rfl, rfl⟩ suffix)

theorem spells_starredOr {p : Parser Tree} (level : Level) (hp : Spells tokens p) :
    Spells tokens (do if ← sees "*" then starred inner level else p) := by
  refine ensures_sees ?_ hp
  rintro star more rfl isStar
  exact spells_starred (Token.hasText_of_is isStar) level

theorem spells_tupleOf (starts : Token → Bool) {item : Parser Tree} (hitem : Spells tokens item) :
    Spells tokens (tupleOf starts item) := by
  refine ensures_peek ?_
  rintro start more rfl
  refine ensures_bind hitem fun t mid ht => ensures_sees (fun _ _ _ _ => ?_) (ensures_pure ht)
  obtain ⟨_, _, ⟨⟩, hasText, behind⟩ := ht.exists_first
  exact ensures_then fun _ _ suffix =>
    ensures_pure (.refused hasText ⟨rfl, rfl⟩ (suffix.trans behind))

/-- The parsers of all levels read trees that their tokens derive. -/
def SpellsAll (inner : Inner) : Prop := ∀ level tokens, Spells tokens (inner level)

theorem spells_starExpressions (hinner : SpellsAll inner) (tokens : List Token) :
    Spells tokens (starExpressions inner) :=
  spells_tupleOf startsItem (spells_starredOr .bitOr (hinner .expression tokens))

theorem spells_yieldExpression (hasText : first.hasText = true) :
    Spells (first :: more) (yieldExpression inner) := by
  refine ensures_next ?_
  rintro _ _ ⟨⟩
  refine ensures_skip ?_ (ensures_then fun _ mid suffix => ?_)
  · rintro word behind rfl _
    have within := List.suffix_cons word behind
    exact ensures_then fun _ _ suffix =>
      ensures_pure (.refused hasText ⟨rfl, rfl⟩ (suffix.trans within))
  · refine ensures_check (fun _ => ?_) fun _ => ensures_pure (.refused hasText ⟨rfl, rfl⟩ suffix)
    exact fun _ _ read => ensures_pure (.refused hasText ⟨rfl, rfl⟩ (read.isSuffix.trans suffix))

theorem spells_yieldOrExpressions (hinner : SpellsAll inner) (tokens : List Token) :
    Spells tokens (yieldOrExpressions inner) := by
  refine ensures_sees ?_ (spells_starExpressions hinner tokens)
  rintro _ _ rfl isYield
  exact spells_yieldExpression (Token.hasText_of_is isYield)

/-- A check that refuses or takes nothing. -/
abbrev TakesNothing (p : Parser Unit) : Prop :=
  ∀ tokens, Ensures tokens p fun _ rest => rest = tokens

theorem takesNothing_refuseAssignment (t : Tree) : TakesNothing (refuseAssignment inner t) := by
  intro tokens
  refine ensures_sees (fun _ _ _ _ => ?_) (ensures_seen fun _ => ensures_ite (fun _ => ?_) fun _ =>
    ensures_pure rfl)
  · refine ensures_then fun _ _ _ => ensures_then fun _ _ _ => ensures_then fun found _ _ => ?_
    cases found with
    | some _ => exact ensures_refuseAt _
    | none => exact ensures_throw _
  · refine ensures_then fun _ _ _ => ensures_then fun _ _ _ => ensures_then fun found _ _ => ?_
    cases found with
    | some _ =>
      exact ensures_then fun _ _ _ => ensures_ite (fun _ => ensures_throw _) fun _ =>
        ensures_refuseAt _
    | none => exact ensures_throw _

/-- A name that was taken together with the expression behind it is refused. -/
theorem ensures_nameBefore? (tokens : List Token) :
    Ensures tokens (nameBefore? inner) fun before rest =>
      (∀ t ∈ before, Derives tokens (.tree t) rest) ∧ (before = none → rest = tokens) := by
  refine ensures_peek ?_
  rintro first more rfl
  refine ensures_peekSecond fun second => ensures_ite (fun isNamed => ?_) fun _ =>
    ensures_pure ⟨nofun, fun _ => rfl⟩
  have hasText : first.hasText = true := by
    rw [Bool.and_eq_true] at isNamed
    exact Token.hasText_of_name? isNamed.1
  refine ensures_advance (ensures_then fun _ _ advanced => ensures_then fun _ _ suffix =>
    ensures_pure ⟨?_, nofun⟩)
  rintro _ ⟨⟩
  exact .refused hasText ⟨rfl, rfl⟩ (suffix.trans advanced)

theorem spells_named (hinner : SpellsAll inner) (tokens : List Token) :
    Spells tokens (named inner) := by
  refine ensures_bind (ensures_nameBefore? tokens) fun before mid found => ?_
  obtain ⟨named, kept⟩ := found
  cases before with
  | some t => exact ensures_pure (named t rfl)
  | none =>
    obtain rfl := kept rfl
    refine ensures_bind (hinner .expression _) fun t rest ht => ?_
    refine ensures_bind (takesNothing_refuseAssignment t rest) fun _ _ same => ensures_pure ?_
    rw [same]
    exact ht

theorem spells_starNamed (hinner : SpellsAll inner) (tokens : List Token) :
    Spells tokens (starNamed inner) :=
  spells_starredOr .bitOr (spells_named hinner tokens)

theorem spells_number {text : String} (lexeme : t.lexeme = .number text) :
    Spells (t :: more) (number t text) := by
  refine ensures_ite (fun _ => ensures_refuse) fun _ => ensures_advance (ensures_pure ?_)
  have hasText : t.hasText = true := by
    rw [Token.hasText, Token.isEnd, Token.isLineEnd, lexeme]; rfl
  split
  · exact .refused hasText ⟨rfl, rfl⟩ List.suffix_rfl
  · exact .number lexeme

theorem isRefusedAt_quotationFrom (start : Place) (bytes : Bool) (run : List (Token × Quotation))
    (templated : Bool)
    (codes : List Nat) (tokens : List Token) :
    Ensures tokens (quotationFrom inner start bytes run templated codes) fun t _ =>
      t.IsRefusedAt start := by
  induction run generalizing templated codes tokens with
  | nil =>
    refine ensures_pure ?_
    split <;> exact ⟨rfl, rfl⟩
  | cons quoted run ih =>
    obtain ⟨t, q⟩ := quoted
    rw [quotationFrom]
    refine ensures_check (fun _ => ensures_refuseAt _) fun _ => ?_
    split
    · exact ensures_refuse
    · refine ensures_check (fun _ => ensures_refuse) fun _ => ?_
      exact ensures_check (fun _ => fun _ mid _ => ih _ _ mid) fun _ => ih _ _ tokens

/-- A run of quoted texts starts with the first token. -/
theorem ensures_quotationRun :
    Ensures (first :: more) quotationRun fun run rest =>
      run = [] ∨ rest <:+ more ∧ ∃ q, run.head? = some (first, q) := by
  refine ensures_bind (ensures_iterate (motive := fun run rest =>
    run = [] ∧ rest = first :: more ∨ rest <:+ more ∧ ∃ q, run.getLast? = some (first, q))
      (.inl ⟨rfl, rfl⟩)
    fun run mid kept => ?_) fun run rest kept => ensures_pure ?_
  · refine ensures_peek ?_
    rintro t behind rfl
    split
    · next q lexeme =>
      refine ensures_advance (ensures_pure (.inr ?_))
      rcases kept with ⟨rfl, same⟩ | ⟨suffix, q', last⟩
      · cases same
        exact ⟨List.suffix_rfl, q, rfl⟩
      · refine ⟨(List.suffix_cons _ _).trans suffix, q', ?_⟩
        rw [Option.getD_some, List.getLast?_cons, last]
        rfl
    · exact ensures_pure kept
  · rw [List.reverse_eq_nil_iff, List.head?_reverse]
    exact kept.imp_left And.left

theorem spells_quotations (hasText : first.hasText = true) :
    Spells (first :: more) (quotations inner) := by
  refine ensures_bind ensures_quotationRun fun run rest run' => ?_
  split
  · exact ensures_refuse
  · next t q further =>
    rcases run' with none | ⟨suffix, q', head⟩
    · cases none
    · cases head
      exact fun t behind read =>
        .refused hasText (isRefusedAt_quotationFrom _ _ _ _ _ _ t behind read)
        (read.isSuffix.trans suffix)

/-- What stands in parentheses, behind the first one. -/
theorem spells_group (hinner : SpellsAll inner) {opening : Token} (opens : opening.is "(" = true) :
    Ensures tokens (group inner opening.place) fun t rest => Derives (opening :: tokens)
      (.tree t) rest := by
  have hasText := Token.hasText_of_is opens
  refine ensures_skip ?_ (ensures_sees ?_ ?_)
  · rintro closing more rfl _
    exact ensures_pure (.refused hasText ⟨rfl, rfl⟩ (List.suffix_cons _ _))
  · rintro word more rfl isYield
    refine ensures_bind (spells_yieldExpression (Token.hasText_of_is isYield)) fun t mid ht =>
      ensures_expect ?_
    rintro closing rest rfl closes
    exact ensures_pure (.group opens ht closes)
  · refine ensures_bind (spells_starNamed hinner tokens) fun t mid ht =>
      ensures_peek fun after more same => ?_
    have inside := ht.isSuffix
    refine ensures_ite (fun _ => ?_) fun _ => ensures_ite (fun _ => ?_) fun _ => ?_
    · refine ensures_then fun _ _ items => ensures_then fun _ _ peeked => ?_
      refine ensures_check (fun _ => ensures_refuse) fun _ => ?_
      refine ensures_then fun _ _ closed => ensures_pure (.refused hasText ⟨rfl, rfl⟩ ?_)
      exact closed.trans (peeked.trans (items.trans inside))
    · refine ensures_check (fun _ => ensures_refuseAt _) fun _ => ?_
      refine ensures_then fun _ _ rounds => ensures_then fun _ _ closed =>
        ensures_pure (.refused hasText ⟨rfl, rfl⟩ ?_)
      exact closed.trans (rounds.trans inside)
    · refine ensures_check (fun _ => ensures_refuseAt _) fun _ => ensures_expect ?_
      rintro closing rest rfl closes
      exact ensures_pure (.group opens ht closes)

theorem isRefusedAt_listDisplay (start : Place) (tokens : List Token) :
    Ensures tokens (listDisplay inner start) fun t _ => t.IsRefusedAt start := by
  refine ensures_skip (fun _ _ _ _ => ensures_pure ⟨rfl, rfl⟩) (ensures_then fun _ _ _ =>
    ensures_then fun items _ _ => ?_)
  cases items with
  | some items => exact ensures_pure ⟨rfl, rfl⟩
  | none => exact ensures_pure ⟨rfl, rfl⟩

theorem isRefusedAt_dictionary (start : Place) (tokens : List Token) :
    Ensures tokens (dictionary inner start) fun t _ => t.IsRefusedAt start :=
  ensures_then fun _ _ _ => ensures_then fun _ _ _ => ensures_pure ⟨rfl, rfl⟩

theorem isRefusedAt_braceDisplay (start : Place) (tokens : List Token) :
    Ensures tokens (braceDisplay inner start) fun t _ => t.IsRefusedAt start := by
  refine ensures_skip (fun _ _ _ _ => ensures_pure ⟨rfl, rfl⟩)
    (ensures_skip (fun _ more _ _ => ?_) ?_)
  · exact ensures_then fun _ mid _ => isRefusedAt_dictionary start mid
  · refine ensures_then fun first _ _ => ensures_then fun _ _ _ =>
      ensures_ite (fun _ => ?_) fun _ => ?_
    · refine ensures_then fun _ _ _ => ensures_then fun _ _ _ =>
        ensures_ite (fun _ => ?_) fun _ => ?_
      · exact ensures_then fun _ _ _ => ensures_then fun _ _ _ => ensures_pure ⟨rfl, rfl⟩
      · exact isRefusedAt_dictionary start _
    · refine ensures_then fun items _ _ => ?_
      cases items with
      | some items => exact ensures_pure ⟨rfl, rfl⟩
      | none => exact ensures_pure ⟨rfl, rfl⟩

theorem spells_atom (hinner : SpellsAll inner) (tokens : List Token) :
    Spells tokens (atom inner) := by
  refine ensures_peek ?_
  rintro t more rfl
  -- What is refused at its first token takes that token.
  have refused : ∀ {p : Parser Tree}, t.hasText = true →
      (∀ tokens, Ensures tokens p fun tree _ => tree.IsRefusedAt t.place) →
        Spells (t :: more) (advance >>= fun _ => p) :=
    fun hasText h => ensures_advance fun tree rest read =>
      .refused hasText (h more tree rest read) read.isSuffix
  split
  · next word lexeme => exact ensures_advance (ensures_pure (.name lexeme))
  · next text lexeme => exact spells_number lexeme
  · next q lexeme =>
    exact spells_quotations (by rw [Token.hasText, Token.isEnd, Token.isLineEnd, lexeme]; rfl)
  · next word lexeme =>
    have hasText : t.hasText = true := by
      rw [Token.hasText, Token.isEnd, Token.isLineEnd, lexeme]; rfl
    exact ensures_ite (fun _ => refused hasText fun _ => ensures_pure ⟨rfl, rfl⟩)
      fun _ => ensures_refuse
  · next lexeme => exact ensures_advance (spells_group hinner (Token.is_of_sign lexeme "("))
  · next lexeme => exact refused (Token.hasText_of_sign lexeme) (isRefusedAt_listDisplay t.place)
  · next lexeme => exact refused (Token.hasText_of_sign lexeme) (isRefusedAt_braceDisplay t.place)
  · next lexeme => exact refused (Token.hasText_of_sign lexeme) fun _ => ensures_pure ⟨rfl, rfl⟩
  · exact ensures_refuse

section Arguments

variable {bracket : Place} {read : Arguments} {mid : List Token}

/-- Unless one of them has a name, the arguments that were read are derived. -/
def Gathered (tokens : List Token) (bracket : Place) (read : Arguments)
    (rest : List Token) : Prop :=
  read.named = false → Derives tokens (.arguments bracket read.args) rest

theorem gathered_plainArgument (hinner : SpellsAll inner)
    (before : Gathered tokens bracket read mid) :
    Ensures mid (plainArgument inner bracket read) (Gathered tokens bracket) := by
  refine ensures_peek fun first _ _ => ensures_bind (ensures_nameBefore? mid)
    fun found behind taken => ?_
  obtain ⟨named, kept⟩ := taken
  cases found
  case' none =>
    obtain rfl := kept rfl
    refine ensures_bind (hinner .expression _) ?_
  case' some t =>
    have answer : Ensures behind (pure t) fun t rest => Derives mid (.tree t) rest :=
      ensures_pure (named t rfl)
    refine ensures_bind answer ?_
  all_goals
    intro t rest ht
    refine ensures_sees (fun _ _ _ _ => ensures_refuseAt_then _) (ensures_peek fun after _ _ => ?_)
    refine ensures_ite (fun isGenerator => ?_) fun isGenerator => ?_
    · refine ensures_then fun _ _ rounds => ensures_seen fun _ =>
        ensures_ite (fun _ => ensures_refuseAt_then _) fun _ => ?_
      refine ensures_ite (fun _ => ensures_refuse_then) fun _ => ensures_pure fun noName => ?_
      rw [if_pos isGenerator]
      exact .refusedArgument (before noName) ⟨rfl, rfl⟩ (rounds.trans ht.isSuffix)
    · refine ensures_ite (fun _ => ensures_refuse_then) fun _ => ensures_pure fun noName => ?_
      rw [if_neg isGenerator]
      exact .argument (before noName) ht

theorem gathered_argument (hinner : SpellsAll inner) (before : Gathered tokens bracket read mid) :
    Ensures mid (argument inner bracket read) (Gathered tokens bracket) := by
  refine ensures_peek ?_
  rintro t more rfl
  refine ensures_peekSecond fun second =>
    ensures_skip (fun _ _ _ _ => ?_) (ensures_ite (fun isStar => ?_) fun _ => ?_)
  · exact ensures_then fun _ _ _ => ensures_pure nofun
  · refine ensures_ite (fun _ => ensures_refuseAt_then _) fun _ => ?_
    refine ensures_bind (spells_starred (Token.hasText_of_is isStar) .expression)
      fun arg rest harg => ?_
    exact ensures_pure fun noName => .argument (before noName) harg
  · refine ensures_ite (fun _ => ?_) fun _ => ensures_ite (fun _ => ensures_refuseAt _) fun _ => ?_
    · refine ensures_then fun _ _ _ => ensures_then fun _ _ _ => ensures_then fun _ _ _ => ?_
      exact ensures_then fun _ _ _ => ensures_ite (fun _ => ensures_refuseAt_then _) fun _ =>
        ensures_pure nofun
    · exact gathered_plainArgument hinner before

/-- Arguments end with a closing parenthesis. -/
theorem ensures_arguments (hinner : SpellsAll inner) (bracket : Place) (tokens : List Token) :
    Ensures tokens (arguments inner bracket) fun read rest =>
      read.2 = false → ∃ args closing, read.1 = args.reverse ∧
        Derives tokens (.arguments bracket args) (closing :: rest) ∧ closing.is ")" = true := by
  refine ensures_bind (ensures_iterate (motive := Gathered tokens bracket) (fun _ => .noArgument)
    fun read mid before => ?_)
    fun read mid gathered => ensures_expect ?_
  · refine ensures_seen fun _ => ensures_ite (fun _ => ensures_pure before) fun _ =>
      ensures_peek fun _ _ _ => ?_
    refine ensures_bind (gathered_argument hinner before) fun read rest gathered =>
      ensures_skip ?_ (ensures_pure gathered)
    rintro comma behind rfl isComma
    exact ensures_pure fun noName => .comma (gathered noName) isComma
  · rintro closing rest rfl closes
    exact ensures_pure fun noName => ⟨read.args, closing, rfl, gathered noName, closes⟩

end Arguments

/-- A trailer goes on with the tree that was read from the first token. -/
theorem derives_trailer? (hinner : SpellsAll inner)
    (before : Derives (first :: more) (.tree tree) tokens) :
    Ensures tokens (trailer? inner first.place tree) fun next rest =>
      Derives (first :: more) (.tree (next.getD tree)) rest := by
  obtain ⟨_, _, ⟨⟩, hasText, suffix⟩ := before.exists_first
  refine ensures_peek ?_
  rintro sign behind rfl
  have within := (List.suffix_cons sign behind).trans suffix
  refine ensures_skip ?_ (ensures_skip ?_ (ensures_skip ?_ (ensures_pure before)))
  · rintro _ _ ⟨⟩ _
    exact ensures_then fun _ _ taken =>
      ensures_pure (.refused hasText ⟨rfl, rfl⟩ (taken.trans within))
  · rintro _ _ ⟨⟩ _
    exact ensures_then fun _ _ taken =>
      ensures_pure (.refused hasText ⟨rfl, rfl⟩ (taken.trans within))
  · rintro _ _ ⟨⟩ opens
    intro next rest read
    obtain ⟨args, mid, hargs, answer⟩ := reads_bind.mp read
    obtain ⟨rfl, rfl⟩ := reads_pure.mp answer
    obtain ⟨args, named⟩ := args
    cases named with
    | true => exact .refused hasText ⟨rfl, rfl⟩ (hargs.isSuffix.trans within)
    | false =>
      obtain ⟨args, closing, rfl, inside, closes⟩ := ensures_arguments hinner _ _ _ _ hargs rfl
      exact .call before opens inside closes

theorem spells_primary (hinner : SpellsAll inner) (tokens : List Token) :
    Spells tokens (primary inner) := by
  refine ensures_peek ?_
  rintro start more rfl
  exact ensures_bind (spells_atom hinner _) fun t mid ht => ensures_iterate ht fun t mid ht =>
    derives_trailer? hinner ht

theorem spells_awaited (hinner : SpellsAll inner) (tokens : List Token) :
    Spells tokens (awaited inner) := by
  refine ensures_peek fun t more same => ensures_skip ?_ (spells_primary hinner tokens)
  rintro word behind rfl isAwait
  obtain ⟨rfl, rfl⟩ := List.cons.inj same
  exact ensures_then fun _ _ suffix =>
    ensures_pure (.refused (Token.hasText_of_is isAwait) ⟨rfl, rfl⟩ suffix)

theorem spells_power (hinner : SpellsAll inner) (tokens : List Token) :
    Spells tokens (power inner) := by
  refine ensures_peek ?_
  rintro start more rfl
  refine ensures_bind (spells_awaited hinner _) fun base mid hbase =>
    ensures_skip ?_ (ensures_pure hbase)
  rintro sign behind rfl isPower
  refine ensures_bind (hinner .factor behind) fun exponent rest hexponent => ensures_pure ?_
  exact .binary hbase isPower rfl hexponent

theorem is_of_signOperator? {op : UnaryOp} (h : signOperator? t = some op) :
    t.is op.text = true ∧ op.isKnown = true := by
  unfold signOperator? at h
  split at h
  all_goals cases h
  all_goals next lexeme => exact ⟨Token.is_of_sign lexeme _, rfl⟩

theorem spells_factor (hinner : SpellsAll inner) (tokens : List Token) :
    Spells tokens (factor inner) := by
  refine ensures_peek ?_
  rintro sign more rfl
  split
  · next op found =>
    obtain ⟨signed, known⟩ := is_of_signOperator? found
    refine ensures_advance (ensures_bind (hinner .factor more) fun operand rest h =>
      ensures_pure ?_)
    exact .unary signed known h
  · exact spells_power hinner _

/-- The operators that a level joins operands with have their own signs, if rules may use them. -/
def JoinsSigned (operation? : Token → Option Operation) : Prop :=
  ∀ t op, operation? t = some (.ok op) → t.is op.text = true ∧ op.isKnown = true

theorem joinsSigned_term : JoinsSigned termOperation? := by
  intro t op h
  unfold termOperation? at h
  split at h
  all_goals cases h
  all_goals next lexeme => exact ⟨Token.is_of_sign lexeme _, rfl⟩

theorem joinsSigned_sum : JoinsSigned sumOperation? := by
  intro t op h
  unfold sumOperation? at h
  split at h
  all_goals cases h
  all_goals next lexeme => exact ⟨Token.is_of_sign lexeme _, rfl⟩

theorem joinsSigned_shift : JoinsSigned shiftOperation? := by
  intro t op h
  unfold shiftOperation? at h
  split at h
  all_goals cases h

theorem joinsSigned_signOf (sign : String) (op : ForeignOperator) :
    JoinsSigned (signOf sign op) := by
  intro t operation h
  rw [signOf] at h
  split at h
  all_goals cases h

theorem spells_joined {operand : Parser Tree} (ho : ∀ tokens, Spells tokens operand)
    {operation? : Token → Option Operation} (signed : JoinsSigned operation?)
    (tokens : List Token) :
    Spells tokens (joined operand operation?) := by
  refine ensures_peek ?_
  rintro start more rfl
  refine ensures_bind (ho _) fun left mid hleft => ensures_iterate hleft fun left mid hleft => ?_
  obtain ⟨_, _, ⟨⟩, hasText, before⟩ := hleft.exists_first
  refine ensures_peek ?_
  rintro sign behind rfl
  split
  · next op found =>
    refine ensures_advance (ensures_bind (ho behind) fun right rest hright => ensures_pure ?_)
    cases op with
    | error op =>
      exact .refused hasText ⟨rfl, rfl⟩
        (hright.isSuffix.trans ((List.suffix_cons _ _).trans before))
    | ok op =>
      obtain ⟨isSign, known⟩ := signed sign op found
      exact .binary hleft isSign known hright
  · exact ensures_pure hleft

theorem spells_bitOr (hinner : SpellsAll inner) (tokens : List Token) :
    Spells tokens (bitOr inner) := by
  have term := spells_joined (spells_factor hinner) joinsSigned_term
  have sum := spells_joined term joinsSigned_sum
  have shift := spells_joined sum joinsSigned_shift
  have bitAnd := spells_joined shift (joinsSigned_signOf "&" .bitAnd)
  have bitXor := spells_joined bitAnd (joinsSigned_signOf "^" .bitXor)
  exact spells_joined bitXor (joinsSigned_signOf "|" .bitOr) tokens

/-- An operator that is not there takes nothing. -/
theorem ensures_comparison? (tokens : List Token) :
    Ensures tokens comparison? fun found rest => rest <:+ tokens ∧
      (found = false → rest = tokens) := by
  refine ensures_seenOneOf fun _ => ensures_ite (fun _ => ?_) fun _ => ensures_skip ?_ ?_
  · exact ensures_then fun _ _ suffix => ensures_pure ⟨suffix, nofun⟩
  · rintro word more rfl _
    exact ensures_then fun _ _ suffix => ensures_pure ⟨suffix.trans (List.suffix_cons _ _), nofun⟩
  · refine ensures_seen fun _ => ensures_peekSecond fun _ => ensures_ite (fun _ => ?_) fun _ => ?_
    · exact ensures_then fun _ _ first => ensures_then fun _ _ second =>
        ensures_pure ⟨second.trans first, nofun⟩
    · exact ensures_pure ⟨List.suffix_rfl, fun _ => rfl⟩

theorem spells_comparison (hinner : SpellsAll inner) (tokens : List Token) :
    Spells tokens (comparison inner) := by
  refine ensures_peek ?_
  rintro start more rfl
  refine ensures_bind (spells_bitOr hinner _) fun t mid ht => ensures_iterate ht fun t mid ht => ?_
  obtain ⟨_, _, ⟨⟩, hasText, before⟩ := ht.exists_first
  refine ensures_bind (ensures_comparison? mid) fun found behind taken => ensures_ite (fun _ => ?_)
    fun absent => ?_
  · exact ensures_then fun _ _ suffix =>
      ensures_pure (.refused hasText ⟨rfl, rfl⟩ (suffix.trans (taken.1.trans before)))
  · rw [taken.2 (Bool.eq_false_iff.mpr absent)]
    exact ensures_pure ht

theorem spells_inversion (hinner : SpellsAll inner) (tokens : List Token) :
    Spells tokens (inversion inner) := by
  refine ensures_peek fun t more same => ensures_skip ?_ (spells_comparison hinner tokens)
  rintro word behind rfl isNot
  obtain ⟨rfl, rfl⟩ := List.cons.inj same
  exact ensures_then fun _ _ suffix =>
    ensures_pure (.refused (Token.hasText_of_is isNot) ⟨rfl, rfl⟩ suffix)

theorem spells_boolean (word : String) {condition : Parser Tree}
    (hc : ∀ tokens, Spells tokens condition)
    (tokens : List Token) : Spells tokens (boolean word condition) := by
  refine ensures_peek ?_
  rintro start more rfl
  refine ensures_bind (hc _) fun t mid ht => ensures_iterate ht fun t mid ht => ?_
  obtain ⟨_, _, ⟨⟩, hasText, before⟩ := ht.exists_first
  refine ensures_skip ?_ (ensures_pure ht)
  rintro joining behind rfl _
  have within := (List.suffix_cons joining behind).trans before
  exact ensures_then fun _ _ suffix =>
    ensures_pure (.refused hasText ⟨rfl, rfl⟩ (suffix.trans within))

theorem spells_disjunction (hinner : SpellsAll inner) (tokens : List Token) :
    Spells tokens (disjunction inner) :=
  spells_boolean "or" (spells_boolean "and" (spells_inversion hinner)) tokens

theorem spells_function (hasText : first.hasText = true) :
    Spells (first :: more) (function inner) := by
  refine ensures_next ?_
  rintro _ _ ⟨⟩
  refine ensures_then fun _ _ parameters => ensures_then fun _ _ colon =>
    ensures_then fun _ _ body => ensures_pure ?_
  exact .refused hasText ⟨rfl, rfl⟩ (body.trans (colon.trans parameters))

theorem takesNothing_refuseNeighbour (before : Token) (second : Option Token) :
    TakesNothing (refuseNeighbour inner before second) := by
  intro tokens
  refine ensures_peek fun t _ _ => ensures_ite (fun _ => ?_) fun _ => ensures_pure rfl
  have attempted : ∀ {α : Type} (p : Parser α), Ensures tokens (do
      let found ← attempt p
      let isExpression ← pure found.isSome
      if isExpression then throw (Refusal.refused before.line t.line)) fun _ rest =>
          rest = tokens :=
    fun p => ensures_attempt (fun _ _ => ensures_pure_bind (ensures_throw _))
      (ensures_pure_bind (ensures_pure rfl))
  split
  · exact attempted _
  · exact attempted _
  · exact attempted _
  · exact attempted _
  · exact attempted _
  · exact ensures_pure_bind (ensures_throw _)

theorem spells_expression (hinner : SpellsAll inner) (tokens : List Token) :
    Spells tokens (expression inner) := by
  refine ensures_peek ?_
  rintro first more rfl
  refine ensures_ite (fun isLambda => spells_function (Token.hasText_of_is isLambda)) fun _ => ?_
  refine ensures_peekSecond fun second => ensures_bind (spells_disjunction hinner _) fun t mid ht =>
    ensures_skip ?_ ?_
  · rintro word behind rfl _
    obtain ⟨_, _, ⟨⟩, hasText, before⟩ := ht.exists_first
    have within := (List.suffix_cons word behind).trans before
    refine ensures_then fun _ _ condition => ensures_skip ?_ ?_
    · rintro otherwise behind rfl _
      refine ensures_then fun _ _ suffix => ensures_pure (.refused hasText ⟨rfl, rfl⟩ ?_)
      exact suffix.trans ((List.suffix_cons _ _).trans (condition.trans within))
    · exact ensures_seen fun _ => ensures_ite (fun _ => ensures_refuse) fun _ => ensures_refuseAt _
  · refine ensures_bind (takesNothing_refuseNeighbour first second mid) fun _ _ same =>
      ensures_pure ?_
    rw [same]
    exact ht

theorem spells_atLevel (hinner : SpellsAll inner) (level : Level) (tokens : List Token) :
    Spells tokens (atLevel inner level) := by
  cases level with
  | expression => exact spells_expression hinner tokens
  | disjunction => exact spells_disjunction hinner tokens
  | inversion => exact spells_inversion hinner tokens
  | bitOr => exact spells_bitOr hinner tokens
  | factor => exact spells_factor hinner tokens
  | primary => exact spells_primary hinner tokens

/-- However deep the levels are nested, what they read is derived. -/
theorem spellsAll_nested (depth : Nat) : SpellsAll (nested depth) := by
  induction depth with
  | zero => exact fun _ _ => ensures_refuse
  | succ depth ih => exact spells_atLevel ih

end Grammar
end RateRules.Script
