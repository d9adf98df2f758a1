import RateRules.Proofs.Ensures
import RateRules.Proofs.Scanning
import RateRules.Script.Grammar.Clause
import RateRules.Script.Statement

/-!
# Places do not matter to parsers

Two texts whose tokens differ in their places alone are read alike: the parsers refuse both, or read
values that differ in places alone. A parser looks at places only to blame a line and to write them
down. The ways to put parsers together keep this.
-/
namespace RateRules.Script

/-- Values that may hold places, and the same values with one place everywhere. -/
class Placeless (α : Type) where
  placeless : α → α

open Placeless

/-- Values that hold no place. -/
class PlaceFree (α : Type) [Placeless α] : Prop where
  placeless_eq : ∀ a : α, placeless a = a

/-- The place that stands for all places. -/
def Place.origin : Place := ⟨0, 0⟩

instance : Placeless Place := ⟨fun _ => .origin⟩

instance : Placeless Token := ⟨fun t => { t with place := .origin }⟩

instance : Placeless Quotation := ⟨id⟩

instance : Placeless Bool := ⟨id⟩

instance : Placeless Unit := ⟨id⟩

instance : Placeless String := ⟨id⟩

instance : Placeless Nat := ⟨id⟩

instance : Placeless (ForInStep Unit) := ⟨id⟩

instance : Placeless Command := ⟨id⟩

instance : Placeless Grammar.Parameters := ⟨id⟩

instance {α : Type} [Placeless α] : Placeless (Option α) := ⟨Option.map placeless⟩

instance {α : Type} [Placeless α] : Placeless (List α) := ⟨List.map placeless⟩

instance {α β : Type} [Placeless α] [Placeless β] : Placeless (α × β) :=
  ⟨fun a => (placeless a.1, placeless a.2)⟩

instance : PlaceFree Quotation := ⟨fun _ => rfl⟩

instance : PlaceFree Bool := ⟨fun _ => rfl⟩

instance : PlaceFree Unit := ⟨fun _ => rfl⟩

instance : PlaceFree String := ⟨fun _ => rfl⟩

instance : PlaceFree Nat := ⟨fun _ => rfl⟩

instance : PlaceFree (ForInStep Unit) := ⟨fun _ => rfl⟩

instance : PlaceFree Command := ⟨fun _ => rfl⟩

instance : PlaceFree Grammar.Parameters := ⟨fun _ => rfl⟩

instance {α : Type} [Placeless α] [PlaceFree α] : PlaceFree (Option α) :=
  ⟨fun a => by
    cases a with
    | none => rfl
    | some a => exact congrArg some (PlaceFree.placeless_eq a)⟩

instance {α : Type} [Placeless α] [PlaceFree α] : PlaceFree (List α) :=
  ⟨fun as => (List.map_congr_left fun a _ => PlaceFree.placeless_eq a).trans (List.map_id' as)⟩

instance {α β : Type} [Placeless α] [PlaceFree α] [Placeless β] [PlaceFree β] : PlaceFree (α × β) :=
  ⟨fun a => Prod.ext (PlaceFree.placeless_eq a.1) (PlaceFree.placeless_eq a.2)⟩

namespace Tree

mutual

def placeless : Tree → Tree
  | number _ text => number .origin text
  | literal _ shown => literal .origin shown
  | name _ word => name .origin word
  | unary _ op operand => unary .origin op operand.placeless
  | binary _ op left right => binary .origin op left.placeless right.placeless
  | call _ callee args named => call .origin callee.placeless (placelessAll args) named
  | tuple _ items => tuple .origin (placelessAll items)
  | list _ items => list .origin (placelessAll items)
  | starred _ inner => starred .origin inner.placeless
  | foreign _ construct => foreign .origin construct

def placelessAll : List Tree → List Tree
  | [] => []
  | t :: more => t.placeless :: placelessAll more

end

theorem placelessAll_eq_map (ts : List Tree) : placelessAll ts = ts.map placeless := by
  induction ts with
  | nil => rfl
  | cons t more ih => rw [placelessAll, ih, List.map_cons]

theorem isStarred_placeless (t : Tree) : t.placeless.isStarred = t.isStarred := by
  cases t <;> rfl

theorem isSingleTarget_placeless (t : Tree) : t.placeless.isSingleTarget = t.isSingleTarget := by
  cases t with
  | foreign place construct => cases construct <;> rfl
  | _ => rfl

end Tree

instance : Placeless Tree := ⟨Tree.placeless⟩

theorem Token.eq_of_placeless_eq {t t' : Token}
    (h : Placeless.placeless t = Placeless.placeless t') :
    ∃ place, t' = { t with place := place } := by
  obtain ⟨lexeme, place, depth⟩ := t
  obtain ⟨lexeme', place', depth'⟩ := t'
  cases h
  exact ⟨place', rfl⟩

theorem eq_nil_of_placeless_eq {α : Type} [Placeless α] {l : List α}
    (h : placeless ([] : List α) = placeless l) : l = [] := List.map_eq_nil_iff.mp h.symm

theorem cons_of_placeless_eq {α : Type} [Placeless α] {a : α} {more l : List α}
    (h : placeless (a :: more) = placeless l) :
    ∃ a' more', l = a' :: more' ∧ placeless a = placeless a' ∧
    placeless more = placeless more' := by
  obtain ⟨a', more', rfl, ha, hmore⟩ := List.map_eq_cons_iff.mp h.symm
  exact ⟨a', more', rfl, ha.symm, hmore.symm⟩

namespace Tree

variable {place place' : Place} {items items' : List Tree}

theorem tuple_congr (h : Placeless.placeless items = Placeless.placeless items') :
    Placeless.placeless (tuple place items) = Placeless.placeless (tuple place' items') := by
  have all : placelessAll items = placelessAll items' := by
    rw [placelessAll_eq_map, placelessAll_eq_map]
    exact h
  exact congrArg (tuple .origin) all

theorem list_congr (h : Placeless.placeless items = Placeless.placeless items') :
    Placeless.placeless (list place items) = Placeless.placeless (list place' items') := by
  have all : placelessAll items = placelessAll items' := by
    rw [placelessAll_eq_map, placelessAll_eq_map]
    exact h
  exact congrArg (list .origin) all

theorem call_congr {callee callee' : Tree} {named : Bool}
    (hcallee : Placeless.placeless callee = Placeless.placeless callee')
    (h : Placeless.placeless items = Placeless.placeless items') :
    Placeless.placeless (call place callee items named) =
      Placeless.placeless (call place' callee' items' named) := by
  have all : placelessAll items = placelessAll items' := by
    rw [placelessAll_eq_map, placelessAll_eq_map]
    exact h
  exact congrArg (fun tree => tree named) (congr (congrArg (call .origin) hcallee) all)

end Tree

theorem cons_congr {α : Type} [Placeless α] {a a' : α} {more more' : List α}
    (h : placeless a = placeless a')
    (hmore : placeless more = placeless more') :
    placeless (a :: more) = placeless (a' :: more') := by
  show placeless a :: placeless more = placeless a' :: placeless more'
  rw [h, hmore]

theorem reverse_congr {α : Type} [Placeless α] {l l' : List α} (h : placeless l = placeless l') :
    placeless l.reverse = placeless l'.reverse := by
  have := congrArg List.reverse h
  simpa only [placeless, List.map_reverse] using this

namespace Token

variable {t : Token} {word : String}

/-- The token ends a clause, a line or the text. -/
def isStop (t : Token) : Bool := Grammar.isClauseEnd t || t.isEnd

theorem is_of_isStop (h : t.isStop = true) (other : word ≠ ";") :
    t.is word = false := by
  obtain ⟨lexeme, place, depth⟩ := t
  cases lexeme with
  | sign text | keyword text =>
    rcases Bool.or_eq_true_iff.mp h with clause | ends
    · rcases Bool.or_eq_true_iff.mp clause with semicolon | line
      · obtain rfl : text = ";" := eq_of_beq semicolon
        exact beq_eq_false_iff_ne.mpr other.symm
      · cases eq_of_beq line
    · cases ends
  | _ => rfl

theorem isStop_of_is (h : t.is word = true) (other : word ≠ ";") :
    t.isStop = false := by
  cases stops : t.isStop with
  | false => rfl
  | true =>
    rw [is_of_isStop stops other] at h
    cases h

theorem isStop_of_sign (h : t.lexeme = .sign word) (other : word ≠ ";") :
    t.isStop = false := by
  refine @isStop_of_is t word ?_ other
  rw [is, h]
  exact beq_self_eq_true word

theorem isOneOf_of_isStop {words : List String} (h : t.isStop = true)
    (others : ";" ∉ words) : t.isOneOf words = false := by
  refine List.any_eq_false.mpr fun word hword => ?_
  rw [is_of_isStop h (ne_of_mem_of_not_mem hword others)]
  exact Bool.false_ne_true

theorem isStop_of_isOneOf {words : List String} (h : t.isOneOf words = true)
    (others : ";" ∉ words) : t.isStop = false := by
  cases stops : t.isStop with
  | false => rfl
  | true =>
    rw [isOneOf_of_isStop stops others] at h
    cases h

theorem name?_of_isStop (h : t.isStop = true) : t.name? = none := by
  obtain ⟨lexeme, place, depth⟩ := t
  cases lexeme with
  | name => cases h
  | _ => rfl

theorem isStop_of_name? (h : t.name?.isSome = true) : t.isStop = false := by
  obtain ⟨lexeme, place, depth⟩ := t
  cases lexeme with
  | name => rfl
  | _ => cases h

end Token

/-- The same tokens up to a stop, apart from their places. What stands behind the stop need not be
the same. -/
inductive Alike (stop : Token) (behind behind' : List Token) : List Token → List Token → Prop
  | stop (place : Place) (isStop : stop.isStop = true) :
      Alike stop behind behind' (stop :: behind) ({ stop with place := place } :: behind')
  | token {t : Token} {rest rest' : List Token} (place : Place) (inside : t.isStop = false)
      (further : Alike stop behind behind' rest rest') :
      Alike stop behind behind' (t :: rest) ({ t with place := place } :: rest')

variable {stop t : Token} {behind behind' tokens tokens' rest : List Token}

/-- Tokens that differ in their places alone are alike up to their first stop, and what follows it
differs in places alone. -/
theorem exists_alike (same : placeless tokens = placeless tokens') (ends : Ends tokens) :
    ∃ stop behind behind', placeless behind = placeless behind' ∧
      Alike stop behind behind' tokens tokens' := by
  induction tokens generalizing tokens' with
  | nil =>
    obtain ⟨t, last, _⟩ := ends
    cases last
  | cons t more ih =>
    obtain ⟨t', more', rfl, first, further⟩ := cons_of_placeless_eq same
    obtain ⟨place, rfl⟩ := Token.eq_of_placeless_eq first
    cases stops : t.isStop with
    | true => exact ⟨t, more, more', further, .stop place stops⟩
    | false =>
      obtain ⟨stop, behind, behind', hbehind, alike⟩ :=
        ih further (ends.tail (Bool.or_eq_false_iff.mp stops).2)
      exact ⟨stop, behind, behind', hbehind, .token place stops alike⟩

theorem Alike.cons (h : Alike stop behind behind' (t :: rest) tokens') :
    ∃ place rest', tokens' = { t with place := place } :: rest' ∧
      (t.isStop = true → t = stop ∧ rest = behind ∧ rest' = behind') ∧
      (t.isStop = false → Alike stop behind behind' rest rest') := by
  cases h with
  | stop place stops =>
    refine ⟨place, behind', rfl, fun _ => ⟨rfl, rfl, rfl⟩, fun inside => ?_⟩
    rw [stops] at inside
    cases inside
  | token place inside further =>
    refine ⟨place, _, rfl, fun stops => ?_, fun _ => further⟩
    rw [inside] at stops
    cases stops

theorem Alike.exists_cons (h : Alike stop behind behind' tokens tokens') :
    ∃ t rest, tokens = t :: rest := by
  cases h with
  | stop | token => exact ⟨_, _, rfl⟩

theorem Alike.pos (h : Alike stop behind behind' tokens tokens') :
    0 < tokens.length ∧ 0 < tokens'.length := by
  cases h with
  | stop | token => exact ⟨Nat.succ_pos _, Nat.succ_pos _⟩

/-- Both sides have as many tokens before the stop. -/
theorem Alike.length_add (h : Alike stop behind behind' tokens tokens') :
    tokens.length + behind'.length = tokens'.length + behind.length := by
  induction h with
  | stop => simp only [List.length_cons]; omega
  | token _ _ _ ih => simp only [List.length_cons]; omega

namespace Parser

variable {α β : Type} [Placeless α] [Placeless β]

/-- What a parser reads and leaves. -/
def outcome? (p : Parser α) (tokens : List Token) : Option (α × List Token) :=
  match p tokens with
  | .ok parsed => some (parsed.value, parsed.rest)
  | .error _ => none

/-- Both outcomes are refusals, or the same was read, apart from places, and like tokens are
left. -/
inductive Matches (stop : Token) (behind behind' : List Token) :
    Option (α × List Token) → Option (α × List Token) → Prop
  | refused : Matches stop behind behind' none none
  | read {a a' : α} {rest rest' : List Token} (value : placeless a = placeless a')
      (left : Alike stop behind behind' rest rest') :
      Matches stop behind behind' (some (a, rest)) (some (a', rest'))

/-- The parsers refuse the same tokens and read the same from them, apart from places, if the tokens
start with `front`. They look at no token behind a stop. -/
def AgreeOn (front : List Token) (p p' : Parser α) : Prop :=
  ∀ ⦃stop : Token⦄ ⦃behind behind' rest tokens' : List Token⦄,
    Alike stop behind behind' (front ++ rest) tokens' →
      Matches stop behind behind' (outcome? p (front ++ rest)) (outcome? p' tokens')

/-- The parsers agree on all tokens. -/
abbrev Agree (p p' : Parser α) : Prop := AgreeOn [] p p'

variable {p p' q q' : Parser α} {f f' : α → Parser β} {front : List Token} {word : String}

theorem AgreeOn.of_agree (h : Agree p p') : AgreeOn front p p' :=
  fun _ _ _ _ _ alike => h alike

omit [Placeless α] [Placeless β] in
theorem outcome?_bind (p : Parser α) (f : α → Parser β) (tokens : List Token) :
    outcome? (p >>= f) tokens =
      (outcome? p tokens).bind fun read => outcome? (f read.1) read.2 := by
  simp only [outcome?, bind]
  cases p tokens with
  | error refusal => rfl
  | ok first =>
    simp only [Option.bind]
    cases f first.value first.rest with
    | error refusal => rfl
    | ok second => rfl

theorem agree_pure {a a' : α} (h : placeless a = placeless a') : AgreeOn front (pure a) (pure a') :=
  fun _ _ _ _ _ alike => .read h alike

omit [Placeless α] in
theorem outcome?_eq_some {a : α} :
    outcome? p tokens = some (a, rest) ↔ Reads p tokens a rest := by
  unfold outcome?
  constructor
  · intro h
    split at h
    · next parsed same =>
      obtain ⟨a', rest', isSuffix⟩ := parsed
      obtain ⟨rfl, rfl⟩ := Prod.mk.inj (Option.some.inj h)
      exact ⟨isSuffix, same⟩
    · cases h
  · rintro ⟨_, same⟩
    rw [same]

/-- What the one parser reads the other one reads, too. -/
theorem AgreeOn.reads {a : α} (h : Agree p p') (alike : Alike stop behind behind' tokens tokens')
    (read : Reads p tokens a rest) :
    ∃ a' rest', Reads p' tokens' a' rest' ∧ placeless a = placeless a' ∧
      Alike stop behind behind' rest rest' := by
  have same := h alike
  rw [List.nil_append, outcome?_eq_some.mpr read] at same
  generalize found : outcome? p' tokens' = o' at same
  cases same with
  | read value left => exact ⟨_, _, outcome?_eq_some.mp found, value, left⟩

omit [Placeless α] in
/-- Nothing is read first. -/
theorem agree_pure_then {a : α} {q q' : Parser β} (hq : AgreeOn front q q') :
    AgreeOn front ((pure a : Parser α) >>= fun _ => q) ((pure a : Parser α) >>= fun _ => q') := by
  have skipped : ∀ (q : Parser β) (tokens : List Token),
      outcome? ((pure a : Parser α) >>= fun _ => q) tokens = outcome? q tokens := by
    intro q tokens
    rw [outcome?_bind]
    rfl
  intro stop behind behind' rest tokens' alike
  rw [skipped, skipped]
  exact hq alike

theorem Matches.bind {o o' : Option (α × List Token)} (h : Matches stop behind behind' o o')
    (hf : ∀ a a', placeless a = placeless a' → Agree (f a) (f' a')) :
    Matches stop behind behind' (o.bind fun read => outcome? (f read.1) read.2)
      (o'.bind fun read => outcome? (f' read.1) read.2) := by
  cases h with
  | refused => exact .refused
  | read value left => exact hf _ _ value left

theorem agree_bind (hp : AgreeOn front p p')
    (hf : ∀ a a', placeless a = placeless a' → Agree (f a) (f' a')) :
    AgreeOn front (p >>= f) (p' >>= f') := by
  intro stop behind behind' rest tokens' alike
  rw [outcome?_bind, outcome?_bind]
  exact (hp alike).bind hf

/-- What was read holds no place, so it is the same. -/
theorem agree_then [PlaceFree α] (hp : AgreeOn front p p') (hf : ∀ a, Agree (f a) (f' a)) :
    AgreeOn front (p >>= f) (p' >>= f') := by
  refine agree_bind hp fun a a' same => ?_
  rw [PlaceFree.placeless_eq, PlaceFree.placeless_eq] at same
  rw [same]
  exact hf a'

theorem agree_if {c : Prop} [Decidable c] (hp : c → AgreeOn front p p')
    (hq : ¬ c → AgreeOn front q q') :
    AgreeOn front (if c then p else q) (if c then p' else q') := by
  split
  · next h => exact hp h
  · next h => exact hq h

theorem agree_ite {c : Prop} [Decidable c] (hp : AgreeOn front p p') (hq : AgreeOn front q q') :
    AgreeOn front (if c then p else q) (if c then p' else q') :=
  agree_if (fun _ => hp) fun _ => hq

/-- Something may be checked first. -/
theorem agree_check {c : Prop} [Decidable c] (hp : AgreeOn front p p') {r r' : Parser β}
    (hr : Agree r r') :
    AgreeOn front (if c then p >>= fun _ => r else r) (if c then p' >>= fun _ => r' else r') :=
  agree_ite (agree_bind hp fun _ _ _ => hr) (AgreeOn.of_agree hr)

theorem agree_throw (refusal refusal' : Refusal) :
    AgreeOn front (throw refusal : Parser α) (throw refusal') :=
  fun _ _ _ _ _ _ => .refused

theorem outcome?_peek (t : Token) (rest : List Token) :
    outcome? peek (t :: rest) = if t.isBroken then none else some (t, t :: rest) := by
  rw [peek, outcome?_bind]
  show outcome? (if t.isBroken then throw Refusal.broken else pure t) (t :: rest) = _
  split <;> rfl

/-- The first token is known and stays. -/
theorem agree_peekKnown {f f' : Token → Parser β}
    (hf : ∀ place, AgreeOn (t :: front) (f t) (f' { t with place := place })) :
    AgreeOn (t :: front) (peek >>= f) (peek >>= f') := by
  intro stop behind behind' rest tokens' alike
  obtain ⟨place, rest', rfl, _⟩ := alike.cons
  have broken : ({ t with place := place } : Token).isBroken = t.isBroken := rfl
  rw [outcome?_bind, outcome?_bind, List.cons_append, outcome?_peek, outcome?_peek, broken]
  split
  · exact .refused
  · exact hf place alike

/-- The next token, with any other place. -/
theorem agree_look {f f' : Token → Parser β}
    (hf : ∀ t place, AgreeOn [t] (f t) (f' { t with place := place })) :
    Agree (peek >>= f) (peek >>= f') := by
  intro stop behind behind' rest tokens' alike
  obtain ⟨t, more, rfl⟩ := alike.exists_cons
  exact @agree_peekKnown t _ _ [] f f' (hf t) _ _ _ more _ alike

theorem agree_peekThen {f f' : Token → Parser β}
    (hf : ∀ t place, Agree (f t) (f' { t with place := place })) :
    AgreeOn front (peek >>= f) (peek >>= f') :=
  AgreeOn.of_agree (agree_look fun t place => AgreeOn.of_agree (hf t place))

/-- A token that is no stop is taken. -/
theorem agree_advance {q q' : Parser β} (inside : t.isStop = false) (hq : AgreeOn front q q') :
    AgreeOn (t :: front) (advance >>= fun _ => q) (advance >>= fun _ => q') := by
  intro stop behind behind' rest tokens' alike
  obtain ⟨place, rest', rfl, _, further⟩ := alike.cons
  rw [outcome?_bind, outcome?_bind]
  exact hq (further inside)

theorem agree_next {f f' : Token → Parser β} (inside : t.isStop = false)
    (hf : ∀ place, AgreeOn front (f t) (f' { t with place := place })) :
    AgreeOn (t :: front) (next >>= f) (next >>= f') := by
  intro stop behind behind' rest tokens' alike
  have taken : AgreeOn (t :: front) (peek >>= fun u => advance >>= fun _ => f u)
      (peek >>= fun u => advance >>= fun _ => f' u) :=
    agree_peekKnown fun place => agree_advance inside (hf place)
  have split : ∀ (g : Token → Parser β) (tokens : List Token), outcome? (next >>= g) tokens =
      outcome? (peek >>= fun u => advance >>= fun _ => g u) tokens := by
    intro g tokens
    simp only [next, outcome?_bind, Option.bind_assoc]
    rfl
  rw [split, split]
  exact taken alike

/-- Refusals are alike whatever line they blame. -/
theorem agree_refuseAt (line line' : Nat) :
    AgreeOn front (refuseAt line : Parser α) (refuseAt line') :=
  agree_peekThen fun _ _ => agree_throw _ _

theorem agree_refuse : AgreeOn front (refuse : Parser α) refuse :=
  agree_peekThen fun _ _ => agree_throw _ _

omit [Placeless α] in
/-- Nothing follows a refusal. -/
theorem agree_refuseAt_then (line line' : Nat) {f f' : α → Parser β} :
    AgreeOn front (refuseAt line >>= f) (refuseAt line' >>= f') := by
  have refused : ∀ line (g : α → Parser β) (tokens : List Token),
      outcome? ((refuseAt line : Parser α) >>= g) tokens = none := by
    intro line g tokens
    rw [outcome?_bind, refuseAt, outcome?_bind]
    cases outcome? peek tokens <;> rfl
  intro stop behind behind' rest tokens' alike
  rw [refused, refused]
  exact .refused

omit [Placeless α] in
theorem agree_refuse_then {f f' : α → Parser β} : AgreeOn front (refuse >>= f) (refuse >>= f') := by
  have refused : ∀ (g : α → Parser β) (tokens : List Token),
      outcome? ((refuse : Parser α) >>= g) tokens = none := by
    intro g tokens
    rw [outcome?_bind, refuse, outcome?_bind]
    cases outcome? peek tokens <;> rfl
  intro stop behind behind' rest tokens' alike
  rw [refused, refused]
  exact .refused

/-- The first tokens stay known if nothing is refused. -/
theorem agree_unless {c : Prop} [Decidable c] (hq : AgreeOn front q q') :
    AgreeOn front (if c then (refuse : Parser PUnit) >>= fun _ => q else q)
      (if c then (refuse : Parser PUnit) >>= fun _ => q' else q') :=
  agree_ite agree_refuse_then hq

theorem agree_unlessAt {c : Prop} [Decidable c] {line line' : Nat} (hq : AgreeOn front q q') :
    AgreeOn front (if c then (refuseAt line : Parser PUnit) >>= fun _ => q else q)
      (if c then (refuseAt line' : Parser PUnit) >>= fun _ => q' else q') :=
  agree_ite (agree_refuseAt_then line line') hq

/-- Looking for a word tells what the first token is. -/
theorem agree_seenKnown {f f' : Bool → Parser β}
    (hf : AgreeOn (t :: front) (f (t.is word)) (f' (t.is word))) :
    AgreeOn (t :: front) (sees word >>= f) (sees word >>= f') := by
  have looked : AgreeOn (t :: front) (peek >>= fun t => f (t.is word))
      (peek >>= fun t => f' (t.is word)) := agree_peekKnown fun _ => hf
  have split : ∀ (g : Bool → Parser β) (tokens : List Token), outcome? (sees word >>= g) tokens =
      outcome? (peek >>= fun t => g (t.is word)) tokens := by
    intro g tokens
    simp only [sees, outcome?_bind, Option.bind_assoc]
    rfl
  intro stop behind behind' rest tokens' alike
  rw [split, split]
  exact looked alike

theorem agree_seen {f f' : Bool → Parser β}
    (hf : ∀ t : Token, AgreeOn [t] (f (t.is word)) (f' (t.is word))) :
    Agree (sees word >>= f) (sees word >>= f') := by
  intro stop behind behind' rest tokens' alike
  obtain ⟨t, more, rfl⟩ := alike.exists_cons
  exact @agree_seenKnown t _ _ [] word f f' (hf t) _ _ _ more _ alike

theorem agree_seenOneOf {words : List String} {f f' : Bool → Parser β}
    (hf : ∀ t : Token, AgreeOn [t] (f (t.isOneOf words)) (f' (t.isOneOf words))) :
    Agree (seesOneOf words >>= f) (seesOneOf words >>= f') := by
  have looked : Agree (peek >>= fun t => f (t.isOneOf words))
      (peek >>= fun t => f' (t.isOneOf words)) := agree_look fun t _ => hf t
  have split : ∀ (g : Bool → Parser β) (tokens : List Token),
      outcome? (seesOneOf words >>= g) tokens =
        outcome? (peek >>= fun t => g (t.isOneOf words)) tokens := by
    intro g tokens
    simp only [seesOneOf, outcome?_bind, Option.bind_assoc]
    rfl
  intro stop behind behind' rest tokens' alike
  rw [split, split]
  exact looked alike

theorem agree_sees (word : String) : AgreeOn front (sees word) (sees word) :=
  agree_peekThen fun _ _ => agree_pure rfl

theorem agree_seesOneOf (words : List String) : AgreeOn front (seesOneOf words) (seesOneOf words) :=
  agree_peekThen fun _ _ => agree_pure rfl

/-- What is read behind a word that was seen may take it. -/
theorem agree_ifSees (hp : ∀ t : Token, t.is word = true → AgreeOn [t] p p')
    (hq : Agree q q') :
    AgreeOn front (do if ← sees word then p else q) (do if ← sees word then p' else q') :=
  AgreeOn.of_agree (agree_seen fun t => agree_if (hp t) fun _ => AgreeOn.of_agree hq)

theorem outcome?_skip (t : Token) (rest : List Token) :
    outcome? (skip? word) (t :: rest) =
      if t.isBroken then none
      else if t.is word then some (true, rest) else some (false, t :: rest) := by
  simp only [skip?, sees, outcome?_bind, outcome?_peek]
  split
  · rfl
  · show outcome? (if t.is word then _ else _) (t :: rest) = _
    split <;> rfl

/-- A word that is not there takes nothing. -/
theorem agree_ifSkips (other : word ≠ ";") (hp : Agree p p') (hq : AgreeOn (t :: front) q q') :
    AgreeOn (t :: front) (do if ← skip? word then p else q)
      (do if ← skip? word then p' else q') := by
  intro stop behind behind' rest tokens' alike
  obtain ⟨place, rest', rfl, _, further⟩ := alike.cons
  have same : ({ t with place := place } : Token).isBroken = t.isBroken ∧
      ({ t with place := place } : Token).is word = t.is word := ⟨rfl, rfl⟩
  rw [outcome?_bind, outcome?_bind, List.cons_append, outcome?_skip, outcome?_skip, same.1, same.2]
  split
  · exact .refused
  · split
    · next isWord => exact hp (further (Token.isStop_of_is isWord other))
    · exact hq alike

theorem agree_skip (word : String) (other : word ≠ ";") :
    AgreeOn front (skip? word) (skip? word) :=
  agree_ifSees (fun _ isWord => agree_advance (Token.isStop_of_is isWord other) (agree_pure rfl))
    (agree_pure rfl)

theorem agree_expect (word : String) (other : word ≠ ";") :
    AgreeOn front (expect word) (expect word) :=
  agree_then (agree_skip word other) fun _ => agree_ite agree_refuse (agree_pure rfl)

theorem agree_name : AgreeOn front name name := by
  refine AgreeOn.of_agree (agree_look fun t place => ?_)
  have word : ({ t with place := place } : Token).name? = t.name? := rfl
  rw [word]
  cases found : t.name? with
  | none => exact agree_refuse
  | some word =>
    have taken : AgreeOn [t] (advance >>= fun _ => pure word) (advance >>= fun _ => pure word) :=
      agree_advance (Token.isStop_of_name? (by rw [found]; rfl)) (agree_pure rfl)
    exact taken

/-- The second token is looked at only if the first one is no stop. -/
theorem agree_peekSecond {f f' : Option Token → Parser β}
    (atStop : t.isStop = true → ∀ second second', AgreeOn [t] (f second) (f' second'))
    (inside : t.isStop = false → ∀ u place,
      AgreeOn [t, u] (f (some u)) (f' (some { u with place := place }))) :
    AgreeOn [t] (peekSecond >>= f) (peekSecond >>= f') := by
  intro stop behind behind' rest tokens' alike
  obtain ⟨place, rest', rfl, _, further⟩ := alike.cons
  have seen : ∀ (g : Option Token → Parser β) (u : Token) (more : List Token),
      outcome? (peekSecond >>= g) (u :: more) = outcome? (g more.head?) (u :: more) := by
    intro g u more
    rw [outcome?_bind]
    cases more <;> rfl
  rw [List.singleton_append, seen, seen]
  cases stop : t.isStop with
  | true => exact atStop stop _ _ alike
  | false =>
    obtain ⟨u, more, rfl⟩ := (further stop).exists_cons
    obtain ⟨place', more', rfl, _⟩ := (further stop).cons
    exact inside stop u place' alike

theorem agree_attempt (hp : AgreeOn front p p') : AgreeOn front (attempt p) (attempt p') := by
  have tried : ∀ (p : Parser α) (tokens : List Token), outcome? (attempt p) tokens =
      some ((outcome? p tokens).map Prod.fst,
        ((outcome? p tokens).map Prod.snd).getD tokens) := by
    intro p tokens
    simp only [outcome?, attempt]
    cases p tokens <;> rfl
  intro stop behind behind' rest tokens' alike
  have first := hp alike
  rw [tried, tried]
  generalize outcome? p (front ++ rest) = o, outcome? p' tokens' = o' at first
  cases first with
  | refused => exact .read rfl alike
  | read value left => exact .read (congrArg some value) left

/-- Each step of a repetition that goes on takes a token. -/
def Takes (step : α → Parser (Option α)) : Prop :=
  ∀ a tokens, Ensures tokens (step a) fun next rest => next.isSome → rest.length < tokens.length

omit [Placeless α] in
/-- A step that goes on only behind a word takes that word. -/
theorem takes_skip {p : α → Parser (Option α)} :
    Takes fun a => do if ← skip? word then p a else return none := by
  intro a tokens
  refine ensures_skip ?_ (ensures_pure nofun)
  rintro t more rfl _ next rest read _
  exact Nat.lt_succ_of_le read.isSuffix.length_le

omit [Placeless α] in
/-- Behind a token that was taken every step takes one. -/
theorem takes_behind {more : List Token} {p : Parser (Option α)} :
    Ensures more p fun next rest => next.isSome → rest.length < (t :: more).length :=
  fun _ _ read _ => Nat.lt_succ_of_le read.isSuffix.length_le

omit [Placeless α] in
theorem takes_from {mid : List Token} (taken : mid.length < tokens.length)
    {p : Parser (Option α)} :
    Ensures mid p fun next rest => next.isSome → rest.length < tokens.length :=
  fun _ _ read _ => Nat.lt_of_le_of_lt read.isSuffix.length_le taken

omit [Placeless α] in
theorem takes_of_reads {step : α → Parser (Option α)} (takes : Takes step) {a b : α}
    {tokens rest : List Token} (h : outcome? (step a) tokens = some (some b, rest)) :
    rest.length < tokens.length :=
  takes a tokens _ _ (outcome?_eq_some.mp h) rfl

/-- There are tokens enough for all steps, so it does not matter how often they may be repeated. -/
theorem matches_repeatFrom {step step' : α → Parser (Option α)} (takes : Takes step)
    (h : ∀ a a', placeless a = placeless a' → Agree (step a) (step' a')) {fuel fuel' : Nat}
    {a a' : α} (start : placeless a = placeless a')
    (alike : Alike stop behind behind' tokens tokens') (enough : tokens.length ≤ fuel)
    (enough' : tokens'.length ≤ fuel') :
    Matches stop behind behind' (outcome? (repeatFrom step fuel a) tokens)
      (outcome? (repeatFrom step' fuel' a') tokens') := by
  induction fuel generalizing fuel' a a' tokens tokens' with
  | zero => exact absurd alike.pos.1 (by omega)
  | succ fuel ih =>
    cases fuel' with
    | zero => exact absurd alike.pos.2 (by omega)
    | succ fuel' =>
      rw [repeatFrom, repeatFrom, outcome?_bind, outcome?_bind]
      have first := h a a' start alike
      rw [List.nil_append] at first
      have shorter : ∀ b rest, outcome? (step a) tokens = some (some b, rest) →
          rest.length < tokens.length := fun _ _ => takes_of_reads takes
      generalize outcome? (step a) tokens = o, outcome? (step' a') tokens' = o' at first shorter
      cases first with
      | refused => exact .refused
      | @read next next' rest rest' value left =>
        cases next with
        | none =>
          obtain rfl : next' = none := Option.map_eq_none_iff.mp value.symm
          exact .read start left
        | some b =>
          obtain ⟨b', rfl, same⟩ := Option.map_eq_some_iff.mp value.symm
          have less := shorter b rest rfl
          have before := alike.length_add
          have after := left.length_add
          have room : rest.length ≤ fuel := by omega
          have room' : rest'.length ≤ fuel' := by omega
          exact ih same.symm left room room'

theorem agree_iterate {step step' : α → Parser (Option α)} (takes : Takes step)
    (h : ∀ a a', placeless a = placeless a' → Agree (step a) (step' a')) {a a' : α}
    (start : placeless a = placeless a') : Agree (iterate step a) (iterate step' a') := by
  intro stop behind behind' rest tokens' alike
  have whole : ∀ (step : α → Parser (Option α)) a (tokens : List Token),
      outcome? (iterate step a) tokens = outcome? (repeatFrom step tokens.length a) tokens := by
    intro step a tokens
    rw [iterate, outcome?_bind]
    rfl
  rw [whole, whole]
  exact matches_repeatFrom takes h start alike (Nat.le_refl _) (Nat.le_refl _)

theorem agree_furtherItems {starts : Token → Bool}
    (hstarts : ∀ (t : Token) place, starts { t with place := place } = starts t)
    (hp : Agree p p') :
    Agree (furtherItems starts p) (furtherItems starts p') := by
  refine agree_bind (@agree_iterate (List α) _ _ _ takes_skip
    (fun items items' same => ?_) [] [] rfl)
    fun items items' same => agree_pure (reverse_congr same)
  refine agree_then (agree_skip "," (by decide)) fun _ =>
    agree_ite (agree_peekThen fun t place => ?_) (agree_pure rfl)
  rw [hstarts t place]
  refine agree_ite (agree_bind hp fun a a' ha => agree_pure ?_) (agree_pure rfl)
  exact congrArg some (cons_congr ha same)

theorem agree_itemsOf (hp : Agree p p') : Agree (itemsOf p) (itemsOf p') := by
  refine agree_bind hp fun first first' hfirst => ?_
  refine agree_bind (@agree_iterate (List α) _ _ _ takes_skip
    (fun items items' same => ?_) [] [] rfl)
    fun items items' same => agree_pure (cons_congr hfirst (reverse_congr same))
  refine agree_then (agree_skip "," (by decide)) fun _ => agree_ite (agree_bind hp fun a a' ha =>
    agree_pure ?_) (agree_pure rfl)
  exact congrArg some (cons_congr ha same)

/-- Something is read for each of some items. -/
theorem agree_forIn {γ : Type} (items : List γ) {act act' : γ → Parser Unit}
    (h : ∀ a, Agree (act a) (act' a)) :
    Agree (forIn (m := Parser) items () fun a _ => do
        act a
        return ForInStep.yield ())
      (forIn (m := Parser) items () fun a _ => do
        act' a
        return ForInStep.yield ()) := by
  induction items with
  | nil => exact agree_pure rfl
  | cons a more ih =>
    rw [List.forIn_cons, List.forIn_cons]
    refine agree_then (agree_then (h a) fun _ => agree_pure rfl) fun step => ?_
    cases step with
    | done => exact agree_pure rfl
    | yield => exact ih

end Parser

variable {opened opened' : Opened}

/-- The same brackets are open, on whatever lines they stand. -/
def Opened.Alike (opened opened' : Opened) : Prop := opened.map (·.1) = opened'.map (·.1)

theorem Opened.Alike.length (h : opened.Alike opened') : opened.length = opened'.length := by
  simpa only [List.length_map] using congrArg List.length h

theorem Opened.Alike.isEmpty (h : opened.Alike opened') : opened.isEmpty = opened'.isEmpty := by
  simpa only [List.isEmpty_map] using congrArg List.isEmpty h

/-- Both sides refuse a token, or go on with the same brackets. -/
theorem Opened.Alike.after? (h : opened.Alike opened') (line line' : Nat) (l : Lexeme) :
    (opened.after? line l = none ∧ opened'.after? line' l = none) ∨
      ∃ inner inner' : Opened, opened.after? line l = some inner ∧
      opened'.after? line' l = some inner' ∧
        inner.Alike inner' := by
  have unchanged : ∀ {o o' : Option Opened}, o = some opened → o' = some opened' →
      (o = none ∧ o' = none) ∨ ∃ inner inner' : Opened, o = some inner ∧ o' = some inner' ∧
      inner.Alike inner' := by
    rintro o o' rfl rfl
    exact Or.inr ⟨opened, opened', rfl, rfl, h⟩
  cases l with
  | sign text =>
    cases hchars : text.toList with
    | nil => exact unchanged (by simp [Opened.after?, hchars]) (by simp [Opened.after?, hchars])
    | cons c more =>
      cases more with
      | cons d further =>
        exact unchanged (by simp [Opened.after?, hchars]) (by simp [Opened.after?, hchars])
      | nil =>
        simp only [Opened.after?, hchars, h.length]
        split
        · split
          · exact Or.inl ⟨rfl, rfl⟩
          · refine Or.inr ⟨_, _, rfl, rfl, ?_⟩
            exact congrArg (c :: ·) h
        · split
          · cases opened with
            | nil =>
              obtain rfl : opened' = [] := List.map_eq_nil_iff.mp h.symm
              exact Or.inl ⟨rfl, rfl⟩
            | cons bracket outer =>
              obtain ⟨bracket', outer', rfl, same, inside⟩ := List.map_eq_cons_iff.mp h.symm
              obtain ⟨opening, line⟩ := bracket
              obtain ⟨opening', line'⟩ := bracket'
              cases same
              simp only
              split
              · exact Or.inr ⟨outer, outer', rfl, rfl, inside.symm⟩
              · exact Or.inl ⟨rfl, rfl⟩
          · exact unchanged rfl rfl
  | _ => exact unchanged rfl rfl

/-- Where a text stands does not matter to its tokens, apart from their places. -/
theorem placeless_scanFrom (opened : Opened) (fresh : Bool) (place : Place) (cs : List Char) :
    ∀ {opened' : Opened} (place' : Place), opened.Alike opened' →
      placeless (scanFrom opened fresh place cs).tokens =
        placeless (scanFrom opened' fresh place' cs).tokens := by
  have stopped : ∀ (l : Lexeme) (place place' : Place) (o o' : Opened) (ending ending' : Ending),
      o.length = o'.length →
        placeless (Lexed.stop l place o ending).tokens =
          placeless (Lexed.stop l place' o' ending').tokens := by
    intro l place place' o o' ending ending' length
    exact congrArg (fun depth => [(⟨l, .origin, depth⟩ : Token)]) length
  fun_induction scanFrom opened fresh place cs with
  | case1 fresh place =>
    intro opened' place' h
    obtain rfl : opened' = [] := List.map_eq_nil_iff.mp h.symm
    rw [scanFrom]
    exact stopped _ _ _ _ _ _ _ rfl
  | case2 fresh place bracket line outer =>
    intro opened' place' h
    obtain ⟨bracket', outer', rfl, same, inside⟩ := List.map_eq_cons_iff.mp h.symm
    rw [scanFrom]
    exact stopped _ _ _ _ _ _ _ h.length
  | case3 opened fresh place c rest blank ih =>
    intro opened' place' h
    rw [scanFrom_blank blank]
    exact ih _ h
  | case4 opened fresh place rest n =>
    rename_i ih
    intro opened' place' h
    rw [scanFrom_comment rfl]
    exact ih _ h
  | case5 opened fresh place rest noEnd _ _ ih =>
    intro opened' place' h
    rw [h.isEmpty] at noEnd
    rw [scanFrom_lineFeed_skipped noEnd]
    exact ih _ h
  | case6 opened fresh place rest ends _ after =>
    rename_i ih
    intro opened' place' h
    obtain ⟨rfl, rfl⟩ : fresh = false ∧ opened = [] := by simpa using ends
    obtain rfl : opened' = [] := List.map_eq_nil_iff.mp h.symm
    rw [scanFrom_lineFeed]
    exact cons_congr rfl (ih _ h)
  | case7 fresh place more last =>
    intro opened' place' h
    rw [scanFrom_stray fun _ same => by cases same; exact List.isEmpty_iff.mp last]
    exact congrArg (fun depth => [(⟨.broken, .origin, depth⟩ : Token)]) h.length
  | case8 fresh place more last =>
    intro opened' place' h
    rw [scanFrom_stray fun _ same => by cases same; exact List.isEmpty_iff.mp last]
    exact congrArg (fun depth => [(⟨.broken, .origin, depth⟩ : Token)]) h.length
  | case9 opened fresh place more goes _ _ _ ih =>
    intro opened' place' h
    rw [scanFrom_joined (by simpa using goes)]
    exact ih _ h
  | case10 opened fresh place rest alone =>
    intro opened' place' h
    rw [scanFrom_stray fun more same => (alone more same).elim]
    exact congrArg (fun depth => [(⟨.broken, .origin, depth⟩ : Token)]) h.length
  | case11 opened fresh place c rest blank comment ends joins none =>
    intro opened' place' h
    rw [scanFrom_visible (not_mem_skipped blank comment ends joins), none]
    exact stopped _ _ _ _ _ _ _ h.length
  | case12 opened fresh place c rest blank comment ends joins found hfound refused =>
    intro opened' place' h
    rw [scanFrom_visible (not_mem_skipped blank comment ends joins), hfound]
    rcases h.after? place.line place'.line found.lexeme with ⟨_, refused'⟩ | ⟨inner, _, goes, _⟩
    · simp only [refused']
      exact stopped _ _ _ _ _ _ _ h.length
    · rw [refused] at goes
      cases goes
  | case13 opened fresh place c rest blank comment ends joins found hfound inner hinner after =>
    rename_i ih
    intro opened' place' h
    rw [scanFrom_visible (not_mem_skipped blank comment ends joins), hfound]
    rcases h.after? place.line place'.line found.lexeme
      with ⟨refused, _⟩ | ⟨_, inner', goes, goes', same⟩
    · rw [refused] at hinner
      cases hinner
    · obtain rfl := Option.some.inj (goes.symm.trans hinner)
      simp only [goes']
      exact cons_congr (congrArg (fun depth =>
        (⟨found.lexeme, .origin, depth⟩ : Token)) same.length) (ih _ same)

end RateRules.Script
