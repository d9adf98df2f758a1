import RateRules.Expr.Render
import RateRules.Proofs.Splitting

/-!
# The tokens of rendered expressions

A rendered expression is split into the tokens that its shape says, if a script can spell its
numbers and its names and knows its operators.
-/
namespace RateRules

def UnaryOp.isKnown : UnaryOp → Bool
  | other _ => false
  | _ => true

def BinaryOp.isKnown : BinaryOp → Bool
  | other _ => false
  | _ => true

namespace Expr

open Script

mutual

/-- A script can spell the numbers and the names, and knows the operators. -/
def isSpellable : Expr → Bool
  | number d => d.isLiteral
  | name word => isName word
  | pair p => isName p.text
  | exchange venue => isName venue
  | unary op operand => op.isKnown && operand.isSpellable
  | binary op left right => op.isKnown && left.isSpellable && right.isSpellable
  | parenthesized inner => inner.isSpellable
  | call callee args => callee.isSpellable && allSpellable args

/-- Arguments of a call. -/
def allSpellable : List Expr → Bool
  | [] => true
  | e :: more => e.isSpellable && allSpellable more

end

/-- The tokens of an operand, in parentheses if its text is. -/
def enclosedLexemes (least strength : Nat) (lexemes : List Lexeme) : List Lexeme :=
  if strength < least then .sign "(" :: lexemes ++ [.sign ")"] else lexemes

mutual

/-- The tokens of the rendered expression. -/
def lexemes : Expr → List Lexeme
  | number d => [.number d.text]
  | name word => [.name word]
  | pair p => [.name p.text]
  | exchange venue => [.name venue]
  | parenthesized inner => .sign "(" :: inner.lexemes ++ [.sign ")"]
  | call callee args => callee.lexemes ++ (.sign "(" :: argLexemes args ++ [.sign ")"])
  | unary op operand =>
    .sign op.text :: enclosedLexemes unaryStrength operand.strength operand.lexemes
  | binary op left right =>
    enclosedLexemes op.strength left.strength left.lexemes ++ .sign op.text ::
      enclosedLexemes (op.strength + 1) right.strength right.lexemes

/-- Arguments of a call, with a comma between them. -/
def argLexemes : List Expr → List Lexeme
  | [] => []
  | [e] => e.lexemes
  | e :: more => e.lexemes ++ .sign "," :: argLexemes more

end

theorem isSpellable_binary {op : BinaryOp} {left right : Expr}
    (h : (binary op left right).isSpellable = true) :
    op.isKnown = true ∧ left.isSpellable = true ∧ right.isSpellable = true := by
  rwa [isSpellable, Bool.and_eq_true, Bool.and_eq_true, and_assoc] at h

theorem splits_operator {op : BinaryOp} (known : op.isKnown = true) (rest : List Char) :
    Splits (' ' :: op.text.toList ++ [' ']) [.sign op.text] rest := by
  have single : ∀ c, isSignChar c = true → c ∉ brackets →
      Splits (' ' :: [c] ++ [' ']) [.sign (String.singleton c)] rest := by
    intro c sign noBracket
    have middle := (splits_sign_blank sign noBracket rest).append (splits_blank rest)
    exact (splits_blank _).append middle
  cases op with
  | add => exact single '+' (by decide) (by decide)
  | sub => exact single '-' (by decide) (by decide)
  | mul => exact single '*' (by decide) (by decide)
  | div => exact single '/' (by decide) (by decide)
  | mod => exact single '%' (by decide) (by decide)
  | pow =>
    have found : lexemeAt? '*' (['*'] ++ ' ' :: rest) = some ⟨.sign "**", 1⟩ := by
      rw [(lexemeAt?_of_isSignChar (by decide) _).2]
      rfl
    have middle :=
      (splits_token (by decide) (by decide) (fun _ _ => rfl) found).append (splits_blank rest)
    exact (splits_blank _).append middle
  | other sign => cases known

/-- A unary operator before an operand. -/
theorem splits_unary {op : UnaryOp} (known : op.isKnown = true) {rest : List Char}
    (operand : ∀ c ∈ rest.head?, c ≠ '=' ∧ c ≠ '>') :
    Splits op.text.toList [.sign op.text] rest := by
  have longer : ∀ c ∈ ['+', '-', '~'], ∀ s ∈ longSigns ++ doubleSigns, s.toList.head? = some c →
      s.toList.take 2 = [c, '='] ∨ s.toList.take 2 = [c, '>'] :=
      forall_mem_of_all (by decide +kernel)
  have single : ∀ c ∈ ['+', '-', '~'], isSignChar c = true → c ∉ brackets →
      Splits [c] [.sign (String.singleton c)] rest := by
    intro c hc sign noBracket
    refine splits_sign sign noBracket fun s hs same => ?_
    have first : s.toList.head? = some c := by
      have head := congrArg List.head? same
      rwa [List.head?_take, if_neg (by decide), List.head?_cons] at head
    cases rest with
    | nil => rcases longer c hc s hs first with two | two <;> simp [two] at same
    | cons d more =>
      obtain ⟨equals, greater⟩ := operand d rfl
      rcases longer c hc s hs first with two | two
      · rw [two] at same
        exact equals (List.cons.inj (List.cons.inj same).2).1.symm
      · rw [two] at same
        exact greater (List.cons.inj (List.cons.inj same).2).1.symm
  cases op with
  | plus => exact single '+' (by decide) (by decide) (by decide)
  | minus => exact single '-' (by decide) (by decide) (by decide)
  | invert => exact single '~' (by decide) (by decide) (by decide)
  | other sign => cases known

/-- What an operand starts with. -/
def startsOperand (c : Char) : Bool := isWordChar c || ['(', '+', '-', '~'].contains c

theorem startsOperand_of_isName {word : String} (h : isName word = true) :
    ∃ c more, word.toList = c :: more ∧ startsOperand c = true := by
  obtain ⟨c, more, hword, _, chars, _⟩ := exists_of_isName h
  exact ⟨c, more, hword, by rw [startsOperand, chars c List.mem_cons_self, Bool.true_or]⟩

theorem startsOperand_enclosed {text : String} (least strength : Nat)
    (h : ∃ c more, text.toList = c :: more ∧ startsOperand c = true) :
    ∃ c more, (enclosedBelow least strength text).toList = c :: more ∧ startsOperand c = true := by
  rw [enclosedBelow]
  split
  · exact ⟨'(', text.toList ++ [')'], by simp, by decide⟩
  · exact h

theorem startsOperand_render (e : Expr) (spellable : e.isSpellable = true) :
    ∃ c more, e.render.toList = c :: more ∧ startsOperand c = true := by
  cases e with
  | number d =>
    obtain ⟨n, written, _⟩ := Decimal.exists_numeral spellable
    have digit := n.digits n.first List.mem_cons_self
    have word : ∀ c ∈ ['0', '1', '2', '3', '4', '5', '6', '7', '8', '9'], startsOperand c = true :=
      forall_mem_of_all (by decide)
    exact ⟨n.first, _,
      by rw [render, written, String.toList_ofList]; rfl, word _ (mem_digits digit)⟩
  | name word => exact startsOperand_of_isName spellable
  | pair p => exact startsOperand_of_isName spellable
  | exchange venue => exact startsOperand_of_isName spellable
  | parenthesized inner => exact ⟨'(', inner.render.toList ++ [')'], by simp [render], by decide⟩
  | call callee args =>
    rw [isSpellable, Bool.and_eq_true] at spellable
    obtain ⟨c, more, written, starts⟩ := startsOperand_render callee spellable.1
    exact ⟨c, _, by simp only [render, String.toList_append, written]; rfl, starts⟩
  | unary op operand =>
    rw [isSpellable, Bool.and_eq_true] at spellable
    cases op with
    | plus => exact ⟨'+', _, by rw [render, String.toList_append]; rfl, by decide⟩
    | minus => exact ⟨'-', _, by rw [render, String.toList_append]; rfl, by decide⟩
    | invert => exact ⟨'~', _, by rw [render, String.toList_append]; rfl, by decide⟩
    | other sign => cases spellable.1
  | binary op left right =>
    obtain ⟨_, spellableLeft, _⟩ := isSpellable_binary spellable
    obtain ⟨c, more, written, starts⟩ :=
      startsOperand_enclosed op.strength left.strength (startsOperand_render left spellableLeft)
    exact ⟨c, _, by simp only [render, String.toList_append, written]; rfl, starts⟩

theorem toList_render_binary (op : BinaryOp) (left right : Expr) :
    (binary op left right).render.toList =
      (enclosedBelow op.strength left.strength left.render).toList ++
        ((' ' :: op.text.toList ++ [' ']) ++
        (enclosedBelow (op.strength + 1) right.strength right.render).toList) := by
  simp [render]

theorem toList_render_call (callee : Expr) (args : List Expr) :
    (call callee args).render.toList =
      callee.render.toList ++ ('(' :: (renderArgs args).toList ++ [')']) := by
  simp [render]

theorem splits_enclosed {text : String} {ls : List Lexeme} (least strength : Nat)
    (h : ∀ rest, Stops rest → Splits text.toList ls rest) {rest : List Char} (stops : Stops rest) :
    Splits (enclosedBelow least strength text).toList (enclosedLexemes least strength ls) rest := by
  rw [enclosedBelow, enclosedLexemes]
  split
  · have whole : ("(" ++ text ++ ")").toList = '(' :: text.toList ++ [')'] := by simp
    rw [whole]
    exact (h _ (stops_cons (by decide) rest)).parentheses
  · exact h rest stops

mutual

/-- The tokens of a rendered expression. -/
theorem splits_render (e : Expr) (spellable : e.isSpellable = true) (rest : List Char)
    (stops : Stops rest) : Splits e.render.toList e.lexemes rest := by
  cases e with
  | number d => exact splits_number spellable stops
  | name word => exact splits_name spellable stops
  | pair p => exact splits_name spellable stops
  | exchange venue => exact splits_name spellable stops
  | parenthesized inner =>
    have written : (parenthesized inner).render.toList = '(' :: inner.render.toList ++ [')'] := by
      simp [render]
    rw [written, lexemes]
    exact (splits_render inner spellable _ (stops_cons (by decide) rest)).parentheses
  | call callee args =>
    rw [isSpellable, Bool.and_eq_true] at spellable
    have behind := (splits_renderArgs args spellable.2 _ (stops_cons (by decide) rest)).parentheses
    rw [toList_render_call, lexemes]
    exact (splits_render callee spellable.1 _ (stops_cons (by decide) _)).append behind
  | unary op operand =>
    rw [isSpellable, Bool.and_eq_true] at spellable
    have inner :=
      splits_enclosed unaryStrength operand.strength (splits_render operand spellable.2) stops
    rw [render, String.toList_append, lexemes]
    refine Splits.append (splits_unary spellable.1 ?_) inner
    obtain ⟨c, more, written, starts⟩ :=
      startsOperand_enclosed unaryStrength operand.strength
        (startsOperand_render operand spellable.2)
    rw [written]
    rintro _ ⟨rfl⟩
    constructor
    · rintro rfl
      exact absurd starts (by decide)
    · rintro rfl
      exact absurd starts (by decide)
  | binary op left right =>
    obtain ⟨known, spellableLeft, spellableRight⟩ := isSpellable_binary spellable
    have second :=
      splits_enclosed (op.strength + 1) right.strength (splits_render right spellableRight) stops
    have behind := (splits_operator known _).append second
    rw [toList_render_binary, lexemes]
    exact (splits_enclosed op.strength left.strength (splits_render left spellableLeft)
      (stops_cons (by decide) _)).append behind

theorem splits_renderArgs (es : List Expr) (spellable : allSpellable es = true) (rest : List Char)
    (stops : Stops rest) : Splits (renderArgs es).toList (argLexemes es) rest := by
  cases es with
  | nil => exact splits_nil rest
  | cons e more =>
    rw [allSpellable, Bool.and_eq_true] at spellable
    cases more with
    | nil => exact splits_render e spellable.1 rest stops
    | cons e' further =>
      have behind :=
        (splits_blank _).append (splits_renderArgs (e' :: further) spellable.2 rest stops)
      have comma :=
        @splits_sign_blank ',' (by decide) (by decide) ((renderArgs (e' :: further)).toList ++ rest)
      have whole : (renderArgs (e :: e' :: further)).toList =
          e.render.toList ++ ([','] ++ ([' '] ++ (renderArgs (e' :: further)).toList)) := by
        simp [renderArgs]
      rw [whole, argLexemes]
      · exact (splits_render e spellable.1 _ (stops_cons (by decide) _)).append
          (comma.append behind)
      · exact List.cons_ne_nil e' further

end

end Expr
end RateRules
