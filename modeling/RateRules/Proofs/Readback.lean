import RateRules.Proofs.Preparation
import RateRules.Proofs.RoundTrip
import RateRules.Script.Reading

/-!
# Reading a rendered expression

The text of an expression is read as the expression that it was written as.
-/
namespace RateRules.Script

open RateRules.Script.Parser Grammar

variable {inner : Inner} {tokens more : List Token} {t : Token} {e : Expr}

theorem Grammar.Operand.tuple {p : Parser Tree} {starts : Token → Bool}
    (h : Operand p tokens e (t :: more))
    (closes : t.lexeme ∈ closers) (other : t.is "," = false) :
    Operand (tupleOf starts p) tokens e (t :: more) := by
  obtain ⟨⟨tree, hexpr, read⟩, first, tail, rfl, starts⟩ := h
  have whole := isBroken_of_mem_followers (mem_followers closes)
  refine ⟨⟨tree, hexpr, ?_⟩, first, tail, rfl, starts⟩
  exact (reads_peek_cons (isBroken_of_startsOperand starts)).bind
    (read.bind ((reads_sees_not whole other).bind (reads_return _ _)))

theorem reads_wholeExpression (h : Operand (Grammar.expression inner) tokens e (t :: more))
    (ends : t.lexeme = .textEnd) : ∃ tree, tree.expr = .ok e ∧
      Reads (wholeExpression inner) tokens tree (t :: more) := by
  have closes : t.lexeme ∈ closers := by rw [ends]; decide
  have whole := isBroken_of_mem_followers (mem_followers closes)
  obtain ⟨⟨tree, hexpr, read⟩, _⟩ :=
    @Operand.tuple tokens more t e _ startsExpression h closes (by rw [Token.is, ends])
  have noLine : t.isLineEnd = false := by rw [Token.isLineEnd, ends]; rfl
  have last : Reads (do
      if (← peek).isLineEnd then
        advance
        return some ()
      else return none) (t :: more) none (t :: more) := by
    refine (reads_peek_cons whole).bind ?_
    rw [noLine]
    exact reads_return _ _
  refine ⟨tree, hexpr, read.bind (((Reaches.refl () (t :: more)).reads_iterate last).bind
    ((reads_peek_cons whole).bind ?_))⟩
  rw [if_pos ends]
  exact reads_return _ _

theorem two_le_maxDepth (tokens : List Token) : 2 ≤ maxDepth tokens := by
  induction tokens with
  | nil => exact Nat.le_refl 2
  | cons t more ih => exact Nat.le_add_left_of_le ih

theorem maxDepth_le_append (tokens rest : List Token) :
    maxDepth tokens ≤ maxDepth (tokens ++ rest) := by
  induction tokens with
  | nil => exact two_le_maxDepth rest
  | cons t more ih => exact Nat.add_le_add_left ih t.levels

/-- Tokens on one line take a level each. -/
theorem length_add_le_maxDepth {tokens : List Token}
    (inside : ∀ l ∈ tokens.map Token.lexeme, l ≠ .lineEnd) (rest : List Token) :
    tokens.length + maxDepth rest ≤ maxDepth (tokens ++ rest) := by
  induction tokens with
  | nil => exact Nat.le_of_eq (Nat.zero_add _)
  | cons t more ih =>
    obtain ⟨first, others⟩ := List.forall_mem_cons.mp inside
    have deeper : maxDepth (t :: (more ++ rest)) = t.levels + maxDepth (more ++ rest) := rfl
    have positive : 1 ≤ t.levels := by
      rw [Token.levels]
      split
      · omega
      · next lexeme => exact absurd lexeme first
      · exact Nat.le_refl 1
    have behind := ih others
    rw [List.cons_append, deeper, List.length_cons]
    omega

/-- What a parser reads is the answer for a text that is split into its tokens. -/
theorem readWith_eq_ok {α : Type} {p : Inner → Parser α} {cs : List Char} {a : α}
    {rest : List Token}
    (noNull : '\x00' ∉ cs)
    (h : Reads (p (nested (maxDepth (scan 1 cs).tokens))) (scan 1 cs).tokens a rest) :
    readWith p cs = .ok a := by
  obtain ⟨isSuffix, parsed⟩ := h
  have absent : cs.contains '\x00' = false := by
    rw [List.contains_eq_mem, decide_eq_false_iff_not]
    exact noNull
  simp only [readWith, absent, Bool.false_eq_true, if_false, parsed]

theorem exists_reads_of_readWith {α : Type} {p : Inner → Parser α} {cs : List Char} {a : α}
    (h : readWith p cs = .ok a) :
    '\x00' ∉ cs ∧
      ∃ rest, Reads (p (nested (maxDepth (scan 1 cs).tokens))) (scan 1 cs).tokens a rest := by
  simp only [readWith] at h
  split at h
  · cases h
  · next noNull =>
    split at h
    · next parsed read =>
      cases h
      refine ⟨fun null => noNull (List.contains_iff_mem.mpr null), ?_⟩
      exact ⟨parsed.rest, parsed.isSuffix, read⟩
    · cases h

theorem Plain.noNull {cs : List Char} (h : Plain cs) : '\x00' ∉ cs := by
  intro hc
  rcases h.chars _ hc with blank | ⟨_, other⟩
  · cases blank
  · exact other rfl

end RateRules.Script

namespace RateRules.Expr

open Script Script.Grammar

/-- A script can spell the expression, whose text binds as it does and never has too many brackets
open. -/
structure IsReadable (e : Expr) : Prop where
  spellable : e.isSpellable = true
  binds : e.bindsAsShown = true
  fits : Fits 0 e.render.toList

theorem isLine_render {e : Expr} (spellable : e.isSpellable = true) : IsLine e.render.toList := by
  obtain ⟨c, more, written, starts⟩ := startsOperand_render e spellable
  refine ⟨plain_render e spellable, c, more, written, ?_⟩
  rintro rfl
  exact absurd starts (by decide)

theorem trim_render {e : Expr} (spellable : e.isSpellable = true) :
    Text.trim e.render.toList = e.render.toList := by
  have plain := plain_render e spellable
  apply Numeral.trim_eq_self
  · intro c hc
    obtain ⟨d, more, written, other⟩ := (isLine_render spellable).starts
    rw [written] at hc
    obtain rfl := Option.some.inj hc
    rcases plain.chars d (by rw [written]; exact List.mem_cons_self) with blank | ⟨visible, _⟩
    · exact absurd blank other
    · exact visible
  · intro c hc
    rcases plain.chars c (List.mem_of_getLast? hc) with blank | ⟨visible, _⟩
    · exact absurd blank (last_render e spellable c hc)
    · exact visible

/-- The text of an expression is read as whatever its tokens are a wording of. -/
theorem expression_of_wording {e x : Expr} {n : Nat} (spellable : e.isSpellable = true)
    (fits : Fits 0 e.render.toList) (h : Wording (.operand n x) e.lexemes) :
    Script.expression e.render = .ok x := by
  have isPrepared : prepared e.render.toList = e.render.toList :=
    @prepared_joinLines [e.render.toList] fun l hl => by
      rw [List.mem_singleton.mp hl]
      exact isLine_render spellable
  have splits := splits_render e spellable [] stops_nil
  obtain ⟨tokens, place, hlexemes, scanned⟩ := splits.scans [] true ⟨1, 0⟩ fits
  have ending : scanFrom [] (true && e.lexemes.isEmpty) place [] =
      .stop .textEnd ⟨lastLine place, place.column⟩ [] .complete := by rw [scanFrom]
  let last : Token := ⟨.textEnd, ⟨lastLine place, place.column⟩, 0⟩
  have all : (scan 1 e.render.toList).tokens = tokens ++ [last] := by
    rw [List.append_nil, ending] at scanned
    rw [scan, scanned]
    rfl
  have enough : tokens.length ≤ maxDepth (tokens ++ [last]) := by
    refine Nat.le_trans (Nat.le_add_right _ _) (length_add_le_maxDepth ?_ [last])
    rw [hlexemes]
    exact h.ne_lineEnd
  have operand : Operand (Grammar.expression (nested (maxDepth (tokens ++ [last]))))
      (tokens ++ [last]) x [last] :=
    h.isRead.expression hlexemes enough (by decide : Lexeme.textEnd ∈ closers)
  obtain ⟨tree, hexpr, read⟩ := reads_wholeExpression operand rfl
  rw [← all] at read
  have answer := readWith_eq_ok (plain_render e spellable).noNull read
  rw [Script.expression, isPrepared, trim_render spellable, answer]
  exact hexpr

/-- The text of an expression that binds as it is shown is read as what it is written as. -/
theorem expression_render {e : Expr} (h : e.IsReadable) :
    Script.expression e.render = .ok e.written :=
  expression_of_wording h.spellable h.fits (wording_lexemes e h.spellable h.binds)

end RateRules.Expr
