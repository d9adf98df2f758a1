import RateRules.Proofs.Rendering
import RateRules.Script.Prepared

/-!
# Preparing rendered texts

A rendered expression has no comment, no line end and no blank at its ends. So the preparation of a
script leaves it as it is, also when it is one of several lines.
-/
namespace RateRules.Script

/-- Every slash has a blank behind it. -/
def slashesAlone : List Char → Bool
  | [] => true
  | c :: rest => (c != '/' || rest.head? == some ' ') && slashesAlone rest

/-- There is no comment, and blanks are the only characters without ink. -/
structure Plain (cs : List Char) : Prop where
  slashes : slashesAlone cs = true
  chars : ∀ c ∈ cs, c = ' ' ∨ (Text.isBlank c = false ∧ c ≠ '\x00')

variable {cs ds : List Char}

theorem slashesAlone_append (h : slashesAlone cs = true) (h' : slashesAlone ds = true) :
    slashesAlone (cs ++ ds) = true := by
  induction cs with
  | nil => exact h'
  | cons c rest ih =>
    rw [slashesAlone, Bool.and_eq_true] at h
    rw [List.cons_append, slashesAlone, ih h.2, Bool.and_true]
    cases rest with
    | nil =>
      have other : (c != '/') = true := by simpa using h.1
      rw [other, Bool.true_or]
    | cons d more => exact h.1

theorem Plain.append (h : Plain cs) (h' : Plain ds) : Plain (cs ++ ds) := by
  constructor
  · exact slashesAlone_append h.slashes h'.slashes
  · intro c hc
    rcases List.mem_append.mp hc with hc | hc
    · exact h.chars c hc
    · exact h'.chars c hc

theorem plain_of_visible (h : ∀ c ∈ cs, Text.isBlank c = false ∧ c ≠ '\x00' ∧ c ≠ '/') :
    Plain cs := by
  constructor
  · induction cs with
    | nil => rfl
    | cons c rest ih =>
      have other : (c != '/') = true := bne_iff_ne.mpr (h c List.mem_cons_self).2.2
      rw [slashesAlone, other, ih fun d hd => h d (List.mem_cons_of_mem c hd)]
      rfl
  · exact fun c hc => Or.inr ⟨(h c hc).1, (h c hc).2.1⟩

/-- Whether a fixed text is plain can be evaluated. -/
theorem plain_of_all (h : (slashesAlone cs && cs.all fun c =>
    c == ' ' || (!Text.isBlank c && c != '\x00')) = true) :
    Plain cs := by
  rw [Bool.and_eq_true] at h
  refine ⟨h.1, fun c hc => ?_⟩
  have char := List.all_eq_true.mp h.2 c hc
  rwa [Bool.or_eq_true, Bool.and_eq_true, beq_iff_eq, Bool.not_eq_true', bne_iff_ne] at char

theorem plain_number {d : Decimal} (literal : d.isLiteral = true) : Plain d.text.toList := by
  obtain ⟨n, written, _⟩ := Decimal.exists_numeral literal
  rw [written, String.toList_ofList]
  refine plain_of_visible fun c hc => ?_
  have isChar := n.isChar_of_mem c hc
  have range := isChar.toNat
  refine ⟨Numeral.isBlank_eq_false (by omega) (by omega), ?_, ?_⟩
  · rintro rfl
    exact absurd range.1 (by decide)
  · rintro rfl
    rcases isChar with digit | sign
    · exact absurd digit (by decide)
    · exact absurd sign (by decide)

/-- Runs of characters of which none meets another: each ends before the other starts. -/
def areApart (runs others : Text.Ranges) : Bool :=
  runs.all fun run => others.all fun other => Nat.blt run.2 other.1 || Nat.blt other.2 run.1

theorem has_eq_false_of_areApart {runs others : Text.Ranges}
    (apart : areApart runs others = true) {c : Char}
    (h : runs.has c = true) : others.has c = false := by
  rw [← Bool.not_eq_true]
  intro both
  obtain ⟨run, hrun, inside⟩ := List.any_eq_true.mp h
  obtain ⟨other, hother, inside'⟩ := List.any_eq_true.mp both
  have separate := List.all_eq_true.mp (List.all_eq_true.mp apart run hrun) other hother
  simp only [Bool.or_eq_true, Nat.blt_eq, Bool.and_eq_true, decide_eq_true_eq]
    at separate inside inside'
  omega

/-- No identifier has a blank. -/
theorem isBlank_of_continuesIdentifier {c : Char} (h : Text.continuesIdentifier c = true) :
    Text.isBlank c = false := by
  have ascii : ∀ n < 128, Text.continuesIdentifier (Char.ofNat n) = true →
      Text.isBlank (Char.ofNat n) = false := by
    decide +kernel
  have starts : areApart Text.identifierStarts Text.blanks = true := by decide +kernel
  have marks : areApart Text.identifierMarks Text.blanks = true := by decide +kernel
  by_cases small : c.toNat < 128
  · have plain := ascii c.toNat small
    rw [Char.ofNat_toNat] at plain
    exact plain h
  · rw [Text.continuesIdentifier, if_neg small, Bool.or_eq_true] at h
    rcases h with h | h
    · exact has_eq_false_of_areApart starts h
    · exact has_eq_false_of_areApart marks h

theorem continuesIdentifier_of_isName {word : String} (h : isName word = true) :
    ∀ c ∈ word.toList, Text.continuesIdentifier c = true := by
  obtain ⟨c, more, hword, _, chars, _, identifier, _⟩ := exists_of_isName h
  rw [hword]
  intro x hx
  rcases Bool.or_eq_true .. |>.mp identifier with ascii | identifier
  · have small : x.toNat < 128 := of_decide_eq_true (List.all_eq_true.mp ascii x hx)
    have word := chars x hx
    rw [isWordChar, decide_eq_false (Nat.not_le.mpr small), Bool.or_false] at word
    rw [Text.continuesIdentifier, if_pos small]
    exact word
  · rw [Text.isIdentifier, Bool.and_eq_true] at identifier
    rcases List.mem_cons.mp hx with rfl | hx
    · have starts := identifier.1
      rw [Text.startsIdentifier] at starts
      rw [Text.continuesIdentifier]
      split at starts
      · next small =>
        rw [if_pos small, Char.isAlphanum]
        rcases Bool.or_eq_true .. |>.mp starts with alpha | underscore
        · rw [alpha]
          rfl
        · rw [underscore, Bool.or_true]
      · next beyond => rw [if_neg beyond, starts, Bool.true_or]
    · exact List.all_eq_true.mp identifier.2 x hx

theorem plain_name {word : String} (h : isName word = true) : Plain word.toList := by
  refine plain_of_visible fun c hc => ?_
  have identifier := continuesIdentifier_of_isName h c hc
  refine ⟨isBlank_of_continuesIdentifier identifier, ?_, ?_⟩
  · rintro rfl
    exact absurd identifier (by decide)
  · rintro rfl
    exact absurd identifier (by decide)

end RateRules.Script

namespace RateRules.Expr

open Script

theorem plain_operator {op : BinaryOp} (known : op.isKnown = true) :
    Plain (' ' :: op.text.toList ++ [' ']) := by
  cases op with
  | other sign => cases known
  | _ => exact plain_of_all (by decide)

theorem plain_enclosed {text : String} (least strength : Nat) (h : Plain text.toList) :
    Plain (enclosedBelow least strength text).toList := by
  rw [enclosedBelow]
  split
  · rw [String.toList_append, String.toList_append]
    exact (Plain.append (plain_of_all (by decide)) h).append (plain_of_all (by decide))
  · exact h

mutual

theorem plain_render (e : Expr) (spellable : e.isSpellable = true) : Plain e.render.toList := by
  cases e with
  | number d => exact plain_number spellable
  | name word => exact plain_name spellable
  | pair p => exact plain_name spellable
  | exchange venue => exact plain_name spellable
  | parenthesized inner =>
    rw [render, String.toList_append, String.toList_append]
    exact (Plain.append (plain_of_all (by decide)) (plain_render inner spellable)).append
      (plain_of_all (by decide))
  | call callee args =>
    rw [isSpellable, Bool.and_eq_true] at spellable
    have arguments :=
      @Plain.append ['('] _ (plain_of_all (by decide)) (plain_renderArgs args spellable.2)
    rw [toList_render_call]
    exact (plain_render callee spellable.1).append (arguments.append (plain_of_all (by decide)))
  | unary op operand =>
    rw [isSpellable, Bool.and_eq_true] at spellable
    have sign : Plain op.text.toList := by
      cases op with
      | other sign => cases spellable.1
      | _ => exact plain_of_all (by decide)
    rw [render, String.toList_append]
    exact sign.append (plain_enclosed _ _ (plain_render operand spellable.2))
  | binary op left right =>
    obtain ⟨known, spellableLeft, spellableRight⟩ := isSpellable_binary spellable
    rw [toList_render_binary]
    exact (plain_enclosed _ _ (plain_render left spellableLeft)).append
      ((plain_operator known).append (plain_enclosed _ _ (plain_render right spellableRight)))

theorem plain_renderArgs (es : List Expr) (spellable : allSpellable es = true) :
    Plain (renderArgs es).toList := by
  cases es with
  | nil => exact plain_of_all (by decide)
  | cons e more =>
    rw [allSpellable, Bool.and_eq_true] at spellable
    cases more with
    | nil => exact plain_render e spellable.1
    | cons e' further =>
      rw [renderArgs, String.toList_append, String.toList_append]
      · exact ((plain_render e spellable.1).append (plain_of_all (by decide))).append
          (plain_renderArgs (e' :: further) spellable.2)
      · exact List.cons_ne_nil e' further

end

theorem last_of_isName {word : String} (h : isName word = true) :
    ∀ c ∈ word.toList.getLast?, c ≠ ' ' := by
  intro c hc
  have identifier := continuesIdentifier_of_isName h c (List.mem_of_getLast? hc)
  rintro rfl
  exact absurd identifier (by decide)

theorem last_append {cs ds : List Char} (behind : ds ≠ []) (h : ∀ c ∈ ds.getLast?, c ≠ ' ') :
    ∀ c ∈ (cs ++ ds).getLast?, c ≠ ' ' := by
  intro c hc
  rw [List.getLast?_append, List.getLast?_eq_some_getLast behind] at hc
  exact h c (by rw [List.getLast?_eq_some_getLast behind]; exact hc)

theorem last_enclosed {text : String} (least strength : Nat)
    (h : ∀ c ∈ text.toList.getLast?, c ≠ ' ') :
    ∀ c ∈ (enclosedBelow least strength text).toList.getLast?, c ≠ ' ' := by
  rw [enclosedBelow]
  split
  · intro c hc
    rw [String.toList_append, List.getLast?_append] at hc
    rw [← Option.some.inj hc]
    decide
  · exact h

/-- No blank stands at the end. -/
theorem last_render (e : Expr) (spellable : e.isSpellable = true) :
    ∀ c ∈ e.render.toList.getLast?, c ≠ ' ' := by
  cases e with
  | number d =>
    obtain ⟨n, written, _⟩ := Decimal.exists_numeral spellable
    intro c hc
    rw [render, written, String.toList_ofList] at hc
    have range := (n.isChar_of_mem c (List.mem_of_getLast? hc)).toNat.1
    rintro rfl
    exact absurd range (by decide)
  | name word => exact last_of_isName spellable
  | pair p => exact last_of_isName spellable
  | exchange venue => exact last_of_isName spellable
  | parenthesized inner =>
    intro c hc
    rw [render, String.toList_append, List.getLast?_append] at hc
    rw [← Option.some.inj hc]
    decide
  | call callee args =>
    intro c hc
    rw [render, String.toList_append, List.getLast?_append] at hc
    rw [← Option.some.inj hc]
    decide
  | unary op operand =>
    rw [isSpellable, Bool.and_eq_true] at spellable
    obtain ⟨c, more, written, _⟩ :=
      startsOperand_enclosed unaryStrength operand.strength
        (startsOperand_render operand spellable.2)
    have inside := last_enclosed unaryStrength operand.strength (last_render operand spellable.2)
    rw [render, String.toList_append]
    exact last_append (by rw [written]; exact List.cons_ne_nil c more) inside
  | binary op left right =>
    obtain ⟨_, _, spellableRight⟩ := isSpellable_binary spellable
    obtain ⟨c, more, written, _⟩ :=
      startsOperand_enclosed (op.strength + 1) right.strength
        (startsOperand_render right spellableRight)
    have inside := last_enclosed (op.strength + 1) right.strength (last_render right spellableRight)
    rw [render, String.toList_append]
    exact last_append (by rw [written]; exact List.cons_ne_nil c more) inside

end RateRules.Expr

namespace RateRules.Script

variable {cs : List Char}

theorem withoutComments_eq_self (h : slashesAlone cs = true) : withoutComments cs = cs := by
  induction cs with
  | nil => rw [withoutComments]
  | cons c rest ih =>
    rw [slashesAlone, Bool.and_eq_true] at h
    have behind := ih h.2
    unfold withoutComments
    split
    · next same => cases same
    · next same =>
      cases same
      exact absurd h.1 Bool.false_ne_true
    · next same =>
      cases same
      exact absurd h.1 Bool.false_ne_true
    · next same =>
      cases same
      rw [behind]

theorem isLineEnd_eq_false {c : Char} (h : Text.isBlank c = false) : Text.isLineEnd c = false := by
  rw [← Bool.not_eq_true] at h ⊢
  simp only [Text.isBlank, Text.blanks, Text.isLineEnd, Text.lineEnds,
    Text.Ranges.has, List.any_cons,
    List.any_nil, Bool.or_false, Bool.or_eq_true, Bool.and_eq_true, decide_eq_true_eq] at h ⊢
  omega

theorem Plain.isLineEnd (h : Plain cs) : ∀ c ∈ cs, Text.isLineEnd c = false := by
  intro c hc
  rcases h.chars c hc with rfl | ⟨visible, _⟩
  · decide
  · exact isLineEnd_eq_false visible

theorem lines_cons {c : Char} (h : Text.isLineEnd c = false) (line : List Char)
    (more : List (List Char))
    (behind : Text.lines cs = line :: more) : Text.lines (c :: cs) = (c :: line) :: more := by
  unfold Text.lines
  split
  · next same => cases same
  · next same =>
    cases same
    cases h
  · next same =>
    cases same
    rw [h, behind]
    rfl

theorem lines_lineFeed (cs : List Char) : Text.lines ('\n' :: cs) = [] :: Text.lines cs := by
  rw [Text.lines]
  · rfl
  · exact fun rest carriage => absurd carriage (by decide)

theorem lines_append_ended {line rest : List Char} {more : List (List Char)}
    (h : ∀ c ∈ line, Text.isLineEnd c = false) (ends : Text.lines rest = [] :: more) :
    Text.lines (line ++ rest) = line :: more := by
  induction line with
  | nil => exact ends
  | cons c further ih =>
    have behind := ih fun d hd => h d (List.mem_cons_of_mem c hd)
    exact lines_cons (h c List.mem_cons_self) further _ behind

theorem lines_append_lineFeed {ds : List Char} (h : ∀ c ∈ cs, Text.isLineEnd c = false) :
    Text.lines (cs ++ '\n' :: ds) = cs :: Text.lines ds :=
  lines_append_ended h (lines_lineFeed ds)

theorem lines_singleton {c : Char} (h : ∀ d ∈ c :: cs, Text.isLineEnd d = false) :
    Text.lines (c :: cs) = [c :: cs] := by
  induction cs generalizing c with
  | nil =>
    have inside := h c List.mem_cons_self
    simp [Text.lines, inside]
  | cons d rest ih =>
    exact lines_cons (h c List.mem_cons_self) _ _ (ih fun x hx => h x (List.mem_cons_of_mem c hx))

/-- A line of a script that has nothing to be prepared. -/
structure IsLine (cs : List Char) : Prop where
  plain : Plain cs
  starts : ∃ c more, cs = c :: more ∧ c ≠ ' '

theorem lines_joinLines {ls : List (List Char)} (h : ∀ l ∈ ls, IsLine l) :
    Text.lines (joinLines ls) = ls := by
  induction ls with
  | nil => rfl
  | cons line more ih =>
    have first := h line List.mem_cons_self
    cases more with
    | nil =>
      obtain ⟨c, rest, rfl, _⟩ := first.starts
      exact lines_singleton first.plain.isLineEnd
    | cons next further =>
      have behind := ih fun l hl => h l (List.mem_cons_of_mem line hl)
      rw [joinLines, lines_append_lineFeed first.plain.isLineEnd, behind]
      exact List.cons_ne_nil next further

theorem slashesAlone_joinLines {ls : List (List Char)} (h : ∀ l ∈ ls, IsLine l) :
    slashesAlone (joinLines ls) = true := by
  induction ls with
  | nil => rfl
  | cons line more ih =>
    have first := (h line List.mem_cons_self).plain.slashes
    cases more with
    | nil => exact first
    | cons next further =>
      rw [joinLines]
      · exact slashesAlone_append first (ih fun l hl => h l (List.mem_cons_of_mem line hl))
      · exact List.cons_ne_nil next further

theorem IsLine.trimLeft (h : IsLine cs) : Text.trimLeft cs = cs := by
  obtain ⟨c, more, rfl, other⟩ := h.starts
  rcases h.plain.chars c List.mem_cons_self with blank | ⟨visible, _⟩
  · exact absurd blank other
  · exact List.dropWhile_cons_of_neg (ne_true_of_eq_false visible)

/-- Lines of which none has anything to be prepared. -/
theorem prepared_joinLines {ls : List (List Char)} (h : ∀ l ∈ ls, IsLine l) :
    prepared (joinLines ls) = joinLines ls := by
  have trimmed : ls.map Text.trimLeft = ls := by
    rw [List.map_congr_left (g := id) fun l hl => (h l hl).trimLeft, List.map_id]
  rw [prepared, withoutComments_eq_self (slashesAlone_joinLines h), lines_joinLines h, trimmed]

end RateRules.Script
