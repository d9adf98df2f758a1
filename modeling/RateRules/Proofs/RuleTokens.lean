import RateRules.Proofs.ClauseDerivations
import RateRules.Proofs.Slashes

/-!
# The tokens of rules

Clauses that rules can have are spelled without quoted texts, colons and words that only other
commands start with. A slash in them joins two operands, and no operand starts with a star.
-/
namespace RateRules.Script

variable {tokens mid more rest : List Token} {t : Token} {word : String}

namespace Token

/-- Words that no rule has. -/
def foreignWords : List String := [":", "@"] ++ Grammar.blockWords

/-- No rule has the token. -/
def isForeign (t : Token) : Bool := t.isUnusable || t.isOneOf foreignWords

theorem not_is_of_is (h : t.is word = true) {other : String} (apart : word ≠ other) :
    ¬ t.is other = true := by
  intro h'
  obtain ⟨lexeme, place, depth⟩ := t
  cases lexeme with
  | keyword | sign => exact apart ((eq_of_beq h).symm.trans (eq_of_beq h'))
  | _ => cases h

theorem isForeign_of_is (h : t.is word = true) (other : word ∉ foreignWords) :
    t.isForeign = false := by
  have noWord : t.isOneOf foreignWords = false :=
    List.any_eq_false.mpr fun foreign hforeign =>
      not_is_of_is h (ne_of_mem_of_not_mem hforeign other).symm
  rw [isForeign, noWord, Bool.or_false]
  obtain ⟨lexeme, place, depth⟩ := t
  cases lexeme with
  | keyword | sign => rfl
  | _ => cases h

theorem is_of_isForeign (h : t.isForeign = false)
    (foreign : word ∈ foreignWords) : t.is word = false :=
  Bool.eq_false_iff.mpr (List.any_eq_false.mp (Bool.or_eq_false_iff.mp h).2 word foreign)

theorem startsWithStar_of_is (h : t.is word = true) (other : word.toList.head? ≠ some '*') :
    t.startsWithStar = false := by
  obtain ⟨lexeme, place, depth⟩ := t
  cases lexeme with
  | sign text =>
    obtain rfl := eq_of_beq h
    exact beq_eq_false_iff_ne.mpr other
  | _ => rfl

end Token

namespace Grammar

/-- The tokens before these can be those of rules: none of them is foreign, and a slash has
something other than a star behind it. -/
inductive Usable : List Token → List Token → Prop
  | none {tokens : List Token} : Usable tokens tokens
  | token {t : Token} {more rest : List Token} (usable : t.isForeign = false)
      (apart : t.is "/" = true → ∀ u ∈ more.head?, u.startsWithStar = false)
      (behind : Usable more rest) :
      Usable (t :: more) rest

theorem Usable.trans (h : Usable tokens mid) (h' : Usable mid rest) : Usable tokens rest := by
  induction h with
  | none => exact h'
  | token usable apart _ ih => exact .token usable apart (ih h')

/-- A keyword or a sign that is no slash alone. -/
theorem Usable.ofSign (h : t.is word = true) (other : word ∉ "/" :: Token.foreignWords)
    (behind : Usable more rest) : Usable (t :: more) rest := by
  have noSlash := Token.not_is_of_is h (List.ne_of_not_mem_cons other)
  have known := Token.isForeign_of_is h (List.not_mem_of_not_mem_cons other)
  exact .token known (fun slash => absurd slash noSlash) behind

/-- A token that is neither a keyword nor a sign. -/
theorem Usable.wordless (noWord : ∀ word, t.is word = false) (usable : t.isUnusable = false) :
    Usable (t :: rest) rest := by
  refine .token ?_ (fun slash => ?_) .none
  · have noForeign : t.isOneOf Token.foreignWords = false :=
      List.any_eq_false.mpr fun word _ => by simp [noWord word]
    rw [Token.isForeign, usable, noForeign]
    rfl
  · rw [noWord] at slash
    cases slash

/-- No token before the others is foreign. -/
theorem Usable.isForeign (h : Usable tokens rest) (within : t :: more <:+ tokens)
    (before : rest <:+ more) : t.isForeign = false := by
  induction h with
  | none => exact absurd (before.length_le.trans_lt (Nat.lt_succ_self _)) within.length_le.not_gt
  | token usable _ _ ih =>
    rcases List.suffix_cons_iff.mp within with same | inside
    · cases same
      exact usable
    · exact ih inside before

end Grammar

/-- Some rule can have the tree. -/
def Tree.IsAccepted (t : Tree) : Prop := ∃ e, t.expr = .ok e

/-- Rules can have the clause. -/
def Clause.IsAccepted (c : Clause) : Prop := ∃ ss, c.statements = .ok ss

namespace Grammar

/-- Rules can have all trees of the phrase. -/
def Phrase.IsAccepted : Phrase → Prop
  | tree t => t.IsAccepted
  | arguments _ args => ∀ arg ∈ args, arg.IsAccepted

/-- A phrase of rules is spelled by usable tokens, and a tree does not start with a star. -/
def Phrase.IsUsable (tokens : List Token) : Phrase → List Token → Prop
  | tree _, rest => (∀ u ∈ tokens.head?, u.startsWithStar = false) ∧ Usable tokens rest
  | arguments .., rest => Usable tokens rest

theorem isAccepted_of_unary {place : Place} {op : UnaryOp} {operand : Tree}
    (h : (Tree.unary place (.ok op) operand).IsAccepted) : operand.IsAccepted := by
  obtain ⟨e, h⟩ := h
  simp only [Tree.expr, knownOperator, bind_eq_ok, pure_eq_ok] at h
  obtain ⟨_, _, operand, same, _⟩ := h
  exact ⟨operand, same⟩

theorem isAccepted_of_binary {place : Place} {op : BinaryOp} {left right : Tree}
    (h : (Tree.binary place (.ok op) left right).IsAccepted) :
    left.IsAccepted ∧ right.IsAccepted := by
  obtain ⟨e, h⟩ := h
  simp only [Tree.expr, knownOperator, bind_eq_ok, pure_eq_ok] at h
  obtain ⟨_, _, left, hleft, right, hright, _⟩ := h
  exact ⟨⟨left, hleft⟩, ⟨right, hright⟩⟩

theorem isAccepted_of_exprsOf {ts : List Tree} {es : List Expr} (h : exprsOf ts = .ok es) :
    ∀ t ∈ ts, t.IsAccepted := by
  induction ts generalizing es with
  | nil => exact List.forall_mem_nil _
  | cons t more ih =>
    simp only [exprsOf, bind_eq_ok, pure_eq_ok] at h
    obtain ⟨e, hfirst, rest, hrest, _⟩ := h
    exact List.forall_mem_cons.mpr ⟨⟨e, hfirst⟩, ih hrest⟩

theorem isAccepted_of_call {place : Place} {callee : Tree} {args : List Tree}
    (h : (Tree.call place callee args false).IsAccepted) :
    callee.IsAccepted ∧ ∀ arg ∈ args, arg.IsAccepted := by
  obtain ⟨e, h⟩ := h
  simp only [Tree.expr, Bool.false_eq_true, if_false, bind_eq_ok, pure_eq_ok] at h
  obtain ⟨callee, hcallee, args, hargs, _⟩ := h
  exact ⟨⟨callee, hcallee⟩, isAccepted_of_exprsOf hargs⟩

theorem not_isAccepted_of_isRefused {tree : Tree} (h : tree.isRefused = true) :
    ¬ tree.IsAccepted := by
  rintro ⟨e, accepted⟩
  obtain ⟨reason, refused⟩ := Tree.expr_of_isRefused h
  rw [refused] at accepted
  cases accepted

/-- What rules can have is spelled by usable tokens. -/
theorem isUsable_of_derives {phrase : Phrase} (h : Derives tokens phrase rest)
    (accepted : phrase.IsAccepted) :
    phrase.IsUsable tokens rest := by
  have star : ∀ {t : Token} {more : List Token}, t.startsWithStar = false →
      ∀ u ∈ (t :: more).head?, u.startsWithStar = false := by
    rintro t more plain u ⟨⟩
    exact plain
  induction h with
  | number lexeme =>
    refine ⟨star (by rw [Token.startsWithStar, lexeme]), .wordless (fun _ => ?_) ?_⟩
    · rw [Token.is, lexeme]
    · rw [Token.isUnusable, Token.isBroken, lexeme]
      rfl
  | name lexeme =>
    refine ⟨star (by rw [Token.startsWithStar, lexeme]), .wordless (fun _ => ?_) ?_⟩
    · rw [Token.is, lexeme]
    · rw [Token.isUnusable, Token.isBroken, lexeme]
      rfl
  | group opens _ closes ih =>
    have inside := (ih accepted).2
    refine ⟨star (Token.startsWithStar_of_is opens (by decide)),
      .ofSign opens (by decide) (inside.trans ?_)⟩
    exact .ofSign closes (by decide) .none
  | @unary sign more rest op operand signed known _ ih =>
    have inside := (ih (isAccepted_of_unary accepted)).2
    have other : op.text ∉ "/" :: Token.foreignWords ∧ op.text.toList.head? ≠ some '*' := by
      cases op with
      | other sign => cases known
      | _ => decide
    exact ⟨star (Token.startsWithStar_of_is signed other.2), .ofSign signed other.1 inside⟩
  | @binary first sign more mid rest op _ _ _ signed known _ left right =>
    have other : op.text ∉ Token.foreignWords := by
      cases op with
      | other sign => cases known
      | _ => decide
    obtain ⟨acceptedLeft, acceptedRight⟩ := isAccepted_of_binary accepted
    obtain ⟨first, before⟩ := left acceptedLeft
    obtain ⟨next, behind⟩ := right acceptedRight
    exact ⟨first, before.trans (.token (Token.isForeign_of_is signed other) (fun _ => next) behind)⟩
  | call _ opens _ closes callee args =>
    obtain ⟨acceptedCallee, acceptedArgs⟩ := isAccepted_of_call accepted
    obtain ⟨first, before⟩ := callee acceptedCallee
    have inside := args fun arg harg => acceptedArgs arg (List.mem_reverse.mpr harg)
    refine ⟨first, before.trans (.ofSign opens (by decide) (Usable.trans inside ?_))⟩
    exact .ofSign closes (by decide) .none
  | refused _ refused => exact absurd accepted (not_isAccepted_of_isRefused refused.1)
  | noArgument => exact .none
  | argument _ _ args arg =>
    obtain ⟨acceptedArg, acceptedArgs⟩ := List.forall_mem_cons.mp accepted
    exact Usable.trans (args acceptedArgs) (arg acceptedArg).2
  | comma _ isComma args => exact Usable.trans (args accepted) (.ofSign isComma (by decide) .none)
  | refusedArgument _ refused =>
    exact absurd (List.forall_mem_cons.mp accepted).1 (not_isAccepted_of_isRefused refused.1)

theorem usable_of_derivesValue {targets : List Tree} {value : Tree}
    (h : DerivesValue tokens targets value rest)
    (acceptedTargets : ∀ target ∈ targets, target.IsAccepted) (accepted : value.IsAccepted) :
    Usable tokens rest := by
  induction h with
  | first value => exact (isUsable_of_derives value accepted).2
  | further _ isEqual behind ih =>
    obtain ⟨target, others⟩ := List.forall_mem_cons.mp acceptedTargets
    exact (ih others target).trans
      (.ofSign isEqual (by decide) (isUsable_of_derives behind accepted).2)

theorem usable_of_augmentation? {op : Operation} (h : augmentation? t = some op)
    (behind : Usable more rest) :
    Usable (t :: more) rest := by
  unfold augmentation? at h
  split at h
  all_goals cases h
  all_goals next lexeme => exact .ofSign (Token.is_of_lexeme lexeme) (by decide) behind

theorem usable_of_derivesClause {c : Clause} (h : DerivesClause tokens c rest)
    (accepted : c.IsAccepted) :
    Usable tokens rest := by
  obtain ⟨ss, accepted⟩ := accepted
  cases h with
  | assign assigned =>
    simp only [Clause.statements, bind_eq_ok, pure_eq_ok] at accepted
    obtain ⟨e, value, es, targets, _⟩ := accepted
    have targets' := fun t ht => isAccepted_of_exprsOf targets t (List.mem_reverse.mpr ht)
    exact usable_of_derivesValue assigned targets' ⟨e, value⟩
  | augment before signed behind =>
    simp only [Clause.statements, bind_eq_ok, pure_eq_ok] at accepted
    obtain ⟨_, _, target, htarget, value, hvalue, _⟩ := accepted
    have target := isUsable_of_derives before ⟨target, htarget⟩
    have value := isUsable_of_derives behind ⟨value, hvalue⟩
    exact target.2.trans (usable_of_augmentation? signed value.2)
  | expression inside =>
    simp only [Clause.statements, bind_eq_ok, pure_eq_ok] at accepted
    obtain ⟨e, inside', _⟩ := accepted
    exact (isUsable_of_derives inside ⟨e, inside'⟩).2
  | pass isPass => exact .ofSign isPass (by decide) .none
  | foreign => cases accepted

theorem usable_of_derivesClauses {cs : List Clause} (h : DerivesClauses tokens cs rest)
    (accepted : ∀ c ∈ cs, c.IsAccepted) : Usable tokens rest := by
  induction h with
  | none => exact .none
  | clause _ hc ih =>
    obtain ⟨last, others⟩ := List.forall_mem_cons.mp accepted
    exact (ih others).trans (usable_of_derivesClause hc last)
  | ending _ isEnd ih =>
    refine (ih accepted).trans ?_
    rcases Bool.or_eq_true_iff.mp isEnd with semicolon | lineEnd
    · exact .ofSign semicolon (by decide) .none
    · have same := eq_of_beq lineEnd
      refine .wordless (fun _ => ?_) ?_
      · rw [Token.is, same]
      · rw [Token.isUnusable, Token.isBroken, same]
        rfl

end Grammar

theorem isAccepted_of_statementsOf {cs : List Clause} {ss : List Statement}
    (h : statementsOf cs = .ok ss) :
    ∀ c ∈ cs, c.IsAccepted := by
  induction cs generalizing ss with
  | nil => exact List.forall_mem_nil _
  | cons c more ih =>
    simp only [statementsOf, bind_eq_ok, pure_eq_ok] at h
    obtain ⟨first, hfirst, others, hothers, _⟩ := h
    exact List.forall_mem_cons.mpr ⟨⟨first, hfirst⟩, ih hothers⟩

end RateRules.Script
