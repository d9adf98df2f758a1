import RateRules.Proofs.Clauses
import RateRules.Proofs.Steps
import RateRules.Proofs.Tokens
import RateRules.Script.Reading

/-!
# The positions of statements

Statements that assign without an operator have positions in the order of the script. Two of them
have one position only if they are targets of one assignment, and then they have one value.
-/
namespace RateRules.Script

open RateRules.Candidate

variable {tokens rest : List Token} {xs : List Place}

theorem Passed.isSuffix (h : Passed tokens xs rest) : rest <:+ tokens := by
  induction h with
  | nil h => exact h
  | cons _ ht hending _ hrest ih =>
    have behind := hrest.trans ((List.suffix_cons _ _).trans hending)
    have whole := ht.trans ih
    exact behind.trans whole

theorem suffix_of_cons_suffix_cons {t u : Token} {behind more : List Token}
    (h : u :: behind <:+ t :: more) : behind <:+ more := by
  rcases List.suffix_cons_iff.mp h with same | within
  · cases same
    exact List.suffix_rfl
  · exact (List.suffix_cons u behind).trans within

theorem isEnd_of_isClauseEnd {t : Token} (h : Grammar.isClauseEnd t = true) : t.isEnd = false := by
  obtain ⟨lexeme, place, depth⟩ := t
  cases lexeme with
  | textEnd => cases h
  | broken => cases h
  | _ => rfl

theorem precedes_of_suffix (ordered : tokens.Pairwise Token.Precedes) {t u : Token}
    {more : List Token}
    (ht : t :: more <:+ tokens) (hu : u ∈ more) : t.Precedes u :=
  List.rel_of_pairwise_cons (ordered.sublist ht.sublist) hu

/-- The token of a value is not the last one, since its clause ends behind it. -/
theorem isEnd_of_suffix (ordered : tokens.Pairwise Token.Precedes) {t ending : Token}
    {more behind : List Token} (ht : t :: more <:+ tokens)
    (hending : ending :: behind <:+ t :: more)
    (isClauseEnd : Grammar.isClauseEnd ending = true) : t.isEnd = false := by
  rcases List.suffix_cons_iff.mp hending with same | within
  · cases same
    exact isEnd_of_isClauseEnd isClauseEnd
  · exact (precedes_of_suffix ordered ht (within.subset List.mem_cons_self)).1

theorem Passed.ordered (ordered : tokens.Pairwise Token.Precedes) (h : Passed tokens xs rest) :
    (∀ x ∈ xs, ∀ u ∈ rest, u.isEnd = false → isBefore x u.place = true) ∧
      xs.Pairwise fun newer older => isBefore older newer = true := by
  induction h with
  | nil => exact ⟨fun x hx => absurd hx List.not_mem_nil, .nil⟩
  | @cons xs before more behind rest t ending passed ht hending isClauseEnd hrest ih =>
    obtain ⟨earlier, sorted⟩ := ih
    have whole := ht.trans passed.isSuffix
    have goes := isEnd_of_suffix ordered whole hending isClauseEnd
    have inside : rest ⊆ before := fun u hu =>
      ht.subset (hending.subset (List.mem_cons_of_mem ending (hrest.subset hu)))
    have before_t : ∀ x ∈ xs, isBefore x t.place = true := by
      intro x hx
      exact earlier x hx t (ht.subset List.mem_cons_self) goes
    constructor
    · intro x hx u hu isToken
      rcases List.mem_cons.mp hx with rfl | hx
      · have later : u ∈ more := (hrest.trans (suffix_of_cons_suffix_cons hending)).subset hu
        exact (precedes_of_suffix ordered whole later).2 isToken
      · exact earlier x hx u (inside hu) isToken
    · exact List.pairwise_cons.mpr ⟨before_t, sorted⟩

/-- The value of an assignment without an operator, and its position. -/
def Statement.value? : Statement → Option (Expr × Place)
  | .assign none _ value position => some (value, position)
  | _ => none

/-- Of two statements, in the order of the script, the first has its value before the second, or
they have one value at one place. -/
def Statement.Precedes (s t : Statement) : Prop :=
  ∀ v ∈ s.value?, ∀ w ∈ t.value?, isBefore v.2 w.2 = true ∨ v = w

end RateRules.Script
