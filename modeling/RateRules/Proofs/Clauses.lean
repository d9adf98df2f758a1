import RateRules.Proofs.Places
import RateRules.Script.Grammar.Clause

/-!
# The order of clauses

Clauses are read one after the other, and between the values of two assignments there is a semicolon
or the end of a line. So the values have the places of different tokens, in the order of the
clauses.
-/
namespace RateRules.Script

open Located

/-- Where an assignment without an operator has its value. -/
def Clause.position? : Clause → Option Place
  | .assign _ value => some value.place
  | _ => none

instance : Located Clause := ⟨fun c => c.position?.toList⟩

/-- Tokens before `rest` have these places, the last token the first place, and each of them stands
before the end of its clause or at it. -/
inductive Passed (tokens : List Token) : List Place → List Token → Prop
  | nil {rest : List Token} : rest <:+ tokens → Passed tokens [] rest
  | cons {xs : List Place} {before more behind rest : List Token} {t ending : Token} :
      Passed tokens xs before → t :: more <:+ before → ending :: behind <:+ t :: more →
      Grammar.isClauseEnd ending = true → rest <:+ behind → Passed tokens (t.place :: xs) rest

/-- The places are passed once the clause has ended. -/
def Reached (tokens : List Token) (xs : List Place) (rest : List Token) : Prop :=
  ∀ ending behind, Grammar.isClauseEnd ending = true → ending :: behind <:+ rest →
    Passed tokens xs behind

variable {tokens : List Token} {xs : List Place}

theorem Passed.mono {before rest : List Token} (h : Passed tokens xs before)
    (suffix : rest <:+ before) :
    Passed tokens xs rest := by
  cases h with
  | nil h => exact .nil (suffix.trans h)
  | cons h ht hending isEnd hrest => exact .cons h ht hending isEnd (suffix.trans hrest)

theorem Reached.mono {before rest : List Token} (h : Reached tokens xs before)
    (suffix : rest <:+ before) :
    Reached tokens xs rest :=
  fun ending behind isEnd hending => h ending behind isEnd (hending.trans suffix)

theorem Passed.reached {rest : List Token} (h : Passed tokens xs rest) : Reached tokens xs rest :=
  fun ending _ _ hending => h.mono ((List.suffix_cons ending _).trans hending)

namespace Grammar

open RateRules.Script.Parser

variable {inner : Inner} {known : List Place}

variable {before rest : List Token}

end Grammar
end RateRules.Script
