import RateRules.Script.Grammar
import RateRules.Script.Tree

/-!
# Where parsers find what they read

A parser locates what it reads if every place of it is known beforehand or is the place of a token,
from the first one that the parser was given to the one that it stopped at. The ways to put parsers
together keep this.
-/
namespace RateRules.Script

/-- The places that something read from tokens has. -/
class Located (α : Type) where
  places : α → List Place

open Located

instance : Located Token := ⟨fun t => [t.place]⟩

instance : Located Tree := ⟨fun t => [t.place]⟩

instance {α : Type} [Located α] : Located (Option α) := ⟨fun a => a.toList.flatMap places⟩

instance {α : Type} [Located α] : Located (List α) := ⟨fun items => items.flatMap places⟩

instance {α β : Type} [Located α] [Located β] : Located (α × β) :=
  ⟨fun a => places a.1 ++ places a.2⟩

/-- A quoted text is found at the place of its token. -/
instance : Located Quotation := ⟨fun _ => []⟩

@[simp] theorem places_token (t : Token) : places t = [t.place] := rfl

@[simp] theorem places_tree (t : Tree) : places t = [t.place] := rfl

@[simp] theorem places_none {α : Type} [Located α] : places (none : Option α) = [] := rfl

@[simp] theorem places_nil {α : Type} [Located α] : places ([] : List α) = [] := rfl

@[simp] theorem places_cons {α : Type} [Located α] (a : α) (items : List α) :
    places (a :: items) = places a ++ places items :=
  rfl

@[simp] theorem places_mk {α β : Type} [Located α] [Located β] (a : α) (b : β) :
    places (a, b) = places a ++ places b :=
  rfl

@[simp] theorem places_quotation (q : Quotation) : places q = [] := rfl

/-- A token from the front of `tokens` to the front of `rest` has this place. -/
def StandsBetween (tokens rest : List Token) (x : Place) : Prop :=
  ∃ t more, t :: more <:+ tokens ∧ rest <:+ t :: more ∧ t.place = x

theorem StandsBetween.of_suffix {tokens inner rest : List Token} {x : Place}
    (h : StandsBetween inner rest x) (suffix : inner <:+ tokens) : StandsBetween tokens rest x := by
  obtain ⟨t, more, ht, hrest, rfl⟩ := h
  exact ⟨t, more, ht.trans suffix, hrest, rfl⟩

namespace Parser

variable {α β : Type}

/-- From these tokens the parser reads `a` and leaves `rest`. -/
def Reads (p : Parser α) (tokens : List Token) (a : α) (rest : List Token) : Prop :=
  ∃ isSuffix, p tokens = .ok ⟨a, rest, isSuffix⟩

variable {tokens rest : List Token}

theorem Reads.isSuffix {p : Parser α} {a : α} (h : Reads p tokens a rest) : rest <:+ tokens := h.1

theorem reads_pure {a b : α} : Reads (pure a) tokens b rest ↔ b = a ∧ rest = tokens := by
  constructor
  · rintro ⟨_, ⟨⟩⟩
    exact ⟨rfl, rfl⟩
  · rintro ⟨rfl, rfl⟩
    exact ⟨List.suffix_rfl, rfl⟩

theorem reads_bind {p : Parser α} {f : α → Parser β} {b : β} :
    Reads (p >>= f) tokens b rest ↔ ∃ a mid, Reads p tokens a mid ∧ Reads (f a) mid b rest := by
  constructor
  · rintro ⟨_, h⟩
    simp only [bind] at h
    split at h
    · cases h
    · next first hfirst =>
      split at h
      · cases h
      · next second hsecond =>
        cases h
        exact ⟨first.value, first.rest, ⟨first.isSuffix, hfirst⟩, ⟨second.isSuffix, hsecond⟩⟩
  · rintro ⟨a, mid, ⟨hmid, hp⟩, ⟨hrest, hf⟩⟩
    exact ⟨hrest.trans hmid, by simp only [bind, hp, hf]⟩

theorem not_reads_throw {refusal : Refusal} {a : α} : ¬ Reads (throw refusal) tokens a rest := by
  rintro ⟨_, ⟨⟩⟩

theorem reads_ite {c : Prop} [Decidable c] {p q : Parser α} {a : α} :
    Reads (if c then p else q) tokens a rest ↔
      c ∧ Reads p tokens a rest ∨ ¬ c ∧ Reads q tokens a rest := by
  split
  · next h => simp [h]
  · next h => simp [h]

theorem reads_remaining {all : List Token} :
    Reads remaining tokens all rest ↔ all = tokens ∧ rest = tokens := by
  constructor
  · rintro ⟨_, ⟨⟩⟩
    exact ⟨rfl, rfl⟩
  · rintro ⟨rfl, rfl⟩
    exact ⟨List.suffix_rfl, rfl⟩

theorem reads_advance {u : Unit} : Reads advance tokens u rest ↔ rest = tokens.tail := by
  constructor
  · rintro ⟨_, ⟨⟩⟩
    rfl
  · rintro rfl
    exact ⟨List.tail_suffix tokens, rfl⟩

/-- The next token is there and stays. -/
theorem reads_peek {t : Token} (h : Reads peek tokens t rest) :
    rest = tokens ∧ ∃ more, tokens = t :: more := by
  obtain ⟨all, mid, hall, found⟩ := reads_bind.mp h
  obtain ⟨rfl, rfl⟩ := reads_remaining.mp hall
  split at found
  · exact absurd found not_reads_throw
  · next head more =>
    rcases reads_ite.mp found with ⟨_, broken⟩ | ⟨_, whole⟩
    · exact absurd broken not_reads_throw
    · obtain ⟨rfl, rfl⟩ := reads_pure.mp whole
      exact ⟨rfl, more, rfl⟩

theorem not_reads_refuse {a : α} : ¬ Reads refuse tokens a rest := by
  intro h
  obtain ⟨_, _, _, h⟩ := reads_bind.mp h
  exact not_reads_throw h

theorem reads_sees {word : String} {b : Bool} (h : Reads (sees word) tokens b rest) :
    rest = tokens ∧ ∃ t more, tokens = t :: more ∧ b = t.is word := by
  obtain ⟨t, mid, ht, answer⟩ := reads_bind.mp h
  obtain ⟨rfl, more, rfl⟩ := reads_peek ht
  obtain ⟨rfl, rfl⟩ := reads_pure.mp answer
  exact ⟨rfl, t, more, rfl, rfl⟩

/-- A sign that is skipped is one token. -/
theorem reads_skip {word : String} (h : Reads (skip? word) tokens true rest) :
    ∃ t, tokens = t :: rest ∧ t.is word = true := by
  obtain ⟨seen, mid, hseen, taken⟩ := reads_bind.mp h
  obtain ⟨rfl, t, more, rfl, answered⟩ := reads_sees hseen
  rcases reads_ite.mp taken with ⟨isWord, advanced⟩ | ⟨_, kept⟩
  · obtain ⟨_, after, hafter, answer⟩ := reads_bind.mp advanced
    obtain ⟨_, rfl⟩ := reads_pure.mp answer
    rw [reads_advance.mp hafter]
    exact ⟨t, rfl, answered.symm.trans isWord⟩
  · cases (reads_pure.mp kept).1

section Repetition

variable {step : α → Parser (Option α)} {motive : α → List Token → Prop}
  (keeps : ∀ a tokens next rest, motive a tokens → Reads (step a) tokens next rest →
    motive (next.getD a) rest)

include keeps

theorem repeatFrom_induction {fuel : Nat} {a b : α} (start : motive a tokens)
    (h : Reads (repeatFrom step fuel a) tokens b rest) : motive b rest := by
  induction fuel generalizing a tokens with
  | zero =>
    obtain ⟨rfl, rfl⟩ := reads_pure.mp h
    exact start
  | succ fuel ih =>
    obtain ⟨next, mid, hstep, further⟩ := reads_bind.mp h
    have kept := keeps a tokens next mid start hstep
    cases next with
    | none =>
      obtain ⟨rfl, rfl⟩ := reads_pure.mp further
      exact kept
    | some c => exact ih kept further

/-- A repetition keeps what each of its steps keeps. -/
theorem iterate_induction {a b : α} (start : motive a tokens)
    (h : Reads (iterate step a) tokens b rest) : motive b rest := by
  obtain ⟨all, mid, hall, repeated⟩ := reads_bind.mp h
  obtain ⟨rfl, rfl⟩ := reads_remaining.mp hall
  exact repeatFrom_induction keeps start repeated

end Repetition

/-- Every place of what `p` reads is known or stands between its tokens. -/
def Locates [Located α] (known : List Place) (p : Parser α) : Prop :=
  ∀ tokens a rest, Reads p tokens a rest →
    ∀ x ∈ places a, x ∈ known ∨ StandsBetween tokens rest x

variable [Located α] [Located β] {known : List Place}

theorem Locates.mono {known' : List Place} {p : Parser α} (h : Locates known p)
    (sub : known ⊆ known') : Locates known' p := by
  intro tokens a rest hp x hx
  exact (h tokens a rest hp x hx).imp_left fun hx => sub hx

end Parser
end RateRules.Script
