import RateRules.Proofs.Parser

/-!
# What parsers ensure

A parser ensures something about the tokens that it is given if that holds of whatever it reads from
them and of the tokens that it leaves. The ways to put parsers together are looked at from their
last step back to the first, and a parser that refuses ensures everything.
-/
namespace RateRules.Script

namespace Parser

variable {α β : Type} {good : α → List Token → Prop} {good' : β → List Token → Prop}
  {tokens : List Token}

/-- Whatever the parser reads from the tokens is good together with the tokens that it leaves. -/
def Ensures (tokens : List Token) (p : Parser α) (good : α → List Token → Prop) : Prop :=
  ∀ a rest, Reads p tokens a rest → good a rest

theorem ensures_pure {a : α} (h : good a tokens) : Ensures tokens (pure a) good := by
  intro b rest read
  obtain ⟨rfl, rfl⟩ := reads_pure.mp read
  exact h

theorem ensures_bind {p : Parser α} {f : α → Parser β} (hp : Ensures tokens p good)
    (hf : ∀ a mid, good a mid → Ensures mid (f a) good') : Ensures tokens (p >>= f) good' := by
  intro b rest read
  obtain ⟨a, mid, ha, hb⟩ := reads_bind.mp read
  exact hf a mid (hp a mid ha) b rest hb

theorem ensures_pure_bind {a : α} {f : α → Parser β} (hf : Ensures tokens (f a) good') :
    Ensures tokens (pure a >>= f) good' := by
  have answer : Ensures tokens (pure a) fun b mid => b = a ∧ mid = tokens := ensures_pure ⟨rfl, rfl⟩
  refine ensures_bind answer ?_
  rintro _ _ ⟨rfl, rfl⟩
  exact hf

/-- What is read first need not be known. -/
theorem ensures_then {p : Parser α} {f : α → Parser β}
    (hf : ∀ a mid, mid <:+ tokens → Ensures mid (f a) good') : Ensures tokens (p >>= f) good' := by
  have behind : Ensures tokens p fun _ mid => mid <:+ tokens := fun _ _ read => read.isSuffix
  exact ensures_bind behind hf

theorem ensures_throw (refusal : Refusal) : Ensures tokens (throw refusal) good :=
  fun _ _ read => absurd read not_reads_throw

theorem ensures_refuse : Ensures tokens refuse good := fun _ _ read => absurd read not_reads_refuse

theorem ensures_refuseAt (line : Nat) : Ensures tokens (refuseAt line) good :=
  ensures_then fun _ _ _ => ensures_throw _

/-- Nothing is read behind a refusal. -/
theorem ensures_refuse_then {f : α → Parser β} : Ensures tokens (refuse >>= f) good' := by
  have nothing : Ensures tokens (refuse : Parser α) fun _ _ => False := ensures_refuse
  exact ensures_bind nothing fun _ _ absurd => absurd.elim

theorem ensures_refuseAt_then {f : α → Parser β} (line : Nat) :
    Ensures tokens (refuseAt line >>= f) good' := by
  have nothing : Ensures tokens (refuseAt line : Parser α) fun _ _ => False := ensures_refuseAt line
  exact ensures_bind nothing fun _ _ absurd => absurd.elim

theorem ensures_ite {c : Prop} [Decidable c] {p q : Parser α} (hp : c → Ensures tokens p good)
    (hq : ¬ c → Ensures tokens q good) : Ensures tokens (if c then p else q) good := by
  split
  · next h => exact hp h
  · next h => exact hq h

/-- Something may be checked first. -/
theorem ensures_check {c : Prop} [Decidable c] {p : Parser β} {q : Parser α}
    (hp : c → Ensures tokens p fun _ mid => Ensures mid q good) (hq : ¬ c → Ensures tokens q good) :
    Ensures tokens (if c then p >>= fun _ => q else q) good :=
  ensures_ite (fun h => ensures_bind (hp h) fun _ _ behind => behind) hq

theorem ensures_peek {f : Token → Parser α}
    (hf : ∀ t more, tokens = t :: more → Ensures tokens (f t) good) :
    Ensures tokens (peek >>= f) good := by
  intro a rest read
  obtain ⟨t, mid, ht, ha⟩ := reads_bind.mp read
  obtain ⟨rfl, more, rfl⟩ := reads_peek ht
  exact hf t more rfl a rest ha

theorem ensures_peekSecond {f : Option Token → Parser α}
    (hf : ∀ second, Ensures tokens (f second) good) :
    Ensures tokens (peekSecond >>= f) good := by
  intro a rest read
  obtain ⟨second, mid, looked, ha⟩ := reads_bind.mp read
  obtain ⟨_, same, hall, answer⟩ := reads_bind.mp looked
  obtain ⟨rfl, rfl⟩ := reads_remaining.mp hall
  obtain ⟨_, rfl⟩ := reads_pure.mp answer
  exact hf second a rest ha

theorem ensures_advance {t : Token} {more : List Token} {f : Unit → Parser α}
    (hf : Ensures more (f ()) good) :
    Ensures (t :: more) (advance >>= f) good := by
  intro a rest read
  obtain ⟨_, mid, hmid, ha⟩ := reads_bind.mp read
  rw [reads_advance.mp hmid] at ha
  exact hf a rest ha

theorem ensures_next {f : Token → Parser α}
    (hf : ∀ t more, tokens = t :: more → Ensures more (f t) good) :
    Ensures tokens (next >>= f) good := by
  intro a rest read
  obtain ⟨t, mid, ht, ha⟩ := reads_bind.mp read
  obtain ⟨u, same, hu, taken⟩ := reads_bind.mp ht
  obtain ⟨rfl, more, rfl⟩ := reads_peek hu
  obtain ⟨_, behind, hbehind, answer⟩ := reads_bind.mp taken
  obtain ⟨rfl, rfl⟩ := reads_pure.mp answer
  rw [reads_advance.mp hbehind] at ha
  exact hf t more rfl a rest ha

/-- Looking at the next token takes nothing. -/
theorem ensures_seen {word : String} {f : Bool → Parser α} (hf : ∀ b, Ensures tokens (f b) good) :
    Ensures tokens (sees word >>= f) good := by
  intro a rest read
  obtain ⟨b, mid, seen, ha⟩ := reads_bind.mp read
  obtain ⟨rfl, _⟩ := reads_sees seen
  exact hf b a rest ha

theorem ensures_seenOneOf {words : List String} {f : Bool → Parser α}
    (hf : ∀ b, Ensures tokens (f b) good) :
    Ensures tokens (seesOneOf words >>= f) good := by
  intro a rest read
  obtain ⟨b, mid, seen, ha⟩ := reads_bind.mp read
  obtain ⟨_, same, ht, answer⟩ := reads_bind.mp seen
  obtain ⟨rfl, _⟩ := reads_peek ht
  obtain ⟨_, rfl⟩ := reads_pure.mp answer
  exact hf b a rest ha

theorem ensures_seesThen {word : String} {f : Bool → Parser α}
    (hf : ∀ t more, tokens = t :: more → Ensures tokens (f (t.is word)) good) :
    Ensures tokens (sees word >>= f) good := by
  intro a rest read
  obtain ⟨b, mid, seen, ha⟩ := reads_bind.mp read
  obtain ⟨rfl, t, more, rfl, rfl⟩ := reads_sees seen
  exact hf t more rfl a rest ha

theorem ensures_seesOneOfThen {words : List String} {f : Bool → Parser α}
    (hf : ∀ t more, tokens = t :: more → Ensures tokens (f (t.isOneOf words)) good) :
    Ensures tokens (seesOneOf words >>= f) good := by
  intro a rest read
  obtain ⟨b, mid, seen, ha⟩ := reads_bind.mp read
  obtain ⟨t, behind, ht, answer⟩ := reads_bind.mp seen
  obtain ⟨rfl, more, rfl⟩ := reads_peek ht
  obtain ⟨rfl, rfl⟩ := reads_pure.mp answer
  exact hf t more rfl a _ ha

theorem ensures_sees {word : String} {p q : Parser α}
    (yes : ∀ t more, tokens = t :: more → t.is word = true → Ensures tokens p good)
    (no : Ensures tokens q good) : Ensures tokens (do if ← sees word then p else q) good := by
  intro a rest read
  obtain ⟨b, mid, seen, ha⟩ := reads_bind.mp read
  obtain ⟨rfl, t, more, rfl, answer⟩ := reads_sees seen
  rcases reads_ite.mp ha with ⟨isWord, ha⟩ | ⟨_, ha⟩
  · exact yes t more rfl (answer.symm.trans isWord) a rest ha
  · exact no a rest ha

theorem reads_skip_false {word : String} {rest : List Token}
    (h : Reads (skip? word) tokens false rest) :
    rest = tokens := by
  obtain ⟨seen, mid, hseen, taken⟩ := reads_bind.mp h
  obtain ⟨rfl, _⟩ := reads_sees hseen
  rcases reads_ite.mp taken with ⟨_, advanced⟩ | ⟨_, kept⟩
  · obtain ⟨_, _, _, answer⟩ := reads_bind.mp advanced
    cases (reads_pure.mp answer).1
  · exact (reads_pure.mp kept).2

theorem ensures_skip {word : String} {p q : Parser α}
    (yes : ∀ t more, tokens = t :: more → t.is word = true → Ensures more p good)
    (no : Ensures tokens q good) : Ensures tokens (do if ← skip? word then p else q) good := by
  intro a rest read
  obtain ⟨b, mid, skipped, ha⟩ := reads_bind.mp read
  rcases reads_ite.mp ha with ⟨rfl, ha⟩ | ⟨isWord, ha⟩
  · obtain ⟨t, rfl, isWord⟩ := reads_skip skipped
    exact yes t mid rfl isWord a rest ha
  · obtain rfl := Bool.eq_false_iff.mpr isWord
    obtain rfl := reads_skip_false skipped
    exact no a rest ha

theorem ensures_expect {word : String} {f : Unit → Parser α}
    (hf : ∀ t more, tokens = t :: more → t.is word = true → Ensures more (f ()) good) :
    Ensures tokens (expect word >>= f) good := by
  intro a rest read
  obtain ⟨_, mid, expected, ha⟩ := reads_bind.mp read
  obtain ⟨b, behind, skipped, further⟩ := reads_bind.mp expected
  rcases reads_ite.mp further with ⟨_, refused⟩ | ⟨taken, answer⟩
  · exact absurd refused not_reads_refuse
  · obtain ⟨_, rfl⟩ := reads_pure.mp answer
    obtain rfl : b = true := by simpa using taken
    obtain ⟨t, rfl, isWord⟩ := reads_skip skipped
    exact hf t mid rfl isWord a rest ha

/-- A repetition ensures what its steps keep. -/
theorem ensures_iterate {step : α → Parser (Option α)} {motive : α → List Token → Prop} {a : α}
    (start : motive a tokens)
    (keeps : ∀ a mid, motive a mid → Ensures mid (step a) fun next rest =>
      motive (next.getD a) rest) :
    Ensures tokens (iterate step a) motive := by
  intro b rest read
  exact iterate_induction (fun a mid next rest ha step => keeps a mid ha next rest step) start read

/-- Steps that take a token each time go on until one of them stops or no token is left. -/
theorem ensures_repeatFrom {step : α → Parser (Option α)} {motive done : α → List Token → Prop}
    {fuel : Nat} {a : α}
    (enough : tokens.length ≤ fuel) (start : motive a tokens)
    (keeps : ∀ a mid, motive a mid → Ensures mid (step a) fun next rest =>
      (next = none → done a rest) ∧ ∀ b ∈ next, motive b rest ∧ rest.length < mid.length) :
    Ensures tokens (repeatFrom step fuel a) fun a rest => done a rest ∨ motive a rest ∧
      rest = [] := by
  induction fuel generalizing a tokens with
  | zero => exact ensures_pure (.inr ⟨start, List.length_eq_zero_iff.mp (Nat.le_zero.mp enough)⟩)
  | succ fuel ih =>
    refine ensures_bind (keeps a tokens start) fun next rest kept => ?_
    cases next with
    | none => exact ensures_pure (.inl (kept.1 rfl))
    | some b =>
      obtain ⟨goes, shorter⟩ := kept.2 b rfl
      exact ih (by omega) goes

theorem ensures_iterate_to_end {step : α → Parser (Option α)}
    {motive done : α → List Token → Prop} {a : α}
    (start : motive a tokens)
    (keeps : ∀ a mid, motive a mid → Ensures mid (step a) fun next rest =>
      (next = none → done a rest) ∧ ∀ b ∈ next, motive b rest ∧ rest.length < mid.length) :
    Ensures tokens (iterate step a) fun a rest => done a rest ∨ motive a rest ∧ rest = [] := by
  intro b rest read
  obtain ⟨all, mid, hall, repeated⟩ := reads_bind.mp read
  obtain ⟨rfl, rfl⟩ := reads_remaining.mp hall
  exact ensures_repeatFrom (Nat.le_refl _) start keeps b rest repeated

/-- An attempt that fails takes nothing. -/
theorem ensures_attempt {p : Parser α} {f : Option α → Parser β}
    (hf : ∀ a mid, Ensures mid (f (some a)) good') (none : Ensures tokens (f none) good') :
    Ensures tokens (attempt p >>= f) good' := by
  intro b rest read
  obtain ⟨found, mid, attempted, hb⟩ := reads_bind.mp read
  cases found with
  | some a => exact hf a mid b rest hb
  | none =>
    obtain ⟨_, same⟩ := attempted
    simp only [attempt] at same
    split at same
    · cases same
    · cases same
      exact none b rest hb

end Parser

end RateRules.Script
