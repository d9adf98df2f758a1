import RateRules.Proofs.Pricing

/-!
# One inquiry for all pairs

A source of rates is asked at most once, whatever it does when it is asked: for everything that the
rules of all pairs require, each rate once. It is not asked if nothing is required, nor if one of
the pairs is a pattern; the first pattern is then what is refused.
-/
namespace RateRules
namespace Rulebook

variable {ε : Type} {m : Type → Type} [Monad m] [LawfulMonad m]

/-- What the rules for some pairs require, each rate once. -/
def required (book : Rulebook) (pairs : List Pair) : List Requirement :=
  requirementsOf (pairs.eraseDups.map book.ruleAt)

theorem mem_required {book : Rulebook} {pairs : List Pair}
    (concrete : ∀ p ∈ pairs, p.isPattern = false)
    (r : Requirement) :
    r ∈ book.required pairs ↔ ∃ p ∈ pairs, ∃ rule, book.rule p = .ok rule ∧
    r ∈ rule.requirements := by
  rw [required, mem_requirementsOf]
  constructor
  · rintro ⟨rule, hrule, hr⟩
    obtain ⟨p, hp, rfl⟩ := List.mem_map.mp hrule
    have requested := List.mem_eraseDups.mp hp
    exact ⟨p, requested, _, rule_eq_ok book (concrete p requested), hr⟩
  · rintro ⟨p, hp, rule, hrule, hr⟩
    rw [rule_eq_ok book (concrete p hp), Except.ok.injEq] at hrule
    subst hrule
    exact ⟨_, List.mem_map.mpr ⟨p, List.mem_eraseDups.mpr hp, rfl⟩, hr⟩

theorem mapM_rule_of_pattern (book : Rulebook) {pairs : List Pair} {p : Pair}
    (first : pairs.find? Pair.isPattern = some p) : pairs.mapM book.rule = .error ⟨p⟩ := by
  induction pairs with
  | nil => cases first
  | cons q more ih =>
    rw [List.mapM_cons]
    cases pattern : q.isPattern with
    | true =>
      rw [List.find?_cons_of_pos pattern, Option.some.injEq] at first
      subst first
      have refused : book.rule q = .error ⟨q⟩ := by rw [rule, pattern, if_pos rfl]
      rw [refused]
      rfl
    | false =>
      rw [List.find?_cons_of_neg (Bool.eq_false_iff.mp pattern)] at first
      rw [rule_eq_ok book pattern, ih first]
      rfl

/-- The first pattern among some pairs is what their rules are refused for. -/
theorem rules_of_pattern (book : Rulebook) {pairs : List Pair} {p : Pair}
    (first : pairs.find? Pair.isPattern = some p) : book.rules pairs = .error ⟨p⟩ := by
  rw [← find?_eraseDups] at first
  exact mapM_rule_of_pattern book first

/-- What is made of the rates of some pairs. -/
def pricesOf (book : Rulebook) (pairs : List Pair) (fetched : Fetched) :
    Except (Unpriced ε) (List Price) :=
  ((pairs.eraseDups.map book.ruleAt).mapM fun (rule : RateRule) =>
    rule.price fetched).mapError .trap

variable {source : List Requirement → ExceptT ε m Fetched} {pairs : List Pair}

theorem run_pricesWith_of_pattern (book : Rulebook) {p : Pair}
    (first : pairs.find? Pair.isPattern = some p) :
    (book.pricesWith source pairs).run = pure (.error (.pattern ⟨p⟩)) := by
  have refused :
      (book.rules pairs).mapError (Unpriced.pattern (ε := ε)) = .error (.pattern ⟨p⟩) := by
    rw [rules_of_pattern book first]
    rfl
  rw [pricesWith, refused, ExceptT.run_bind, ExceptT.run_mk, pure_bind]

theorem run_pricesWith_of_nothing (book : Rulebook) (concrete : ∀ p ∈ pairs, p.isPattern = false)
    (nothing : book.required pairs = []) :
    (book.pricesWith source pairs).run = pure (book.pricesOf pairs .nothing) := by
  have unasked : fetchFor (pairs.eraseDups.map book.ruleAt) source = pure .nothing :=
    if_pos (List.isEmpty_iff.mpr nothing)
  rw [pricesWith, rules_eq_ok book concrete, mapError_ok, ExceptT.run_bind,
    ExceptT.run_mk, pure_bind]
  simp only [unasked, ExceptT.run_bind, ExceptT.run_adapt, ExceptT.run_pure, map_pure, pure_bind]
  rfl

theorem run_pricesWith_of_something (book : Rulebook) (concrete : ∀ p ∈ pairs, p.isPattern = false)
    (something : book.required pairs ≠ []) :
    (book.pricesWith source pairs).run =
      (fun answer : Except ε Fetched => answer.mapError .source >>= book.pricesOf pairs) <$>
        (source (book.required pairs)).run := by
  have asked : fetchFor (pairs.eraseDups.map book.ruleAt) source = source (book.required pairs) :=
    if_neg (mt List.isEmpty_iff.mp something)
  rw [pricesWith, rules_eq_ok book concrete, mapError_ok, ExceptT.run_bind,
    ExceptT.run_mk, pure_bind]
  simp only [asked]
  rw [ExceptT.run_bind, ExceptT.run_adapt, bind_map_left, map_eq_pure_bind]
  congr 1
  funext answer
  cases answer with
  | error e => rfl
  | ok fetched => rfl

/-- What a source is asked. -/
structure Inquiry where
  requirements : List Requirement
  timeout : Timeout
  deriving DecidableEq

/-- A source that notes what it is asked. -/
def noting (answers : List Requirement → Timeout → Except ε Fetched) (rs : List Requirement)
    (timeout : Timeout) :
    ExceptT ε (StateM (List Inquiry)) Fetched := do
  modify fun noted => noted ++ [⟨rs, timeout⟩]
  ExceptT.mk (pure (answers rs timeout))

/-- If one of the pairs is a pattern, the first of them is what all are refused for, and the source
is not asked. Else the source is asked for what the rules of the pairs require, each rate once, if
they require anything. The prices are those of its answer. -/
theorem source_is_asked_once_or_never (book : Rulebook)
    (source : List Requirement → Timeout → ExceptT ε m Fetched) (timeout : Timeout)
    (pairs : List Pair) :
    (∀ p, pairs.find? Pair.isPattern = some p →
      (book.pricesFrom source timeout pairs).run = pure (.error (.pattern ⟨p⟩))) ∧
    ((∀ p ∈ pairs, p.isPattern = false) →
      (book.required pairs).Nodup ∧
      (∀ r, r ∈ book.required pairs ↔ ∃ p ∈ pairs, ∃ rule, book.rule p = .ok rule ∧
        r ∈ rule.requirements) ∧
      (book.required pairs = [] →
        (book.pricesFrom source timeout pairs).run =
          pure (book.prices (fun _ => .ok .nothing) pairs)) ∧
      (book.required pairs ≠ [] →
        (book.pricesFrom source timeout pairs).run =
          (fun answer => book.prices (fun _ => answer) pairs) <$>
              (source (book.required pairs) timeout).run)) := by
  refine ⟨fun p first => run_pricesWith_of_pattern book first, fun concrete => ?_⟩
  refine ⟨nodup_eraseDups _, mem_required concrete, fun nothing => ?_, fun something => ?_⟩
  · have same : book.prices (fun _ => .ok .nothing) pairs = book.pricesOf (ε := ε) pairs .nothing :=
      run_pricesWith_of_nothing (m := Id) book concrete nothing
    rw [pricesFrom, run_pricesWith_of_nothing book concrete nothing, same]
  · rw [pricesFrom, run_pricesWith_of_something book concrete something]
    congr 1
    funext answer
    have same : (book.pricesWith (m := Id) (fun _ => ExceptT.mk answer) pairs).run = _ :=
      run_pricesWith_of_something book concrete something
    exact same.symm

/-- Two pairs with a rate in common, one of them requested twice, without a pattern among them and
with one. -/
theorem source_asked_for_shared_rates :
    ∃ (book : Rulebook) (p q pattern : Pair) (required : List Requirement),
      parse "BTC_USD = kraken(BTC_USD); BTC_X = BTC_USD * ecb(USD_X);" (.decimal .one) = .ok book ∧
      [p, q, pattern].map Pair.text = ["BTC_USD", "BTC_EUR", "X_USD"] ∧
      required.map Requirement.text = ["kraken(BTC_USD)", "ecb(USD_EUR)"] ∧
      (book.pricesFrom (noting fun _ _ => Except.ok (ε := Empty) .nothing) (.whole 5)
        [p, q, p]).run.run [] =
        (book.prices (fun _ => .ok .nothing) [p, q, p], [⟨required, .whole 5⟩]) ∧
      (book.pricesFrom (noting fun _ _ => Except.ok (ε := Empty) .nothing) (.whole 5)
        [p, q, pattern, p]).run.run [] =
        (.error (.pattern ⟨pattern⟩), []) := by
  let p : Pair := ⟨⟨"BTC", by decide⟩, ⟨"USD", by decide⟩⟩
  let q : Pair := ⟨⟨"BTC", by decide⟩, ⟨"EUR", by decide⟩⟩
  let pattern : Pair := ⟨⟨"X", by decide⟩, ⟨"USD", by decide⟩⟩
  have facts : passes (fun book : Rulebook =>
      decide ((book.required [p, q, p]).map Requirement.text = ["kraken(BTC_USD)", "ecb(USD_EUR)"]))
      (parse "BTC_USD = kraken(BTC_USD); BTC_X = BTC_USD * ecb(USD_X);" (.decimal .one)) =
          true := by
    decide +kernel
  obtain ⟨book, accepted, texts⟩ := passes_iff.mp facts
  rw [decide_eq_true_eq] at texts
  have something : book.required [p, q, p] ≠ [] := by
    intro nothing
    rw [nothing] at texts
    cases texts
  obtain ⟨_, _, _, once⟩ :=
    (source_is_asked_once_or_never book (noting fun _ _ => Except.ok (ε := Empty) .nothing)
    (.whole 5) [p, q, p]).2 (by decide)
  have refused :=
    (source_is_asked_once_or_never book (noting fun _ _ => Except.ok (ε := Empty) .nothing)
    (.whole 5) [p, q, pattern, p]).1 pattern (by decide)
  refine ⟨book, p, q, pattern, book.required [p, q, p], accepted, by decide, texts, ?_, ?_⟩
  · rw [once something]
    rfl
  · rw [refused]
    rfl

end Rulebook
end RateRules
