import RateRules.Proofs.Outcomes

/-!
# How far the failure of one exchange reaches

Two fetches that differ only in what one exchange answers give every other requirement the same
rate, and both report an error for it or neither does. Two things are shared: an answer that is no
number stops the whole fetch, and silence makes a timeout of every error that the others have.
-/
namespace RateRules

/-- The given is a decimal or cannot be made one. -/
def Given.IsDecimalOrRefused (given : Given) : Prop :=
  (∃ d, given = .decimal d) ∨ ∃ e, given.toDecimal = .error e

/-- Every rate that was added to a table is a number. -/
theorem ExchangeRates.toDecimal_of_addAnswers {answers : List (Requirement × Answer)}
    {table filled : ExchangeRates} (h : table.addAnswers answers = .ok filled)
    {answer : Requirement × Answer} (hanswer : answer ∈ answers) {given : Given}
    (hgiven : answer.2 = .rate given) : ∃ d, given.toDecimal = .ok d := by
  induction answers generalizing table with
  | nil => cases hanswer
  | cons first more ih =>
    obtain ⟨r, a⟩ := first
    cases a with
    | rate g =>
      obtain ⟨added, hadded, hmore⟩ := bind_eq_ok.mp h
      rcases List.mem_cons.mp hanswer with rfl | later
      · obtain ⟨d, hd, _⟩ := bind_eq_ok.mp hadded
        cases hgiven
        exact ⟨d, hd⟩
      · exact ih hmore later
    | _ =>
      rcases List.mem_cons.mp hanswer with rfl | later
      · cases hgiven
      · exact ih h later

namespace Registry

variable {α : Type} {registry registry' : Registry α} {venue : String} {ask : α → Pair → Answer}
  {timeout : Timeout} {rs : List Requirement}

/-- A fetch that has time returns exactly if nobody who is asked answers what is no number. -/
theorem fetch_returns_iff
    (answered : ∀ answer ∈ registry.answers ask rs, ∀ given, answer.2 = .rate given →
      given.IsDecimalOrRefused)
    (lasting : timeout.isOver = false) :
    (∃ fetched, registry.fetch ask timeout rs = .ok fetched) ↔ registry.AnswersDecimals ask rs := by
  constructor
  · intro ⟨fetched, hfetched⟩ answer hanswer given hgiven
    obtain ⟨rates, hrates, _⟩ := bind_eq_ok.mp hfetched
    have everybody : registry.asked timeout rs = registry.supported rs := by simp [asked, lasting]
    rw [everybody] at hrates
    obtain ⟨d, hd⟩ := ExchangeRates.toDecimal_of_addAnswers hrates hanswer hgiven
    rcases answered answer hanswer given hgiven with decimal | ⟨e, refused⟩
    · exact decimal
    · cases hd.symm.trans refused
  · intro decimals
    obtain ⟨fetched, hfetched, _⟩ := fetch_outcome decimals timeout
    exact ⟨fetched, hfetched⟩

/-- The registries have the same providers, apart from the one for this exchange. -/
def AgreeBut (registry registry' : Registry α) (venue : String) : Prop :=
  ∀ name, Text.small name ≠ Text.small venue → registry.find? name = registry'.find? name

/-- Another provider for one exchange. -/
theorem agreeBut_register (registry : Registry α) (venue : String) (a b : α) :
    (registry.register venue a).AgreeBut (registry.register venue b) venue := by
  intro name other
  rw [find?, find?, register, register, Keyed.find?_set, Keyed.find?_set,
    if_neg other, if_neg other]

namespace AgreeBut

variable {r : Requirement}

theorem timely?_eq (alike : registry.AgreeBut registry' venue)
    (other : Text.small r.exchange ≠ Text.small venue) :
    registry.timely? ask timeout r = registry'.timely? ask timeout r := by
  rw [timely?, timely?, decimal?, decimal?, alike r.exchange other]

theorem error?_eq (alike : registry.AgreeBut registry' venue)
    (other : Text.small r.exchange ≠ Text.small venue) (late : Bool) :
    registry.error? ask timeout late r = registry'.error? ask timeout late r := by
  rw [error?, error?, alike r.exchange other, alike.timely?_eq other]

end AgreeBut

/-- Silence is an error of everybody who is asked and has no rate. -/
theorem error?_of_late {r : Requirement} (supported : (registry.find? r.exchange).isSome = true)
    (missing : registry.timely? ask timeout r = none) :
    registry.error? ask timeout true r = some (.timedOut timeout r) := by
  obtain ⟨provider, found⟩ := Option.isSome_iff_exists.mp supported
  simp [error?, found, missing]

/-- A fetch returns unless somebody who is asked answers what is no number. If two fetches that
differ in one exchange return, every requirement of another exchange has the same rate in both, and
an error in both or in neither. The error is the same if both are late or neither is; a late one
only tells of the timeout. -/
theorem other_exchanges_keep_their_rates (alike : registry.AgreeBut registry' venue)
    (answered : ∀ answer ∈ registry.answers ask rs ++ registry'.answers ask rs,
      ∀ given, answer.2 = .rate given → given.IsDecimalOrRefused)
    (lasting : timeout.isOver = false) :
    ((∃ fetched, registry.fetch ask timeout rs = .ok fetched) ↔ registry.AnswersDecimals ask rs) ∧
    ((∃ fetched', registry'.fetch ask timeout rs = .ok fetched') ↔
      registry'.AnswersDecimals ask rs) ∧
    ∀ fetched fetched', registry.fetch ask timeout rs = .ok fetched →
      registry'.fetch ask timeout rs = .ok fetched' →
      ∀ r ∈ rs, Text.small r.exchange ≠ Text.small venue →
        fetched.rates.find? r = fetched'.rates.find? r ∧
        (fetched.errorsFor [r] = [] ↔ fetched'.errorsFor [r] = []) ∧
        (registry.isLate ask timeout rs = registry'.isLate ask timeout rs →
          fetched.outcome r = fetched'.outcome r) ∧
        (registry.isLate ask timeout rs = true → (registry.find? r.exchange).isSome = true →
          fetched.rates.find? r = none → fetched.errorsFor [r] = [.timedOut timeout r]) := by
  have returns : (∃ fetched, registry.fetch ask timeout rs = .ok fetched) ↔
      registry.AnswersDecimals ask rs :=
    fetch_returns_iff (fun answer h => answered answer (List.mem_append_left _ h)) lasting
  have returns' : (∃ fetched, registry'.fetch ask timeout rs = .ok fetched) ↔
      registry'.AnswersDecimals ask rs :=
    fetch_returns_iff (fun answer h => answered answer (List.mem_append_right _ h)) lasting
  refine ⟨returns, returns', ?_⟩
  intro fetched fetched' hfetched hfetched' r hr other
  have decimals := returns.mp ⟨fetched, hfetched⟩
  have decimals' := returns'.mp ⟨fetched', hfetched'⟩
  have outcome := outcome_of_fetch decimals hfetched hr
  have outcome' := outcome_of_fetch decimals' hfetched' hr
  have rate : fetched.rates.find? r = registry.timely? ask timeout r := congrArg Prod.fst outcome
  have rate' : fetched'.rates.find? r = registry'.timely? ask timeout r :=
    congrArg Prod.fst outcome'
  have errors : fetched.errorsFor [r] = (registry.error? ask timeout _ r).toList :=
    congrArg Prod.snd outcome
  have errors' : fetched'.errorsFor [r] = (registry'.error? ask timeout _ r).toList :=
    congrArg Prod.snd outcome'
  refine ⟨?_, ?_, fun same => ?_, fun late supported missing => ?_⟩
  · rw [rate, rate', alike.timely?_eq other]
  · rw [errorsFor_eq_nil_iff decimals hfetched hr, errorsFor_eq_nil_iff decimals' hfetched' hr,
      rate, rate',
      alike.timely?_eq other]
  · rw [outcome, outcome', same, alike.timely?_eq other, alike.error?_eq other]
  · rw [errors, late, error?_of_late supported (rate.symm.trans missing)]
    rfl

/-- Another exchange never answers or fails at once: the rate is there both times, and the exchange
that does not list the pair has an error both times. -/
theorem rates_beside_silence_and_failure :
    ∃ (registry : Registry Answer) (p : Pair) (rs : List Requirement) (fetched fetched' : Fetched),
      registry.providers.entries = [("kraken", .rate (.decimal (.ofNat 50000))),
        ("ecb", .unlisted)] ∧
      rs = [⟨"Kraken", p⟩, ⟨"ecb", p⟩, ⟨"bitpay", p⟩] ∧
      (registry.register "bitpay" .silent).fetch (fun a _ => a) (.whole 5) rs = .ok fetched ∧
      (registry.register "bitpay" (.failed "ConnectionError" "refused")).fetch (fun a _ => a)
        (.whole 5) rs =
        .ok fetched' ∧
      fetched.outcome ⟨"Kraken", p⟩ = (some (.ofNat 50000), []) ∧
      fetched'.outcome ⟨"Kraken", p⟩ = (some (.ofNat 50000), []) ∧
      fetched.outcome ⟨"ecb", p⟩ = (none, [⟨"ecb", p, "Timed out after 5s"⟩]) ∧
      fetched'.outcome ⟨"ecb", p⟩ = (none, [⟨"ecb", p, "Rate for BTC_USD not available"⟩]) := by
  let p : Pair := ⟨⟨"BTC", by decide⟩, ⟨"USD", by decide⟩⟩
  let rs : List Requirement := [⟨"Kraken", p⟩, ⟨"ecb", p⟩, ⟨"bitpay", p⟩]
  let registry : Registry Answer :=
    (Registry.empty.register "kraken" (.rate (.decimal (.ofNat 50000)))).register "ecb" .unlisted
  let silent := registry.register "bitpay" .silent
  let failing := registry.register "bitpay" (.failed "ConnectionError" "refused")
  let ask : Answer → Pair → Answer := fun a _ => a
  have listed : (silent.answers ask rs ++ failing.answers ask rs).map Prod.snd =
      [.rate (.decimal (.ofNat 50000)), .unlisted, .silent,
        .rate (.decimal (.ofNat 50000)), .unlisted, .failed "ConnectionError" "refused"] := by
        decide +kernel
  have answered : ∀ answer ∈ silent.answers ask rs ++ failing.answers ask rs,
      ∀ given, answer.2 = .rate given → given.IsDecimalOrRefused := by
    intro answer hanswer given hgiven
    have among := List.mem_map_of_mem (f := Prod.snd) hanswer
    rw [listed, hgiven] at among
    simp only [List.mem_cons, Answer.rate.injEq, reduceCtorEq, List.not_mem_nil, or_false, false_or,
      or_self] at among
    exact Or.inl ⟨_, among⟩
  have lasting : (Timeout.whole 5).isOver = false := rfl
  have returned : passes (fun _ => true) (silent.fetch ask (.whole 5) rs) = true := by
    decide +kernel
  have priced : passes (fun fetched : Fetched =>
    decide (fetched.outcome ⟨"Kraken", p⟩ = (some (.ofNat 50000), []) ∧
      fetched.outcome ⟨"ecb", p⟩ = (none, [⟨"ecb", p, "Rate for BTC_USD not available"⟩])))
      (failing.fetch ask (.whole 5) rs) = true := by decide +kernel
  obtain ⟨fetched, hfetched, _⟩ := passes_iff.mp returned
  obtain ⟨fetched', hfetched', priced⟩ := passes_iff.mp priced
  obtain ⟨kraken, ecb⟩ := of_decide_eq_true priced
  obtain ⟨_, _, alike⟩ := other_exchanges_keep_their_rates
    (agreeBut_register registry "bitpay" .silent (.failed "ConnectionError" "refused"))
      answered lasting
  obtain ⟨rate, reported, _⟩ := alike fetched fetched' hfetched hfetched' ⟨"Kraken", p⟩ (by decide)
    (by decide +kernel)
  obtain ⟨missing, _, _, late⟩ := alike fetched fetched' hfetched hfetched' ⟨"ecb", p⟩ (by decide)
    (by decide +kernel)
  have unlisted : fetched.rates.find? ⟨"ecb", p⟩ = none := missing.trans (congrArg Prod.fst ecb)
  refine ⟨registry, p, rs, fetched, fetched',
    by decide +kernel, rfl, hfetched, hfetched', ?_, kraken, ?_, ecb⟩
  · exact Prod.ext (rate.trans (congrArg Prod.fst kraken)) (reported.mpr (congrArg Prod.snd kraken))
  · exact Prod.ext unlisted (late (by decide +kernel) (by decide +kernel) unlisted)

/-- An exchange that does not list a pair says so only if nobody else is silent, and a rate of
another exchange that is no number leaves no answer at all. -/
theorem other_exchanges_may_lose_their_errors :
    ∃ (registry : Registry Answer) (p : Pair) (rs : List Requirement) (fetched fetched' : Fetched),
      registry.providers.entries = [("kraken", .unlisted)] ∧ rs = [⟨"kraken", p⟩, ⟨"bitpay", p⟩] ∧
      (registry.register "bitpay" .unlisted).fetch (fun a _ => a) (.whole 5) rs = .ok fetched ∧
      (registry.register "bitpay" .silent).fetch (fun a _ => a) (.whole 5) rs = .ok fetched' ∧
      fetched.outcome ⟨"kraken", p⟩ = (none, [⟨"kraken", p, "Rate for BTC_USD not available"⟩]) ∧
      fetched'.outcome ⟨"kraken", p⟩ = (none, [⟨"kraken", p, "Timed out after 5s"⟩]) ∧
      ∀ fetched', (registry.register "bitpay" (.rate (.text "n/a"))).fetch (fun a _ => a)
        (.whole 5) rs ≠
        .ok fetched' := by
  let p : Pair := ⟨⟨"BTC", by decide⟩, ⟨"USD", by decide⟩⟩
  let rs : List Requirement := [⟨"kraken", p⟩, ⟨"bitpay", p⟩]
  let registry : Registry Answer := Registry.empty.register "kraken" .unlisted
  have spoken : passes (fun fetched : Fetched => decide (fetched.outcome ⟨"kraken", p⟩ =
      (none, [⟨"kraken", p, "Rate for BTC_USD not available"⟩])))
      ((registry.register "bitpay" .unlisted).fetch (fun a _ => a) (.whole 5) rs) = true := by
        decide +kernel
  have unspoken : passes (fun fetched : Fetched => decide (fetched.outcome ⟨"kraken", p⟩ =
      (none, [⟨"kraken", p, "Timed out after 5s"⟩])))
      ((registry.register "bitpay" .silent).fetch (fun a _ => a) (.whole 5) rs) = true := by
        decide +kernel
  have stopped : passes (fun _ => true)
      ((registry.register "bitpay" (.rate (.text "n/a"))).fetch (fun a _ => a) (.whole 5) rs) =
          false := by
    decide +kernel
  obtain ⟨fetched, hfetched, spoken⟩ := passes_iff.mp spoken
  obtain ⟨fetched', hfetched', unspoken⟩ := passes_iff.mp unspoken
  refine ⟨registry, p, rs, fetched, fetched', by decide +kernel, rfl, hfetched, hfetched', ?_, ?_,
    fun other hother => ?_⟩
  · simpa using spoken
  · simpa using unspoken
  · rw [hother] at stopped
    cases stopped

end Registry
end RateRules
