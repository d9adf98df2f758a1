import RateRules.Proofs.Fetching

/-!
# What a fetch gives for each requirement

Errors come from three places: an exchange without a provider, an answer that is no rate, and a
timeout that is over before there is a rate. They exclude one another, so every requirement gets its
rate or one error, whatever else is fetched with it and in whatever order.
-/
namespace RateRules

/-- The rate that was fetched for a requirement, and the errors that were reported for it. -/
def Fetched.outcome (fetched : Fetched) (r : Requirement) : Option Decimal × List FetchError :=
  (fetched.rates.find? r, fetched.errorsFor [r])

theorem requirement_of_error? {r : Requirement} {a : Answer} {e : FetchError}
    (h : a.error? r = some e) :
    e.requirement = r := by
  cases a with
  | rate given => cases h
  | silent => cases h
  | unlisted =>
    cases h
    rfl
  | failed kind text =>
    cases h
    rfl

/-- If every requirement of a list is reported at most once and under its own name, then the errors
for one of them are those it was reported with. -/
theorem filter_filterMap_requirement {report : Requirement → Option FetchError}
    (own : ∀ r e, report r = some e → e.requirement = r) {rs : List Requirement}
    (distinct : rs.Nodup)
    {r : Requirement} (hr : r ∈ rs) :
    (rs.filterMap report).filter (fun e => e.requirement ∈ [r]) = (report r).toList := by
  induction rs with
  | nil => cases hr
  | cons s more ih =>
    obtain ⟨fresh, distinct⟩ := List.nodup_cons.mp distinct
    have elsewhere : r ∉ more →
        (more.filterMap report).filter (fun e => e.requirement ∈ [r]) = [] := by
      intro absent
      rw [List.filter_eq_nil_iff]
      intro e he named
      obtain ⟨t, ht, hreport⟩ := List.mem_filterMap.mp he
      rw [own t e hreport, decide_eq_true_eq, List.mem_singleton] at named
      exact absent (named ▸ ht)
    by_cases same : r = s
    · subst same
      cases hreport : report r with
      | none =>
        rw [List.filterMap_cons_none hreport, elsewhere fresh]
        rfl
      | some e =>
        have named : decide (e.requirement ∈ [r]) = true := by simp [own r e hreport]
        rw [List.filterMap_cons_some hreport, List.filter_cons, if_pos named, elsewhere fresh]
        rfl
    · have within : r ∈ more := (List.mem_cons.mp hr).resolve_left same
      cases hreport : report s with
      | none => rw [List.filterMap_cons_none hreport, ih distinct within]
      | some e =>
        have other : ¬ decide (e.requirement ∈ [r]) = true := by
          rw [own s e hreport, decide_eq_true_eq, List.mem_singleton]
          exact fun h => same h.symm
        rw [List.filterMap_cons_some hreport, List.filter_cons, if_neg other, ih distinct within]

namespace ExchangeRates

theorem mem_requirements_add {table : ExchangeRates} {r s : Requirement} {d : Decimal}
    (h : s ∈ (table.add r d).requirements) : s = key r ∨ s ∈ table.requirements :=
  Keyed.mem_setEntry h

/-- A table only gets entries for what was answered. -/
theorem mem_requirements_addAnswers {answers : List (Requirement × Answer)}
    {table filled : ExchangeRates}
    (h : table.addAnswers answers = .ok filled) {s : Requirement} (hs : s ∈ filled.requirements) :
    s ∈ table.requirements ∨ ∃ answer ∈ answers, s = key answer.1 := by
  induction answers generalizing table with
  | nil =>
    cases h
    exact Or.inl hs
  | cons answer more ih =>
    obtain ⟨r, a⟩ := answer
    cases a with
    | rate given =>
      obtain ⟨added, hadded, hmore⟩ := bind_eq_ok.mp h
      obtain ⟨d, _, hadd⟩ := bind_eq_ok.mp hadded
      obtain rfl := pure_eq_ok.mp hadd
      rcases ih hmore with known | ⟨answer, hanswer, same⟩
      · rcases mem_requirements_add known with same | known
        · exact Or.inr ⟨_, List.mem_cons_self, same⟩
        · exact Or.inl known
      · exact Or.inr ⟨answer, List.mem_cons_of_mem _ hanswer, same⟩
    | _ =>
      rcases ih h with known | ⟨answer, hanswer, same⟩
      · exact Or.inl known
      · exact Or.inr ⟨answer, List.mem_cons_of_mem _ hanswer, same⟩

end ExchangeRates

namespace Registry

variable {α : Type} {registry : Registry α} {ask : α → Pair → Answer} {timeout : Timeout}
  {rs : List Requirement}

/-- Nobody is asked, or somebody who is asked never answers. -/
def isLate (registry : Registry α) (ask : α → Pair → Answer) (timeout : Timeout)
    (rs : List Requirement) :
    Bool :=
  timeout.isOver || (registry.answers ask rs).any fun (_, a) => a == .silent

/-- The rate that a fetch has time for. -/
def timely? (registry : Registry α) (ask : α → Pair → Answer) (timeout : Timeout)
    (r : Requirement) :
    Option Decimal :=
  if timeout.isOver then none else registry.decimal? ask r

/-- The error of a requirement in a fetch that is late or in time. -/
def error? (registry : Registry α) (ask : α → Pair → Answer) (timeout : Timeout) (late : Bool)
    (r : Requirement) : Option FetchError :=
  match registry.find? r.exchange with
  | none => some (.unsupported r)
  | some provider =>
    if late then
      if (registry.timely? ask timeout r).isSome then none else some (.timedOut timeout r)
    else (ask provider r.pair).error? r

/-- Exactly the requirements without a rate have an error. -/
theorem isSome_error?_iff (decimals : registry.AnswersDecimals ask rs) {r : Requirement}
    (hr : r ∈ rs) :
    (registry.error? ask timeout (registry.isLate ask timeout rs) r).isSome = true ↔
      registry.timely? ask timeout r = none := by
  cases found : registry.find? r.exchange with
  | none => simp [error?, timely?, decimal?, found]
  | some provider =>
    cases late : registry.isLate ask timeout rs with
    | true =>
      simp only [error?, found, if_true]
      cases registry.timely? ask timeout r <;> simp
    | false =>
      obtain ⟨lasting, answered⟩ := Bool.or_eq_false_iff.mp late
      have known : registry.timely? ask timeout r = (ask provider r.pair).decimal? := by
        simp [timely?, lasting, decimal?, found]
      have asked : (r, ask provider r.pair) ∈ registry.answers ask rs :=
        mem_answers_iff.mpr ⟨hr, provider, found, rfl⟩
      have speaks : ask provider r.pair ≠ .silent := by
        intro silent
        have spoke := List.any_eq_false.mp answered _ asked
        simp [silent] at spoke
      rw [known]
      simp only [error?, found]
      cases answer : ask provider r.pair with
      | rate given =>
        obtain ⟨d, rfl⟩ := decimals _ asked given answer
        simp [Answer.error?, Answer.decimal?]
      | unlisted => simp [Answer.error?, Answer.decimal?]
      | failed kind text => simp [Answer.error?, Answer.decimal?]
      | silent => exact absurd answer speaks

/-- What is asked is answered, and the table has exactly the rates that there was time for. -/
theorem addAnswers_asked (decimals : registry.AnswersDecimals ask rs) (timeout : Timeout) :
    ∃ rates, ExchangeRates.empty.addAnswers
        ((registry.asked timeout rs).map fun (r, p) => (r, ask p r.pair)) = .ok rates ∧
      (∀ r ∈ rs, rates.find? r = registry.timely? ask timeout r) ∧
      ∀ s ∈ rates.requirements, ∃ r ∈ rs, s = ExchangeRates.key r := by
  by_cases expired : timeout.isOver = true
  · refine ⟨.empty, ?_, fun r _ => ?_, fun s hs => ?_⟩
    · rw [asked, if_pos expired]
      rfl
    · rw [timely?, if_pos expired]
      rfl
    · cases hs
  · have lasting : timeout.isOver = false := by simpa using expired
    obtain ⟨fetched, hfetched, known⟩ := fetch_of_answersDecimals decimals lasting
    obtain ⟨rates, hrates, answer⟩ := bind_eq_ok.mp hfetched
    obtain rfl := pure_eq_ok.mp answer
    refine ⟨rates, hrates, fun r hr => ?_, fun s hs => ?_⟩
    · rw [timely?, if_neg expired]
      exact known r hr
    · rcases ExchangeRates.mem_requirements_addAnswers hrates hs with none | ⟨answer, hanswer, same⟩
      · cases none
      · rw [asked, if_neg expired] at hanswer
        exact ⟨answer.1, (mem_answers_iff.mp hanswer).1, same⟩

/-- The error of a requirement whose exchange has no provider. -/
def unsupported? (registry : Registry α) (r : Requirement) : Option FetchError :=
  if (registry.find? r.exchange).isNone then some (.unsupported r) else none

/-- The error of a requirement whose exchange has a provider, given the rates that were fetched. -/
def failure? (registry : Registry α) (ask : α → Pair → Answer) (timeout : Timeout) (late : Bool)
    (rates : ExchangeRates) (r : Requirement) : Option FetchError :=
  (registry.find? r.exchange).bind fun provider =>
    if late then if rates.contains r then none else some (.timedOut timeout r)
    else (ask provider r.pair).error? r

theorem map_unsupported_eq (registry : Registry α) (rs : List Requirement) :
    (registry.unsupported rs).map .unsupported = rs.eraseDups.filterMap registry.unsupported? := by
  rw [unsupported, ← List.filterMap_eq_map, List.filterMap_filter]
  rfl

theorem map_timedOut_eq (registry : Registry α) (timeout : Timeout) (rates : ExchangeRates)
    (rs : List Requirement) :
    ((registry.supported rs).filter fun (r, _) =>
      !rates.contains r).map (fun (r, _) => .timedOut timeout r) =
      rs.eraseDups.filterMap (registry.failure? ask timeout true rates) := by
  rw [← List.filterMap_eq_map, List.filterMap_filter, supported, List.filterMap_filterMap]
  congr 1
  funext r
  rw [failure?]
  cases registry.find? r.exchange with
  | none => rfl
  | some provider => cases h : rates.contains r <;> simp [h]

theorem filterMap_error?_eq (registry : Registry α) (timeout : Timeout) (rates : ExchangeRates)
    (rs : List Requirement) :
    (registry.answers ask rs).filterMap (fun (r, a) => a.error? r) =
      rs.eraseDups.filterMap (registry.failure? ask timeout false rates) := by
  rw [answers, supported, List.filterMap_map, List.filterMap_filterMap]
  congr 1
  funext r
  rw [failure?]
  cases registry.find? r.exchange <;> rfl

/-- The errors of a fetch are those of its requirements: first the exchanges without a provider. -/
theorem fetch_eq_of_addAnswers {rates : ExchangeRates}
    (h : ExchangeRates.empty.addAnswers
      ((registry.asked timeout rs).map fun (r, p) => (r, ask p r.pair)) = .ok rates) :
    registry.fetch ask timeout rs = .ok ⟨rates, rs.eraseDups.filterMap registry.unsupported? ++
      rs.eraseDups.filterMap
        (registry.failure? ask timeout (registry.isLate ask timeout rs) rates)⟩ := by
  refine bind_eq_ok.mpr ⟨rates, h, pure_eq_ok.mpr ?_⟩
  rw [map_unsupported_eq]
  by_cases expired : timeout.isOver = true
  · have late : registry.isLate ask timeout rs = true := by rw [isLate, expired, Bool.true_or]
    rw [late, expired, Bool.true_or, if_pos rfl, map_timedOut_eq]
  · have everybody : registry.asked timeout rs = registry.supported rs := by
      rw [asked, if_neg expired]
    rw [everybody]
    change Fetched.mk rates (_ ++ if registry.isLate ask timeout rs then _ else _) = _
    cases registry.isLate ask timeout rs with
    | true => rw [if_pos rfl, map_timedOut_eq]
    | false =>
      rw [if_neg Bool.false_ne_true]
      exact congrArg (Fetched.mk rates <| _ ++ ·) (filterMap_error?_eq registry timeout rates rs)

theorem error?_eq_append {late : Bool} {rates : ExchangeRates} {r : Requirement}
    (known : rates.find? r = registry.timely? ask timeout r) :
    (registry.unsupported? r).toList ++ (registry.failure? ask timeout late rates r).toList =
      (registry.error? ask timeout late r).toList := by
  rw [unsupported?, failure?, error?, ExchangeRates.contains, known]
  cases registry.find? r.exchange <;> rfl

/-- A fetch whose providers answer decimals gives each requirement its rate, if there was time for
it, and its one error otherwise. -/
theorem fetch_outcome (decimals : registry.AnswersDecimals ask rs) (timeout : Timeout) :
    ∃ fetched, registry.fetch ask timeout rs = .ok fetched ∧
      (∀ r ∈ rs, fetched.outcome r = (registry.timely? ask timeout r,
        (registry.error? ask timeout (registry.isLate ask timeout rs) r).toList)) ∧
      (∀ s ∈ fetched.rates.requirements, ∃ r ∈ rs, s = ExchangeRates.key r) ∧
      ∀ e ∈ fetched.errors, e.requirement ∈ rs := by
  obtain ⟨rates, hrates, known, entries⟩ := addAnswers_asked decimals timeout
  have own : ∀ r e, registry.unsupported? r = some e → e.requirement = r := by
    intro r e h
    rw [unsupported?] at h
    split at h
    · cases h
      rfl
    · cases h
  have own' : ∀ r e,
    registry.failure? ask timeout (registry.isLate ask timeout rs) rates r = some e →
      e.requirement = r := by
    intro r e h
    obtain ⟨provider, _, h⟩ := Option.bind_eq_some_iff.mp h
    split at h
    · split at h
      · cases h
      · cases h
        rfl
    · exact requirement_of_error? h
  refine ⟨_, fetch_eq_of_addAnswers hrates, fun r hr => ?_, entries, fun e he => ?_⟩
  · have once := List.mem_eraseDups.mpr hr
    rw [Fetched.outcome, Fetched.errorsFor, List.filter_append,
      filter_filterMap_requirement own (nodup_eraseDups rs) once,
      filter_filterMap_requirement own' (nodup_eraseDups rs) once, error?_eq_append (known r hr),
        known r hr]
  · rcases List.mem_append.mp he with he | he
    · obtain ⟨r, hr, reported⟩ := List.mem_filterMap.mp he
      rw [own r e reported]
      exact List.mem_eraseDups.mp hr
    · obtain ⟨r, hr, reported⟩ := List.mem_filterMap.mp he
      rw [own' r e reported]
      exact List.mem_eraseDups.mp hr

theorem outcome_of_fetch (decimals : registry.AnswersDecimals ask rs) {fetched : Fetched}
    (h : registry.fetch ask timeout rs = .ok fetched) {r : Requirement} (hr : r ∈ rs) :
    fetched.outcome r = (registry.timely? ask timeout r,
      (registry.error? ask timeout (registry.isLate ask timeout rs) r).toList) := by
  obtain ⟨same, hsame, outcomes, _⟩ := fetch_outcome decimals timeout
  obtain rfl : fetched = same := Except.ok.inj (h.symm.trans hsame)
  exact outcomes r hr

/-- Exactly the requirements without a rate are reported. -/
theorem errorsFor_eq_nil_iff (decimals : registry.AnswersDecimals ask rs) {fetched : Fetched}
    (h : registry.fetch ask timeout rs = .ok fetched) {r : Requirement} (hr : r ∈ rs) :
    fetched.errorsFor [r] = [] ↔ (fetched.rates.find? r).isSome = true := by
  have outcome := outcome_of_fetch decimals h hr
  have exclusive : (registry.error? ask timeout (registry.isLate ask timeout rs) r).isSome = true ↔
    registry.timely? ask timeout r = none := isSome_error?_iff decimals hr
  have rate : fetched.rates.find? r = _ := congrArg Prod.fst outcome
  have errors : fetched.errorsFor [r] = _ := congrArg Prod.snd outcome
  rw [errors, rate, Option.toList_eq_nil_iff, ← Option.not_isSome_iff_eq_none, exclusive, ← ne_eq,
    Option.ne_none_iff_isSome]

/-- If no two requirements differ only in the case of their exchanges, no provider is asked for a
pair twice. -/
theorem nodup_asked (apart : ∀ r ∈ rs, ∀ s ∈ rs, ExchangeRates.key r = ExchangeRates.key s →
    r = s) :
    ((registry.asked timeout rs).map fun (r, _) => ExchangeRates.key r).Nodup := by
  have distinct : rs.eraseDups.Pairwise fun r s => ExchangeRates.key r ≠ ExchangeRates.key s := by
    refine (nodup_eraseDups rs).imp_of_mem fun hr hs other same => other ?_
    exact apart _ (List.mem_eraseDups.mp hr) _ (List.mem_eraseDups.mp hs) same
  rw [asked]
  split
  · exact .nil
  · refine List.pairwise_map.mpr (List.Pairwise.filterMap _ (fun r s other => ?_) distinct)
    intro a ha b hb
    obtain ⟨_, _, rfl⟩ := Option.map_eq_some_iff.mp ha
    obtain ⟨_, _, rfl⟩ := Option.map_eq_some_iff.mp hb
    exact other

theorem mem_of_mem_asked {a : Requirement × α} (h : a ∈ registry.asked timeout rs) : a.1 ∈ rs := by
  rw [asked] at h
  split at h
  · cases h
  · obtain ⟨r, hr, found⟩ := List.mem_filterMap.mp h
    obtain ⟨_, _, rfl⟩ := Option.map_eq_some_iff.mp found
    exact List.mem_eraseDups.mp hr

/-- The order of the requirements says nothing about who is late. -/
theorem isLate_eq_of_perm {rs' : List Requirement} (reordered : rs'.Perm rs) :
    registry.isLate ask timeout rs' = registry.isLate ask timeout rs := by
  have same : ∀ a, a ∈ registry.answers ask rs' ↔ a ∈ registry.answers ask rs := by
    intro a
    rw [mem_answers_iff, mem_answers_iff, reordered.mem_iff]
  rw [isLate, isLate, Bool.eq_iff_iff, Bool.or_eq_true, Bool.or_eq_true, List.any_eq_true,
    List.any_eq_true]
  simp only [same]

/-- Every requirement gets the decimal that its provider answers, if there is time for answers, and
otherwise exactly one error. Nothing else is fetched or reported, nobody is asked twice, and another
order of the requirements changes none of their outcomes. -/
theorem each_requirement_has_one_outcome (registry : Registry α) (ask : α → Pair → Answer)
    (decimals : ∀ provider p given, ask provider p = .rate given → ∃ d, given = .decimal d)
    (timeout : Timeout) (rs : List Requirement)
    (apart : ∀ r ∈ rs, ∀ s ∈ rs, ExchangeRates.key r = ExchangeRates.key s → r = s) :
    ∃ fetched, registry.fetch ask timeout rs = .ok fetched ∧
      (∀ r ∈ rs,
        (timeout.isOver = false ∧
          ∃ d, registry.decimal? ask r = some d ∧ fetched.outcome r = (some d, [])) ∨
        ((timeout.isOver = true ∨ registry.decimal? ask r = none) ∧
          ∃ e, fetched.outcome r = (none, [e]))) ∧
      (∀ s ∈ fetched.rates.requirements, ∃ r ∈ rs, s = ExchangeRates.key r) ∧
      (∀ e ∈ fetched.errors, e.requirement ∈ rs) ∧
      ((registry.asked timeout rs).map fun (r, _) => ExchangeRates.key r).Nodup ∧
      (∀ a ∈ registry.asked timeout rs, a.1 ∈ rs) ∧
      ∀ rs', rs'.Perm rs → ∃ fetched', registry.fetch ask timeout rs' = .ok fetched' ∧
        ∀ r ∈ rs, fetched'.outcome r = fetched.outcome r := by
  have answered := registry.answersDecimals_of_decimals decimals
  obtain ⟨fetched, hfetched, outcomes, entries, errors⟩ := fetch_outcome (answered rs) timeout
  refine ⟨fetched, hfetched, fun r hr => ?_, entries, errors, nodup_asked apart,
    fun a ha => mem_of_mem_asked ha, fun rs' reordered => ?_⟩
  · have exclusive :
      (registry.error? ask timeout (registry.isLate ask timeout rs) r).isSome = true ↔
        registry.timely? ask timeout r = none := isSome_error?_iff (answered rs) hr
    rw [outcomes r hr]
    cases rate : registry.timely? ask timeout r with
    | some d =>
      left
      rw [timely?] at rate
      split at rate
      · cases rate
      · next lasting =>
        have none : registry.error? ask timeout (registry.isLate ask timeout rs) r = none := by
          rw [← Option.not_isSome_iff_eq_none, exclusive]
          simp [timely?, lasting, rate]
        exact ⟨by simpa using lasting, d, rate, by rw [none]; rfl⟩
    | none =>
      right
      obtain ⟨e, he⟩ := Option.isSome_iff_exists.mp (exclusive.mpr rate)
      refine ⟨?_, e, by rw [he]; rfl⟩
      rw [timely?] at rate
      split at rate
      · next expired => exact Or.inl expired
      · exact Or.inr rate
  · obtain ⟨fetched', hfetched', outcomes', _⟩ := fetch_outcome (answered rs') timeout
    refine ⟨fetched', hfetched', fun r hr => ?_⟩
    rw [outcomes' r (reordered.mem_iff.mpr hr), outcomes r hr, isLate_eq_of_perm reordered]

/-- A rate, a pair that is not listed, a provider that never answers and an exchange without one;
the rate is asked for twice. -/
theorem outcomes_of_mixed_answers :
    ∃ (registry : Registry (Option (Option Decimal))) (ask : Option (Option Decimal) →
      Pair → Answer)
      (p : Pair) (rs : List Requirement) (fetched : Fetched),
      registry.providers.entries = [("kraken", some (some (.ofNat 50000))), ("bitpay", some none),
        ("ecb", none)] ∧
      (∀ d, ask (some (some d)) p = .rate (.decimal d)) ∧ ask (some none) p = .unlisted ∧
      ask none p = .silent ∧
      rs = [⟨"Kraken", p⟩, ⟨"bitpay", p⟩, ⟨"ecb", p⟩, ⟨"Kraken", p⟩, ⟨"hitbtc", p⟩] ∧
      registry.fetch ask (.whole 5) rs = .ok fetched ∧
      fetched.rates.requirements = [⟨"kraken", p⟩] ∧
      rs.map fetched.outcome =
        [(some (.ofNat 50000), []), (none, [⟨"bitpay", p, "Timed out after 5s"⟩]),
          (none, [⟨"ecb", p, "Timed out after 5s"⟩]), (some (.ofNat 50000), []),
          (none, [⟨"hitbtc", p, "Exchange 'hitbtc' is not supported"⟩])] ∧
      ∃ fetched', registry.fetch ask (.whole 5) rs.reverse = .ok fetched' ∧
        ∀ r ∈ rs, fetched'.outcome r = fetched.outcome r := by
  let p : Pair := ⟨⟨"BTC", by decide⟩, ⟨"USD", by decide⟩⟩
  let rs : List Requirement :=
    [⟨"Kraken", p⟩, ⟨"bitpay", p⟩, ⟨"ecb", p⟩, ⟨"Kraken", p⟩, ⟨"hitbtc", p⟩]
  let ask : Option (Option Decimal) → Pair → Answer := fun provider _ =>
    provider.elim .silent fun listed => listed.elim .unlisted fun d => .rate (.decimal d)
  let registry : Registry (Option (Option Decimal)) :=
    ((Registry.empty.register "kraken" (some (some (.ofNat 50000)))).register "Bitpay"
      (some none)).register
      "ecb" none
  have facts : passes (fun fetched : Fetched =>
    decide (fetched.rates.requirements = [⟨"kraken", p⟩] ∧
      rs.map fetched.outcome =
        [(some (.ofNat 50000), []), (none, [⟨"bitpay", p, "Timed out after 5s"⟩]),
          (none, [⟨"ecb", p, "Timed out after 5s"⟩]), (some (.ofNat 50000), []),
          (none, [⟨"hitbtc", p, "Exchange 'hitbtc' is not supported"⟩])]))
      (registry.fetch ask (.whole 5) rs) = true := by decide +kernel
  have decimals : ∀ provider p given, ask provider p = .rate given → ∃ d, given = .decimal d := by
    intro provider p given h
    rcases provider with _ | _ | d
    · cases h
    · cases h
    · cases h
      exact ⟨d, rfl⟩
  obtain ⟨fetched, hfetched, facts⟩ := passes_iff.mp facts
  rw [decide_eq_true_eq] at facts
  obtain ⟨entries, outcomes⟩ := facts
  obtain ⟨same, hsame, _, _, _, _, _, reorder⟩ :=
    each_requirement_has_one_outcome registry ask decimals (.whole 5) rs (by decide +kernel)
  obtain rfl : fetched = same := Except.ok.inj (hfetched.symm.trans hsame)
  exact ⟨registry, ask, p, rs, fetched,
    by decide +kernel, fun d => rfl, rfl, rfl, rfl, hfetched, entries,
    outcomes, reorder rs.reverse rs.reverse_perm⟩

end Registry
end RateRules
