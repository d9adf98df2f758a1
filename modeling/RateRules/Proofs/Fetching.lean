import RateRules.Proofs.Steps
import RateRules.Registry

/-!
# What a registry fetches

If providers answer with decimals only, then a fetch that had time puts in its table, for every rate
it was asked for, what the provider of that exchange answers, and nothing else.
-/
namespace RateRules

namespace Keyed

variable {κ α : Type} [DecidableEq κ]

theorem lookup_cons_of_ne {key k : κ} (differs : k ≠ key) (a : α) (entries : List (κ × α)) :
    ((key, a) :: entries).lookup k = entries.lookup k := by
  rw [List.lookup_cons, beq_false_of_ne differs]

theorem lookup_setEntry (key k : κ) (a : α) (entries : List (κ × α)) :
    (setEntry key a entries).lookup k = if k = key then some a else entries.lookup k := by
  induction entries with
  | nil =>
    by_cases same : k = key
    · simp [setEntry, same]
    · rw [setEntry, lookup_cons_of_ne same, if_neg same]
  | cons e more ih =>
    obtain ⟨other, b⟩ := e
    by_cases found : other = key
    · subst found
      by_cases same : k = other
      · simp [setEntry, same]
      · rw [setEntry, if_pos rfl, lookup_cons_of_ne same, lookup_cons_of_ne same, if_neg same]
    · by_cases same : k = other
      · subst same
        simp [setEntry, found]
      · rw [setEntry, if_neg found, lookup_cons_of_ne same, lookup_cons_of_ne same, ih]

theorem find?_set (t : Keyed κ α) (key k : κ) (a : α) :
    (t.set key a).find? k = if k = key then some a else t.find? k :=
  lookup_setEntry key k a t.entries

end Keyed

/-- The rate of an answer that gives a decimal. -/
def Answer.decimal? : Answer → Option Decimal
  | .rate (.decimal d) => some d
  | _ => none

/-- The decimal that the provider for an exchange answers, if there is such a provider. -/
def Registry.decimal? {α : Type} (registry : Registry α) (ask : α → Pair → Answer)
    (r : Requirement) :
    Option Decimal :=
  (registry.find? r.exchange).bind fun provider => (ask provider r.pair).decimal?

/-- The providers of a registry as a source of rates. -/
def Registry.source {α : Type} (registry : Registry α) (ask : α → Pair → Answer) : RateSource :=
  fun venue p => (registry.decimal? ask ⟨venue, p⟩).map .decimal

namespace ExchangeRates

theorem find?_add (table : ExchangeRates) (r s : Requirement) (d : Decimal) :
    (table.add r d).find? s = if key s = key r then some d else table.find? s :=
  table.rates.find?_set (key r) (key s) d

/-- Every rate of the table is the one that is known for it. -/
def IsSound (known : Requirement → Option Decimal) (table : ExchangeRates) : Prop :=
  ∀ r d, table.find? r = some d → known r = some d

variable {known : Requirement → Option Decimal}

theorem isSound_add (same : ∀ r s, key r = key s → known r = known s) {table : ExchangeRates}
    (sound : table.IsSound known) {r : Requirement} {d : Decimal} (answered : known r = some d) :
    (table.add r d).IsSound known := by
  intro s e h
  rw [find?_add] at h
  split at h
  · next hkey =>
    rw [same s r hkey, answered]
    exact h
  · exact sound s e h

theorem find?_eq_of_known_eq_none {table : ExchangeRates} (sound : table.IsSound known)
    {r : Requirement}
    (h : known r = none) : table.find? r = known r := by
  rw [h, Option.eq_none_iff_forall_ne_some]
  intro d hd
  cases h.symm.trans (sound r d hd)

/-- Answers that are known are all added, and what the table knew it keeps. -/
theorem addAnswers_of_known (same : ∀ r s, key r = key s → known r = known s)
    (answers : List (Requirement × Answer)) (table : ExchangeRates) (sound : table.IsSound known)
    (decimals : ∀ answer ∈ answers, ∀ given, answer.2 = .rate given → ∃ d, given = .decimal d)
    (agree : ∀ answer ∈ answers, answer.2.decimal? = known answer.1) :
    ∃ filled, table.addAnswers answers = .ok filled ∧ filled.IsSound known ∧
      (∀ r, table.find? r = known r → filled.find? r = known r) ∧
      ∀ answer ∈ answers, filled.find? answer.1 = known answer.1 := by
  induction answers generalizing table with
  | nil => exact ⟨table, rfl, sound, fun _ h => h, fun _ h => nomatch h⟩
  | cons answer more ih =>
    obtain ⟨r, a⟩ := answer
    have agrees : a.decimal? = known r := agree (r, a) List.mem_cons_self
    have rest := fun table sound => ih table sound
      (fun answer h => decimals answer (List.mem_cons_of_mem _ h))
      (fun answer h => agree answer (List.mem_cons_of_mem _ h))
    cases a with
    | rate given =>
      obtain ⟨d, rfl⟩ := decimals _ List.mem_cons_self given rfl
      have added : (table.add r d).find? r = known r := by rw [find?_add, if_pos rfl]; exact agrees
      obtain ⟨filled, hfilled, kept, keeps, gains⟩ := rest _ (isSound_add same sound agrees.symm)
      have keeps_old : ∀ s, table.find? s = known s → filled.find? s = known s := by
        intro s hs
        apply keeps
        rw [find?_add]
        split
        · next hkey =>
          rw [same s r hkey]
          exact agrees
        · exact hs
      refine ⟨filled, hfilled, kept, keeps_old, ?_⟩
      intro answer h
      rcases List.mem_cons.mp h with rfl | h
      · exact keeps r added
      · exact gains answer h
    | _ =>
      obtain ⟨filled, hfilled, kept, keeps, gains⟩ := rest table sound
      refine ⟨filled, hfilled, kept, keeps, ?_⟩
      intro answer h
      rcases List.mem_cons.mp h with rfl | h
      · exact keeps r (find?_eq_of_known_eq_none sound agrees.symm)
      · exact gains answer h

end ExchangeRates

namespace Registry

variable {α : Type} {registry : Registry α} {ask : α → Pair → Answer}

theorem decimal?_of_key_eq {r s : Requirement} (h : ExchangeRates.key r = ExchangeRates.key s) :
    registry.decimal? ask r = registry.decimal? ask s := by
  obtain ⟨venue, pair⟩ := r
  obtain ⟨other, p⟩ := s
  simp only [ExchangeRates.key, Requirement.mk.injEq] at h
  simp only [decimal?, find?, h.1, h.2]

/-- What the providers answer that are asked if there is time. -/
def answers (registry : Registry α) (ask : α → Pair → Answer) (rs : List Requirement) :
    List (Requirement × Answer) :=
  (registry.supported rs).map fun (r, p) => (r, ask p r.pair)

theorem mem_answers_iff {rs : List Requirement} {answer : Requirement × Answer} :
    answer ∈ registry.answers ask rs ↔
      answer.1 ∈ rs ∧ ∃ provider, registry.find? answer.1.exchange = some provider ∧
        ask provider answer.1.pair = answer.2 := by
  simp only [answers, supported, List.mem_map, List.mem_filterMap, List.mem_eraseDups,
    Option.map_eq_some_iff]
  constructor
  · rintro ⟨_, ⟨r, hr, provider, found, rfl⟩, rfl⟩
    exact ⟨hr, provider, found, rfl⟩
  · rintro ⟨hr, provider, found, hanswer⟩
    exact ⟨_, ⟨answer.1, hr, provider, found, rfl⟩, by rw [hanswer]⟩

theorem decimal?_eq_of_mem_answers {rs : List Requirement} {answer : Requirement × Answer}
    (h : answer ∈ registry.answers ask rs) :
    answer.2.decimal? = registry.decimal? ask answer.1 := by
  obtain ⟨_, provider, found, hanswer⟩ := mem_answers_iff.mp h
  rw [decimal?, found, ← hanswer]
  rfl

theorem fetch_eq_ok {timeout : Timeout} (lasting : timeout.isOver = false) {rs : List Requirement}
    {rates : ExchangeRates}
    (h : ExchangeRates.empty.addAnswers (registry.answers ask rs) = .ok rates) :
    ∃ fetched, registry.fetch ask timeout rs = .ok fetched ∧ fetched.rates = rates := by
  have everybody : registry.asked timeout rs = registry.supported rs := by simp [asked, lasting]
  rw [fetch]
  rw [everybody]
  exact ⟨_, bind_eq_ok.mpr ⟨rates, h, rfl⟩, rfl⟩

/-- Whoever is asked and gives a rate gives a decimal. -/
def AnswersDecimals (registry : Registry α) (ask : α → Pair → Answer)
    (rs : List Requirement) : Prop :=
  ∀ answer ∈ registry.answers ask rs, ∀ given, answer.2 = .rate given → ∃ d, given = .decimal d

theorem answersDecimals_of_decimals (registry : Registry α)
    (decimals : ∀ provider p given, ask provider p = .rate given → ∃ d, given = .decimal d)
    (rs : List Requirement) : registry.AnswersDecimals ask rs := by
  intro answer h given hgiven
  obtain ⟨_, provider, _, hanswer⟩ := mem_answers_iff.mp h
  exact decimals provider answer.1.pair given (hanswer.trans hgiven)

/-- A fetch that had time and got decimals knows the decimal of every rate it was asked for. -/
theorem fetch_of_answersDecimals {rs : List Requirement}
    (decimals : registry.AnswersDecimals ask rs)
    {timeout : Timeout} (lasting : timeout.isOver = false) :
    ∃ fetched, registry.fetch ask timeout rs = .ok fetched ∧
      ∀ r ∈ rs, fetched.rates.find? r = registry.decimal? ask r := by
  obtain ⟨rates, hrates, sound, _, gains⟩ := ExchangeRates.addAnswers_of_known
    (fun _ _ => decimal?_of_key_eq) (registry.answers ask rs) .empty (fun r d h => nomatch h)
    decimals (fun answer h => decimal?_eq_of_mem_answers h)
  obtain ⟨fetched, hfetched, rfl⟩ := fetch_eq_ok lasting hrates
  refine ⟨fetched, hfetched, ?_⟩
  intro r hr
  cases found : registry.find? r.exchange with
  | some provider =>
    exact gains (r, ask provider r.pair) (mem_answers_iff.mpr ⟨hr, provider, found, rfl⟩)
  | none =>
    apply ExchangeRates.find?_eq_of_known_eq_none sound
    rw [decimal?, found]
    rfl

/-- A fetch from providers that know decimals only. -/
theorem fetch_of_decimals (registry : Registry α)
    (decimals : ∀ provider p given, ask provider p = .rate given → ∃ d, given = .decimal d)
    {timeout : Timeout} (lasting : timeout.isOver = false) (rs : List Requirement) :
    ∃ fetched, registry.fetch ask timeout rs = .ok fetched ∧
      ∀ r ∈ rs, fetched.rates.find? r = registry.decimal? ask r :=
  fetch_of_answersDecimals (registry.answersDecimals_of_decimals decimals rs) lasting

end Registry
end RateRules
