import Mathlib.Data.List.Nodup
import RateRules.Proofs.Canonical
import RateRules.Proofs.CommandLine
import RateRules.Proofs.Markers
import RateRules.Proofs.Names
import RateRules.Proofs.Reciprocals
import RateRules.Proofs.Rounding

/-!
# The default script

A rule requires rates of no other exchanges than the script names. So the default script, which has
the name of the preferred exchange in it as it is set, prices every pair on that exchange only if a
script can name it.
-/
namespace RateRules

open Script

namespace Expr

mutual

/-- In a normal call all rates are those of the exchange that is called. -/
theorem exchange_of_mem_needsIn {venue : String} (e : Expr) (normal : e.isNormal true = true)
    {r : Requirement}
    (h : r ∈ e.needsIn (some venue)) : r.exchange = venue := by
  cases e with
  | pair p =>
    simp only [needsIn] at h
    split at h
    · cases h
    · rw [List.mem_singleton.mp h]
  | call callee args => cases (isNormal_call normal).1
  | unary op operand => exact exchange_of_mem_needsIn operand normal h
  | binary op left right =>
    rw [isNormal, Bool.and_eq_true] at normal
    rcases List.mem_append.mp h with h | h
    · exact exchange_of_mem_needsIn left normal.1 h
    · exact exchange_of_mem_needsIn right normal.2 h
  | parenthesized inner => cases normal
  | number _ | name _ | exchange _ => cases h

theorem exchange_of_mem_needsInAll {venue : String} (es : List Expr) (normal : allNormal es = true)
    {r : Requirement}
    (h : r ∈ needsInAll venue es) : r.exchange = venue := by
  cases es with
  | nil => cases h
  | cons e more =>
    rw [allNormal, Bool.and_eq_true] at normal
    rcases List.mem_append.mp h with h | h
    · exact exchange_of_mem_needsIn e normal.1 h
    · exact exchange_of_mem_needsInAll more normal.2 h

end

/-- Outside calls only a call needs rates, all of the exchange that it calls. -/
theorem exists_args_of_mem_needs {context : Pair} (e : Expr) {x : Expr} (hx : x ∈ e.leaves)
    (normal : x.isNormal false = true) {r : Requirement} (h : r ∈ (x.filled context).needs) :
    ∃ args, x = .call (.exchange r.exchange) args := by
  cases e with
  | call callee args =>
    obtain rfl := List.mem_singleton.mp hx
    obtain ⟨_, ⟨venue, rfl⟩, normalArgs⟩ := isNormal_call normal
    rw [exchange_of_mem_needsInAll (filledAll context args) (by rwa [allNormal_filledAll]) h]
    exact ⟨args, rfl⟩
  | unary op operand => exact exists_args_of_mem_needs operand hx normal h
  | binary op left right =>
    rcases List.mem_append.mp hx with hx | hx
    · exact exists_args_of_mem_needs left hx normal h
    · exact exists_args_of_mem_needs right hx normal h
  | parenthesized inner => exact exists_args_of_mem_needs inner hx normal h
  | number _ | name _ | exchange _ | pair _ =>
    obtain rfl := List.mem_singleton.mp hx
    cases h

/-- The exchanges that a normalized expression calls are names that were written. -/
theorem exists_name_of_call (e : Expr) (written : e.isWritten = true)
    (clean : (e.normalized false).2 = [])
    {venue : String} {args : List Expr}
    (h : .call (.exchange venue) args ∈ (e.normalized false).1.leaves) :
    ∃ word, .name word ∈ e.nodes ∧ venue = Text.small word := by
  cases e with
  | call callee given =>
    cases named : exchangeName? callee with
    | none => simp [normalized, named] at clean
    | some called =>
      simp only [normalized, named, Bool.false_eq_true, if_false, leaves, List.mem_singleton] at h
      obtain ⟨same, -⟩ := Expr.call.inj h
      obtain ⟨word, rfl, rfl⟩ := exists_of_exchangeName? named
      exact ⟨word, List.mem_cons_of_mem _ List.mem_cons_self, Expr.exchange.inj same⟩
  | unary op operand =>
    obtain ⟨word, inside, same⟩ := exists_name_of_call operand written clean h
    exact ⟨word, List.mem_cons_of_mem _ inside, same⟩
  | binary op left right =>
    rw [isWritten, Bool.and_eq_true] at written
    obtain ⟨cleanLeft, cleanRight⟩ := List.append_eq_nil_iff.mp clean
    rcases List.mem_append.mp h with h | h
    · obtain ⟨word, inside, same⟩ := exists_name_of_call left written.1 cleanLeft h
      exact ⟨word, List.mem_cons_of_mem _ (List.mem_append_left _ inside), same⟩
    · obtain ⟨word, inside, same⟩ := exists_name_of_call right written.2 cleanRight h
      exact ⟨word, List.mem_cons_of_mem _ (List.mem_append_right _ inside), same⟩
  | name word =>
    simp only [normalized] at h
    split at h
    · cases List.mem_singleton.mp h
    · cases List.mem_singleton.mp h
  | number d => cases List.mem_singleton.mp h
  | pair _ | exchange _ | parenthesized _ => cases written

end Expr

namespace Rulebook

variable {book : Rulebook} {script : String} {p : Pair} {r : Requirement}

theorem exists_reached_of_mem_requirements (h : r ∈ (book.ruleAt p).requirements) :
    ∃ q, ∃ x ∈ (book.table.candidate q).leaves, r ∈ (x.filled q).needs := by
  rcases Expr.exists_reached_of_mem_requirements h with ⟨x, hx, needed⟩ | ⟨q, _, x, hx, needed⟩
  · rcases mem_leaves_start hx with hx | rfl
    · exact ⟨p, x, hx, needed⟩
    · cases needed
  · exact ⟨q, x, hx, needed⟩

theorem isMarkerName_of_mem_requirements (h : r ∈ (book.ruleAt p).requirements) :
    Expr.isMarkerName r.exchange = false :=
  Expr.requiresPlain_flatten book.table.candidate p (book.start p) r h

/-- A required rate is that of an exchange which a definition calls. -/
theorem exists_definition_of_mem_requirements (normal : book.table.IsNormal)
    (h : r ∈ (book.ruleAt p).requirements) :
    ∃ d ∈ book.table.definitions, ∃ args, .call (.exchange r.exchange) args ∈ d.expr.leaves := by
  have plain := isMarkerName_of_mem_requirements h
  obtain ⟨q, x, hx, needed⟩ := exists_reached_of_mem_requirements h
  obtain ⟨args, rfl⟩ := Expr.exists_args_of_mem_needs _ hx
    (Expr.isNormal_of_mem_leaves false _ (RuleTable.isNormal_candidate normal q) x hx) needed
  rcases book.table.candidate_cases q with through | through | ⟨d, hd, through⟩
  · -- The marker for a pair without a rule is no exchange of which rates are required.
    rw [through] at hx
    have marker : Expr.exchange r.exchange = .exchange ("ERR_" ++ "NO_RULE_MATCH") :=
      (Expr.call.inj (List.mem_singleton.mp hx)).1
    rw [Expr.exchange.inj marker] at plain
    cases (Expr.isMarkerName_marker _).symm.trans plain
  · rw [through] at hx
    simp [reciprocal, Expr.leaves] at hx
  · exact ⟨d, hd, args, through ▸ hx⟩

/-- The exchanges of which a rule requires rates are named in the script, in some case of
letters. -/
theorem exists_name_of_mem_requirements (accepted : tableOf script = .ok book.table)
    (h : r ∈ (book.ruleAt p).requirements) :
    ∃ ss, Script.statements script = .ok ss ∧ ∃ s ∈ ss, ∃ word, .name word ∈ s.nodes ∧
      r.exchange = Text.small word := by
  obtain ⟨d, hd, args, call⟩ :=
    exists_definition_of_mem_requirements (isNormal_of_tableOf accepted) h
  obtain ⟨ss, target, e, hss, hs, clean, hexpr⟩ := exists_statement_of_mem_definitions accepted hd
  have written := isWritten_of_statements hss hs
  rw [Script.Statement.isWritten, Bool.and_eq_true] at written
  rw [hexpr] at call
  obtain ⟨word, inside, same⟩ := Expr.exists_name_of_call e written.2 clean call
  exact ⟨ss, hss, _, hs, word, List.mem_append_right _ inside, same⟩

/-- In a script of ASCII these names, in small letters, are names again or keywords. -/
theorem isName_of_mem_requirements (ascii : IsAscii script.toList)
    (accepted : tableOf script = .ok book.table)
    (h : r ∈ (book.ruleAt p).requirements) : isName r.exchange = true ∨ r.exchange ∈ keywords := by
  obtain ⟨ss, read, s, hs, word, inside, same⟩ := exists_name_of_mem_requirements accepted h
  obtain ⟨name, ascii⟩ := isName_of_statements ascii read hs inside
  rw [same]
  exact isName_small name ascii

end Rulebook

namespace RuleTable

variable {table : RuleTable} {p : Pair}

/-- The pattern of any two currencies is the farthest one for a pair that is no pattern. -/
theorem eq_four_of_any_mem_pairsAt (concrete : p.isPattern = false) {distance : Nat}
    (h : ⟨.any, .any⟩ ∈ Pattern.pairsAt p distance) : distance = 4 := by
  have left : Code.any ≠ p.left :=
    fun same => by simp [Pair.isPattern, Code.isAny, ← same] at concrete
  have right : Code.any ≠ p.right :=
    fun same => by simp [Pair.isPattern, Code.isAny, ← same] at concrete
  rcases distance with _ | _ | _ | _ | _ | further
  · exact absurd (congrArg Pair.left (List.mem_singleton.mp h)) left
  · simp [Pattern.pairsAt, left, right] at h
  · exact absurd (congrArg Pair.left (List.mem_singleton.mp h)) right
  · simp [Pattern.pairsAt, left, right] at h
  · rfl
  · cases h

/-- A rule for any two currencies prices every pair if it is the only one. -/
theorem candidate_of_single {d : Definition} (single : table.definitions = [d])
    (any : d.pair = ⟨.any, .any⟩)
    (concrete : p.isPattern = false) : table.candidate p = d.expr := by
  have defined : d ∈ table.definitions := single ▸ List.mem_singleton_self d
  have member : ⟨4, d, false⟩ ∈ table.candidates p :=
    mem_candidates_iff_pairsAt.mpr ⟨defined, any ▸ List.mem_singleton_self _, rfl⟩
  cases best : Candidate.best? (table.candidates p) with
  | none =>
    rw [Candidate.best?_eq_none_iff.mp best] at member
    cases member
  | some c =>
    obtain ⟨defined, pattern, kind⟩ :=
      mem_candidates_iff_pairsAt.mp (Candidate.best?_eq_some best).1
    rw [single, List.mem_singleton] at defined
    rw [defined, any] at pattern
    rw [eq_four_of_any_mem_pairsAt concrete pattern] at kind
    rw [candidate_of_best? best, kind, if_neg (by decide), defined]

end RuleTable

/-- Any two currencies, priced on one exchange. -/
def anyOn (venue : String) (position : Place) : Definition :=
  ⟨⟨.any, .any⟩, .call (.exchange venue) [.pair ⟨.any, .any⟩], position⟩

/-- The script of this rule. -/
def scriptOn (venue : String) : String := "X_X = " ++ venue ++ "(X_X);"

theorem toList_scriptOn (venue : String) (position : Place) :
    (scriptOn venue).toList = Definition.lines [anyOn venue position] := by
  rw [Definition.lines_singleton, Definition.toList_line]
  simp [scriptOn, anyOn, Pair.text, Code.any, Expr.render, Expr.renderArgs]

theorem fits_scriptOn {venue : String} (name : isName venue = true) :
    Fits 0 (scriptOn venue).toList := by
  obtain ⟨c, more, written, _, all, _⟩ := exists_of_isName name
  have noBracket : venue.toList.count '(' = 0 := by
    rw [List.count_eq_zero, written]
    exact fun inside => absurd (all _ inside) (by decide)
  refine fits_of_count_le ?_
  simp only [scriptOn, String.toList_append, List.count_append, noBracket]
  decide

/-- A script can name the exchange, so the script of the rule is read as the rule. -/
theorem statements_scriptOn {venue : String} (name : isName venue = true) :
    ∃ position, statements (scriptOn venue) = .ok [(anyOn venue position).statement] := by
  have anyPair : isName (Pair.text ⟨.any, .any⟩) = true := by decide +kernel
  have readable : (anyOn venue default).IsReadable :=
    ⟨anyPair, by simp [anyOn, Expr.isSpellable, Expr.allSpellable, name, anyPair], rfl⟩
  obtain ⟨ds, same, read⟩ := statements_lines (List.forall_mem_singleton.mpr readable)
    (toList_scriptOn venue default ▸ fits_scriptOn name) (toList_scriptOn venue default)
  obtain ⟨d, rfl, meaning⟩ := List.map_eq_singleton_iff.mp same
  obtain ⟨pair, expr, position⟩ := d
  obtain ⟨rfl, rfl⟩ := Prod.mk.inj meaning
  exact ⟨position, read⟩

/-- The rule is the rate of a pair on an exchange: it requires this rate alone, and where there is
one it comes to that. -/
structure RateRule.IsRate (rule : RateRule) (venue : String) (p : Pair) : Prop where
  requires : rule.requirements = [⟨venue, p⟩]
  comes : ∀ (source : RateSource) (d : Decimal), source.rate? venue p = some d →
    ∃ text lookups, rule.evaluate source = .ok (⟨some d, [], text⟩, lookups)

namespace Rulebook

variable {book : Rulebook} {venue : String} {p : Pair}

/-- The name of an exchange in small letters that spells no pair makes a table of one rule. -/
theorem tableOf_scriptOn (name : isName venue = true) (small : Text.small venue = venue)
    (unpaired : Pair.ofText? venue = none) :
    ∃ table position, tableOf (scriptOn venue) = .ok table ∧
    table.definitions = [anyOn venue position] := by
  obtain ⟨position, read⟩ := statements_scriptOn name
  have anyPair : Pair.ofText? (Pair.text ⟨.any, .any⟩) = some ⟨.any, .any⟩ := Pair.ofText?_text _
  have back : (anyOn venue position).expr.written.normalized false =
      ((anyOn venue position).expr, []) := by
    simp [anyOn, Expr.written, Expr.allWrittenOf, Expr.normalized, Expr.normalizedAll,
      Expr.exchangeName?_name unpaired, small, anyPair]
  obtain ⟨table, accepted, definitions⟩ := @tableOf_of_statements _ [anyOn venue position] read
    (List.forall_mem_singleton.mpr back) (List.nodup_singleton _)
  exact ⟨table, position, accepted, definitions⟩

theorem unpaired_of_tableOf_scriptOn (name : isName venue = true) {table : RuleTable}
    (accepted : tableOf (scriptOn venue) = .ok table) : Pair.ofText? venue = none := by
  obtain ⟨position, read⟩ := statements_scriptOn name
  obtain ⟨ss, hss, clean, _⟩ := tableOf_eq_ok accepted
  cases read.symm.trans hss
  cases paired : Pair.ofText? venue with
  | none => rfl
  | some q =>
    simp [normalizedStatements, Statement.normalized, Definition.statement, anyOn, Expr.written,
      Expr.normalized,
      Expr.exchangeName?, paired] at clean

/-- Under the multiplier one the rule for any two currencies is a call of the exchange. -/
theorem isRate_of_single {position : Place} (unit : book.multiplier.isOne = true)
    (single : book.table.definitions = [anyOn venue position])
    (plain : Expr.isMarkerName venue = false)
    (concrete : p.isPattern = false) : (book.ruleAt p).IsRate venue p := by
  have flat : book.ruleAt p = ⟨p, .call (.exchange venue) [.pair p], [⟨venue, p⟩], []⟩ := by
    have filled : Pair.filledFrom ⟨.any, .any⟩ p = p := rfl
    rw [ruleAt, start_of_unit unit, RuleTable.candidate_of_single single rfl concrete, Expr.flatten]
    simp [anyOn, Expr.flattenWith_call, Expr.filledAll, Expr.filled, filled,
      Expr.needs, Expr.needsIn,
      Expr.needsInAll, Expr.render, plain, Findings.requireAll, Findings.require, Findings.empty]
  rw [flat]
  refine ⟨rfl, fun source d rate => RateRule.value?_eq_some_iff_evaluate.mp ?_⟩
  have given : Expr.callRate? source (.exchange venue) [.pair p] = some d := by
    rw [Expr.callRate?, if_neg (by rw [Expr.render, plain]; exact Bool.false_ne_true)]
    exact rate
  obtain ⟨rated, faultless⟩ := Expr.rated_call_of_rate source given
  exact RateRule.value?_eq_some_iff.mpr ⟨rfl, faultless, by rw [rated]; rfl⟩

/-- No keyword stands for an exchange. -/
theorem not_mem_keywords_of_tableOf_scriptOn {table : RuleTable}
    (accepted : tableOf (scriptOn venue) = .ok table) :
    venue ∉ keywords := by
  have refused : ∀ word ∈ keywords, passes (fun _ => true) (tableOf (scriptOn word)) = false := by
    decide +kernel
  intro keyword
  have none := refused venue keyword
  rw [accepted] at none
  cases none

end Rulebook

theorem isAscii_scriptOn {venue : String} (ascii : IsAscii venue.toList) :
    IsAscii (scriptOn venue).toList := by
  have before : IsAscii "X_X = ".toList := forall_mem_of_all (by decide)
  have behind : IsAscii "(X_X);".toList := forall_mem_of_all (by decide)
  intro c hc
  simp only [scriptOn, String.toList_append, List.mem_append] at hc
  rcases hc with (hc | hc) | hc
  · exact before c hc
  · exact ascii c hc
  · exact behind c hc

namespace Decimal

theorem isPositive_of_isOne {d : Decimal} (h : d.isOne = true) : d.isPositive = true := by
  cases d with
  | finite negative coefficient exponent =>
    simp only [isOne, Bool.and_eq_true, beq_iff_eq] at h
    have above := powerOfTen_pos (digitCount coefficient - 1)
    rw [isPositive, h.1.1, Bool.true_and, bne_iff_ne, h.2]
    omega
  | infinite negative => cases h
  | undefined negative signaling payload => cases h

end Decimal

namespace Settings

variable {s : Settings}

/-- The preferred exchange in small letters. -/
def venue (s : Settings) : String := Text.small s.preferredExchange

/-- No script is set. -/
def isBlank (s : Settings) : Bool := (Text.trim s.rateRulesScript.toList).isEmpty

/-- The settings load without a script, and the rule for every pair is its rate on the preferred
exchange. -/
def PricesEveryPair (s : Settings) : Prop :=
  ∃ book, s.load none none = .ok book ∧ ∀ p : Pair, p.isPattern = false →
    ∃ rule, book.rule p = .ok rule ∧ rule.IsRate s.venue p

theorem scriptFor_of_blank (blank : s.isBlank = true) : s.scriptFor none = scriptOn s.venue := by
  rw [scriptFor, effectiveScript]
  exact if_pos blank

/-- If the name of the preferred exchange is of ASCII or a name that a script can spell, the default
script prices every pair on this exchange exactly if it is such a name, spells no pair and does not
start as markers do. -/
theorem default_script_prices_every_pair_iff (s : Settings) (blank : s.isBlank = true)
    (unit : s.globalMultiplier.isOne = true)
    (plain : IsAscii s.venue.toList ∨ isName s.venue = true) :
    s.PricesEveryPair ↔
      isName s.venue = true ∧ Pair.ofText? s.venue = none ∧ Expr.isMarkerName s.venue = false := by
  constructor
  · rintro ⟨book, loaded, priced⟩
    have accepted := (load_eq_ok loaded).1
    rw [scriptFor_of_blank blank] at accepted
    let p : Pair := ⟨⟨"BTC", by decide⟩, ⟨"USD", by decide⟩⟩
    obtain ⟨rule, hrule, rate⟩ := priced p (by decide)
    obtain rfl := Rulebook.eq_ruleAt_of_rule hrule
    have required : ⟨s.venue, p⟩ ∈ (book.ruleAt p).requirements := by
      rw [rate.requires]
      exact List.mem_singleton_self _
    have name : isName s.venue = true := by
      rcases plain with ascii | name
      · exact (Rulebook.isName_of_mem_requirements (isAscii_scriptOn ascii) accepted
          required).resolve_right
          (Rulebook.not_mem_keywords_of_tableOf_scriptOn accepted)
      · exact name
    have unmarked := Rulebook.isMarkerName_of_mem_requirements required
    exact ⟨name, Rulebook.unpaired_of_tableOf_scriptOn name accepted, unmarked⟩
  · rintro ⟨name, unpaired, unmarked⟩
    have small : Text.small s.venue = s.venue := Text.small_small s.preferredExchange
    obtain ⟨table, position, accepted, single⟩ := Rulebook.tableOf_scriptOn name small unpaired
    let book : Rulebook := ⟨table, s.globalMultiplier, Decimal.isPositive_of_isOne unit⟩
    have loaded : s.load none none = .ok book := by
      refine mapError_eq_ok.mpr (bind_eq_ok.mpr ⟨table, ?_, dif_pos _⟩)
      rw [scriptFor_of_blank blank, accepted]
    refine ⟨book, loaded, fun p concrete => ⟨_, Rulebook.rule_eq_ok book concrete, ?_⟩⟩
    exact Rulebook.isRate_of_single unit single unmarked concrete

theorem default_script_of_kraken :
    ∃ s, Settings.read [("preferred_exchange", .text "Kraken")] [] = .ok s ∧ s.isBlank = true ∧
      s.globalMultiplier.isOne = true ∧ s.venue = "kraken" ∧ s.PricesEveryPair := by
  have facts : passes (fun s : Settings => s.isBlank && s.globalMultiplier.isOne &&
    s.venue == "kraken")
      (Settings.read [("preferred_exchange", .text "Kraken")] []) = true := by decide +kernel
  obtain ⟨s, accepted, facts⟩ := passes_iff.mp facts
  simp only [Bool.and_eq_true, beq_iff_eq] at facts
  obtain ⟨⟨blank, unit⟩, named⟩ := facts
  have name : isName s.venue = true ∧ Pair.ofText? s.venue = none ∧
      Expr.isMarkerName s.venue = false := by
    rw [named]
    decide +kernel
  exact ⟨s, accepted, blank, unit, named,
    (default_script_prices_every_pair_iff s blank unit (.inr name.1)).mpr name⟩

/-- With a hyphen in the name of the preferred exchange the settings do not load; with an operation
in front of it they load, and the rules come to something else than the rates. -/
theorem default_script_may_say_something_else :
    (∃ s, Settings.read [("preferred_exchange", .text "coinbase-pro")]
    [] = .ok s ∧ s.isBlank = true ∧
      s.globalMultiplier.isOne = true ∧ ∀ book, s.load none none ≠ .ok book) ∧
    ∃ s book rule evaluation lookups, Settings.read [("preferred_exchange", .text "2 * kraken")]
    [] = .ok s ∧
      s.isBlank = true ∧ s.globalMultiplier.isOne = true ∧ s.load none none = .ok book ∧
      book.rule ⟨⟨"BTC", by decide⟩, ⟨"USD", by decide⟩⟩ = .ok rule ∧
      rule.text = "2 * kraken(BTC_USD)" ∧
      rule.evaluate (fun _ _ => some (.whole 5)) = .ok (evaluation, lookups) ∧
      evaluation.value = some (.finite false 10 0) := by
  constructor
  · have facts : passes (fun s : Settings => s.isBlank && s.globalMultiplier.isOne &&
        !passes (fun _ => true) (s.load none none))
        (Settings.read [("preferred_exchange", .text "coinbase-pro")] []) = true := by
          decide +kernel
    obtain ⟨s, accepted, facts⟩ := passes_iff.mp facts
    simp only [Bool.and_eq_true, Bool.not_eq_true'] at facts
    refine ⟨s, accepted, facts.1.1, facts.1.2, fun book loaded => ?_⟩
    rw [loaded] at facts
    cases facts.2
  · have facts : passes (fun s : Settings => s.isBlank && s.globalMultiplier.isOne &&
        passes (fun book : Rulebook =>
        passes (fun rule : RateRule => rule.text == "2 * kraken(BTC_USD)" && passes
          (fun outcome : Evaluation × List Requirement => outcome.1.value ==
            some (.finite false 10 0))
          (rule.evaluate fun _ _ => some (.whole 5)))
            (book.rule ⟨⟨"BTC", by decide⟩, ⟨"USD", by decide⟩⟩))
        (s.load none none)) (Settings.read [("preferred_exchange", .text "2 * kraken")] []) =
            true := by
      decide +kernel
    obtain ⟨s, accepted, facts⟩ := passes_iff.mp facts
    simp only [Bool.and_eq_true] at facts
    obtain ⟨⟨blank, unit⟩, facts⟩ := facts
    obtain ⟨book, loaded, facts⟩ := passes_iff.mp facts
    obtain ⟨rule, hrule, facts⟩ := passes_iff.mp facts
    rw [Bool.and_eq_true, beq_iff_eq] at facts
    obtain ⟨text, facts⟩ := facts
    obtain ⟨⟨evaluation, lookups⟩, evaluated, value⟩ := passes_iff.mp facts
    exact ⟨s, book, rule, evaluation, lookups, accepted, blank, unit, loaded, hrule,
      text, evaluated,
      beq_iff_eq.mp value⟩

end Settings

end RateRules
