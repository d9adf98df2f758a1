import RateRules.Proofs.Canonical

/-!
# Plain assignments and the definitions of a table

The grammar assigns to names, members and items of lists alone, and of these rules know the names.
So each target of a plain assignment is a name, which normalization turns into a pair or refuses,
and the table has one definition for each target, in the order of the script. A pair that is named
again is a fault.
-/
namespace RateRules

namespace Script

namespace Tree

/-- What can be assigned to and is part of the rule language is a name. -/
theorem exists_name_of_expr {t : Tree} {e : Expr} (h : t.expr = .ok e)
    (target : t.badTarget? = none) :
    ∃ place word, t = .name place word ∧ e = .name word := by
  cases t with
  | name place word =>
    cases h
    exact ⟨place, word, rfl, rfl⟩
  | tuple | list | starred | foreign => cases h
  | number | literal | unary | binary | call => cases target

end Tree

/-- Every target of the clause can be assigned to. -/
def Clause.HasTargets : Clause → Prop
  | assign targets _ => ∀ t ∈ targets, t.badTarget? = none
  | _ => True

namespace Grammar

open RateRules.Script.Parser

variable {inner : Inner}

/-- Whoever may stand before an equals sign is let through. -/
theorem yields_refuseTarget (t : Tree) :
    Yields (fun _ => t.badTarget? = none) (refuseTarget t) := by
  unfold refuseTarget
  split
  · exact yields_refuseAt _
  · next target => exact yields_pure target

theorem yields_hasTargets_assignment (first : Tree) :
    Yields Clause.HasTargets (assignment inner first) := by
  refine yields_bind (@yields_iterate (List Tree × Tree) (fun read =>
    ∀ t ∈ read.1, t.badTarget? = none) _
    (fun read hread => ?_) ([], first) fun _ h => nomatch h) fun read hread => yields_pure ?_
  · refine yields_then fun _ => yields_ite ?_ (yields_pure fun _ hb => nomatch hb)
    refine yields_bind (yields_refuseTarget read.2) fun _ target => ?_
    refine yields_then fun _ => yields_then fun value => yields_pure ?_
    rintro _ ⟨⟩
    exact List.forall_mem_cons.mpr ⟨target, hread⟩
  · obtain ⟨targets, value⟩ := read
    simp only
    split
    · trivial
    · exact fun t ht => hread t (List.mem_reverse.mp ht)

theorem hasTargets_of_isAssignment {c : Clause} (h : c.isAssignment = false) : c.HasTargets := by
  cases c with
  | assign targets value => cases h
  | _ => trivial

end Grammar

theorem hasTargets_of_readWith {cs : List Char} {clauses : List Clause}
    (h : readWith Grammar.wholeScript cs = .ok clauses) : ∀ c ∈ clauses, c.HasTargets :=
  forall_of_readWith (fun _ => Grammar.hasTargets_of_isAssignment)
    (fun _ => Grammar.yields_expressionClause (fun _ => Grammar.hasTargets_of_isAssignment)
      (Parser.yields_trivial _) fun t _ => Grammar.yields_hasTargets_assignment t) h

/-- The plain assignments of a clause: each of its targets with the value. -/
def Clause.assignments : Clause → List (Tree × Tree)
  | assign targets value => targets.map (·, value)
  | _ => []

/-- A plain assignment, without an operator. -/
def Statement.isPlain : Statement → Bool
  | assign none .. => true
  | _ => false

/-- The statement assigns the value to the name, with the place of the value as its position. -/
def Assigns (assignment : Tree × Tree) (s : Statement) : Prop :=
  ∃ place word e, assignment.1 = .name place word ∧ assignment.2.expr = .ok e ∧
    s = .assign none (.name word) e assignment.2.place

theorem forall₂_assigns_targets {targets : List Tree} {value : Tree} {es : List Expr} {e : Expr}
    (hvalue : value.expr = .ok e) (h : exprsOf targets = .ok es)
    (names : ∀ t ∈ targets, t.badTarget? = none) :
    List.Forall₂ Assigns (targets.map (·, value))
    (es.map fun x => .assign none x e value.place) := by
  induction targets generalizing es with
  | nil =>
    cases h
    exact .nil
  | cons t more ih =>
    simp only [exprsOf, bind_eq_ok, pure_eq_ok] at h
    obtain ⟨x, hx, xs, hxs, rfl⟩ := h
    obtain ⟨place, word, rfl, rfl⟩ := Tree.exists_name_of_expr hx (names t List.mem_cons_self)
    exact .cons ⟨place, word, e, rfl, hvalue, rfl⟩ (ih hxs fun u hu =>
      names u (List.mem_cons_of_mem _ hu))

theorem forall₂_assigns_clause {c : Clause} {ss : List Statement} (h : c.statements = .ok ss)
    (targets : c.HasTargets) :
    List.Forall₂ Assigns c.assignments (ss.filter Statement.isPlain) := by
  cases c with
  | assign ts value =>
    simp only [Clause.statements, bind_eq_ok, pure_eq_ok] at h
    obtain ⟨e, he, es, hes, rfl⟩ := h
    rw [List.filter_eq_self.mpr (by simp [Statement.isPlain])]
    exact forall₂_assigns_targets he hes targets
  | augment place op target value =>
    simp only [Clause.statements, bind_eq_ok, pure_eq_ok] at h
    obtain ⟨_, _, x, _, e, _, rfl⟩ := h
    exact .nil
  | expression t =>
    simp only [Clause.statements, bind_eq_ok, pure_eq_ok] at h
    obtain ⟨e, _, rfl⟩ := h
    exact .nil
  | pass =>
    cases h
    exact .nil
  | foreign place command => cases h

/-- The plain statements of a script are its plain assignments in their order, one for each
target. -/
theorem forall₂_assigns {cs : List Clause} {ss : List Statement} (h : statementsOf cs = .ok ss)
    (targets : ∀ c ∈ cs, c.HasTargets) :
    List.Forall₂ Assigns (cs.flatMap Clause.assignments) (ss.filter Statement.isPlain) := by
  induction cs generalizing ss with
  | nil =>
    cases h
    exact .nil
  | cons c more ih =>
    simp only [statementsOf, bind_eq_ok, pure_eq_ok] at h
    obtain ⟨first, hfirst, rest, hrest, rfl⟩ := h
    rw [List.flatMap_cons, List.filter_append]
    exact List.rel_append (forall₂_assigns_clause hfirst (targets c List.mem_cons_self))
      (ih hrest fun d hd => targets d (List.mem_cons_of_mem c hd))

/-- The definition has the pair that the target spells, and the normal form and the position of the
value. -/
def Statement.Defines (s : Statement) (d : Definition) : Prop :=
  ∃ word e, s = .assign none (.name word) e d.position ∧ Pair.ofText? word = some d.pair ∧
    d.expr = (e.normalized false).1

/-- A plain assignment to a name that has no fault gives a definition. -/
theorem exists_defines {word : String} {e : Expr} {position : Place}
    (clean : (Statement.assign none (.name word) e position).normalized.2 = []) :
    ∃ d,
    RuleTable.definition? (Statement.assign none (.name word) e position).normalized.1 = some d ∧
      (Statement.assign none (.name word) e position).Defines d := by
  simp only [Statement.normalized, Expr.normalized] at clean ⊢
  cases spelled : Pair.ofText? word with
  | none => simp [spelled] at clean
  | some p => exact ⟨⟨p, (e.normalized false).1, position⟩, rfl, word, e, rfl, spelled, rfl⟩

theorem definition?_of_not_isPlain {s : Statement} (h : s.isPlain = false) :
    RuleTable.definition? s.normalized.1 = none := by
  cases s with
  | expression e => rfl
  | assign op target value position =>
    cases op with
    | none => cases h
    | some op => rfl

/-- The statements that define something are the plain ones. -/
theorem forall₂_defines {ss : List Statement} (clean : ∀ s ∈ ss, s.normalized.2 = [])
    (named : ∀ s ∈ ss, s.isPlain = true →
      ∃ word e position, s = .assign none (.name word) e position) :
    List.Forall₂ Statement.Defines (ss.filter Statement.isPlain)
      ((ss.map fun s => s.normalized.1).filterMap RuleTable.definition?) := by
  induction ss with
  | nil => exact .nil
  | cons s more ih =>
    have rest := ih (fun t ht => clean t (List.mem_cons_of_mem s ht))
      fun t ht => named t (List.mem_cons_of_mem s ht)
    cases plain : s.isPlain with
    | true =>
      obtain ⟨word, e, position, rfl⟩ := named s List.mem_cons_self plain
      obtain ⟨d, hd, defines⟩ := exists_defines (clean _ List.mem_cons_self)
      rw [List.filter_cons_of_pos plain, List.map_cons, List.filterMap_cons_some hd]
      exact .cons defines rest
    | false =>
      rw [List.filter_cons_of_neg (by simp [plain]), List.map_cons,
        List.filterMap_cons_none (definition?_of_not_isPlain plain)]
      exact rest

end Script

namespace RuleTable

theorem define?_eq_none_iff {table : RuleTable} {d : Definition} :
    table.define? d = none ↔ d.pair ∈ table.definitions.map Definition.pair := by
  rw [define?]
  split
  · next known => simp [known]
  · next fresh => simp [fresh]

theorem eraseDups_append_cons_of_mem {ps more : List Pair} {p : Pair} (known : p ∈ ps) :
    (ps ++ p :: more).eraseDups = (ps ++ more).eraseDups := by
  rw [List.eraseDups_append, List.eraseDups_append]
  simp [List.removeAll, known]

/-- There is a fault for each definition whose pair was defined before, and no other. -/
theorem exists_faults_collect (table : RuleTable) (ds : List Definition) :
    ∃ n, (table.collect ds).2 = List.replicate n .duplicateCurrencyPair ∧
      n + ((table.definitions ++ ds).map Definition.pair).eraseDups.length =
        (table.definitions ++ ds).length := by
  induction ds generalizing table with
  | nil =>
    refine ⟨0, rfl, ?_⟩
    rw [List.append_nil, eraseDups_of_nodup table.distinct, List.length_map, Nat.zero_add]
  | cons d more ih =>
    cases hd : table.define? d with
    | some defined =>
      obtain ⟨n, faults, count⟩ := ih defined
      rw [definitions_of_define? hd, List.append_assoc, List.singleton_append] at count
      exact ⟨n, by rw [collect, hd, faults], count⟩
    | none =>
      have known := define?_eq_none_iff.mp hd
      obtain ⟨n, faults, count⟩ := ih table
      refine ⟨n + 1, by rw [collect, hd, List.replicate_succ, ← faults], ?_⟩
      rw [List.map_append, List.map_cons, eraseDups_append_cons_of_mem known, ← List.map_append]
      simp only [List.length_append, List.length_cons] at count ⊢
      omega

/-- There are as many faults as the definitions are more than their pairs. -/
theorem faults_collect (ds : List Definition) : (empty.collect ds).2 =
    List.replicate (ds.length - (ds.map Definition.pair).eraseDups.length)
    .duplicateCurrencyPair := by
  obtain ⟨n, faults, count⟩ := exists_faults_collect empty ds
  have definitions : empty.definitions ++ ds = ds := rfl
  rw [definitions] at count
  rw [faults, Nat.eq_sub_of_add_eq count]

theorem faults_collect_eq_nil_iff {ds : List Definition} :
    (empty.collect ds).2 = [] ↔ (ds.map Definition.pair).Nodup := by
  constructor
  · intro clean
    have all := definitions_of_collect (Prod.ext rfl clean : empty.collect ds = (_, []))
    have distinct := (empty.collect ds).1.distinct
    rwa [all] at distinct
  · exact @collect_of_nodup empty ds

end RuleTable

namespace Rulebook

theorem withMultiplier_ne_rules {table : RuleTable} {given : Given} {faults : List Fault} :
    withMultiplier table given ≠ .error (.rules faults) := by
  rw [withMultiplier]
  split
  · rw [ofTable]
    split
    · rintro ⟨⟩
    · rintro ⟨⟩
  · rintro ⟨⟩

/-- A script of statements without a fault is refused only if its definitions repeat a pair. -/
theorem tableOf_of_clean {script : String} {statements : List Script.Statement}
    (read : Script.statements script = .ok statements)
    (clean : (Script.normalizedStatements statements).2 = [])
    {ds : List Definition}
    (definitions : (statements.map fun s => s.normalized.1).filterMap RuleTable.definition? = ds) :
    tableOf script = if (ds.map Definition.pair).Nodup then .ok (RuleTable.empty.collect ds).1
      else .error (.rules (List.replicate (ds.length - (ds.map Definition.pair).eraseDups.length)
        .duplicateCurrencyPair)) := by
  have collected : RuleTable.ofStatements (Script.normalizedStatements statements).1 =
      RuleTable.empty.collect ds := by
    rw [RuleTable.ofStatements, Script.normalizedStatements_eq, definitions]
  rw [tableOf, read]
  simp only [mapError_ok, bind, Except.bind, clean, List.isEmpty_nil, Bool.not_true,
    Bool.false_eq_true, if_false,
    collected, ← RuleTable.faults_collect]
  by_cases distinct : (ds.map Definition.pair).Nodup
  · rw [if_pos distinct, RuleTable.faults_collect_eq_nil_iff.mpr distinct]
    rfl
  · have faulty := mt RuleTable.faults_collect_eq_nil_iff.mp distinct
    rw [if_neg distinct, if_pos (by simp [faulty])]
    rfl

/-- The multiplier decides whether there is a book, and the table is put into it as it is. -/
theorem withMultiplier_cases (table : RuleTable) (given : Given) :
    (∃ book, withMultiplier table given = .ok book ∧ book.table = table ∧
        given.toDecimal = .ok book.multiplier) ∨
      (∃ d, given.toDecimal = .ok d ∧ d.isPositive = false ∧
        withMultiplier table given = .error (.multiplier d)) ∨
      ∃ reason, given.toDecimal = .error reason ∧
        withMultiplier table given = .error (.multiplierForm reason) := by
  rw [withMultiplier]
  cases given.toDecimal with
  | error reason => exact .inr (.inr ⟨reason, rfl, rfl⟩)
  | ok d =>
    simp only [ofTable]
    split
    · exact .inl ⟨_, rfl, rfl, rfl⟩
    · next refused => exact .inr (.inl ⟨d, rfl, Bool.eq_false_iff.mpr refused, rfl⟩)

/-- Each plain assignment of a script whose statements have no fault, to each of its targets, is a
definition of the pair that the target spells, and there is no other. If two of them define the same
pair, each that repeats a pair is a fault. Otherwise they are the table in the order of the script,
and the script is accepted with every positive multiplier. -/
theorem definitions_are_plain_assignments (script : String)
    (statements : List Script.Statement) (read : Script.statements script = .ok statements)
    (clean : (Script.normalizedStatements statements).2 = []) :
    ∃ clauses ds,
      Script.readWith Script.Grammar.wholeScript
        (Script.withLineEnd (Script.prepared script.toList)) = .ok clauses ∧
      List.Forall₂ Script.Assigns (clauses.flatMap Script.Clause.assignments)
        (statements.filter Script.Statement.isPlain) ∧
      List.Forall₂ Script.Statement.Defines (statements.filter Script.Statement.isPlain) ds ∧
      (∀ given faults, parse script given = .error (.rules faults) ↔
        ¬ (ds.map Definition.pair).Nodup ∧
        faults = List.replicate (ds.length - (ds.map Definition.pair).eraseDups.length)
          .duplicateCurrencyPair) ∧
      (∀ given book, parse script given = .ok book → book.table.definitions = ds) ∧
      ((ds.map Definition.pair).Nodup → ∀ given,
        (∃ book, parse script given = .ok book ∧ book.table.definitions = ds ∧
          given.toDecimal = .ok book.multiplier) ∨
        (∃ d, given.toDecimal = .ok d ∧ d.isPositive = false ∧
          parse script given = .error (.multiplier d)) ∨
        ∃ reason, given.toDecimal = .error reason ∧
          parse script given = .error (.multiplierForm reason)) := by
  have table := tableOf_of_clean read clean rfl
  simp only [Script.statements, bind_eq_ok] at read
  obtain ⟨clauses, hclauses, hstatements⟩ := read
  rw [Script.normalizedStatements_eq] at clean
  have assigned := Script.forall₂_assigns hstatements (Script.hasTargets_of_readWith hclauses)
  have named : ∀ s ∈ statements, s.isPlain = true →
      ∃ word e position, s = .assign none (.name word) e position := by
    intro s hs plain
    obtain ⟨_, -, _, word, e, -, -, rfl⟩ :=
      exists_of_forall₂ assigned (List.mem_filter.mpr ⟨hs, plain⟩)
    exact ⟨word, e, _, rfl⟩
  have defined := Script.forall₂_defines (List.flatMap_eq_nil_iff.mp clean) named
  generalize (statements.map fun s => s.normalized.1).filterMap RuleTable.definition? = ds
    at table defined
  refine ⟨clauses, ds, hclauses, assigned, defined, ?_⟩
  by_cases distinct : (ds.map Definition.pair).Nodup
  · rw [if_pos distinct] at table
    have whole : (RuleTable.empty.collect ds).1.definitions = ds :=
      RuleTable.definitions_of_collect
        (Prod.ext rfl (RuleTable.faults_collect_eq_nil_iff.mpr distinct))
    have loaded : ∀ given, parse script given =
        withMultiplier (RuleTable.empty.collect ds).1 given := by
      intro given
      rw [parse, table]
      rfl
    refine ⟨fun given faults => ?_, fun given book accepted => ?_, fun _ given => ?_⟩
    · rw [loaded given]
      exact ⟨fun refused => absurd refused withMultiplier_ne_rules, fun h => absurd distinct h.1⟩
    · have same := Except.ok.inj (table.symm.trans (parse_eq_ok accepted))
      rw [← same, whole]
    · rw [loaded given]
      refine Or.imp ?_ id (withMultiplier_cases _ given)
      rintro ⟨book, accepted, same, multiplier⟩
      exact ⟨book, accepted, by rw [same, whole], multiplier⟩
  · rw [if_neg distinct] at table
    have refused : ∀ given, parse script given = .error (.rules _) := fun given => by
      rw [parse, table]
      rfl
    refine ⟨fun given faults => ?_, fun given book accepted => ?_, fun again =>
      absurd again distinct⟩
    · rw [refused given, Except.error.injEq, Invalid.rules.injEq]
      exact ⟨fun same => ⟨distinct, same.symm⟩, fun h => h.2.symm⟩
    · rw [refused given] at accepted
      cases accepted

/-- A chain of targets, an operator that defines nothing and a third pair: a table of three rules.
With a pair that is assigned to again, in small letters, in place of the third one, the script has
one fault, whatever the multiplier. -/
theorem definitions_of_chained_assignments :
    (∃ (statements : List Script.Statement) (book : Rulebook),
      Script.statements "BTC_USD = LTC_X = kraken(BTC_USD); LTC_X += 2; eth_usd = 3" =
        .ok statements ∧
      parse "BTC_USD = LTC_X = kraken(BTC_USD); LTC_X += 2; eth_usd = 3" (.decimal .one) =
        .ok book ∧
      List.Forall₂ Script.Statement.Defines (statements.filter Script.Statement.isPlain)
        book.table.definitions ∧
      book.table.definitions.map (fun d => (d.pair.text, d.expr.render)) =
        [("BTC_USD", "kraken(BTC_USD)"), ("LTC_X", "kraken(BTC_USD)"), ("ETH_USD", "3")]) ∧
    ∃ (clauses : List Script.Clause) (ds : List Definition),
      Script.readWith Script.Grammar.wholeScript (Script.withLineEnd (Script.prepared
        "BTC_USD = LTC_X = kraken(BTC_USD); LTC_X += 2; btc_usd = 3".toList)) = .ok clauses ∧
      (clauses.flatMap Script.Clause.assignments).length = 3 ∧ ds.length = 3 ∧
      (ds.map Definition.pair).eraseDups.length = 2 ∧
      ∀ given, parse "BTC_USD = LTC_X = kraken(BTC_USD); LTC_X += 2; btc_usd = 3" given =
        .error (.rules [.duplicateCurrencyPair]) := by
  constructor
  · have facts : passes (fun statements => (Script.normalizedStatements statements).2.isEmpty)
        (Script.statements "BTC_USD = LTC_X = kraken(BTC_USD); LTC_X += 2; eth_usd = 3") =
          true := by
      decide +kernel
    have loads : passes (fun book : Rulebook =>
        decide (book.table.definitions.map (fun d => (d.pair.text, d.expr.render)) =
          [("BTC_USD", "kraken(BTC_USD)"), ("LTC_X", "kraken(BTC_USD)"), ("ETH_USD", "3")]))
        (parse "BTC_USD = LTC_X = kraken(BTC_USD); LTC_X += 2; eth_usd = 3" (.decimal .one)) =
          true := by
      decide +kernel
    obtain ⟨statements, read, clean⟩ := passes_iff.mp facts
    obtain ⟨book, accepted, texts⟩ := passes_iff.mp loads
    obtain ⟨_, ds, -, -, defined, -, definitions, -⟩ :=
      definitions_are_plain_assignments _ statements read (List.isEmpty_iff.mp clean)
    rw [← definitions _ book accepted] at defined
    exact ⟨statements, book, read, accepted, defined, of_decide_eq_true texts⟩
  · have facts : passes (fun statements =>
        (Script.normalizedStatements statements).2.isEmpty &&
          (statements.filter Script.Statement.isPlain).length == 3)
        (Script.statements "BTC_USD = LTC_X = kraken(BTC_USD); LTC_X += 2; btc_usd = 3") =
          true := by
      decide +kernel
    have refused :
        (parse "BTC_USD = LTC_X = kraken(BTC_USD); LTC_X += 2; btc_usd = 3" (.decimal .one)).map
          (fun _ => ()) = .error (.rules [.duplicateCurrencyPair]) := by
      decide +kernel
    obtain ⟨statements, read, facts⟩ := passes_iff.mp facts
    rw [Bool.and_eq_true, List.isEmpty_iff, beq_iff_eq] at facts
    obtain ⟨clauses, ds, hclauses, assigned, defined, faults, -⟩ :=
      definitions_are_plain_assignments _ statements read facts.1
    have count : ds.length = 3 := by rw [← defined.length_eq, facts.2]
    have repeats := (faults (.decimal .one) [.duplicateCurrencyPair]).mp (error_of_map refused)
    refine ⟨clauses, ds, hclauses, by rw [assigned.length_eq, facts.2], count, ?_,
      fun given => (faults given _).mpr repeats⟩
    have one := congrArg List.length repeats.2
    rw [List.length_replicate, count, List.length_singleton] at one
    omega

end Rulebook

end RateRules
