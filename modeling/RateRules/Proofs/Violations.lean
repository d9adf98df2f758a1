import RateRules.Expr.Render
import RateRules.Proofs.Normal
import RateRules.Script.Reading

/-!
# Every violation is reported

The faults of normalization are those that show when each identifier and each call is looked at on
its own, from left to right: what it is, and which calls stand around it. Well-formed scripts are
those without a fault. In them identifiers become pairs and callees exchanges, and everything else
stays as it was.
-/
namespace RateRules

namespace Expr

def isIdentifier : Expr → Bool
  | name _ => true
  | _ => false

/-- A name that spells no pair. -/
def isPlainName : Expr → Bool
  | name word => (Pair.ofText? word).isNone
  | _ => false

/-- A part of an expression, and the callees of the calls around it, the innermost first. -/
structure Site where
  around : List Expr
  part : Expr

mutual

/-- The identifiers and calls of an expression from left to right, each call before what stands in
it. A name that is called belongs to its call. -/
def sites (around : List Expr) : Expr → List Site
  | name word => [⟨around, name word⟩]
  | unary _ operand => operand.sites around
  | binary _ left right => left.sites around ++ right.sites around
  | parenthesized inner => inner.sites around
  | call callee args =>
    ⟨around, call callee args⟩ ::
      ((if callee.isIdentifier then [] else callee.sites (callee :: around)) ++
        sitesOfAll (callee :: around) args)
  | number _ => []
  | pair _ => []
  | exchange _ => []

def sitesOfAll (around : List Expr) : List Expr → List Site
  | [] => []
  | e :: more => e.sites around ++ sitesOfAll around more

end

namespace Site

/-- None of the calls around a site is refused. A call is refused if there is one around it, or if
its callee is no plain name. -/
def isSearched : List Expr → Bool
  | [] => true
  | [callee] => callee.isPlainName
  | _ :: _ :: _ => false

/-- What is wrong at a site, seen on its own. -/
def violation? (site : Site) : Option Fault :=
  if isSearched site.around then
    match site.part with
    | name word => if (Pair.ofText? word).isSome then none else some .invalidCurrencyIdentifier
    | call callee _ =>
      if !site.around.isEmpty then some .nestedInvocation
      else if callee.isPlainName then none else some .invalidExchangeName
    | _ => none
  else none

/-- Nothing is searched inside what is not searched. -/
theorem isSearched_of_append {inner around : List Expr} (h : isSearched (inner ++ around) = true) :
    isSearched around = true := by
  cases inner with
  | nil => exact h
  | cons callee more =>
    cases around with
    | nil => rfl
    | cons outer others =>
      cases more with
      | nil => cases h
      | cons _ _ => cases h

theorem violation?_of_refused {site : Site} (refused : isSearched site.around = false) :
    site.violation? = none := by
  rw [violation?, refused, if_neg Bool.false_ne_true]

end Site

theorem isPlainName_iff {e : Expr} :
    e.isPlainName = true ↔ ∃ word, e = name word ∧ Pair.ofText? word = none := by
  cases e with
  | name word => simp [isPlainName]
  | _ => simp [isPlainName]

theorem exchangeName?_of_not_plain {e : Expr} (h : e.isPlainName = false) :
    exchangeName? e = none := by
  cases e with
  | name word =>
    rw [isPlainName, Option.isNone_eq_false_iff] at h
    rw [exchangeName?, h, if_pos rfl]
  | _ => rfl

mutual

/-- Deeper sites have more calls around them. -/
theorem around_of_mem_sites (e : Expr) {around : List Expr} {site : Site}
    (h : site ∈ e.sites around) :
    ∃ inner, site.around = inner ++ around := by
  cases e with
  | name word =>
    obtain rfl := List.mem_singleton.mp h
    exact ⟨[], rfl⟩
  | unary op operand => exact around_of_mem_sites operand h
  | binary op left right =>
    rcases List.mem_append.mp h with h | h
    · exact around_of_mem_sites left h
    · exact around_of_mem_sites right h
  | parenthesized inner => exact around_of_mem_sites inner h
  | call callee args =>
    have deeper : (∃ inner, site.around = inner ++ callee :: around) →
        ∃ inner, site.around = inner ++ around := by
      rintro ⟨inner, hinner⟩
      exact ⟨inner ++ [callee], by rw [hinner, List.append_assoc, List.singleton_append]⟩
    rcases List.mem_cons.mp h with rfl | h
    · exact ⟨[], rfl⟩
    · rcases List.mem_append.mp h with h | h
      · split at h
        · cases h
        · exact deeper (around_of_mem_sites callee h)
      · exact deeper (around_of_mem_sitesOfAll args h)
  | number _ => cases h
  | pair _ => cases h
  | exchange _ => cases h

theorem around_of_mem_sitesOfAll (es : List Expr) {around : List Expr} {site : Site}
    (h : site ∈ sitesOfAll around es) : ∃ inner, site.around = inner ++ around := by
  cases es with
  | nil => cases h
  | cons e more =>
    rcases List.mem_append.mp h with h | h
    · exact around_of_mem_sites e h
    · exact around_of_mem_sitesOfAll more h

end

/-- Nothing is reported in a call that is refused. -/
theorem violations_of_refused {around : List Expr} (refused : Site.isSearched around = false)
    {l : List Site}
    (h : ∀ site ∈ l, ∃ inner, site.around = inner ++ around) :
    l.filterMap Site.violation? = [] := by
  rw [List.filterMap_eq_nil_iff]
  intro site hsite
  obtain ⟨inner, hinner⟩ := h site hsite
  apply Site.violation?_of_refused
  rw [hinner, Bool.eq_false_iff]
  intro searched
  rw [Site.isSearched_of_append searched] at refused
  cases refused

theorem sites_of_call_refused {callee : Expr} {args around : List Expr}
    (refused : Site.isSearched (callee :: around) = false) :
    ((call callee args).sites around).filterMap Site.violation? =
      [Site.mk around (call callee args)].filterMap Site.violation? := by
  have inside : ∀ site ∈ (if callee.isIdentifier then [] else callee.sites (callee :: around)) ++
      sitesOfAll (callee :: around) args, ∃ inner, site.around = inner ++ callee :: around := by
    intro site hsite
    rcases List.mem_append.mp hsite with h | h
    · split at h
      · cases h
      · exact around_of_mem_sites callee h
    · exact around_of_mem_sitesOfAll args h
  rw [sites, ← List.singleton_append, List.filterMap_append, violations_of_refused refused inside,
    List.append_nil]

mutual

/-- The faults of an expression that is searched are the violations at its sites. -/
theorem faults_normalized (e : Expr) {around : List Expr}
    (searched : Site.isSearched around = true) :
    (e.normalized (!around.isEmpty)).2 = (e.sites around).filterMap Site.violation? := by
  cases e with
  | name word =>
    simp only [normalized, sites, List.filterMap_cons, List.filterMap_nil, Site.violation?,
      searched, if_true]
    cases Pair.ofText? word with
    | some p => rfl
    | none => rfl
  | unary op operand => exact faults_normalized operand searched
  | binary op left right =>
    simp only [normalized, sites, List.filterMap_append]
    rw [faults_normalized left searched, faults_normalized right searched]
  | parenthesized inner => exact faults_normalized inner searched
  | call callee args =>
    cases around with
    | nil =>
      cases plain : callee.isPlainName with
      | true =>
        obtain ⟨word, rfl, unpaired⟩ := isPlainName_iff.mp plain
        have inside : (normalizedAll args).2 =
            (sitesOfAll [name word] args).filterMap Site.violation? :=
          faults_normalizedAll args plain rfl
        have accepted : Site.violation? ⟨[], call (name word) args⟩ = none := by
          simp [Site.violation?, Site.isSearched, plain]
        rw [sites, List.filterMap_cons_none accepted, isIdentifier, if_pos rfl,
          List.nil_append, ← inside]
        simp only [normalized, exchangeName?_name unpaired]
        rfl
      | false =>
        have refused : Site.isSearched [callee] = false := plain
        rw [sites_of_call_refused refused]
        simp [normalized, exchangeName?_of_not_plain plain, Site.violation?, Site.isSearched, plain]
    | cons outer others =>
      have refused : Site.isSearched (callee :: outer :: others) = false := rfl
      rw [sites_of_call_refused refused]
      simp [normalized, Site.violation?, searched]
  | number _ => rfl
  | pair _ => rfl
  | exchange _ => rfl

theorem faults_normalizedAll (es : List Expr) {around : List Expr}
    (searched : Site.isSearched around = true)
    (inside : around.isEmpty = false) :
    (normalizedAll es).2 = (sitesOfAll around es).filterMap Site.violation? := by
  cases es with
  | nil => rfl
  | cons e more =>
    have first := faults_normalized e searched
    rw [inside, Bool.not_false] at first
    simp only [normalizedAll, sitesOfAll, List.filterMap_append]
    rw [first, faults_normalizedAll more searched inside]

end

/-- Every identifier among some sites spells a pair. -/
def AllSpelled (l : List Site) : Prop :=
  ∀ site ∈ l, ∀ word, site.part = name word → ∃ p, Pair.ofText? word = some p

/-- None of some parts is a call. -/
def NoCalls (parts : List Expr) : Prop := ∀ callee args, call callee args ∉ parts

/-- Every call among some parts calls a name that spells no pair, with no call in its arguments. -/
def AllPlain (parts : List Expr) : Prop :=
  ∀ callee args, call callee args ∈ parts →
    (∃ word, callee = name word ∧ Pair.ofText? word = none) ∧ NoCalls (nodesOfAll args)

theorem allSpelled_nil : AllSpelled [] := List.forall_mem_nil _

theorem allSpelled_append {l l' : List Site} :
    AllSpelled (l ++ l') ↔ AllSpelled l ∧ AllSpelled l' :=
  List.forall_mem_append

theorem noCalls_append {parts parts' : List Expr} :
    NoCalls (parts ++ parts') ↔ NoCalls parts ∧ NoCalls parts' := by
  simp only [NoCalls, List.mem_append, not_or, forall_and]

theorem allPlain_append {parts parts' : List Expr} :
    AllPlain (parts ++ parts') ↔ AllPlain parts ∧ AllPlain parts' := by
  constructor
  · intro h
    exact ⟨fun callee args hmem => h callee args (List.mem_append_left _ hmem),
      fun callee args hmem => h callee args (List.mem_append_right _ hmem)⟩
  · rintro ⟨left, right⟩ callee args hmem
    exact (List.mem_append.mp hmem).elim (left callee args) (right callee args)

theorem allPlain_of_noCalls {parts : List Expr} (none : NoCalls parts) : AllPlain parts :=
  fun callee args h => absurd h (none callee args)

theorem call_mem_cons {e callee : Expr} {args parts : List Expr}
    (other : ∀ callee args, e ≠ call callee args) :
    call callee args ∈ e :: parts ↔ call callee args ∈ parts := by
  rw [List.mem_cons, or_iff_right fun same => other callee args same.symm]

theorem noCalls_cons {e : Expr} {parts : List Expr} (other : ∀ callee args, e ≠ call callee args) :
    NoCalls (e :: parts) ↔ NoCalls parts := by
  simp only [NoCalls, call_mem_cons other]

theorem allPlain_cons {e : Expr} {parts : List Expr} (other : ∀ callee args, e ≠ call callee args) :
    AllPlain (e :: parts) ↔ AllPlain parts := by
  simp only [AllPlain, call_mem_cons other]

theorem noCalls_singleton {e : Expr} (other : ∀ callee args, e ≠ call callee args) : NoCalls [e] :=
  (noCalls_cons other).mpr fun _ _ => List.not_mem_nil

theorem faults_name_eq_nil_iff (inCall : Bool) (word : String) (around : List Expr) :
    ((name word).normalized inCall).2 = [] ↔ AllSpelled ((name word).sites around) := by
  simp only [normalized, sites, AllSpelled, List.mem_singleton, forall_eq, name.injEq, forall_eq']
  cases Pair.ofText? word with
  | some p => simp
  | none => simp

mutual

/-- In a call, an expression has no fault exactly if its identifiers spell pairs and no call stands
in it. -/
theorem faults_inside_eq_nil_iff (e : Expr) (around : List Expr) :
    (e.normalized true).2 = [] ↔ AllSpelled (e.sites around) ∧ NoCalls e.nodes := by
  cases e with
  | name word =>
    have none : NoCalls [name word] := noCalls_singleton fun _ _ => Expr.noConfusion
    rw [faults_name_eq_nil_iff, nodes, and_iff_left none]
  | unary op operand =>
    have inner := faults_inside_eq_nil_iff operand around
    rw [nodes, noCalls_cons (fun _ _ => Expr.noConfusion)]
    exact inner
  | binary op left right =>
    have first := faults_inside_eq_nil_iff left around
    have second := faults_inside_eq_nil_iff right around
    rw [nodes, noCalls_cons (fun _ _ => Expr.noConfusion), noCalls_append, sites, allSpelled_append]
    simp only [normalized, List.append_eq_nil_iff, first, second]
    exact and_and_and_comm
  | parenthesized inner =>
    have within := faults_inside_eq_nil_iff inner around
    rw [nodes, noCalls_cons (fun _ _ => Expr.noConfusion)]
    exact within
  | call callee args =>
    have called : ¬NoCalls (call callee args).nodes := fun h => h callee args List.mem_cons_self
    simp [normalized, called]
  | number _ | pair _ | exchange _ =>
    rw [nodes, sites, and_iff_left (noCalls_singleton fun _ _ => Expr.noConfusion)]
    exact iff_of_true rfl allSpelled_nil

theorem faults_normalizedAll_eq_nil_iff (es : List Expr) (around : List Expr) :
    (normalizedAll es).2 = [] ↔ AllSpelled (sitesOfAll around es) ∧ NoCalls (nodesOfAll es) := by
  cases es with
  | nil => simp [normalizedAll, AllSpelled, NoCalls, sitesOfAll, nodesOfAll]
  | cons e more =>
    have first := faults_inside_eq_nil_iff e around
    have rest := faults_normalizedAll_eq_nil_iff more around
    rw [nodesOfAll, noCalls_append, sitesOfAll, allSpelled_append]
    simp only [normalizedAll, List.append_eq_nil_iff, first, rest]
    exact and_and_and_comm

end

theorem allPlain_call {callee : Expr} {args : List Expr} :
    AllPlain (call callee args).nodes ↔
      (∃ word, callee = name word ∧ Pair.ofText? word = none) ∧ NoCalls (nodesOfAll args) := by
  constructor
  · intro h
    exact h callee args List.mem_cons_self
  · rintro ⟨⟨word, rfl, unpaired⟩, noneInside⟩
    intro callee' args' h
    rcases List.mem_cons.mp h with same | h
    · obtain ⟨rfl, rfl⟩ := Expr.call.inj same
      exact ⟨⟨word, rfl, unpaired⟩, noneInside⟩
    · rcases List.mem_cons.mp h with same | h
      · cases same
      · exact absurd h (noneInside callee' args')

/-- An expression has no fault exactly if its identifiers spell pairs and its calls are well
formed. -/
theorem faults_eq_nil_iff (e : Expr) :
    (e.normalized false).2 = [] ↔ AllSpelled (e.sites []) ∧ AllPlain e.nodes := by
  cases e with
  | name word =>
    have none : NoCalls [name word] := noCalls_singleton fun _ _ => Expr.noConfusion
    rw [faults_name_eq_nil_iff, nodes, and_iff_left (allPlain_of_noCalls none)]
  | unary op operand =>
    have inner := faults_eq_nil_iff operand
    rw [nodes, allPlain_cons (fun _ _ => Expr.noConfusion)]
    exact inner
  | binary op left right =>
    have first := faults_eq_nil_iff left
    have second := faults_eq_nil_iff right
    rw [nodes, allPlain_cons (fun _ _ => Expr.noConfusion), allPlain_append, sites,
      allSpelled_append]
    simp only [normalized, List.append_eq_nil_iff, first, second]
    exact and_and_and_comm
  | parenthesized inner =>
    have within := faults_eq_nil_iff inner
    rw [nodes, allPlain_cons (fun _ _ => Expr.noConfusion)]
    exact within
  | call callee args =>
    rw [allPlain_call]
    cases plain : callee.isPlainName with
    | true =>
      obtain ⟨word, rfl, unpaired⟩ := isPlainName_iff.mp plain
      have inside := faults_normalizedAll_eq_nil_iff args [name word]
      have own : AllSpelled ((call (name word) args).sites []) ↔
          AllSpelled (sitesOfAll [name word] args) := by
        simp [AllSpelled, sites, isIdentifier]
      have accepted : ∃ word', name word = name word' ∧ Pair.ofText? word' = none :=
        ⟨word, rfl, unpaired⟩
      rw [own, and_iff_right accepted]
      simp only [normalized, exchangeName?_name unpaired, Bool.false_eq_true, if_false]
      exact inside
    | false =>
      have refused : ¬∃ word, callee = name word ∧ Pair.ofText? word = none := by
        rw [← isPlainName_iff, plain]
        exact Bool.false_ne_true
      simp [normalized, exchangeName?_of_not_plain plain, refused]
  | number _ | pair _ | exchange _ =>
    rw [nodes, sites, and_iff_left (allPlain_of_noCalls (noCalls_singleton fun _ _ =>
      Expr.noConfusion))]
    exact iff_of_true rfl allSpelled_nil

/-- A name as the exchange that it calls. -/
def asExchange : Expr → Expr
  | name word => exchange (Text.small word)
  | callee => callee

mutual

/-- Identifiers as the pairs that they spell and callees as exchanges in small letters, and
everything else as it is. -/
def canonical : Expr → Expr
  | name word => (Pair.ofText? word).elim (name word) pair
  | unary op operand => unary op operand.canonical
  | binary op left right => binary op left.canonical right.canonical
  | parenthesized inner => parenthesized inner.canonical
  | call callee args => call callee.asExchange (canonicalAll args)
  | number value => number value
  | pair p => pair p
  | exchange venue => exchange venue

def canonicalAll : List Expr → List Expr
  | [] => []
  | e :: more => e.canonical :: canonicalAll more

end

mutual

theorem normalized_of_no_fault (inCall : Bool) (e : Expr) (clean : (e.normalized inCall).2 = []) :
    (e.normalized inCall).1 = e.canonical := by
  cases e with
  | name word =>
    simp only [normalized, canonical]
    cases Pair.ofText? word with
    | some p => rfl
    | none => rfl
  | unary op operand => exact congrArg (unary op) (normalized_of_no_fault inCall operand clean)
  | binary op left right =>
    obtain ⟨cleanLeft, cleanRight⟩ := List.append_eq_nil_iff.mp clean
    exact congr (congrArg (binary op) (normalized_of_no_fault inCall left cleanLeft))
      (normalized_of_no_fault inCall right cleanRight)
  | parenthesized inner => exact congrArg parenthesized (normalized_of_no_fault inCall inner clean)
  | call callee args =>
    cases inCall with
    | true => cases clean
    | false =>
      cases plain : callee.isPlainName with
      | true =>
        obtain ⟨word, rfl, unpaired⟩ := isPlainName_iff.mp plain
        simp only [normalized, exchangeName?_name unpaired, Bool.false_eq_true, if_false] at clean ⊢
        exact congrArg (call (exchange (Text.small word))) (normalizedAll_of_no_fault args clean)
      | false => simp [normalized, exchangeName?_of_not_plain plain] at clean
  | number _ | pair _ | exchange _ => rfl

theorem normalizedAll_of_no_fault (es : List Expr) (clean : (normalizedAll es).2 = []) :
    (normalizedAll es).1 = canonicalAll es := by
  cases es with
  | nil => rfl
  | cons e more =>
    obtain ⟨cleanFirst, cleanRest⟩ := List.append_eq_nil_iff.mp clean
    exact congr (congrArg List.cons (normalized_of_no_fault true e cleanFirst))
      (normalizedAll_of_no_fault more cleanRest)

end

end Expr

namespace Script

/-- The expressions of a statement from left to right. -/
def Statement.expressions : Statement → List Expr
  | assign _ target value _ => [target, value]
  | expression e => [e]

def Statement.canonical : Statement → Statement
  | assign op target value position => assign op target.canonical value.canonical position
  | expression e => expression e.canonical

/-- The identifiers and calls of some statements from left to right. -/
def sites (ss : List Statement) : List Expr.Site :=
  (ss.flatMap Statement.expressions).flatMap (Expr.sites [])

/-- All parts of the expressions of some statements. -/
def nodes (ss : List Statement) : List Expr :=
  (ss.flatMap Statement.expressions).flatMap Expr.nodes

theorem faults_statement (s : Statement) :
    s.normalized.2 = s.expressions.flatMap fun e => (e.normalized false).2 := by
  cases s with
  | assign op target value position => simp [Statement.normalized, Statement.expressions]
  | expression e => simp [Statement.normalized, Statement.expressions]

theorem faults_normalizedStatements (ss : List Statement) :
    (normalizedStatements ss).2 = (ss.flatMap Statement.expressions).flatMap fun e =>
      (e.normalized false).2 := by
  rw [normalizedStatements_eq, List.flatMap_assoc]
  exact List.flatMap_congr fun s _ => faults_statement s

theorem normalized_statement_of_no_fault (s : Statement) (clean : s.normalized.2 = []) :
    s.normalized.1 = s.canonical := by
  cases s with
  | assign op target value position =>
    obtain ⟨cleanTarget, cleanValue⟩ := List.append_eq_nil_iff.mp clean
    rw [Statement.canonical, ← Expr.normalized_of_no_fault false target cleanTarget,
      ← Expr.normalized_of_no_fault false value cleanValue]
    rfl
  | expression e => exact congrArg Statement.expression (Expr.normalized_of_no_fault false e clean)

theorem allSpelled_sites {ss : List Statement} :
    Expr.AllSpelled (sites ss) ↔ ∀ e ∈ ss.flatMap Statement.expressions,
    Expr.AllSpelled (e.sites []) :=
  List.forall_mem_flatMap

theorem allPlain_nodes {ss : List Statement} :
    Expr.AllPlain (nodes ss) ↔ ∀ e ∈ ss.flatMap Statement.expressions, Expr.AllPlain e.nodes := by
  constructor
  · intro h e he callee args called
    exact h callee args (List.mem_flatMap.mpr ⟨e, he, called⟩)
  · intro h callee args called
    obtain ⟨e, he, called⟩ := List.mem_flatMap.mp called
    exact h e he callee args called

/-- Normalization finds what is wrong at each site of a script, from left to right. It finds nothing
exactly if all identifiers spell pairs, all callees are names that do not, and no call stands in the
arguments of another; then it only writes pairs for identifiers and exchanges for callees. -/
theorem normalization_reports_each_site (ss : List Statement) :
    (normalizedStatements ss).2 = (sites ss).filterMap Expr.Site.violation? ∧
    ((normalizedStatements ss).2 = [] ↔ Expr.AllSpelled (sites ss) ∧ Expr.AllPlain (nodes ss)) ∧
    ((normalizedStatements ss).2 = [] →
      (normalizedStatements ss).1 = ss.map Statement.canonical) := by
  refine ⟨?_, ?_, fun clean => ?_⟩
  · rw [faults_normalizedStatements, sites, List.filterMap_flatMap]
    have searched : Expr.Site.isSearched [] = true := rfl
    exact List.flatMap_congr fun e _ => Expr.faults_normalized e searched
  · rw [faults_normalizedStatements, List.flatMap_eq_nil_iff, allSpelled_sites,
      allPlain_nodes, ← forall₂_and]
    exact forall₂_congr fun e _ => Expr.faults_eq_nil_iff e
  · rw [normalizedStatements_eq] at clean ⊢
    rw [List.flatMap_eq_nil_iff] at clean
    exact List.map_congr_left fun s hs => normalized_statement_of_no_fault s (clean s hs)

/-- A script with a fault of each kind, among them calls in a refused call, and one without. -/
theorem sites_of_faulty_script :
    ∃ faulty clean : List Statement,
      statements "btc_usd = foo + Kraken(ltc_usd, f(bar(x)), -baz) + BTC_USD(qux) + f(a)(g(b));" =
        .ok faulty ∧
      (normalizedStatements faulty).2 = [.invalidCurrencyIdentifier, .nestedInvocation,
        .invalidCurrencyIdentifier, .invalidExchangeName, .invalidExchangeName] ∧
      (sites faulty).filterMap Expr.Site.violation? = (normalizedStatements faulty).2 ∧
      ¬(Expr.AllSpelled (sites faulty) ∧ Expr.AllPlain (nodes faulty)) ∧
      statements "btc_x = Kraken(btc_usd, -X_usd) / 2;" = .ok clean ∧
      (normalizedStatements clean).2 = [] ∧ Expr.AllSpelled (sites clean) ∧
      Expr.AllPlain (nodes clean) ∧
      (normalizedStatements clean).1 = clean.map Statement.canonical ∧
      ((clean.map Statement.canonical).flatMap Statement.expressions).map Expr.render =
        ["BTC_X", "kraken(BTC_USD, -X_USD) / 2"] := by
  have faults : passes (fun ss => decide ((normalizedStatements ss).2 = [.invalidCurrencyIdentifier,
      .nestedInvocation, .invalidCurrencyIdentifier, .invalidExchangeName, .invalidExchangeName]))
      (statements "btc_usd = foo + Kraken(ltc_usd, f(bar(x)), -baz) + BTC_USD(qux) + f(a)(g(b));") =
          true := by
    decide +kernel
  have shown : passes (fun ss => decide ((normalizedStatements ss).2 = [] ∧
      ((ss.map Statement.canonical).flatMap Statement.expressions).map Expr.render =
        ["BTC_X", "kraken(BTC_USD, -X_USD) / 2"]))
        (statements "btc_x = Kraken(btc_usd, -X_usd) / 2;") = true := by
    decide +kernel
  obtain ⟨faulty, read, faults⟩ := passes_iff.mp faults
  obtain ⟨clean, read', shown⟩ := passes_iff.mp shown
  rw [decide_eq_true_eq] at faults
  obtain ⟨none, shown⟩ := of_decide_eq_true shown
  obtain ⟨reported, wellFormed, -⟩ := normalization_reports_each_site faulty
  obtain ⟨-, wellFormed', unchanged⟩ := normalization_reports_each_site clean
  obtain ⟨spelled, plain⟩ := wellFormed'.mp none
  refine ⟨faulty, clean, read, faults, reported.symm, fun h => ?_, read', none, spelled, plain,
    unchanged none, shown⟩
  rw [wellFormed.mpr h] at faults
  cases faults

end Script
end RateRules
