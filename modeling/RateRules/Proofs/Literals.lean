import RateRules.Proofs.Rule
import RateRules.Proofs.Trees

/-!
# The numbers of accepted scripts

A script spells its numbers without a sign, with exponents within the limits, and knows all its
operators. Normalizing and flattening bring in no other numbers than the one of a reciprocal and the
multiplier.
-/
namespace RateRules

namespace Decimal

theorem isNegative_of_withinLimits? {negative : Bool} {coefficient : Nat}
    {exponent : Int} {d : Decimal}
    (h : withinLimits? negative coefficient exponent = some d) :
    d.isNegative = negative ∧ d.isStorable = true := by
  rw [withinLimits?] at h
  split at h
  · next limits =>
    cases h
    exact ⟨rfl, by simpa [isStorable] using limits⟩
  · cases h

theorem isNegative_of_readFinite? {negative : Bool} {cs : List Char} {d : Decimal}
    (h : readFinite? negative cs = some d) : d.isNegative = negative ∧ d.isStorable = true := by
  simp only [readFinite?] at h
  -- With and without a point, the limits are looked at last.
  split at h
  all_goals
    split at h
    · cases h
    · obtain ⟨power, _, h⟩ := Option.bind_eq_some_iff.mp h
      exact isNegative_of_withinLimits? h

theorem isFinite_of_readWord? {negative : Bool} {cs : List Char} {d : Decimal}
    (h : readWord? negative cs = some d) : d.isFinite = false := by
  simp only [readWord?] at h
  split at h
  · cases h
    rfl
  · cases h
    rfl
  · split at h
    · cases h
      rfl
    · cases h
  · split at h
    · cases h
      rfl
    · cases h
  · cases h

/-- A finite number has the sign that it is read with. -/
theorem isNegative_of_ofChars? {cs : List Char} {d : Decimal} (h : ofChars? cs = some d)
    (finite : d.isFinite = true) : d.isNegative = (readSign cs).1 ∧ d.isStorable = true := by
  simp only [ofChars?] at h
  cases number : readFinite? (readSign cs).1 (readSign cs).2 with
  | some x =>
    rw [number] at h
    cases h
    exact isNegative_of_readFinite? number
  | none =>
    rw [number] at h
    have word : readWord? (readSign cs).1 (readSign cs).2 = some d := h
    rw [isFinite_of_readWord? word] at finite
    cases finite

theorem exists_trim {c : Char} (visible : Text.isBlank c = false) (more : List Char) :
    ∃ further, Text.trim (c :: more) = c :: further := by
  have front : Text.trimLeft (c :: more) = c :: more :=
    List.dropWhile_cons_of_neg (by simp [visible])
  rw [Text.trim, front, Text.trimRight, List.reverse_cons, List.dropWhile_append]
  split
  · exact ⟨[], by simp [visible]⟩
  · exact ⟨(more.reverse.dropWhile Text.isBlank).reverse, by simp⟩

/-- A number that starts as number tokens do has no sign, and its exponent is within the limits. -/
theorem isNegative_of_startsNumeral {text : String}
    (starts : Script.startsNumeral text = true) {d : Decimal}
    (h : ofText? text = some d) (finite : d.isFinite = true) :
    d.isNegative = false ∧ d.isStorable = true := by
  rw [Script.startsNumeral, Option.any_eq_true] at starts
  obtain ⟨c, head, starts⟩ := starts
  obtain ⟨more, written⟩ := List.head?_eq_some_iff.mp head
  obtain ⟨isChar, minus, plus⟩ : Numeral.IsChar c ∧ c ≠ '-' ∧ c ≠ '+' := by
    rw [Bool.or_eq_true, beq_iff_eq] at starts
    rcases starts with digit | rfl
    · refine ⟨Or.inl digit, ?_, ?_⟩
      · rintro rfl
        cases digit
      · rintro rfl
        cases digit
    · exact ⟨Or.inr (by decide), by decide, by decide⟩
  have range := isChar.toNat
  have visible : Text.isBlank c = false := Numeral.isBlank_eq_false (by omega) (by omega)
  obtain ⟨further, trimmed⟩ := exists_trim visible more
  have kept : (c :: further).filter (· ≠ '_') = c :: further.filter (· ≠ '_') :=
    List.filter_cons_of_pos (decide_eq_true isChar.ne_underscore)
  rw [ofText?, written, trimmed, kept] at h
  obtain ⟨plain, hplain, h⟩ := Option.bind_eq_some_iff.mp h
  simp only [List.mapM_cons, Numeral.plainChar?_of_isChar isChar, Option.bind_eq_bind,
    Option.bind_some, Option.bind_eq_some_iff] at hplain
  obtain ⟨behind, _, same⟩ := hplain
  cases same
  have signed := isNegative_of_ofChars? h finite
  rwa [Numeral.readSign_of_head minus plus] at signed

end Decimal

namespace Expr

mutual

/-- The numbers have no sign and can be kept, and the operators are known. -/
def isOfScript : Expr → Bool
  | number d => !d.isNegative && d.isStorable
  | unary op operand => op.isKnown && operand.isOfScript
  | binary op left right => op.isKnown && left.isOfScript && right.isOfScript
  | parenthesized inner => inner.isOfScript
  | call callee args => callee.isOfScript && allOfScript args
  | _ => true

/-- Arguments of a call. -/
def allOfScript : List Expr → Bool
  | [] => true
  | e :: more => e.isOfScript && allOfScript more

end

theorem isOfScript_of_numberOf {place : Script.Place} {text : String} {e : Expr}
    (starts : Script.startsNumeral text = true) (h : Script.numberOf place text = .ok e) :
    e.isOfScript = true := by
  rw [Script.numberOf] at h
  split at h
  · next d hd =>
    split at h
    · next finite =>
      cases h
      obtain ⟨unsigned, storable⟩ := Decimal.isNegative_of_startsNumeral starts hd finite
      rw [isOfScript, unsigned, storable]
      rfl
    · cases h
  · cases h

theorem knownOperator_eq_ok {α : Type} {place : Script.Place}
    {op : Except Script.ForeignOperator α} {x : α} :
    Script.knownOperator place op = .ok x ↔ op = .ok x := by
  cases op with
  | ok y => exact ⟨fun h => congrArg _ (Except.ok.inj h), fun h => congrArg _ (Except.ok.inj h)⟩
  | error foreign =>
    constructor
    · rintro ⟨⟩
    · rintro ⟨⟩

mutual

theorem isOfScript_of_tree (t : Script.Tree) (ofScript : t.isOfScript = true) (e : Expr)
    (h : t.expr = .ok e) : e.isOfScript = true := by
  cases t with
  | number place text => exact isOfScript_of_numberOf ofScript h
  | name place word =>
    cases h
    rfl
  | unary place op operand =>
    simp only [Script.Tree.expr, bind_eq_ok, pure_eq_ok] at h
    obtain ⟨known, hknown, x, hx, rfl⟩ := h
    obtain rfl := knownOperator_eq_ok.mp hknown
    rw [Script.Tree.isOfScript, Bool.and_eq_true] at ofScript
    rw [isOfScript, isOfScript_of_tree operand ofScript.2 x hx, Bool.and_true]
    exact ofScript.1
  | binary place op left right =>
    simp only [Script.Tree.expr, bind_eq_ok, pure_eq_ok] at h
    obtain ⟨known, hknown, x, hx, y, hy, rfl⟩ := h
    obtain rfl := knownOperator_eq_ok.mp hknown
    rw [Script.Tree.isOfScript, Bool.and_eq_true, Bool.and_eq_true] at ofScript
    rw [isOfScript, isOfScript_of_tree left ofScript.1.2 x hx,
      isOfScript_of_tree right ofScript.2 y hy,
      Bool.and_true, Bool.and_true]
    exact ofScript.1.1
  | call place callee args named =>
    rw [Script.Tree.isOfScript, Bool.and_eq_true] at ofScript
    rw [Script.Tree.expr] at h
    split at h
    · cases h
    · simp only [bind_eq_ok, pure_eq_ok] at h
      obtain ⟨x, hx, xs, hxs, rfl⟩ := h
      rw [isOfScript, isOfScript_of_tree callee ofScript.1 x hx,
        allOfScript_of_trees args ofScript.2 xs hxs,
        Bool.and_self]
  | literal place shown => cases h
  | tuple place items => cases h
  | list place items => cases h
  | starred place inner => cases h
  | foreign place construct => cases h

theorem allOfScript_of_trees (ts : List Script.Tree) (ofScript : Script.Tree.allOfScript ts = true)
    (es : List Expr) (h : Script.exprsOf ts = .ok es) : allOfScript es = true := by
  cases ts with
  | nil =>
    cases h
    rfl
  | cons t more =>
    rw [Script.Tree.allOfScript, Bool.and_eq_true] at ofScript
    simp only [Script.exprsOf, bind_eq_ok, pure_eq_ok] at h
    obtain ⟨x, hx, xs, hxs, rfl⟩ := h
    rw [allOfScript, isOfScript_of_tree t ofScript.1 x hx,
      allOfScript_of_trees more ofScript.2 xs hxs,
      Bool.and_self]

end

mutual

theorem isOfScript_normalized (inCall : Bool) (e : Expr) (h : e.isOfScript = true) :
    (e.normalized inCall).1.isOfScript = true := by
  cases e with
  | number d => exact h
  | name word =>
    rw [normalized]
    split <;> rfl
  | pair p => rfl
  | exchange venue => rfl
  | unary op operand =>
    rw [isOfScript, Bool.and_eq_true] at h
    simp only [normalized, isOfScript]
    rw [h.1, isOfScript_normalized inCall operand h.2, Bool.and_self]
  | binary op left right =>
    rw [isOfScript, Bool.and_eq_true, Bool.and_eq_true] at h
    simp only [normalized, isOfScript]
    rw [h.1.1, isOfScript_normalized inCall left h.1.2, isOfScript_normalized inCall right h.2,
      Bool.and_self, Bool.and_self]
  | parenthesized inner => exact isOfScript_normalized inCall inner h
  | call callee args =>
    have all := h
    rw [isOfScript, Bool.and_eq_true] at h
    rw [normalized]
    split
    · exact all
    · split
      · simp only [isOfScript]
        rw [allOfScript_normalizedAll args h.2, Bool.and_self]
      · exact all

theorem allOfScript_normalizedAll (es : List Expr) (h : allOfScript es = true) :
    allOfScript (normalizedAll es).1 = true := by
  cases es with
  | nil => rfl
  | cons e more =>
    rw [allOfScript, Bool.and_eq_true] at h
    simp only [normalizedAll, allOfScript]
    rw [isOfScript_normalized true e h.1, allOfScript_normalizedAll more h.2, Bool.and_self]

end

/-- Outside calls such an expression has only unsigned numbers. -/
theorem isNegative_of_isOfScript (e : Expr) (h : e.isOfScript = true) {d : Decimal}
    (hd : number d ∈ e.leaves) : d.isNegative = false ∧ d.isStorable = true := by
  cases e with
  | number value =>
    cases List.mem_singleton.mp hd
    rw [isOfScript, Bool.and_eq_true, Bool.not_eq_true'] at h
    exact h
  | unary op operand =>
    rw [isOfScript, Bool.and_eq_true] at h
    exact isNegative_of_isOfScript operand h.2 hd
  | binary op left right =>
    rw [isOfScript, Bool.and_eq_true, Bool.and_eq_true] at h
    rcases List.mem_append.mp hd with hd | hd
    · exact isNegative_of_isOfScript left h.1.2 hd
    · exact isNegative_of_isOfScript right h.2 hd
  | parenthesized inner => exact isNegative_of_isOfScript inner h hd
  | name word => cases List.mem_singleton.mp hd
  | pair p => cases List.mem_singleton.mp hd
  | exchange venue => cases List.mem_singleton.mp hd
  | call callee args => cases List.mem_singleton.mp hd

theorem eq_of_filled_eq_number {context : Pair} {e : Expr} {d : Decimal}
    (h : number d = e.filled context) :
    e = number d := by
  cases e with
  | number value => exact h.symm
  | _ => cases h

/-- A number of a flattened expression is its own or that of a rule. -/
theorem number_mem_leaves_flatten {candidate : Pair → Expr} {p : Pair} {e : Expr} {d : Decimal}
    (h : number d ∈ (flatten candidate p e).1.leaves) :
    number d ∈ e.leaves ∨ ∃ q, number d ∈ (candidate q).leaves := by
  rcases mem_leaves_flatten candidate p e _ h
    with ⟨y, hy, _, same⟩ | ⟨q, _, deep | ⟨y, hy, _, same⟩⟩
  · rw [eq_of_filled_eq_number same] at hy
    exact Or.inl hy
  · cases deep
  · rw [eq_of_filled_eq_number same] at hy
    exact Or.inr ⟨q, hy⟩

end Expr

namespace Script

def Statement.isOfScript : Statement → Bool
  | assign none _ value _ => value.isOfScript
  | _ => true

theorem isOfScript_of_clause {c : Clause} (ofScript : c.isOfScript = true) {ss : List Statement}
    (h : c.statements = .ok ss) {s : Statement} (hs : s ∈ ss) : s.isOfScript = true := by
  cases c with
  | assign targets value =>
    simp only [Clause.statements, bind_eq_ok, pure_eq_ok] at h
    obtain ⟨e, he, es, hes, rfl⟩ := h
    obtain ⟨target, _, rfl⟩ := List.mem_map.mp hs
    exact Expr.isOfScript_of_tree value ofScript e he
  | augment place op target value =>
    simp only [Clause.statements, bind_eq_ok, pure_eq_ok] at h
    obtain ⟨_, _, x, hx, e, he, rfl⟩ := h
    obtain rfl := List.mem_singleton.mp hs
    rfl
  | expression t =>
    simp only [Clause.statements, bind_eq_ok, pure_eq_ok] at h
    obtain ⟨e, he, rfl⟩ := h
    obtain rfl := List.mem_singleton.mp hs
    rfl
  | pass =>
    cases h
    cases hs
  | foreign place command => cases h

theorem isOfScript_of_clauses {cs : List Clause} (ofScript : ∀ c ∈ cs, c.isOfScript = true)
    {ss : List Statement} (h : statementsOf cs = .ok ss) {s : Statement} (hs : s ∈ ss) :
    s.isOfScript = true := by
  induction cs generalizing ss with
  | nil =>
    cases h
    cases hs
  | cons c more ih =>
    simp only [statementsOf, bind_eq_ok, pure_eq_ok] at h
    obtain ⟨first, hfirst, rest, hrest, rfl⟩ := h
    rcases List.mem_append.mp hs with hs | hs
    · exact isOfScript_of_clause (ofScript c List.mem_cons_self) hfirst hs
    · exact ih (fun d hd => ofScript d (List.mem_cons_of_mem c hd)) hrest hs

theorem isOfScript_of_statements {script : String} {ss : List Statement}
    (h : statements script = .ok ss)
    {s : Statement} (hs : s ∈ ss) : s.isOfScript = true := by
  simp only [statements, bind_eq_ok] at h
  obtain ⟨clauses, hclauses, h⟩ := h
  exact isOfScript_of_clauses (isOfScript_of_readWith hclauses) h hs

end Script

namespace RuleTable

/-- Every definition of the table is one that a script can hold. -/
def IsOfScript (table : RuleTable) : Prop := ∀ d ∈ table.definitions, d.expr.isOfScript = true

theorem isOfScript_candidate {table : RuleTable} (h : table.IsOfScript) (p : Pair) :
    (table.candidate p).isOfScript = true := by
  rcases table.candidate_cases p with none | inverse | ⟨d, hd, own⟩
  · rw [none]
    rfl
  · have one : (Expr.number .one).isOfScript = true := by decide +kernel
    rw [inverse, reciprocal, Expr.isOfScript, one]
    rfl
  · rw [own]
    exact h d hd

end RuleTable

namespace Rulebook

theorem isOfScript_of_tableOf {script : String} {table : RuleTable}
    (h : tableOf script = .ok table) :
    table.IsOfScript := by
  intro d hd
  obtain ⟨statements, target, e, hstatements, hs, _, hexpr⟩ :=
    exists_statement_of_mem_definitions h hd
  have value : e.isOfScript = true := Script.isOfScript_of_statements hstatements hs
  rw [hexpr]
  exact Expr.isOfScript_normalized false e value

theorem isNegative_multiplier (book : Rulebook) : book.multiplier.isNegative = false := by
  have positive := book.positive
  unfold Decimal.isPositive at positive
  split at positive
  · next negative coefficient exponent same =>
    rw [Bool.and_eq_true, Bool.not_eq_true'] at positive
    rw [same]
    exact positive.1
  · cases positive

/-- The numbers of a rule of an accepted script have no sign. -/
theorem isNegative_of_mem_leaves_rule {book : Rulebook} (h : book.table.IsOfScript)
    (storable : book.multiplier.isStorable = true) {p : Pair} {d : Decimal}
    (hd : .number d ∈ (book.ruleAt p).expr.leaves) :
    d.isNegative = false ∧ d.isStorable = true := by
  have candidates : ∀ q, Expr.number d ∈ (book.table.candidate q).leaves →
      d.isNegative = false ∧ d.isStorable = true := fun q hq =>
    Expr.isNegative_of_isOfScript _ (RuleTable.isOfScript_candidate h q) hq
  rcases Expr.number_mem_leaves_flatten hd with start | ⟨q, hq⟩
  · rcases mem_leaves_start start with own | multiplier
    · exact candidates p own
    · cases multiplier
      exact ⟨book.isNegative_multiplier, storable⟩
  · exact candidates q hq

end Rulebook
end RateRules
