import RateRules.Proofs.Candidate
import RateRules.Proofs.Normal
import RateRules.Rulebook

/-!
# Tables of accepted scripts

An accepted script has no fault. Its table holds every definition among its statements, in their
order, and all expressions that price a pair are normal.
-/
namespace RateRules

namespace RuleTable

theorem definitions_of_define? {table defined : RuleTable} {d : Definition}
    (h : table.define? d = some defined) : defined.definitions = table.definitions ++ [d] := by
  rw [define?] at h
  split at h
  · cases h
  · cases h
    rfl

theorem definitions_of_collect {table collected : RuleTable} {ds : List Definition}
    (h : table.collect ds = (collected, [])) : collected.definitions = table.definitions ++ ds := by
  induction ds generalizing table with
  | nil =>
    cases h
    rw [List.append_nil]
  | cons d more ih =>
    rw [collect] at h
    split at h
    · next defined hd =>
      rw [ih h, definitions_of_define? hd, List.append_assoc, List.singleton_append]
    · cases h

theorem definition?_eq_some_iff {s : Script.Statement} {d : Definition} :
    definition? s = some d ↔ s = .assign none (.pair d.pair) d.expr d.position := by
  unfold definition?
  split
  · next p e position =>
    constructor
    · rintro ⟨⟩
      rfl
    · rintro ⟨⟩
      rfl
  · next other =>
    constructor
    · rintro ⟨⟩
    · rintro rfl
      exact absurd rfl (other d.pair d.expr d.position)

/-- Every definition of the table is normal. -/
def IsNormal (table : RuleTable) : Prop := ∀ d ∈ table.definitions, d.expr.isNormal false = true

theorem isNormal_candidate {table : RuleTable} (normal : table.IsNormal) (p : Pair) :
    (table.candidate p).isNormal false = true := by
  rcases table.candidate_cases p with h | h | ⟨d, hd, h⟩
  · rw [h]
    rfl
  · rw [h]
    rfl
  · rw [h]
    exact normal d hd

end RuleTable

namespace Rulebook

/-- What it takes for a script to be accepted. -/
theorem tableOf_eq_ok {script : String} {table : RuleTable} (h : tableOf script = .ok table) :
    ∃ statements, Script.statements script = .ok statements ∧
      (Script.normalizedStatements statements).2 = [] ∧
      table.definitions =
        (statements.map fun s => s.normalized.1).filterMap RuleTable.definition? := by
  simp only [tableOf, bind_eq_ok, mapError_eq_ok] at h
  obtain ⟨statements, hstatements, h⟩ := h
  split at h
  · cases h
  · next clean =>
    split at h
    · cases h
    · next distinct =>
      cases h
      simp only [Bool.not_eq_true', Bool.not_eq_false, List.isEmpty_iff] at clean distinct
      refine ⟨statements, hstatements, clean, ?_⟩
      rw [RuleTable.ofStatements] at distinct ⊢
      rw [RuleTable.definitions_of_collect (Prod.ext rfl distinct), Script.normalizedStatements_eq]
      rfl

theorem parse_eq_ok {script : String} {given : Given} {book : Rulebook}
    (h : parse script given = .ok book) : tableOf script = .ok book.table := by
  simp only [parse, bind_eq_ok] at h
  obtain ⟨table, htable, h⟩ := h
  rw [withMultiplier] at h
  split at h
  · rw [ofTable] at h
    split at h
    · cases h
      exact htable
    · cases h
  · cases h

theorem isWritten_of_statements {script : String} {statements : List Script.Statement}
    (h : Script.statements script = .ok statements) {s : Script.Statement} (hs : s ∈ statements) :
    s.isWritten = true := by
  simp only [Script.statements, bind_eq_ok] at h
  obtain ⟨clauses, _, h⟩ := h
  exact Script.isWritten_of_clauses h hs

/-- A definition comes from a plain assignment and has the normal form of its value. -/
theorem exists_of_definition? {s : Script.Statement} {d : Definition}
    (h : RuleTable.definition? s.normalized.1 = some d) :
    ∃ target e, s = .assign none target e d.position ∧ d.expr = (e.normalized false).1 := by
  have same := RuleTable.definition?_eq_some_iff.mp h
  cases s with
  | expression e => cases same
  | assign op target value position =>
    simp only [Script.Statement.normalized, Script.Statement.assign.injEq] at same
    obtain ⟨rfl, _, hexpr, rfl⟩ := same
    exact ⟨target, value, rfl, hexpr.symm⟩

/-- A definition of the table has the normal form of the value of an assignment, which has no
fault. -/
theorem exists_statement_of_mem_definitions {script : String} {table : RuleTable}
    (h : tableOf script = .ok table) {d : Definition} (hd : d ∈ table.definitions) :
    ∃ statements target e, Script.statements script = .ok statements ∧
      Script.Statement.assign none target e d.position ∈ statements ∧ (e.normalized false).2 = [] ∧
      d.expr = (e.normalized false).1 := by
  obtain ⟨statements, hstatements, clean, definitions⟩ := tableOf_eq_ok h
  rw [definitions, List.mem_filterMap] at hd
  obtain ⟨_, normalized, hd⟩ := hd
  obtain ⟨s, hs, rfl⟩ := List.mem_map.mp normalized
  obtain ⟨target, e, rfl, hexpr⟩ := exists_of_definition? hd
  rw [Script.normalizedStatements_eq] at clean
  have faults := List.flatMap_eq_nil_iff.mp clean _ hs
  exact ⟨statements, target, e, hstatements, hs, (List.append_eq_nil_iff.mp faults).2, hexpr⟩

/-- A definition of the table has the normal form of an expression that was written without a
fault. -/
theorem exists_of_mem_definitions {script : String} {table : RuleTable}
    (h : tableOf script = .ok table)
    {d : Definition} (hd : d ∈ table.definitions) :
    ∃ e : Expr, e.isWritten = true ∧ (e.normalized false).2 = [] ∧
    d.expr = (e.normalized false).1 := by
  obtain ⟨statements, target, e, hstatements, hs, clean, hexpr⟩ :=
    exists_statement_of_mem_definitions h hd
  have written := isWritten_of_statements hstatements hs
  rw [Script.Statement.isWritten, Bool.and_eq_true] at written
  exact ⟨e, written.2, clean, hexpr⟩

theorem isNormal_of_tableOf {script : String} {table : RuleTable} (h : tableOf script = .ok table) :
    table.IsNormal := by
  intro d hd
  obtain ⟨e, written, clean, hexpr⟩ := exists_of_mem_definitions h hd
  rw [hexpr]
  exact Expr.isNormal_normalized false e written clean

end Rulebook
end RateRules
