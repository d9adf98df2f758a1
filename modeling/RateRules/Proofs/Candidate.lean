import RateRules.Candidate

/-!
# The closest definition

Of all candidates the chosen one is beaten by none. Candidates are ordered by their distance and
then by the place of their definition, line before column.
-/
namespace RateRules

namespace Candidate

theorem isBefore_iff {a b : Script.Place} :
    isBefore a b = true ↔ a.line < b.line ∨ a.line = b.line ∧ a.column < b.column := by
  simp [isBefore]

theorem isBefore_trans {a b c : Script.Place} (hab : isBefore a b = true)
    (hbc : isBefore b c = true) :
    isBefore a c = true := by
  rw [isBefore_iff] at *
  omega

theorem isBetter_iff {a b : Candidate} :
    a.isBetter b = true ↔ a.distance < b.distance ∨
      a.distance = b.distance ∧ isBefore a.definition.position b.definition.position = true := by
  simp [isBetter]

/-- What does not beat a candidate does not beat a better one. -/
theorem not_isBetter_trans {a b c : Candidate} (hab : b.isBetter a = false)
    (hbc : c.isBetter b = false) :
    c.isBetter a = false := by
  rw [Bool.eq_false_iff, ne_eq, isBetter_iff, isBefore_iff] at *
  omega

theorem not_isBetter_of_isBetter {a b : Candidate} (h : a.isBetter b = true) :
    b.isBetter a = false := by
  rw [Bool.eq_false_iff, ne_eq, isBetter_iff, isBefore_iff]
  rw [isBetter_iff, isBefore_iff] at h
  omega

theorem not_isBetter_self (a : Candidate) : a.isBetter a = false := by
  rw [Bool.eq_false_iff, ne_eq, isBetter_iff, isBefore_iff]
  omega

theorem best?_eq_none_iff {cs : List Candidate} : best? cs = none ↔ cs = [] := by
  cases cs with
  | nil => simp [best?]
  | cons c more =>
    simp only [best?, reduceCtorEq, iff_false]
    split
    · simp
    · split <;> simp

/-- The best candidate is one of them, and none is better. -/
theorem best?_eq_some {cs : List Candidate} {c : Candidate} (h : best? cs = some c) :
    c ∈ cs ∧ ∀ x ∈ cs, x.isBetter c = false := by
  induction cs generalizing c with
  | nil => cases h
  | cons first more ih =>
    rw [best?] at h
    split at h
    · next none_more =>
      cases h
      obtain rfl := best?_eq_none_iff.mp none_more
      constructor
      · exact List.mem_singleton.mpr rfl
      · intro x hx
        rw [List.mem_singleton.mp hx]
        exact not_isBetter_self _
    · next b hb =>
      obtain ⟨member, least⟩ := ih hb
      split at h
      · next better =>
        cases h
        constructor
        · exact List.mem_cons_of_mem _ member
        · intro x hx
          rcases List.mem_cons.mp hx with rfl | hx
          · exact not_isBetter_of_isBetter better
          · exact least x hx
      · next worse =>
        cases h
        rw [Bool.not_eq_true] at worse
        constructor
        · exact List.mem_cons_self
        · intro x hx
          rcases List.mem_cons.mp hx with rfl | hx
          · exact not_isBetter_self _
          · exact not_isBetter_trans worse (least x hx)

end Candidate

namespace RuleTable

theorem find?_eq_some_iff {table : RuleTable} {p : Pair} {d : Definition} :
    table.find? p = some d ↔ d ∈ table.definitions ∧ d.pair = p := by
  have distinct := table.distinct
  rw [find?]
  generalize table.definitions = ds at distinct ⊢
  induction ds with
  | nil => simp
  | cons first more ih =>
    rw [List.map_cons, List.nodup_cons] at distinct
    by_cases same : first.pair = p
    · rw [List.find?_cons_of_pos (by simpa using same), Option.some.injEq, List.mem_cons]
      constructor
      · rintro rfl
        exact ⟨Or.inl rfl, same⟩
      · rintro ⟨rfl | later, hd⟩
        · rfl
        · exact absurd (List.mem_map.mpr ⟨d, later, hd.trans same.symm⟩) distinct.1
    · have rest : more.find? (fun d => d.pair == p) = some d ↔ d ∈ more ∧ d.pair = p :=
        ih distinct.2
      rw [List.find?_cons_of_neg (by simpa using same), rest, List.mem_cons]
      constructor
      · rintro ⟨later, hd⟩
        exact ⟨Or.inr later, hd⟩
      · rintro ⟨rfl | later, hd⟩
        · exact absurd hd same
        · exact ⟨later, hd⟩

theorem mem_candidates_iff {table : RuleTable} {p : Pair} {c : Candidate} :
    c ∈ table.candidates p ↔
      ∃ d ∈ table.definitions, ⟨d.pair, c.distance, c.inverse⟩ ∈ Pattern.all p ∧
      d = c.definition := by
  simp only [candidates, List.mem_filterMap, Option.map_eq_some_iff, find?_eq_some_iff]
  constructor
  · rintro ⟨pattern, hpattern, d, ⟨hd, hpair⟩, rfl⟩
    exact ⟨d, hd, by rw [hpair]; exact hpattern, rfl⟩
  · rintro ⟨d, hd, hpattern, rfl⟩
    exact ⟨_, hpattern, c.definition, ⟨hd, rfl⟩, rfl⟩

/-- A candidate is a marker, the expression of a definition, or a reciprocal. -/
theorem candidate_cases (table : RuleTable) (p : Pair) :
    table.candidate p = .marker "NO_RULE_MATCH" [.pair p] ∨
      table.candidate p = reciprocal p.inverse ∨
      ∃ d ∈ table.definitions, table.candidate p = d.expr := by
  rw [candidate]
  split
  · exact Or.inl rfl
  · next c hc =>
    split
    · exact Or.inr (Or.inl rfl)
    · obtain ⟨d, hd, _, rfl⟩ := mem_candidates_iff.mp (Candidate.best?_eq_some hc).1
      exact Or.inr (Or.inr ⟨_, hd, rfl⟩)

end RuleTable
end RateRules
