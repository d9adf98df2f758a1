import Mathlib.Data.List.Forall2

/-!
# Steps that answer or refuse

A run of several steps answers exactly when every step answers.
-/
namespace RateRules

variable {ε ε' α β γ : Type}

theorem bind_eq_ok {x : Except ε α} {f : α → Except ε β} {b : β} :
    (x >>= f) = .ok b ↔ ∃ a, x = .ok a ∧ f a = .ok b := by
  cases x with
  | error e => simp [bind, Except.bind]
  | ok a => simp [bind, Except.bind]

theorem bind_eq_error {x : Except ε α} {f : α → Except ε β} {e : ε} :
    (x >>= f) = .error e ↔ x = .error e ∨ ∃ a, x = .ok a ∧ f a = .error e := by
  cases x with
  | error e => simp [bind, Except.bind]
  | ok a => simp [bind, Except.bind]

theorem pure_eq_ok {a b : α} : (pure a : Except ε α) = .ok b ↔ a = b := by
  simp [pure, Except.pure]

theorem mapError_ok {f : ε → ε'} {a : α} : (Except.ok a).mapError f = .ok a := rfl

theorem mapError_eq_ok {x : Except ε α} {f : ε → ε'} {a : α} :
    x.mapError f = .ok a ↔ x = .ok a := by
  cases x with
  | error e =>
    constructor
    · rintro ⟨⟩
    · rintro ⟨⟩
  | ok b => rw [mapError_ok, Except.ok.injEq, Except.ok.injEq]

/-- A step refuses as what is made of its answer does. -/
theorem error_of_map {f : α → β} {x : Except ε α} {e : ε} (h : x.map f = .error e) :
    x = .error e := by
  cases x with
  | error reason =>
    cases h
    rfl
  | ok a => cases h

theorem mapM_eq_ok_map {f : α → Except ε β} {g : α → β} {l : List α}
    (h : ∀ a ∈ l, f a = .ok (g a)) : l.mapM f = .ok (l.map g) := by
  induction l with
  | nil => rfl
  | cons a more ih =>
    rw [List.mapM_cons, h a List.mem_cons_self, ih fun b hb => h b (List.mem_cons_of_mem _ hb)]
    rfl

theorem mapM_of_all_ok {f : α → Except ε β} {l : List α} (h : ∀ a ∈ l, ∃ b, f a = .ok b) :
    ∃ bs, l.mapM f = .ok bs := by
  induction l with
  | nil => exact ⟨[], rfl⟩
  | cons a more ih =>
    obtain ⟨b, hb⟩ := h a List.mem_cons_self
    obtain ⟨bs, hbs⟩ := ih fun c hc => h c (List.mem_cons_of_mem _ hc)
    exact ⟨b :: bs, by rw [List.mapM_cons, hb, hbs]; rfl⟩

theorem forall₂_of_mapM {f : α → Except ε β} {as : List α} {bs : List β} (h : as.mapM f = .ok bs) :
    List.Forall₂ (fun a b => f a = .ok b) as bs := by
  induction as generalizing bs with
  | nil =>
    cases h
    exact .nil
  | cons a more ih =>
    rw [List.mapM_cons] at h
    obtain ⟨b, hb, h⟩ := bind_eq_ok.mp h
    obtain ⟨rest, hrest, h⟩ := bind_eq_ok.mp h
    obtain rfl := pure_eq_ok.mp h
    exact .cons hb (ih hrest)

theorem exists_of_forall₂ {R : α → β → Prop} {as : List α} {bs : List β}
    (h : List.Forall₂ R as bs) {b : β}
    (hb : b ∈ bs) : ∃ a ∈ as, R a b := by
  induction h with
  | nil => cases hb
  | cons related _ ih =>
    rcases List.mem_cons.mp hb with rfl | hb
    · exact ⟨_, List.mem_cons_self, related⟩
    · obtain ⟨a, ha, related⟩ := ih hb
      exact ⟨a, List.mem_cons_of_mem _ ha, related⟩

/-- Steps that give the same one by one give the same one after the other. -/
theorem map_mapM_congr {f : α → Except ε β} {f' : α → Except ε' γ} {refuse : ε → ε'} {show' : β → γ}
    {l : List α} (h : ∀ a ∈ l, ((f a).mapError refuse).map show' = f' a) :
    ((l.mapM f).mapError refuse).map (List.map show') = l.mapM f' := by
  induction l with
  | nil => rfl
  | cons a more ih =>
    rw [List.mapM_cons, List.mapM_cons, ← h a List.mem_cons_self,
      ← ih fun b hb => h b (List.mem_cons_of_mem _ hb)]
    cases f a with
    | error e => rfl
    | ok b => cases more.mapM f <;> rfl

/-- A step answers, and what it answers passes a test. -/
def passes (test : α → Bool) : Except ε α → Bool
  | .ok a => test a
  | .error _ => false

theorem passes_iff {test : α → Bool} {x : Except ε α} :
    passes test x = true ↔ ∃ a, x = .ok a ∧ test a = true := by
  cases x with
  | error e => simp [passes]
  | ok a => simp [passes]

theorem nodup_eraseDups [DecidableEq α] (l : List α) : l.eraseDups.Nodup := by
  generalize hn : l.length = n
  induction n using Nat.strongRecOn generalizing l with
  | ind n ih =>
    cases l with
    | nil => exact .nil
    | cons a more =>
      have shorter : (more.filter fun b => !b == a).length < n := by
        have kept := List.length_filter_le (fun b => !b == a) more
        rw [List.length_cons] at hn
        omega
      rw [List.eraseDups_cons, List.nodup_cons]
      refine ⟨fun again => ?_, ih _ shorter _ rfl⟩
      rw [List.mem_eraseDups, List.mem_filter] at again
      simp at again

theorem eraseDups_of_nodup [DecidableEq α] {l : List α} (distinct : l.Nodup) : l.eraseDups = l := by
  induction l with
  | nil => rfl
  | cons a more ih =>
    obtain ⟨fresh, rest⟩ := List.nodup_cons.mp distinct
    have others : more.filter (fun b => !b == a) = more := by
      refine List.filter_eq_self.mpr fun b hb => ?_
      rw [Bool.not_eq_true', beq_eq_false_iff_ne]
      rintro rfl
      exact fresh hb
    rw [List.eraseDups_cons, others, ih rest]

/-- What is kept of a list is kept in the same order whether its repeats go before or after. -/
theorem eraseDups_filter [DecidableEq α] (keep : α → Bool) (l : List α) :
    (l.filter keep).eraseDups = l.eraseDups.filter keep := by
  generalize hn : l.length = n
  induction n using Nat.strongRecOn generalizing l with
  | ind n ih =>
    cases l with
    | nil => rfl
    | cons a more =>
      have shorter : (more.filter fun b => !b == a).length < n := by
        have kept := List.length_filter_le (fun b => !b == a) more
        rw [List.length_cons] at hn
        omega
      have others := ih _ shorter _ rfl
      rw [List.eraseDups_cons]
      by_cases kept : keep a = true
      · rw [List.filter_cons_of_pos kept, List.filter_cons_of_pos kept,
          List.eraseDups_cons, ← others,
          List.filter_filter, List.filter_filter]
        simp only [Bool.and_comm]
      · have same : (more.filter fun b => !b == a).filter keep = more.filter keep := by
          rw [List.filter_filter]
          apply List.filter_congr
          intro b _
          by_cases first : b = a
          · rw [first]
            simp [kept]
          · simp [first]
        rw [List.filter_cons_of_neg kept, List.filter_cons_of_neg kept, ← others, same]

theorem find?_eraseDups [DecidableEq α] (good : α → Bool) (l : List α) :
    l.eraseDups.find? good = l.find? good := by
  rw [← List.head?_filter, ← List.head?_filter, ← eraseDups_filter]
  cases l.filter good with
  | nil => rfl
  | cons a more => rw [List.eraseDups_cons, List.head?_cons, List.head?_cons]

end RateRules
