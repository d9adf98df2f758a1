/-! # Entries by key

Entries with distinct keys in the order in which the keys came. A new value for a key takes the
place of the old one. -/
namespace RateRules

structure Keyed (κ α : Type) where
  entries : List (κ × α)
  distinct : (entries.map Prod.fst).Nodup

namespace Keyed

variable {κ α : Type} [DecidableEq κ]

def empty : Keyed κ α := ⟨[], .nil⟩

def find? (t : Keyed κ α) (key : κ) : Option α := t.entries.lookup key

def keys (t : Keyed κ α) : List κ := t.entries.map Prod.fst

def values (t : Keyed κ α) : List α := t.entries.map Prod.snd

def size (t : Keyed κ α) : Nat := t.entries.length

def setEntry (key : κ) (a : α) : List (κ × α) → List (κ × α)
  | [] => [(key, a)]
  | (k, b) :: more => if k = key then (key, a) :: more else (k, b) :: setEntry key a more

theorem mem_setEntry {key k : κ} {a : α} {entries : List (κ × α)}
    (h : k ∈ (setEntry key a entries).map Prod.fst) : k = key ∨ k ∈ entries.map Prod.fst := by
  induction entries with
  | nil => simpa [setEntry] using h
  | cons e more ih =>
    obtain ⟨k', b⟩ := e
    by_cases hk : k' = key
    · simp only [setEntry, hk, if_true, List.map_cons, List.mem_cons] at h ⊢
      rcases h with h | h
      · exact Or.inl h
      · exact Or.inr (Or.inr h)
    · simp only [setEntry, hk, if_false, List.map_cons, List.mem_cons] at h ⊢
      rcases h with h | h
      · exact Or.inr (Or.inl h)
      · rcases ih h with h | h
        · exact Or.inl h
        · exact Or.inr (Or.inr h)

theorem nodup_setEntry (key : κ) (a : α) {entries : List (κ × α)}
    (h : (entries.map Prod.fst).Nodup) : ((setEntry key a entries).map Prod.fst).Nodup := by
  induction entries with
  | nil => simp [setEntry]
  | cons e more ih =>
    obtain ⟨k, b⟩ := e
    simp only [List.map_cons, List.nodup_cons] at h
    by_cases hk : k = key
    · subst hk
      simpa [setEntry] using h
    · simp only [setEntry, hk, if_false, List.map_cons, List.nodup_cons]
      refine ⟨fun hm => ?_, ih h.2⟩
      rcases mem_setEntry hm with hm | hm
      · exact hk hm
      · exact h.1 hm

def set (t : Keyed κ α) (key : κ) (a : α) : Keyed κ α :=
  ⟨setEntry key a t.entries, nodup_setEntry key a t.distinct⟩

def erase (t : Keyed κ α) (key : κ) : Keyed κ α :=
  ⟨t.entries.filter fun e => e.1 ≠ key,
    t.distinct.sublist (List.filter_sublist.map Prod.fst)⟩

end Keyed
end RateRules
