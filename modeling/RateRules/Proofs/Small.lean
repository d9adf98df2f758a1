import RateRules.Text.Small

/-!
# Small texts

The small form of a text has no capital of ASCII, not even in place of a letter beyond ASCII. It is
its own small form, since no capital is moved to another one.
-/
namespace RateRules.Text

theorem isUpper_iff {c : Char} : c.isUpper = true ↔ 65 ≤ c.toNat ∧ c.toNat ≤ 90 := by
  change decide (c.val ≥ 'A'.val ∧ c.val ≤ 'Z'.val) = true ↔ _
  rw [decide_eq_true_iff]
  exact and_congr UInt32.le_iff_toNat_le UInt32.le_iff_toNat_le

theorem isLower_iff {c : Char} : c.isLower = true ↔ 97 ≤ c.toNat ∧ c.toNat ≤ 122 := by
  change (decide (c.val ≥ 'a'.val) && decide (c.val ≤ 'z'.val)) = true ↔ _
  rw [Bool.and_eq_true, decide_eq_true_iff, decide_eq_true_iff]
  exact and_congr UInt32.le_iff_toNat_le UInt32.le_iff_toNat_le

theorem isUpper_eq_false_iff {c : Char} : c.isUpper = false ↔ c.toNat < 65 ∨ 90 < c.toNat := by
  rw [← Bool.not_eq_true, isUpper_iff]
  omega

theorem toNat_toLower (c : Char) :
    c.toLower.toNat = if c.isUpper then c.toNat + 32 else c.toNat := by
  by_cases inside : 'A'.val ≤ c.val ∧ c.val ≤ 'Z'.val
  · have range : 65 ≤ c.toNat ∧ c.toNat ≤ 90 :=
      inside.imp UInt32.le_iff_toNat_le.mp UInt32.le_iff_toNat_le.mp
    have small : c.toLower.toNat = (c.toNat + 32) % 2 ^ 32 := congrArg Char.toNat (dif_pos inside)
    rw [small, if_pos (isUpper_iff.mpr range), Nat.mod_eq_of_lt (by omega)]
  · have same : c.toLower = c := dif_neg inside
    rw [same, if_neg]
    rw [isUpper_iff]
    exact fun range => inside (range.imp UInt32.le_iff_toNat_le.mpr UInt32.le_iff_toNat_le.mpr)

theorem toLower_eq_self {c : Char} (low : c.isUpper = false) : c.toLower = c := by
  rw [← Char.toNat_inj, toNat_toLower, low]
  rfl

theorem isUpper_toLower (c : Char) : c.toLower.isUpper = false := by
  rw [isUpper_eq_false_iff, toNat_toLower]
  split
  · next upper =>
    have range := isUpper_iff.mp upper
    omega
  · next low =>
    rw [isUpper_iff] at low
    omega

theorem toNat_ofNat (n : Nat) : (Char.ofNat n).toNat = if n.isValidChar then n else 0 := by
  by_cases valid : n.isValidChar
  · rw [if_pos valid]
    exact congrArg Char.toNat (dif_pos valid)
  · rw [if_neg valid]
    exact congrArg Char.toNat (dif_neg valid)

/-- Every run of capitals is moved beyond the capitals of ASCII. -/
theorem lt_of_mem_smallOffsets : ∀ run ∈ smallOffsets, 90 < (run.1 : Int) + run.2.2.2 := by
  decide +kernel

theorem isUpper_ofNat {n : Nat} (h : 90 < n) : (Char.ofNat n).isUpper = false := by
  rw [isUpper_eq_false_iff, toNat_ofNat]
  split
  · exact Or.inr h
  · exact Or.inl (by decide)

theorem isUpper_smallLetter (c : Char) : (smallLetter c).isUpper = false := by
  rw [smallLetter]
  split
  · exact isUpper_toLower c
  · next beyond =>
    split
    · next first last step offset found =>
      have moved := lt_of_mem_smallOffsets _ (List.mem_of_find?_eq_some found)
      have inside := List.find?_some found
      simp only [Bool.and_eq_true, decide_eq_true_eq] at moved inside
      exact isUpper_ofNat (by omega)
    · rw [isUpper_eq_false_iff]
      omega

theorem isUpper_of_mem_smallAfter (before cs : List Char) (c : Char)
    (h : c ∈ smallAfter before cs) :
    c.isUpper = false := by
  induction cs generalizing before with
  | nil => cases h
  | cons d rest ih =>
    rcases List.mem_append.mp h with h | h
    · split at h
      · rcases List.mem_cons.mp h with rfl | h
        · decide
        · rw [List.mem_singleton.mp h]
          decide
      · split at h
        · rw [List.mem_singleton.mp h]
          split <;> decide
        · rw [List.mem_singleton.mp h]
          exact isUpper_smallLetter d
    · exact ih (d :: before) h

/-- No capital of ASCII is left in a small text. -/
theorem isUpper_of_mem_small (s : String) (c : Char) (h : c ∈ (small s).toList) :
    c.isUpper = false := by
  rw [small, String.toList_ofList] at h
  exact isUpper_of_mem_smallAfter [] s.toList c h

/-- Where a run moves the number of a letter. -/
def movedBy (run : Nat × Nat × Nat × Int) (n : Nat) : Nat := (n + run.2.2.2).toNat

/-- What one run is moved to, no letter of the other run is: it lies beyond that run or between its
letters. -/
def isApart (run other : Nat × Nat × Nat × Int) : Bool :=
  decide (other.2.1 < movedBy run run.1) || decide (movedBy run run.2.1 < other.1) ||
    (other.2.2.1 == 2 && (run.2.2.1 == 2 || run.1 == run.2.1) &&
      movedBy run run.1 % 2 != other.1 % 2)

/-- The runs of capitals, and the letter that has a small form of its own. -/
theorem isApart_of_mem {run other : Nat × Nat × Nat × Int} (hrun : run ∈ smallOffsets)
    (hother : other ∈ (0x130, 0x130, 1, 0) :: smallOffsets) : isApart run other = true := by
  -- Numbers are compared as the kernel compares them, since there are many thousand pairs of runs.
  have all : (smallOffsets.all fun run => ((0x130, 0x130, 1, 0) :: smallOffsets).all fun other =>
      Nat.blt other.2.1 (movedBy run run.1) || Nat.blt (movedBy run run.2.1) other.1 ||
        (other.2.2.1 == 2 && (run.2.2.1 == 2 || run.1 == run.2.1) && movedBy run run.1 % 2 !=
          other.1 % 2)) =
      true := by
    decide +kernel
  have apart := List.all_eq_true.mp (List.all_eq_true.mp all run hrun) other hother
  simpa only [isApart, Bool.or_eq_true, Nat.blt_eq, decide_eq_true_eq] using apart

/-- The number is that of a letter of the run. -/
def isInRun (n : Nat) (run : Nat × Nat × Nat × Int) : Bool :=
  run.1 ≤ n && n ≤ run.2.1 && (n - run.1) % run.2.2.1 == 0

theorem not_isInRun_of_isApart {n : Nat} {run other : Nat × Nat × Nat × Int}
    (h : isApart run other = true)
    (inside : isInRun n run = true) (positive : 0 ≤ (run.1 : Int) + run.2.2.2) :
    isInRun (movedBy run n) other = false := by
  obtain ⟨first, last, step, offset⟩ := run
  obtain ⟨first', last', step', offset'⟩ := other
  simp only [isInRun, isApart, Bool.and_eq_true, Bool.or_eq_true, decide_eq_true_eq,
    beq_iff_eq, bne_iff_ne,
    Bool.eq_false_iff, ne_eq, not_and] at h inside positive ⊢
  simp only [movedBy] at h ⊢
  intro low high
  rcases h with (above | below) | ⟨⟨rfl, rfl | rfl⟩, odd⟩
  · omega
  · omega
  · omega
  · omega

/-- The letter is its own small form wherever it stands. -/
def IsSmall (c : Char) : Prop := c ≠ 'İ' ∧ c ≠ 'Σ' ∧ smallLetter c = c

theorem smallLetter_eq (c : Char) : smallLetter c = if c.toNat < 128 then c.toLower
    else ((smallOffsets.find? (isInRun c.toNat)).map fun run =>
      Char.ofNat (movedBy run c.toNat)).getD c := by
  rw [smallLetter]
  split
  · rfl
  · change _ = (Option.map _ (smallOffsets.find? fun run => isInRun c.toNat run)).getD c
    simp only [isInRun]
    split
    · next found => simp [found, movedBy]
    · next none => simp [none]

theorem isSmall_of_ascii {c : Char} (ascii : c.toNat < 128) (low : c.isUpper = false) :
    IsSmall c := by
  refine ⟨?_, ?_, ?_⟩
  · rintro rfl
    exact absurd ascii (by decide)
  · rintro rfl
    exact absurd ascii (by decide)
  · rw [smallLetter_eq, if_pos ascii, toLower_eq_self low]

/-- A capital is moved to a letter that is small. -/
theorem isSmall_of_run {run : Nat × Nat × Nat × Int} (hrun : run ∈ smallOffsets) {n : Nat}
    (inside : isInRun n run = true) : IsSmall (Char.ofNat (movedBy run n)) := by
  have moved := lt_of_mem_smallOffsets run hrun
  have above : 90 < movedBy run n := by
    simp only [isInRun, Bool.and_eq_true, decide_eq_true_eq] at inside
    rw [movedBy]
    omega
  have apart : ∀ other ∈ (0x130, 0x130, 1, 0) :: smallOffsets,
      isInRun (movedBy run n) other = false :=
    fun other hother => not_isInRun_of_isApart (isApart_of_mem hrun hother) inside (by omega)
  generalize movedBy run n = m at above apart
  by_cases ascii : (Char.ofNat m).toNat < 128
  · exact isSmall_of_ascii ascii (isUpper_ofNat above)
  · have code : (Char.ofNat m).toNat = m := by
      rw [toNat_ofNat] at ascii ⊢
      split at ascii
      · next valid => rw [if_pos valid]
      · exact absurd (by decide) ascii
    refine ⟨?_, ?_, ?_⟩
    · intro same
      have dotted := apart _ List.mem_cons_self
      rw [← code, same] at dotted
      exact absurd dotted (by decide)
    · intro same
      have sigma := apart (0x3A3, 0x3AB, 1, 32) (List.mem_cons_of_mem _ (by decide))
      rw [← code, same] at sigma
      exact absurd sigma (by decide)
    · have none : smallOffsets.find? (isInRun m) = none := by
        rw [List.find?_eq_none]
        intro other hother
        rw [apart other (List.mem_cons_of_mem _ hother)]
        exact Bool.false_ne_true
      rw [smallLetter_eq, if_neg ascii, code, none]
      rfl

theorem isSmall_smallLetter {c : Char} (plain : c ≠ 'İ') : IsSmall (smallLetter c) := by
  by_cases ascii : c.toNat < 128
  · rw [smallLetter_eq, if_pos ascii]
    cases upper : c.isUpper with
    | false =>
      rw [toLower_eq_self upper]
      exact isSmall_of_ascii ascii upper
    | true =>
      have inside : isInRun c.toNat (0x41, 0x5A, 1, 32) = true := by
        have capital := isUpper_iff.mp upper
        simp only [isInRun, Bool.and_eq_true, decide_eq_true_eq, beq_iff_eq]
        omega
      rw [← Char.ofNat_toNat c.toLower, toNat_toLower, if_pos upper]
      exact isSmall_of_run List.mem_cons_self inside
  · cases found : smallOffsets.find? (isInRun c.toNat) with
    | some run =>
      rw [smallLetter_eq, if_neg ascii, found]
      exact isSmall_of_run (List.mem_of_find?_eq_some found) (List.find?_some found)
    | none =>
      have same : smallLetter c = c := by
        rw [smallLetter_eq, if_neg ascii, found]
        rfl
      refine ⟨same.symm ▸ plain, ?_, by rw [same, same]⟩
      rw [same]
      rintro rfl
      have sigma := List.find?_eq_none.mp found (0x3A3, 0x3AB, 1, 32) (by decide)
      exact absurd (by decide) sigma

/-- The letters that stand for those with a small form of their own. -/
theorem isSmall_of_special : ∀ c ∈ ['i', '\u0307', 'ς', 'σ'], IsSmall c := by
  simp only [List.forall_mem_cons, List.not_mem_nil, false_implies, implies_true, and_true, IsSmall]
  decide +kernel

theorem isSmall_of_mem_smallAfter (before cs : List Char) (c : Char)
    (h : c ∈ smallAfter before cs) :
    IsSmall c := by
  induction cs generalizing before with
  | nil => cases h
  | cons d rest ih =>
    rcases List.mem_append.mp h with h | h
    · split at h
      · exact isSmall_of_special c (List.mem_of_mem_take (i := 2) h)
      · next plain =>
        split at h
        · rw [List.mem_singleton.mp h]
          split
          · exact isSmall_of_special 'ς' (by decide)
          · exact isSmall_of_special 'σ' (by decide)
        · rw [List.mem_singleton.mp h]
          exact isSmall_smallLetter plain
    · exact ih (d :: before) h

theorem smallAfter_eq_self (before cs : List Char) (h : ∀ c ∈ cs, IsSmall c) :
    smallAfter before cs = cs := by
  induction cs generalizing before with
  | nil => rfl
  | cons c rest ih =>
    obtain ⟨dotted, sigma, same⟩ := h c List.mem_cons_self
    rw [smallAfter, ih (c :: before) fun d hd => h d (List.mem_cons_of_mem c hd)]
    simp only [if_neg dotted, if_neg sigma, same, List.singleton_append]

/-- A small text is its own small form. -/
theorem small_small (s : String) : small (small s) = small s := by
  rw [small, small, String.toList_ofList,
    smallAfter_eq_self [] _ fun c hc => isSmall_of_mem_smallAfter [] s.toList c hc]

end RateRules.Text
