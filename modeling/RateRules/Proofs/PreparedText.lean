import RateRules.Proofs.Lines

/-!
# The text of a script line by line

What is read of a script are its lines without their leading blanks, with a line feed behind each.
Only a last line without any character gets none if another line stands before it.
-/
namespace RateRules.Script

open Text (isLineEnd isBlank trimLeft)

/-- What is read of a script whose comments are taken out. -/
def source (cs : List Char) : List Char := withLineEnd (joinLines ((Text.lines cs).map trimLeft))

variable {c : Char} {cs ds : List Char}

theorem lines_lineEnd (h : isLineEnd c = true) (apart : c = '\r' → cs.head? ≠ some '\n') :
    Text.lines (c :: cs) = [] :: Text.lines cs := by
  rw [Text.lines]
  · rw [if_pos h]
  · rintro more rfl rfl
    exact apart rfl rfl

/-- A text goes on with the line that starts behind it. -/
theorem lines_cons_first (h : isLineEnd c = false) (cs : List Char) :
    Text.lines (c :: cs) = (c :: (Text.lines cs).headD []) :: (Text.lines cs).tail := by
  cases behind : Text.lines cs with
  | nil =>
    rw [Text.lines, if_neg (ne_true_of_eq_false h), behind]
    · rfl
    · rintro more rfl
      cases h
  | cons line more => exact lines_cons h line more behind

theorem lines_append_first {line : List Char} (h : ∀ c ∈ line, isLineEnd c = false)
    (hc : isLineEnd c = false)
    (ds : List Char) :
    Text.lines (line ++ c :: ds) =
      (line ++ c :: (Text.lines ds).headD []) :: (Text.lines ds).tail := by
  induction line with
  | nil => exact lines_cons_first hc ds
  | cons d more ih =>
    rw [List.cons_append, lines_cons_first (h d List.mem_cons_self), ih fun e he =>
      h e (List.mem_cons_of_mem d he)]
    rfl

theorem lines_ne_nil (c : Char) (cs : List Char) : Text.lines (c :: cs) ≠ [] := by
  unfold Text.lines
  split
  · next same => cases same
  · exact List.cons_ne_nil _ _
  · split
    · exact List.cons_ne_nil _ _
    · split
      · exact List.cons_ne_nil _ _
      · exact List.cons_ne_nil _ _

theorem lines_lineFeeds (n : Nat) (cs : List Char) :
    Text.lines (List.replicate n '\n' ++ cs) = List.replicate n [] ++ Text.lines cs := by
  induction n with
  | zero => rfl
  | succ n ih =>
    rw [List.replicate_succ, List.cons_append, lines_lineFeed, ih, List.replicate_succ,
      List.cons_append]

/-- A text that is empty or ends with a line end. -/
def EndsLine (cs : List Char) : Prop := ∀ c ∈ cs.getLast?, isLineEnd c = true

theorem EndsLine.tail (h : EndsLine (c :: cs)) : EndsLine cs := by
  intro d hd
  refine h d ?_
  rw [List.getLast?_cons, hd]
  rfl

/-- The lines of a text end with it, unless a line end reaches over into the other text. -/
theorem lines_append (h : EndsLine cs) (apart : cs.getLast? = some '\r' → ds.head? ≠ some '\n') :
    Text.lines (cs ++ ds) = Text.lines cs ++ Text.lines ds := by
  have inside : ∀ {c : Char} {rest : List Char}, ((c :: rest).getLast? = some '\r' →
    ds.head? ≠ some '\n') →
      rest.getLast? = some '\r' → ds.head? ≠ some '\n' := by
    intro c rest apart last
    refine apart ?_
    rw [List.getLast?_cons, last]
    rfl
  induction cs using Text.lines.induct with
  | case1 => rfl
  | case2 rest ih =>
    rw [List.cons_append, List.cons_append, Text.lines, ih h.tail.tail (inside (inside apart)),
      Text.lines,
      List.cons_append]
  | case3 c rest noPair ends ih =>
    have noPair' : c = '\r' → (rest ++ ds).head? ≠ some '\n' := by
      rintro rfl
      cases rest with
      | nil => exact apart rfl
      | cons d more =>
        intro same
        exact noPair more rfl (by rw [Option.some.inj same])
    rw [List.cons_append, lines_lineEnd ends noPair', ih h.tail (inside apart),
      Text.lines, if_pos ends,
      List.cons_append]
    exact noPair
  | case4 c rest noPair goes none ih =>
    cases rest with
    | nil => exact absurd (h c rfl) goes
    | cons d more => exact absurd none (lines_ne_nil d more)
  | case5 c rest noPair goes line more behind ih =>
    have same := ih h.tail (inside apart)
    rw [behind, List.cons_append] at same
    rw [List.cons_append, lines_cons (by simpa using goes) _ _ same,
      lines_cons (by simpa using goes) _ _ behind,
      List.cons_append]

/-- What a text has behind its last line end. -/
def unfinished (cs : List Char) : List Char := (cs.reverse.takeWhile fun c => !isLineEnd c).reverse

/-- A text up to its last line end. -/
def finished (cs : List Char) : List Char := (cs.reverse.dropWhile fun c => !isLineEnd c).reverse

theorem finished_append_unfinished (cs : List Char) : finished cs ++ unfinished cs = cs := by
  rw [finished, unfinished, ← List.reverse_append, List.takeWhile_append_dropWhile,
    List.reverse_reverse]

theorem isLineEnd_unfinished (cs : List Char) : ∀ c ∈ unfinished cs, isLineEnd c = false := by
  intro c hc
  have goes := List.all_eq_true.mp List.all_takeWhile c (List.mem_reverse.mp hc)
  simpa using goes

theorem endsLine_finished (cs : List Char) : EndsLine (finished cs) := by
  intro c hc
  rw [finished, List.getLast?_reverse] at hc
  have stops := List.head?_dropWhile_not (fun c => !isLineEnd c) cs.reverse
  rw [hc] at stops
  simpa using stops

/-- The lines with a line feed behind each. A last line without any character gets none if there is
another line before it. -/
def terminated (started : Bool) : List (List Char) → List Char
  | [] => if started then [] else ['\n']
  | line :: more =>
    if started && line.isEmpty && more.isEmpty then [] else line ++ '\n' :: terminated true more

variable {started : Bool} {line : List Char} {lines more : List (List Char)}

theorem terminated_cons (h : started = false ∨ line ≠ [] ∨ more ≠ []) :
    terminated started (line :: more) = line ++ '\n' :: terminated true more := by
  rw [terminated, if_neg]
  simp only [Bool.and_eq_true, List.isEmpty_iff, not_and]
  rintro ⟨rfl, rfl⟩
  simpa using h

theorem terminated_append (h : more ≠ []) (started : Bool) :
    terminated started (lines ++ more) =
      lines.flatMap (· ++ ['\n']) ++ terminated (started || !lines.isEmpty) more := by
  induction lines generalizing started with
  | nil => simp
  | cons line further ih =>
    have goes : further ++ more ≠ [] := List.append_ne_nil_of_right_ne_nil further h
    rw [List.cons_append, terminated_cons (Or.inr (Or.inr goes)), ih]
    simp

/-- The last character, if there is one, is a line feed. -/
theorem eq_of_mem_getLast?_terminated (started : Bool) (lines : List (List Char)) :
    ∀ c ∈ (terminated started lines).getLast?, c = '\n' := by
  induction lines generalizing started with
  | nil =>
    cases started with
    | true => exact nofun
    | false =>
      rintro _ ⟨⟩
      rfl
  | cons line more ih =>
    rw [terminated]
    split
    · exact nofun
    · rw [List.getLast?_append_cons, List.getLast?_cons]
      rintro _ ⟨⟩
      cases last : (terminated true more).getLast? with
      | none => rfl
      | some c => exact ih true c last

/-- A text without lines is like one with a line that has no character. -/
theorem terminated_headD (started : Bool) (lines : List (List Char)) :
    terminated started (lines.headD [] :: lines.tail) = terminated started lines := by
  cases lines with
  | nil => cases started <;> rfl
  | cons line more => rfl

/-- Lines without characters give line feeds. -/
theorem exists_terminated_blank (n : Nat) (lines : List (List Char)) (started : Bool) :
    ∃ m started', (started = true → started' = true) ∧
      terminated started (List.replicate n [] ++ lines) =
        List.replicate m '\n' ++ terminated started' lines := by
  induction n generalizing started with
  | zero => exact ⟨0, started, id, rfl⟩
  | succ n ih =>
    obtain ⟨m, _, goes, same⟩ := ih true
    obtain rfl := goes rfl
    rw [List.replicate_succ, List.cons_append, terminated]
    split
    · next last =>
      simp only [Bool.and_eq_true, List.isEmpty_iff, List.append_eq_nil_iff] at last
      obtain ⟨⟨rfl, _⟩, _, rfl⟩ := last
      exact ⟨0, true, fun _ => rfl, rfl⟩
    · refine ⟨m + 1, true, fun _ => rfl, ?_⟩
      rw [same]
      rfl

theorem joinLines_concat (lines : List (List Char)) (line : List Char) :
    joinLines (lines ++ [line]) = lines.flatMap (· ++ ['\n']) ++ line := by
  induction lines with
  | nil => rfl
  | cons first more ih =>
    rw [List.cons_append, joinLines, ih]
    · simp
    · exact List.append_ne_nil_of_right_ne_nil more (List.cons_ne_nil line [])

theorem flatMap_eq_joinLines (h : lines ≠ []) :
    lines.flatMap (· ++ ['\n']) = joinLines lines ++ ['\n'] := by
  rw [← List.dropLast_concat_getLast h, joinLines_concat]
  simp

theorem joinLines_cons (h : more ≠ []) :
    joinLines (line :: more) = line ++ '\n' :: joinLines more := by
  rw [joinLines]
  exact h

theorem withLineEnd_line (h : '\n' ∉ line) : withLineEnd line = line ++ ['\n'] := by
  rw [withLineEnd, if_neg]
  exact fun last => h (List.mem_of_getLast? last)

theorem withLineEnd_joinLines_cons (h : ∀ l ∈ line :: more, '\n' ∉ l) :
    withLineEnd (joinLines (line :: more)) = line ++ '\n' :: terminated true more := by
  induction more generalizing line with
  | nil => exact withLineEnd_line (h line List.mem_cons_self)
  | cons next further ih =>
    have behind := ih fun l hl => h l (List.mem_cons_of_mem line hl)
    rw [joinLines_cons (List.cons_ne_nil next further)]
    by_cases last : next = [] ∧ further = []
    · obtain ⟨rfl, rfl⟩ := last
      simp [withLineEnd, joinLines, terminated]
    · have goes : next ≠ [] ∨ further ≠ [] := Classical.not_and_iff_not_or_not.mp last
      have inside : joinLines (next :: further) ≠ [] := by
        cases further with
        | nil => exact goes.resolve_right fun more => more rfl
        | cons third others =>
          rw [joinLines_cons (List.cons_ne_nil third others)]
          simp
      rw [withLineEnd_append inside, behind, terminated_cons (Or.inr goes)]

theorem withLineEnd_joinLines (h : ∀ l ∈ lines, '\n' ∉ l) :
    withLineEnd (joinLines lines) = terminated false lines := by
  cases lines with
  | nil => rfl
  | cons line more =>
    rw [withLineEnd_joinLines_cons h, terminated_cons (Or.inl rfl)]

theorem ne_of_isLineEnd {d : Char} (h : isLineEnd c = false)
    (ends : isLineEnd d = true) : c ≠ d := by
  rintro rfl
  rw [h] at ends
  cases ends

/-- The lines have all characters of a text but its line ends. -/
theorem mem_lines (h : isLineEnd c = false) (cs : List Char) :
    (∃ l ∈ Text.lines cs, c ∈ l) ↔ c ∈ cs := by
  fun_induction Text.lines cs with
  | case1 => simp
  | case2 rest ih =>
    have carriage : c ≠ '\r' := ne_of_isLineEnd h (by decide)
    have feed : c ≠ '\n' := ne_of_isLineEnd h (by decide)
    simpa [carriage, feed] using ih
  | case3 d rest noPair ends ih =>
    have other := ne_of_isLineEnd h ends
    simpa [other] using ih
  | case4 d rest noPair goes none ih =>
    rw [none] at ih
    have absent : c ∉ rest := by simpa using ih
    simp [absent]
  | case5 d rest noPair goes line more behind ih =>
    rw [behind] at ih
    rw [List.mem_cons, ← ih]
    simp [or_assoc]

theorem not_mem_lines (h : isLineEnd c = true) (cs : List Char) : ∀ l ∈ Text.lines cs, c ∉ l := by
  fun_induction Text.lines cs with
  | case1 => exact fun _ hl => absurd hl List.not_mem_nil
  | case2 rest ih => exact List.forall_mem_cons.mpr ⟨List.not_mem_nil, ih⟩
  | case3 d rest noPair ends ih => exact List.forall_mem_cons.mpr ⟨List.not_mem_nil, ih⟩
  | case4 d rest noPair goes none ih =>
    have other : c ≠ d := (ne_of_isLineEnd (by simpa using goes) h).symm
    simpa using other
  | case5 d rest noPair goes line more behind ih =>
    have other : c ≠ d := (ne_of_isLineEnd (by simpa using goes) h).symm
    rw [behind] at ih
    obtain ⟨first, others⟩ := List.forall_mem_cons.mp ih
    refine List.forall_mem_cons.mpr ⟨?_, others⟩
    simp [other, first]

theorem isLineEnd_of_mem_trimmed (cs : List Char) :
    ∀ l ∈ (Text.lines cs).map trimLeft, ∀ c ∈ l, isLineEnd c = false := by
  intro l hl c hc
  obtain ⟨line, hline, rfl⟩ := List.mem_map.mp hl
  refine Bool.eq_false_iff.mpr fun ends => ?_
  exact not_mem_lines ends cs line hline ((List.dropWhile_sublist _).mem hc)

theorem source_eq (cs : List Char) :
    source cs = terminated false ((Text.lines cs).map trimLeft) := by
  refine withLineEnd_joinLines fun l hl inside => ?_
  cases isLineEnd_of_mem_trimmed cs l hl '\n' inside

theorem mem_terminated (h : c ≠ '\n') (started : Bool) (lines : List (List Char)) :
    c ∈ terminated started lines ↔ ∃ l ∈ lines, c ∈ l := by
  induction lines generalizing started with
  | nil =>
    rw [terminated]
    split <;> simp [h]
  | cons line more ih =>
    rw [terminated]
    split
    · next empty =>
      simp only [Bool.and_eq_true, List.isEmpty_iff] at empty
      simp [empty.1.2, empty.2]
    · rw [List.mem_append, List.mem_cons, ih]
      simp [h]

theorem mem_trimLeft (h : isBlank c = false) (cs : List Char) : c ∈ trimLeft cs ↔ c ∈ cs := by
  constructor
  · exact fun inside => (List.dropWhile_sublist _).mem inside
  · intro inside
    rw [← @List.takeWhile_append_dropWhile _ isBlank cs, List.mem_append] at inside
    refine inside.resolve_left fun blank => ?_
    rw [List.all_eq_true.mp List.all_takeWhile c blank] at h
    cases h

/-- What is read of a script has all its characters with ink. -/
theorem mem_source (h : isBlank c = false) (cs : List Char) : c ∈ source cs ↔ c ∈ cs := by
  have goes := isLineEnd_eq_false h
  rw [source_eq, mem_terminated (ne_of_isLineEnd goes (by decide)), ← mem_lines goes cs]
  constructor
  · rintro ⟨_, hmem, inside⟩
    obtain ⟨line, hline, rfl⟩ := List.mem_map.mp hmem
    exact ⟨line, hline, (mem_trimLeft h line).mp inside⟩
  · rintro ⟨line, hline, inside⟩
    exact ⟨_, List.mem_map_of_mem hline, (mem_trimLeft h line).mpr inside⟩

end RateRules.Script
