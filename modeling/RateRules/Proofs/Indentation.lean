import Mathlib.Data.List.Forall2
import RateRules.Proofs.Ink
import RateRules.Proofs.Uncommented

/-!
# Indentation

Spaces and tabs at the starts of lines mean nothing, also inside of block comments and brackets and
behind a backslash that joins lines. No mark of a comment reaches over a line feed, so scripts that
differ in indentation have the same comments, and the lines that are left of them differ in leading
blanks.
-/
namespace RateRules.Script

open Text (isLineEnd isBlank trimLeft)

/-- The characters that a line can be indented with. -/
def isIndent (c : Char) : Bool := c == ' ' || c == '\t'

def unindented (line : List Char) : List Char := line.dropWhile isIndent

/-- Two lines that differ in their indentation at most. A line of nothing else stays as it is. -/
def AlikeIndented (line line' : List Char) : Prop :=
  line = line' ∨ unindented line ≠ [] ∧ unindented line = unindented line'

instance : DecidableRel AlikeIndented := fun _ _ => inferInstanceAs (Decidable (_ ∨ _))

variable {c : Char} {cs ds first first' line line' : List Char} {ls ls' : List (List Char)}

theorem isIndent_cases (h : isIndent c = true) : c = ' ' ∨ c = '\t' := by
  simpa [isIndent] using h

theorem isLineEnd_of_isIndent (h : isIndent c = true) : isLineEnd c = false := by
  rcases isIndent_cases h with rfl | rfl <;> decide

theorem isBlank_of_isIndent (h : isIndent c = true) : isBlank c = true := by
  rcases isIndent_cases h with rfl | rfl <;> decide

theorem isMark_of_isIndent (h : isIndent c = true) : isMark c = false := by
  rcases isIndent_cases h with rfl | rfl <;> decide

/-- Indentation before a text is trimmed with its first line, if it has one. -/
theorem map_trimLeft_lines_append (indent : ∀ c ∈ first, isIndent c = true) (goes : cs ≠ []) :
    (Text.lines (first ++ cs)).map trimLeft = (Text.lines cs).map trimLeft := by
  induction first with
  | nil => rfl
  | cons c more ih =>
    obtain ⟨isIndent, others⟩ := List.forall_mem_cons.mp indent
    obtain ⟨d, rest, same⟩ :=
      List.exists_cons_of_ne_nil (List.append_ne_nil_of_right_ne_nil more goes)
    obtain ⟨line, further, behind⟩ := List.exists_cons_of_ne_nil (lines_ne_nil d rest)
    rw [← same] at behind
    have trimmed : trimLeft (c :: line) = trimLeft line :=
      List.dropWhile_cons_of_pos (isBlank_of_isIndent isIndent)
    rw [← ih others, List.cons_append,
      lines_cons (isLineEnd_of_isIndent isIndent) line further behind, behind,
      List.map_cons, List.map_cons, trimmed]

theorem map_trimLeft_congr (firstLine : ls.head? = ls'.head?)
    (others : ls.tail.map trimLeft = ls'.tail.map trimLeft) :
    ls.map trimLeft = ls'.map trimLeft := by
  cases ls with
  | nil => rw [List.head?_eq_none_iff.mp firstLine.symm]
  | cons line more =>
    obtain ⟨more', rfl⟩ := List.head?_eq_some_iff.mp firstLine.symm
    rw [List.map_cons, List.map_cons]
    exact congrArg _ others

/-- Two texts that differ in indentation behind line feeds at most, where something else follows
it. -/
inductive Reindented : List Char → List Char → Prop
  | nil : Reindented [] []
  | cons (c : Char) {cs ds : List Char} (behind : Reindented cs ds) : Reindented (c :: cs) (c :: ds)
  | indent {first first' cs ds : List Char} (indent : ∀ c ∈ first, isIndent c = true)
      (indent' : ∀ c ∈ first', isIndent c = true) (goes : cs ≠ []) (behind : Reindented cs ds) :
      Reindented ('\n' :: (first ++ cs)) ('\n' :: (first' ++ ds))

namespace Reindented

theorem refl (cs : List Char) : Reindented cs cs := by
  induction cs with
  | nil => exact .nil
  | cons c rest ih => exact .cons c ih

theorem append (before : List Char) (h : Reindented cs ds) :
    Reindented (before ++ cs) (before ++ ds) := by
  induction before with
  | nil => exact h
  | cons c more ih => exact .cons c ih

theorem head?_eq (h : Reindented cs ds) : cs.head? = ds.head? := by
  cases h <;> rfl

theorem ne_nil (h : Reindented cs ds) (goes : cs ≠ []) : ds ≠ [] := by
  cases h with
  | nil => exact goes
  | cons => exact List.cons_ne_nil _ _
  | indent => exact List.cons_ne_nil _ _

/-- Behind any other character than a line feed nothing is indented. -/
theorem exists_tail {es : List Char} (h : Reindented (c :: cs) es) (noFeed : c ≠ '\n') :
    ∃ ds, es = c :: ds ∧ Reindented cs ds := by
  cases h with
  | cons _ behind => exact ⟨_, rfl, behind⟩
  | indent => exact absurd rfl noFeed

theorem of_append (noFeed : '\n' ∉ first) (h : Reindented (first ++ cs) (first ++ ds)) :
    Reindented cs ds := by
  induction first with
  | nil => exact h
  | cons c more ih =>
    rw [List.mem_cons, not_or] at noFeed
    obtain ⟨_, same, behind⟩ := h.exists_tail (Ne.symm noFeed.1)
    obtain rfl := (List.cons.inj same).2
    exact ih noFeed.2 behind

theorem dropWhile (h : Reindented cs ds) :
    Reindented (cs.dropWhile (· ≠ '\n')) (ds.dropWhile (· ≠ '\n')) := by
  induction h with
  | nil => exact .nil
  | @cons c cs ds behind ih =>
    by_cases feed : c = '\n'
    · subst feed
      exact .cons '\n' behind
    · rw [List.dropWhile_cons_of_pos (by simpa using feed),
        List.dropWhile_cons_of_pos (by simpa using feed)]
      exact ih
  | indent blank blank' goes behind => exact .indent blank blank' goes behind

end Reindented

theorem blockLength?_cons (apart : ¬ (c = '*' ∧ cs.head? = some '/')) :
    blockLength? (c :: cs) = (blockLength? cs).map (· + 1) := by
  rw [blockLength?]
  rintro more rfl rfl
  exact apart ⟨rfl, rfl⟩

theorem blockLength?_append (noMarks : ∀ c ∈ first, isMark c = false) (cs : List Char) :
    blockLength? (first ++ cs) = (blockLength? cs).map (· + first.length) := by
  induction first with
  | nil => simp
  | cons c more ih =>
    obtain ⟨noMark, others⟩ := List.forall_mem_cons.mp noMarks
    have apart : ¬ (c = '*' ∧ (more ++ cs).head? = some '/') := by
      rintro ⟨rfl, _⟩
      cases noMark
    rw [List.cons_append, blockLength?_cons apart, ih others, Option.map_map, List.length_cons]
    rfl

/-- A block comment ends in both texts or in none. It has the same line feeds in both, and the texts
behind it differ in indentation. -/
def EndAlike (cs ds : List Char) : Prop :=
  blockLength? cs = none ∧ blockLength? ds = none ∨
    ∃ n m, blockLength? cs = some n ∧ blockLength? ds = some m ∧
    (cs.take n).count '\n' = (ds.take m).count '\n' ∧
      Reindented (cs.drop n) (ds.drop m)

theorem EndAlike.cons (h : EndAlike cs ds) (c : Char) (apart : ¬ (c = '*' ∧ cs.head? = some '/'))
    (apart' : ¬ (c = '*' ∧ ds.head? = some '/')) : EndAlike (c :: cs) (c :: ds) := by
  rw [EndAlike, blockLength?_cons apart, blockLength?_cons apart']
  rcases h with ⟨none, none'⟩ | ⟨n, m, hn, hm, feeds, behind⟩
  · exact .inl ⟨by rw [none]; rfl, by rw [none']; rfl⟩
  · refine .inr ⟨n + 1, m + 1, by rw [hn]; rfl, by rw [hm]; rfl, ?_, behind⟩
    rw [List.take_succ_cons, List.take_succ_cons, List.count_cons, List.count_cons, feeds]

theorem EndAlike.indent (h : EndAlike cs ds) (indent : ∀ c ∈ first, isIndent c = true)
    (indent' : ∀ c ∈ first', isIndent c = true) : EndAlike (first ++ cs) (first' ++ ds) := by
  have noFeeds : ∀ {cs : List Char}, (∀ c ∈ cs, isIndent c = true) → cs.count '\n' = 0 :=
    fun indent => List.count_eq_zero_of_not_mem fun feed => absurd (indent _ feed) (by decide)
  rw [EndAlike, blockLength?_append (fun c hc => isMark_of_isIndent (indent c hc)),
    blockLength?_append (fun c hc => isMark_of_isIndent (indent' c hc))]
  rcases h with ⟨none, none'⟩ | ⟨n, m, hn, hm, feeds, behind⟩
  · exact .inl ⟨by rw [none]; rfl, by rw [none']; rfl⟩
  · refine .inr ⟨n + first.length, m + first'.length, by rw [hn]; rfl, by rw [hm]; rfl, ?_, ?_⟩
    · rw [Nat.add_comm n, Nat.add_comm m, List.take_length_add_append, List.take_length_add_append,
        List.count_append,
        List.count_append, noFeeds indent, noFeeds indent', feeds]
    · rw [Nat.add_comm n, Nat.add_comm m, List.drop_length_add_append, List.drop_length_add_append]
      exact behind

namespace Reindented

theorem endAlike (h : Reindented cs ds) : EndAlike cs ds := by
  induction h with
  | nil => exact .inl ⟨rfl, rfl⟩
  | @cons c cs ds behind ih =>
    by_cases closes : c = '*' ∧ cs.head? = some '/'
    · obtain ⟨rfl, slash⟩ := closes
      obtain ⟨rest, rfl⟩ := List.head?_eq_some_iff.mp slash
      obtain ⟨rest', rfl, further⟩ := behind.exists_tail (by decide)
      exact .inr ⟨2, 2, rfl, rfl, rfl, further⟩
    · exact ih.cons c closes (behind.head?_eq ▸ closes)
  | indent indent indent' _ _ ih => exact (ih.indent indent indent').cons '\n' (by simp) (by simp)

/-- Comments leave the same behind, and indentation outside of them stays. -/
theorem withoutComments (h : Reindented cs ds) :
    Reindented (withoutComments cs) (withoutComments ds) := by
  fun_induction Script.withoutComments cs generalizing ds with
  | case1 =>
    cases h
    rw [Script.withoutComments]
    exact .nil
  | case2 rest ih =>
    obtain ⟨_, rfl, behind⟩ := h.exists_tail (by decide)
    obtain ⟨rest', rfl, further⟩ := behind.exists_tail (by decide)
    rw [Script.withoutComments]
    exact .cons ' ' (ih further.dropWhile)
  | case3 rest n closed ih =>
    obtain ⟨_, rfl, behind⟩ := h.exists_tail (by decide)
    obtain ⟨rest', rfl, further⟩ := behind.exists_tail (by decide)
    rcases further.endAlike with ⟨none, _⟩ | ⟨_, m, same, closed', feeds, left⟩
    · cases none.symm.trans closed
    · cases same.symm.trans closed
      have blanks : blankFor (rest.take n) = blankFor (rest'.take m) := by
        rw [blankFor, blankFor, feeds]
      rw [Script.withoutComments]
      simp only [closed']
      rw [blanks]
      exact (ih left).append _
  | case4 rest unclosed ih =>
    obtain ⟨_, rfl, behind⟩ := h.exists_tail (by decide)
    obtain ⟨rest', rfl, further⟩ := behind.exists_tail (by decide)
    rcases further.endAlike with ⟨_, unclosed'⟩ | ⟨_, _, closed, _⟩
    · rw [Script.withoutComments]
      simp only [unclosed']
      exact .cons '/' (ih behind)
    · cases unclosed.symm.trans closed
  | case5 c rest noLine noBlock ih =>
    cases h with
    | @cons _ _ rest' behind =>
      have apart : ∀ d, (∀ more, c = '/' → rest = d :: more → False) →
          ∀ more, c :: rest' ≠ '/' :: d :: more := by
        intro d none more same
        obtain ⟨rfl, rfl⟩ := List.cons.inj same
        obtain ⟨more', same⟩ := List.head?_eq_some_iff.mp behind.head?_eq
        exact none more' rfl same
      rw [withoutComments_plain (apart '/' noLine) (apart '*' noBlock)]
      exact .cons c (ih behind)
    | @indent first first' cs ds indent indent' goes behind =>
      have noSlash : ∀ {cs : List Char}, (∀ c ∈ cs, isIndent c = true) → ∀ c ∈ cs, c ≠ '/' := by
        rintro cs indent c hc rfl
        cases indent _ hc
      have inside := ih (behind.append first)
      rw [withoutComments_append (noSlash indent), withoutComments_append (noSlash indent)]
        at inside
      rw [withoutComments_plain (by simp) (by simp), withoutComments_append (noSlash indent),
        withoutComments_append (noSlash indent')]
      exact .indent indent indent' (withoutComments_ne_nil goes) (inside.of_append fun feed =>
        absurd (indent _ feed) (by decide))

/-- The first lines are the same, and the others differ in leading blanks. -/
theorem lines_eq (h : Reindented cs ds) : (Text.lines cs).head? = (Text.lines ds).head? ∧
    (Text.lines cs).tail.map trimLeft = (Text.lines ds).tail.map trimLeft := by
  induction h with
  | nil => exact ⟨rfl, rfl⟩
  | @cons c cs ds behind ih =>
    obtain ⟨firstLine, others⟩ := ih
    by_cases ends : isLineEnd c = true
    · by_cases pair : c = '\r' ∧ cs.head? = some '\n'
      · obtain ⟨rfl, feed⟩ := pair
        rw [lines_carriage feed, lines_carriage (behind.head?_eq ▸ feed)]
        exact ⟨firstLine, others⟩
      · have apart : c = '\r' → cs.head? ≠ some '\n' := fun carriage feed => pair ⟨carriage, feed⟩
        rw [lines_lineEnd ends apart, lines_lineEnd ends (behind.head?_eq ▸ apart)]
        exact ⟨rfl, map_trimLeft_congr firstLine others⟩
    · have goes := Bool.eq_false_iff.mpr ends
      rw [lines_cons_first goes, lines_cons_first goes, List.headD_eq_head?_getD,
        List.headD_eq_head?_getD, firstLine]
      exact ⟨rfl, others⟩
  | indent indent indent' goes behind ih =>
    rw [lines_lineFeed, lines_lineFeed]
    refine ⟨rfl, ?_⟩
    rw [List.tail_cons, List.tail_cons, map_trimLeft_lines_append indent goes,
      map_trimLeft_lines_append indent' (behind.ne_nil goes)]
    exact map_trimLeft_congr ih.1 ih.2

end Reindented

theorem isIndent_of_mem_takeWhile (line : List Char) :
    ∀ c ∈ line.takeWhile isIndent, isIndent c = true :=
  fun _ hc => List.mem_takeWhile_imp hc

theorem AlikeIndented.reindented (h : AlikeIndented line line') (behind : Reindented cs ds) :
    Reindented ('\n' :: (line ++ cs)) ('\n' :: (line' ++ ds)) := by
  rcases h with rfl | ⟨goes, same⟩
  · exact .cons '\n' (behind.append line)
  · have whole : ∀ line cs, line ++ cs = line.takeWhile isIndent ++ (unindented line ++ cs) := by
      intro line cs
      rw [← List.append_assoc, unindented, List.takeWhile_append_dropWhile]
    rw [whole line, whole line', ← same]
    exact .indent (isIndent_of_mem_takeWhile line) (isIndent_of_mem_takeWhile line')
      (List.append_ne_nil_of_left_ne_nil goes cs) (behind.append _)

/-- Behind a line feed the lines are joined to texts that differ in indentation. -/
theorem reindented_joinLines (h : List.Forall₂ AlikeIndented ls ls') :
    Reindented ('\n' :: joinLines ls) ('\n' :: joinLines ls') := by
  induction h with
  | nil => exact .refl _
  | @cons line line' more more' alike behind ih =>
    cases behind with
    | nil =>
      have whole := alike.reindented .nil
      rwa [List.append_nil, List.append_nil] at whole
    | cons =>
      rw [joinLines_cons (List.cons_ne_nil _ _), joinLines_cons (List.cons_ne_nil _ _)]
      exact alike.reindented ih

/-- Texts that differ in indentation behind a line feed are prepared alike. -/
theorem prepared_eq_of_reindented (h : Reindented ('\n' :: cs) ('\n' :: ds)) :
    prepared cs = prepared ds := by
  have feed : ∀ cs, withoutComments ('\n' :: cs) = '\n' :: withoutComments cs :=
    fun cs => withoutComments_plain (by simp) (by simp)
  have left := h.withoutComments.lines_eq.2
  rw [feed, feed, lines_lineFeed, lines_lineFeed, List.tail_cons, List.tail_cons] at left
  rw [prepared, prepared, left]

theorem joinLines_splitOn (cs : List Char) : joinLines (cs.splitOn '\n') = cs := by
  rw [← intercalate_eq_joinLines, List.intercalate_splitOn]

/-- Indentation has no meaning. Two scripts whose lines, taken between line feeds, differ in it at
most are read from the same text, so they have the same statements at the same positions or are
refused for the same reason. -/
theorem indentation_has_no_meaning {script other : String}
    (h : List.Forall₂ AlikeIndented (script.toList.splitOn '\n') (other.toList.splitOn '\n')) :
    prepared script.toList = prepared other.toList ∧ statements script = statements other := by
  have same : prepared script.toList = prepared other.toList := by
    have alike := reindented_joinLines h
    rw [joinLines_splitOn, joinLines_splitOn] at alike
    exact prepared_eq_of_reindented alike
  refine ⟨same, ?_⟩
  rw [statements, statements, same]

/-- Lines indented inside of brackets, inside of a block comment, behind a backslash and before a
statement. -/
theorem indentation_of_joined_lines :
    List.Forall₂ AlikeIndented
    ("BTC_USD = (1\n+ /* a\nb */ 2) \\\n* 3;\nX_X = 4;".toList.splitOn '\n')
        ("  BTC_USD = (1\n\t+ /* a\n    b */ 2) \\\n  * 3;\n X_X = 4;".toList.splitOn '\n') ∧
      (statements "BTC_USD = (1\n+ /* a\nb */ 2) \\\n* 3;\nX_X = 4;").toOption.map List.length =
        some 2 ∧
      prepared "BTC_USD = (1\n+ /* a\nb */ 2) \\\n* 3;\nX_X = 4;".toList =
          prepared "  BTC_USD = (1\n\t+ /* a\n    b */ 2) \\\n  * 3;\n X_X = 4;".toList ∧
        statements "BTC_USD = (1\n+ /* a\nb */ 2) \\\n* 3;\nX_X = 4;" =
          statements "  BTC_USD = (1\n\t+ /* a\n    b */ 2) \\\n  * 3;\n X_X = 4;" :=
  ⟨by decide +kernel, by decide +kernel, indentation_has_no_meaning (by decide +kernel)⟩

end RateRules.Script
