import Mathlib.Data.List.Forall2
import RateRules.Proofs.Comments
import RateRules.Proofs.PreparedText

/-!
# Ink and its lines

The characters of a text that are no blanks stand on its lines. Preparing a script whose lines end
with line feeds, with or without a carriage return before them, takes out its comments and moves no
other such character to another line.
-/
namespace RateRules.Script

open Text (isLineEnd isBlank trimLeft)

/-- The characters with ink of some lines, each with the number of its line, counted from `n` on. -/
def inkOf (n : Nat) (lines : List (List Char)) : List (Nat × Char) :=
  (lines.zipIdx n).flatMap fun line => (line.1.filter fun c => !isBlank c).map (Prod.mk line.2)

/-- The characters with ink of a text, each with the number of its line. -/
def ink (cs : List Char) : List (Nat × Char) := inkOf 1 (Text.lines cs)

variable {c : Char} {cs ds : List Char} {line : List Char} {lines : List (List Char)} {n : Nat}

@[simp] theorem inkOf_nil (n : Nat) : inkOf n [] = [] := rfl

@[simp] theorem inkOf_cons (n : Nat) (line : List Char) (lines : List (List Char)) :
    inkOf n (line :: lines) =
      (line.filter fun c => !isBlank c).map (Prod.mk n) ++ inkOf (n + 1) lines := by
  rw [inkOf, List.zipIdx_cons, List.flatMap_cons]
  rfl

theorem inkOf_headD (n : Nat) (lines : List (List Char)) :
    inkOf n (lines.headD [] :: lines.tail) = inkOf n lines := by
  cases lines with
  | nil => rfl
  | cons line more => rfl

/-- Leading blanks have no ink. -/
theorem inkOf_map_trimLeft (n : Nat) (lines : List (List Char)) :
    inkOf n (lines.map trimLeft) = inkOf n lines := by
  induction lines generalizing n with
  | nil => rfl
  | cons line more ih =>
    have kept : (trimLeft line).filter (fun c => !isBlank c) = line.filter fun c => !isBlank c := by
      have leading : (line.takeWhile isBlank).filter (fun c => !isBlank c) = [] := by
        refine List.filter_eq_nil_iff.mpr fun c hc => ?_
        simp [List.all_eq_true.mp List.all_takeWhile c hc]
      rw [trimLeft]
      conv_rhs => rw [← @List.takeWhile_append_dropWhile _ isBlank line,
        List.filter_append, leading]
      rfl
    rw [List.map_cons, inkOf_cons, inkOf_cons, kept, ih]

/-- A text is read character by character from a line on. -/
theorem inkOf_lines_lineFeed (n : Nat) (cs : List Char) :
    inkOf n (Text.lines ('\n' :: cs)) = inkOf (n + 1) (Text.lines cs) := by
  rw [lines_lineFeed, inkOf_cons]
  rfl

theorem lines_carriage (h : cs.head? = some '\n') : Text.lines ('\r' :: cs) = Text.lines cs := by
  cases cs with
  | nil => cases h
  | cons c rest =>
    cases h
    rw [Text.lines, lines_lineFeed]

theorem inkOf_lines_carriage (n : Nat) (h : cs.head? = some '\n') :
    inkOf n (Text.lines ('\r' :: cs)) = inkOf n (Text.lines cs) := by
  rw [lines_carriage h]

theorem inkOf_lines_cons (n : Nat) (h : isLineEnd c = false) (cs : List Char) :
    inkOf n (Text.lines (c :: cs)) =
      (if isBlank c then [] else [(n, c)]) ++ inkOf n (Text.lines cs) := by
  rw [lines_cons_first h, inkOf_cons, ← inkOf_headD n (Text.lines cs), inkOf_cons, List.filter_cons]
  by_cases blank : isBlank c
  · simp [blank]
  · simp [blank]

/-- The ink of joined lines is on the lines. -/
theorem inkOf_lines_joinLines (n : Nat) (h : ∀ l ∈ lines, ∀ c ∈ l, isLineEnd c = false) :
    inkOf n (Text.lines (joinLines lines)) = inkOf n lines := by
  induction lines generalizing n with
  | nil => rfl
  | cons line more ih =>
    obtain ⟨plain, further⟩ := List.forall_mem_cons.mp h
    have behind : ∀ cs, inkOf n (Text.lines (line ++ cs)) =
        (line.filter fun c => !isBlank c).map (Prod.mk n) ++ inkOf n (Text.lines cs) := by
      intro cs
      clear ih h
      induction line with
      | nil => rfl
      | cons c rest ih =>
        obtain ⟨first, others⟩ := List.forall_mem_cons.mp plain
        rw [List.cons_append, inkOf_lines_cons n first, ih others, List.filter_cons]
        by_cases blank : isBlank c
        · simp [blank]
        · simp [blank]
    cases more with
    | nil =>
      have whole := behind []
      rw [List.append_nil] at whole
      rw [joinLines, whole, inkOf_cons]
      rfl
    | cons next others =>
      rw [joinLines_cons (List.cons_ne_nil _ _), behind, inkOf_lines_lineFeed, ih (n + 1) further,
        inkOf_cons n line]

/-- Trimming its lines leaves the ink of a text where it is. -/
theorem ink_prepared (cs : List Char) : ink (prepared cs) = ink (withoutComments cs) := by
  rw [ink, prepared, inkOf_lines_joinLines 1 (isLineEnd_of_mem_trimmed _), inkOf_map_trimLeft, ink]

/-- The characters of a comment with a blank in the place of each, line ends aside. -/
def faded (cs : List Char) : List Char := cs.map fun c => if isLineEnd c then c else ' '

/-- The piece with its comment faded. -/
def Piece.masked : Piece → List Char
  | .plain c => [c]
  | .line text => ' ' :: ' ' :: faded text
  | .block text => ' ' :: ' ' :: faded text

/-- A script with its comments faded: every character outside of comments is where it was, and so is
every line end. -/
def masked (cs : List Char) : List Char := (pieces cs).flatMap Piece.masked

/-- Every line ends with a line feed, with or without a carriage return before it. -/
def endsWithFeeds : List Char → Bool
  | [] => true
  | '\r' :: '\n' :: rest => endsWithFeeds rest
  | c :: rest => (c == '\n' || !isLineEnd c) && endsWithFeeds rest

theorem endsWithFeeds_cons (h : endsWithFeeds (c :: cs) = true) :
    (isLineEnd c = false ∨ c = '\n' ∨ c = '\r' ∧ cs.head? = some '\n') ∧
    endsWithFeeds cs = true := by
  unfold endsWithFeeds at h
  split at h
  · next same => cases same
  · next rest same =>
    cases same
    have feed : endsWithFeeds ('\n' :: rest) = endsWithFeeds rest := by
      rw [endsWithFeeds]
      · rfl
      · exact fun _ carriage => absurd carriage (by decide)
    exact ⟨.inr (.inr ⟨rfl, rfl⟩), feed.trans h⟩
  · next same =>
    cases same
    simp only [Bool.and_eq_true, Bool.or_eq_true, beq_iff_eq, Bool.not_eq_true'] at h
    exact ⟨h.1.elim (fun feed => .inr (.inl feed)) .inl, h.2⟩

theorem endsWithFeeds_append (h : endsWithFeeds (cs ++ ds) = true) : endsWithFeeds ds = true := by
  induction cs with
  | nil => exact h
  | cons c more ih => exact ih (endsWithFeeds_cons h).2

theorem head?_masked (h : cs.head? = some '\n') : (masked cs).head? = some '\n' := by
  cases cs with
  | nil => cases h
  | cons c rest =>
    cases h
    rw [masked, pieces_plain]
    · rfl
    · exact fun _ same => absurd (List.cons.inj same).1 (by decide)
    · exact fun _ same => absurd (List.cons.inj same).1 (by decide)

theorem head?_withoutComments (h : cs.head? = some '\n') :
    (withoutComments cs).head? = some '\n' := by
  cases cs with
  | nil => cases h
  | cons c rest =>
    cases h
    rw [withoutComments_plain]
    · rfl
    · exact fun _ same => absurd (List.cons.inj same).1 (by decide)
    · exact fun _ same => absurd (List.cons.inj same).1 (by decide)

/-- A faded comment has no ink, and its line feeds start lines. -/
theorem inkOf_lines_faded {text rest : List Char} (feeds : endsWithFeeds (text ++ rest) = true)
    (next : rest.head? = some '\n' → ds.head? = some '\n') (n : Nat) :
    inkOf n (Text.lines (faded text ++ ds)) = inkOf (n + text.count '\n') (Text.lines ds) := by
  induction text generalizing n with
  | nil => rfl
  | cons c more ih =>
    obtain ⟨ends, behind⟩ := endsWithFeeds_cons feeds
    have whole : faded (c :: more) ++ ds = (if isLineEnd c then c else ' ') :: (faded more ++ ds) :=
      rfl
    rw [whole]
    rcases ends with goes | rfl | ⟨rfl, feed⟩
    · have other : ¬ c = '\n' := ne_of_isLineEnd goes (by decide)
      rw [goes, if_neg Bool.false_ne_true, inkOf_lines_cons n (by decide), ih behind,
        List.count_cons_of_ne other]
      rfl
    · rw [if_pos (by decide), inkOf_lines_lineFeed, ih behind, List.count_cons_self]
      congr 1
      omega
    · have feed' : (faded more ++ ds).head? = some '\n' := by
        cases more with
        | nil => exact next feed
        | cons d others =>
          cases feed
          rfl
      rw [if_pos (by decide), inkOf_lines_carriage n feed', ih behind,
        List.count_cons_of_ne (by decide)]

/-- A comment leaves behind its line feeds, or one blank. -/
theorem inkOf_lines_blankFor (text ds : List Char) (n : Nat) :
    inkOf n (Text.lines (blankFor text ++ ds)) = inkOf (n + text.count '\n') (Text.lines ds) := by
  rw [blankFor]
  split
  · next none =>
    rw [none]
    exact inkOf_lines_cons n (by decide) ds
  · generalize text.count '\n' = feeds
    induction feeds generalizing n with
    | zero => rfl
    | succ feeds ih =>
      rw [List.replicate_succ, List.cons_append, inkOf_lines_lineFeed, ih]
      congr 1
      omega

/-- A character outside of comments is there with and without them. -/
theorem inkOf_lines_plain (feeds : endsWithFeeds (c :: cs) = true)
    (ih : ∀ n, inkOf n (Text.lines (masked cs)) = inkOf n (Text.lines (withoutComments cs)))
    (n : Nat) :
    inkOf n (Text.lines (c :: masked cs)) = inkOf n (Text.lines (c :: withoutComments cs)) := by
  rcases (endsWithFeeds_cons feeds).1 with goes | rfl | ⟨rfl, feed⟩
  · rw [inkOf_lines_cons n goes, inkOf_lines_cons n goes, ih]
  · rw [inkOf_lines_lineFeed, inkOf_lines_lineFeed, ih]
  · rw [inkOf_lines_carriage n (head?_masked feed),
      inkOf_lines_carriage n (head?_withoutComments feed), ih]

/-- Fading the comments of a script leaves the same ink on each line as taking them out. -/
theorem inkOf_lines_masked (feeds : endsWithFeeds cs = true) (n : Nat) :
    inkOf n (Text.lines (masked cs)) = inkOf n (Text.lines (withoutComments cs)) := by
  have blank : ∀ n ds, inkOf n (Text.lines (' ' :: ds)) = inkOf n (Text.lines ds) :=
    fun n ds => inkOf_lines_cons n (by decide) ds
  rw [masked]
  fun_induction pieces cs generalizing n with
  | case1 => rw [List.flatMap_nil, withoutComments]
  | case2 rest ih =>
    have inside := (endsWithFeeds_cons (endsWithFeeds_cons feeds).2).2
    rw [← @List.takeWhile_append_dropWhile _ (· ≠ '\n') rest] at inside
    have oneLine : (rest.takeWhile (· ≠ '\n')).count '\n' = 0 := by
      refine List.count_eq_zero.mpr fun feed => ?_
      simpa using List.all_eq_true.mp List.all_takeWhile _ feed
    have fades := inkOf_lines_faded inside head?_masked n
    rw [oneLine, Nat.add_zero] at fades
    rw [List.flatMap_cons, withoutComments, blank, ← ih (endsWithFeeds_append inside)]
    exact (blank n _).trans ((blank n _).trans fades)
  | case3 rest m closed ih =>
    have inside := (endsWithFeeds_cons (endsWithFeeds_cons feeds).2).2
    rw [← List.take_append_drop m rest] at inside
    rw [List.flatMap_cons, withoutComments]
    simp only [closed]
    rw [inkOf_lines_blankFor, ← ih (endsWithFeeds_append inside)]
    exact (blank n _).trans ((blank n _).trans (inkOf_lines_faded inside head?_masked n))
  | case4 rest unclosed ih =>
    have behind := inkOf_lines_plain feeds (ih (endsWithFeeds_cons feeds).2) n
    rw [List.flatMap_cons, withoutComments]
    simp only [unclosed]
    exact behind
  | case5 c rest noLine noBlock ih =>
    have behind := inkOf_lines_plain feeds (ih (endsWithFeeds_cons feeds).2) n
    rw [List.flatMap_cons, withoutComments]
    · exact behind
    · exact noLine
    · exact noBlock

/-- Preparing a script leaves its ink outside of comments in its order and on its lines. -/
theorem ink_masked (feeds : endsWithFeeds cs = true) : ink (masked cs) = ink (prepared cs) := by
  rw [ink_prepared]
  exact inkOf_lines_masked feeds 1

/-- The number of the line that the character with this index stands on. -/
def lineAt (cs : List Char) (i : Nat) : Nat := (Text.lines (cs.take (i + 1))).length

/-- How many characters with ink stand before the one with this index. -/
def inkBefore (cs : List Char) (i : Nat) : Nat := (cs.take i).countP fun c => !isBlank c

variable {d : Char} {i k l : Nat}

theorem isBlank_of_isLineEnd (h : isLineEnd c = true) : isBlank c = true := by
  cases visible : isBlank c with
  | true => rfl
  | false =>
    rw [isLineEnd_eq_false visible] at h
    cases h

theorem lineAt_lineEnd (h : isLineEnd c = true)
    (apart : c = '\r' → cs.head? ≠ some '\n') (i : Nat) :
    lineAt (c :: cs) (i + 1) = lineAt cs i + 1 := by
  have apart' : c = '\r' → (cs.take (i + 1)).head? ≠ some '\n' := by
    rw [List.head?_take, if_neg (Nat.succ_ne_zero i)]
    exact apart
  rw [lineAt, List.take_succ_cons, lines_lineEnd h apart', List.length_cons, lineAt]

theorem lineAt_carriage (h : cs.head? = some '\n')
    (i : Nat) : lineAt ('\r' :: cs) (i + 1) = lineAt cs i := by
  have h' : (cs.take (i + 1)).head? = some '\n' := by
    rw [List.head?_take, if_neg (Nat.succ_ne_zero i), h]
  rw [lineAt, List.take_succ_cons, lines_carriage h', lineAt]

theorem lineAt_cons (h : isLineEnd c = false) (there : cs[i]? = some d) :
    lineAt (c :: cs) (i + 1) = lineAt cs i := by
  cases cs with
  | nil => cases there
  | cons e rest =>
    rw [lineAt, List.take_succ_cons, lines_cons_first h, lineAt, List.take_succ_cons]
    cases same : Text.lines (e :: rest.take i) with
    | nil => exact absurd same (lines_ne_nil _ _)
    | cons line more => rfl

/-- A line end starts a line for all that stands behind it, unless a line feed behind it does. -/
theorem exists_step (c : Char) (cs : List Char) :
    ∃ s, (∀ n, inkOf n (Text.lines (c :: cs)) =
        (if isBlank c then [] else [(n, c)]) ++ inkOf (n + s) (Text.lines cs)) ∧
      ∀ i d, cs[i]? = some d → lineAt (c :: cs) (i + 1) = lineAt cs i + s := by
  by_cases ends : isLineEnd c = true
  · have blank := isBlank_of_isLineEnd ends
    by_cases pair : c = '\r' ∧ cs.head? = some '\n'
    · obtain ⟨rfl, feed⟩ := pair
      exact ⟨0, fun n =>
        by rw [inkOf_lines_carriage n feed, if_pos blank]; rfl, fun i d _ => lineAt_carriage feed i⟩
    · have apart : c = '\r' → cs.head? ≠ some '\n' := fun carriage feed => pair ⟨carriage, feed⟩
      exact ⟨1, fun n => by rw [lines_lineEnd ends apart, inkOf_cons, if_pos blank]; rfl,
        fun i d _ => lineAt_lineEnd ends apart i⟩
  · have goes := Bool.eq_false_iff.mpr ends
    exact ⟨0, fun n => inkOf_lines_cons n goes cs, fun i d there => lineAt_cons goes there⟩

theorem lineAt_zero (c : Char) (cs : List Char) : lineAt (c :: cs) 0 = 1 := by
  have alone : Text.lines [c] = [[]] ∨ Text.lines [c] = [[c]] := by
    by_cases ends : isLineEnd c = true
    · exact .inl (lines_lineEnd ends fun _ none => nomatch none)
    · exact .inr (lines_cons_first (Bool.eq_false_iff.mpr ends) [])
  rw [lineAt, List.take_succ_cons, List.take_zero]
  rcases alone with same | same
  all_goals rw [same]; rfl

theorem inkBefore_cons (c : Char) (cs : List Char) (i : Nat) :
    inkBefore (c :: cs) (i + 1) = inkBefore cs i + if isBlank c then 0 else 1 := by
  rw [inkBefore, List.take_succ_cons, List.countP_cons, inkBefore]
  by_cases blank : isBlank c
  · simp [blank]
  · simp [blank]

/-- A character with ink is found behind all ink before it, with the number of its line. -/
theorem getElem?_inkOf (there : cs[i]? = some d) (visible : isBlank d = false) (n : Nat) :
    ∃ l, (inkOf n (Text.lines cs))[inkBefore cs i]? = some (l, d) ∧ l + 1 = n + lineAt cs i := by
  induction cs generalizing n i with
  | nil => cases there
  | cons c rest ih =>
    obtain ⟨s, read, line⟩ := exists_step c rest
    cases i with
    | zero =>
      cases there
      refine ⟨n, ?_, by rw [lineAt_zero]⟩
      rw [read, visible]
      rfl
    | succ i =>
      obtain ⟨l, found, same⟩ := ih there (n + s)
      refine ⟨l, ?_, by rw [line i d there, same]; omega⟩
      rw [read, inkBefore_cons]
      by_cases blank : isBlank c
      · simpa [blank] using found
      · simpa [blank] using found

/-- All ink is that of characters. -/
theorem exists_index_of_inkOf (found : (inkOf n (Text.lines cs))[k]? = some (l, d)) :
    ∃ i, cs[i]? = some d ∧ isBlank d = false ∧ inkBefore cs i = k ∧ l + 1 = n + lineAt cs i := by
  induction cs generalizing n k with
  | nil => cases found
  | cons c rest ih =>
    obtain ⟨s, read, line⟩ := exists_step c rest
    rw [read] at found
    by_cases blank : isBlank c
    · rw [if_pos blank, List.nil_append] at found
      obtain ⟨i, there, visible, before, same⟩ := ih found
      refine ⟨i + 1, there, visible, ?_, by rw [line i d there, same]; omega⟩
      rw [inkBefore_cons, if_pos blank, before]
      rfl
    · rw [if_neg blank] at found
      cases k with
      | zero =>
        cases found
        exact ⟨0, rfl, Bool.eq_false_iff.mpr blank, rfl, by rw [lineAt_zero]⟩
      | succ k =>
        obtain ⟨i, there, visible, before, same⟩ := ih found
        refine ⟨i + 1, there, visible, ?_, by rw [line i d there, same]; omega⟩
        rw [inkBefore_cons, if_neg blank, before]

/-- A faded text has each of its characters, or a blank in the place of one that ends no line. -/
def Fades (faded c : Char) : Prop := faded = c ∨ faded = ' ' ∧ isLineEnd c = false

theorem fades_faded (text : List Char) : List.Forall₂ Fades (faded text) text := by
  induction text with
  | nil => exact .nil
  | cons c more ih =>
    refine .cons ?_ ih
    by_cases ends : isLineEnd c = true
    · exact .inl (if_pos ends)
    · exact .inr ⟨if_neg ends, Bool.eq_false_iff.mpr ends⟩

theorem fades_masked (cs : List Char) : List.Forall₂ Fades (masked cs) cs := by
  have slash : Fades ' ' '/' := .inr ⟨rfl, by decide⟩
  have star : Fades ' ' '*' := .inr ⟨rfl, by decide⟩
  have each : ∀ ps : List Piece, List.Forall₂ Fades (ps.flatMap Piece.masked)
      (ps.flatMap (Piece.rewritten fun text => '/' :: '*' :: text)) := by
    intro ps
    induction ps with
    | nil => exact .nil
    | cons p more ih =>
      rw [List.flatMap_cons, List.flatMap_cons]
      refine List.rel_append ?_ ih
      cases p with
      | plain c => exact .cons (.inl rfl) .nil
      | line text => exact .cons slash (.cons slash (fades_faded text))
      | block text => exact .cons slash (.cons star (fades_faded text))
  have whole := each (pieces cs)
  rw [← rewritten, rewritten_marks] at whole
  exact whole

/-- Fading leaves the line ends where they are. -/
theorem fades_lineEnd {m : Char} (h : Fades m c) :
    isLineEnd m = isLineEnd c ∧ ∀ e, isLineEnd e = true → (m = e ↔ c = e) := by
  rcases h with rfl | ⟨rfl, goes⟩
  · exact ⟨rfl, fun _ _ => Iff.rfl⟩
  · refine ⟨by rw [goes]; decide, fun e ends => ⟨?_, ?_⟩⟩
    · rintro rfl
      exact absurd ends (by decide)
    · rintro rfl
      rw [goes] at ends
      cases ends

theorem head?_of_fades {ms : List Char} (h : List.Forall₂ Fades ms cs) :
    ms.head? = some '\n' ↔ cs.head? = some '\n' := by
  cases h with
  | nil => exact Iff.rfl
  | cons first _ => simpa using (fades_lineEnd first).2 '\n' (by decide)

theorem length_lines_of_fades {ms : List Char} (h : List.Forall₂ Fades ms cs) :
    (Text.lines ms).length = (Text.lines cs).length := by
  induction h with
  | nil => rfl
  | @cons m c ms cs first others ih =>
    obtain ⟨same, equal⟩ := fades_lineEnd first
    by_cases ends : isLineEnd c = true
    · rcases first with rfl | ⟨_, goes⟩
      · by_cases pair : m = '\r' ∧ cs.head? = some '\n'
        · rw [pair.1, lines_carriage pair.2, lines_carriage ((head?_of_fades others).mpr pair.2),
            ih]
        · have apart : m = '\r' → cs.head? ≠ some '\n' := fun carriage feed => pair ⟨carriage, feed⟩
          have apart' : m = '\r' → ms.head? ≠ some '\n' :=
            fun carriage feed => apart carriage ((head?_of_fades others).mp feed)
          rw [lines_lineEnd ends apart, lines_lineEnd ends apart', List.length_cons,
            List.length_cons, ih]
      · rw [goes] at ends
        cases ends
    · have goes := Bool.eq_false_iff.mpr ends
      rw [lines_cons_first goes, lines_cons_first (same.trans goes), List.length_cons,
        List.length_cons, List.length_tail,
        List.length_tail, ih]

theorem getElem?_of_fades {ms : List Char} (h : List.Forall₂ Fades ms cs) (there : ms[i]? = some c)
    (visible : isBlank c = false) : cs[i]? = some c := by
  induction h generalizing i with
  | nil => cases there
  | cons first _ ih =>
    cases i with
    | succ i => exact ih there
    | zero =>
      cases there
      rcases first with rfl | ⟨rfl, _⟩
      · rfl
      · exact absurd visible (by decide)

/-- What has ink when the comments are faded stands in the script, on the same line. -/
theorem getElem?_of_masked (there : (masked cs)[i]? = some c) (visible : isBlank c = false) :
    cs[i]? = some c ∧ lineAt (masked cs) i = lineAt cs i :=
  ⟨getElem?_of_fades (fades_masked cs) there visible,
    length_lines_of_fades (List.forall₂_take _ (fades_masked cs))⟩

end RateRules.Script
