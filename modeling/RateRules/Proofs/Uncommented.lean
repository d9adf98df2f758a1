import Mathlib.Data.List.DropRight
import RateRules.Proofs.Comments
import RateRules.Proofs.PreparedText
import RateRules.Proofs.Slashes

/-!
# Texts without comments

What preparation leaves of a script has no comment. It puts blanks in the places of comments and
line ends, so a slash or a star only meets another one that it met in the script before. A text
without comments stays as it is, but for a line feed at its end.
-/
namespace RateRules.Script

open Text (isLineEnd isBlank trimLeft)

variable {c d : Char} {cs ds rest before gap : List Char} {lines : List (List Char)}

/-- No two slashes follow each other, and no end mark of a block comment stands anywhere behind a
start mark. -/
structure Uncommented (cs : List Char) : Prop where
  slashes : SlashesApart cs
  blocks : ∀ before behind, cs = before ++ '/' :: '*' :: behind → ¬ ['*', '/'] <:+: behind

theorem blockLength?_eq_none_iff (cs : List Char) :
    blockLength? cs = none ↔ ¬ ['*', '/'] <:+: cs := by
  fun_induction blockLength? cs with
  | case1 => simp
  | case2 rest =>
    have closed : ['*', '/'] <:+: '*' :: '/' :: rest := (List.prefix_append ['*', '/'] rest).isInfix
    simp [closed]
  | case3 c rest goes ih =>
    have apart : ¬ ['*', '/'] <+: c :: rest := by
      rintro ⟨more, same⟩
      obtain ⟨rfl, rfl⟩ := List.cons.inj same
      exact goes more rfl rfl
    rw [Option.map_eq_none_iff, ih, List.infix_cons_iff, or_iff_right apart]

theorem Uncommented.suffix (h : Uncommented cs) (within : rest <:+ cs) : Uncommented rest := by
  obtain ⟨first, rfl⟩ := within
  refine ⟨h.slashes.suffix (List.suffix_append first rest), ?_⟩
  rintro before behind rfl
  exact h.blocks (first ++ before) behind (List.append_assoc ..).symm

theorem Uncommented.cons (h : Uncommented cs) (noLine : ∀ more, c :: cs ≠ '/' :: '/' :: more)
    (noBlock : ∀ more, c :: cs = '/' :: '*' :: more → ¬ ['*', '/'] <:+: more) :
    Uncommented (c :: cs) := by
  constructor
  · intro slashes
    rcases List.infix_cons_iff.mp slashes with ⟨more, same⟩ | inside
    · exact noLine more same.symm
    · exact h.slashes inside
  · intro before behind same
    cases before with
    | nil => exact noBlock behind same
    | cons d more => exact h.blocks more behind (List.cons.inj same).2

/-- A text without comments has nothing to take out. -/
theorem Uncommented.withoutComments_eq (h : Uncommented cs) : withoutComments cs = cs := by
  fun_induction withoutComments cs with
  | case1 => rfl
  | case2 rest => exact absurd (List.prefix_append ['/', '/'] rest).isInfix h.slashes
  | case3 rest n closed =>
    have unclosed := (blockLength?_eq_none_iff rest).mpr (h.blocks [] rest rfl)
    rw [closed] at unclosed
    cases unclosed
  | case4 rest unclosed ih => rw [ih (h.suffix (List.suffix_cons _ _))]
  | case5 c rest noLine noBlock ih => rw [ih (h.suffix (List.suffix_cons _ _))]

/-- The characters that marks of comments consist of. -/
def isMark (c : Char) : Bool := c == '/' || c == '*'

/-- The second text is the first one with blanks in the places of some parts, and perhaps without
its end. -/
inductive Cleared : List Char → List Char → Prop
  | ended (cs : List Char) : Cleared cs []
  | kept (c : Char) {cs ds : List Char} (behind : Cleared cs ds) : Cleared (c :: cs) (c :: ds)
  | blank {b : Char} {cs rest ds : List Char} (noMark : isMark b = false) (within : rest <:+ cs)
      (behind : Cleared rest ds) : Cleared cs (b :: ds)

theorem Cleared.refl (cs : List Char) : Cleared cs cs := by
  induction cs with
  | nil => exact .ended []
  | cons c rest ih => exact .kept c ih

theorem Cleared.blanks (h : Cleared rest ds) (some : gap ≠ [])
    (noMarks : ∀ b ∈ gap, isMark b = false)
    (within : rest <:+ cs) : Cleared cs (gap ++ ds) := by
  induction gap with
  | nil => exact absurd rfl some
  | cons b more ih =>
    obtain ⟨first, others⟩ := List.forall_mem_cons.mp noMarks
    by_cases last : more = []
    · rw [last]
      exact .blank first within h
    · exact .blank first List.suffix_rfl (ih last others)

/-- Blanks behind a text. -/
theorem Cleared.append (noMarks : ∀ b ∈ gap, isMark b = false) (cs : List Char) :
    Cleared cs (cs ++ gap) := by
  induction cs with
  | nil =>
    by_cases none : gap = []
    · rw [none]
      exact .ended []
    · rw [List.nil_append, ← List.append_nil gap]
      exact (Cleared.ended []).blanks none noMarks List.suffix_rfl
  | cons c rest ih => exact .kept c ih

/-- What is left behind some place comes from behind some place. -/
theorem Cleared.exists_behind (h : Cleared cs (before ++ ds)) :
    ∃ rest, rest <:+ cs ∧ Cleared rest ds := by
  induction before generalizing cs with
  | nil => exact ⟨cs, List.suffix_rfl, h⟩
  | cons c more ih =>
    cases h with
    | kept _ behind =>
      obtain ⟨rest, within, left⟩ := ih behind
      exact ⟨rest, within.trans (List.suffix_cons _ _), left⟩
    | blank _ within' behind =>
      obtain ⟨rest, within, left⟩ := ih behind
      exact ⟨rest, within.trans within', left⟩

theorem Cleared.exists_first (h : Cleared cs (c :: ds)) (mark : isMark c = true) :
    ∃ rest, cs = c :: rest ∧ Cleared rest ds := by
  cases h with
  | kept _ behind => exact ⟨_, rfl, behind⟩
  | blank noMark =>
    rw [noMark] at mark
    cases mark

/-- Two characters of marks that follow each other did so before. -/
theorem Cleared.exists_marks (h : Cleared cs (before ++ c :: d :: ds)) (first : isMark c = true)
    (second : isMark d = true) :
    ∃ before' rest, cs = before' ++ c :: d :: rest ∧ Cleared rest ds := by
  obtain ⟨_, ⟨before', whole⟩, behind⟩ := h.exists_behind
  obtain ⟨_, rfl, further⟩ := behind.exists_first first
  obtain ⟨rest, rfl, left⟩ := further.exists_first second
  exact ⟨before', rest, whole.symm, left⟩

theorem Cleared.infix_of_marks (h : Cleared cs ds) (first : isMark c = true)
    (second : isMark d = true)
    (inside : [c, d] <:+: ds) : [c, d] <:+: cs := by
  obtain ⟨before, behind, rfl⟩ := inside
  rw [List.append_assoc] at h
  obtain ⟨before', rest, rfl, _⟩ := h.exists_marks first second
  exact ⟨before', rest, List.append_assoc ..⟩

theorem Cleared.slashesApart (h : Cleared cs ds) (apart : SlashesApart cs) : SlashesApart ds :=
  fun slashes => apart (h.infix_of_marks rfl rfl slashes)

/-- Blanks bring in no comment. -/
theorem Cleared.uncommented (h : Cleared cs ds) (none : Uncommented cs) : Uncommented ds := by
  refine ⟨h.slashesApart none.slashes, ?_⟩
  rintro before behind rfl closed
  obtain ⟨before', rest, same, left⟩ := h.exists_marks rfl rfl
  exact none.blocks before' rest same (left.infix_of_marks rfl rfl closed)

theorem cleared_withLineEnd (cs : List Char) : Cleared cs (withLineEnd cs) := by
  rw [withLineEnd]
  split
  · exact .refl cs
  · exact .append (List.forall_mem_singleton.mpr rfl) cs

theorem isMark_of_mem_blankFor {comment : List Char} (h : c ∈ blankFor comment) :
    isMark c = false := by
  rcases mem_blankFor h with rfl | rfl <;> rfl

theorem cleared_withoutComments (cs : List Char) : Cleared cs (withoutComments cs) := by
  fun_induction withoutComments cs with
  | case1 => exact .ended []
  | case2 rest ih =>
    exact .blank rfl ((List.dropWhile_suffix _).trans
      ((List.suffix_cons _ _).trans (List.suffix_cons _ _))) ih
  | case3 rest n closed ih =>
    exact ih.blanks (blankFor_ne_nil _) (fun _ => isMark_of_mem_blankFor)
      ((List.drop_suffix n rest).trans ((List.suffix_cons _ _).trans (List.suffix_cons _ _)))
  | case4 rest unclosed ih => exact .kept '/' ih
  | case5 c rest noLine noBlock ih => exact .kept c ih

theorem withoutComments_ne_nil (h : cs ≠ []) : withoutComments cs ≠ [] := by
  fun_cases withoutComments cs with
  | case1 => exact absurd rfl h
  | case3 => exact List.append_ne_nil_of_left_ne_nil (blankFor_ne_nil _) _
  | _ => exact List.cons_ne_nil _ _

/-- Without its comments a text has no comment: what is left makes up no new one. -/
theorem uncommented_withoutComments (cs : List Char) : Uncommented (withoutComments cs) := by
  fun_induction withoutComments cs with
  | case1 => exact ⟨by simp [SlashesApart], by simp⟩
  | case2 rest ih => exact (Cleared.blank rfl List.suffix_rfl (.refl _)).uncommented ih
  | case3 rest n closed ih =>
    exact ((Cleared.refl _).blanks (blankFor_ne_nil _) (fun _ => isMark_of_mem_blankFor)
      List.suffix_rfl).uncommented ih
  | case4 rest unclosed ih =>
    have star : withoutComments ('*' :: rest) = '*' :: withoutComments rest :=
      withoutComments_plain (by simp) (by simp)
    rw [star] at ih ⊢
    refine ih.cons (by simp) ?_
    rintro more same closed
    obtain rfl := (List.cons.inj (List.cons.inj same).2).2
    exact (blockLength?_eq_none_iff rest).mp unclosed
      ((cleared_withoutComments rest).infix_of_marks rfl rfl closed)
  | case5 c rest noLine noBlock ih =>
    -- What is left behind a slash starts with a mark only if the text does.
    have apart : ∀ d, isMark d = true → ∀ more, c :: withoutComments rest = '/' :: d :: more →
        ∃ more', c = '/' ∧ rest = d :: more' := by
      intro d mark more same
      obtain ⟨rfl, behind⟩ := List.cons.inj same
      have left := cleared_withoutComments rest
      rw [behind] at left
      obtain ⟨more', same, _⟩ := left.exists_first mark
      exact ⟨more', rfl, same⟩
    refine ih.cons ?_ ?_
    · intro more same
      obtain ⟨more', slash, next⟩ := apart '/' rfl more same
      exact noLine more' slash next
    · intro more same
      obtain ⟨more', slash, next⟩ := apart '*' rfl more same
      exact absurd next (noBlock more' slash)

theorem joinLines_cons_append (c : Char) (line : List Char) (more : List (List Char)) :
    joinLines ((c :: line) :: more) = c :: joinLines (line :: more) := by
  cases more with
  | nil => rfl
  | cons next further =>
    rw [joinLines_cons (List.cons_ne_nil _ _), joinLines_cons (List.cons_ne_nil _ _),
      List.cons_append]

/-- Lines whose first one keeps its leading blanks end with the trimmed ones. -/
theorem joinLines_trimLeft_suffix (lines : List (List Char)) :
    joinLines (lines.map trimLeft) <:+ joinLines (lines.headD [] :: lines.tail.map trimLeft) := by
  cases lines with
  | nil => exact List.suffix_rfl
  | cons line more =>
    obtain ⟨leading, same⟩ := List.dropWhile_suffix (l := line) isBlank
    have whole : line = leading ++ trimLeft line := same.symm
    refine ⟨leading, ?_⟩
    cases more with
    | nil => exact same
    | cons next further =>
      simp only [List.map_cons, List.headD_cons, List.tail_cons]
      rw [joinLines_cons (List.cons_ne_nil _ _), joinLines_cons (List.cons_ne_nil _ _),
        ← List.append_assoc, ← whole]

/-- Joined again, the trimmed lines are the text with blanks in the places of line ends and of what
is trimmed. -/
theorem cleared_lines (cs : List Char) :
    Cleared cs (joinLines ((Text.lines cs).headD [] :: (Text.lines cs).tail.map trimLeft)) := by
  -- A line end is a blank before the trimmed lines behind it, if there are any.
  have lineEnd : ∀ {cs rest : List Char}, rest <:+ cs →
      Cleared rest (joinLines ((Text.lines rest).headD [] :: (Text.lines rest).tail.map trimLeft)) →
      Cleared cs (joinLines ([] :: (Text.lines rest).map trimLeft)) := by
    intro cs rest within behind
    by_cases none : (Text.lines rest).map trimLeft = []
    · rw [none]
      exact .ended cs
    · obtain ⟨leading, same⟩ := joinLines_trimLeft_suffix (Text.lines rest)
      rw [← same] at behind
      obtain ⟨rest', within', left⟩ := behind.exists_behind
      rw [joinLines_cons none]
      exact .blank rfl (within'.trans within) left
  fun_induction Text.lines cs with
  | case1 => exact .ended []
  | case2 rest ih => exact lineEnd ((List.suffix_cons _ _).trans (List.suffix_cons _ _)) ih
  | case3 c rest noPair ends ih => exact lineEnd (List.suffix_cons _ _) ih
  | case4 c rest noPair goes none ih => exact .kept c (.ended rest)
  | case5 c rest noPair goes line more behind ih =>
    rw [behind] at ih
    rw [List.headD_cons, List.tail_cons, joinLines_cons_append]
    exact .kept c ih

/-- What preparation leaves has no comment. -/
theorem uncommented_prepared (cs : List Char) : Uncommented (prepared cs) :=
  ((cleared_lines _).uncommented (uncommented_withoutComments cs)).suffix
    (joinLines_trimLeft_suffix _)

/-- A text without the line feed at its end, if it has one. -/
def withoutLineFeed (cs : List Char) : List Char :=
  if cs.getLast? = some '\n' then cs.dropLast else cs

/-- Joined lines are the lines of the text, but that a last line without characters is none. -/
theorem lines_joinLines_eq (h : ∀ l ∈ lines, ∀ c ∈ l, isLineEnd c = false) :
    Text.lines (joinLines lines) = if lines.getLast? = some [] then lines.dropLast else lines := by
  induction lines with
  | nil => rfl
  | cons line more ih =>
    obtain ⟨plain, others⟩ := List.forall_mem_cons.mp h
    cases more with
    | nil =>
      cases line with
      | nil => rfl
      | cons c rest => exact lines_singleton plain
    | cons next further =>
      rw [joinLines_cons (List.cons_ne_nil _ _), lines_append_lineFeed plain, ih others,
        List.getLast?_cons_cons,
        List.dropLast_cons_cons]
      split <;> rfl

theorem withoutLineFeed_joinLines (h : ∀ l ∈ lines, ∀ c ∈ l, isLineEnd c = false) :
    withoutLineFeed (joinLines lines) =
      joinLines (if lines.getLast? = some [] then lines.dropLast else lines) := by
  rcases lines.eq_nil_or_concat' with rfl | ⟨before, line, rfl⟩
  · rfl
  rw [List.getLast?_concat, List.dropLast_concat, joinLines_concat]
  by_cases empty : line = []
  · subst empty
    rw [if_pos rfl, List.append_nil]
    by_cases none : before = []
    · rw [none]
      rfl
    · rw [flatMap_eq_joinLines none, withoutLineFeed, List.getLast?_concat, if_pos rfl,
        List.dropLast_concat]
  · have last : (before.flatMap (· ++ ['\n']) ++ line).getLast? ≠ some '\n' := by
      rw [List.getLast?_append_of_ne_nil _ empty]
      intro feed
      cases h line (by simp) '\n' (List.mem_of_getLast? feed)
    rw [if_neg (fun same => empty (Option.some.inj same)), withoutLineFeed, if_neg last,
      joinLines_concat]

/-- Preparing a prepared text takes a line feed off its end and nothing else. -/
theorem prepared_prepared (cs : List Char) :
    prepared (prepared cs) = withoutLineFeed (prepared cs) := by
  have plain := isLineEnd_of_mem_trimmed (withoutComments cs)
  have trimmed : ∀ l ∈ (Text.lines (withoutComments cs)).map trimLeft, trimLeft l = l := by
    intro l hl
    obtain ⟨line, _, rfl⟩ := List.mem_map.mp hl
    exact List.dropWhile_idempotent _ line
  have again : prepared (prepared cs) = joinLines ((Text.lines (prepared cs)).map trimLeft) := by
    rw [prepared, (uncommented_prepared cs).withoutComments_eq]
  have same : Text.lines (prepared cs) = _ := lines_joinLines_eq plain
  have kept : (Text.lines (prepared cs)).map trimLeft = Text.lines (prepared cs) := by
    rw [List.map_congr_left (g := id), List.map_id]
    intro l hl
    rw [same] at hl
    split at hl
    · exact trimmed l (List.dropLast_subset _ hl)
    · exact trimmed l hl
  rw [again, kept, same]
  exact (withoutLineFeed_joinLines plain).symm

end RateRules.Script
