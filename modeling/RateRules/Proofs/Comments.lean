import RateRules.Script.Prepared

/-!
# The comments of a script

A script consists of plain characters, line comments and closed block comments. What preparation
leaves of it is known piece by piece. Blanks and line feeds in the place of a block comment stay as
they are, since they never make a comment out of what stands around them.
-/
namespace RateRules.Script

/-- A character outside of comments, the text of a line comment behind its slashes, or the text of a
block comment behind its start mark. -/
inductive Piece where
  | plain (c : Char)
  | line (text : List Char)
  | block (text : List Char)
  deriving DecidableEq, Repr

def pieces : List Char → List Piece
  | [] => []
  | '/' :: '/' :: rest => .line (rest.takeWhile (· ≠ '\n')) :: pieces (rest.dropWhile (· ≠ '\n'))
  | '/' :: '*' :: rest =>
    match blockLength? rest with
    | some n => .block (rest.take n) :: pieces (rest.drop n)
    | none => .plain '/' :: pieces ('*' :: rest)
  | c :: rest => .plain c :: pieces rest
termination_by cs => cs.length
decreasing_by
  · have h := (List.dropWhile_sublist (fun c => decide (c ≠ '\n')) (l := rest)).length_le
    simp only [List.length_cons]
    omega
  · simp only [List.length_drop, List.length_cons]
    omega
  · simp only [List.length_cons]
    omega
  · simp only [List.length_cons]
    omega

namespace Piece

/-- The piece in a script, with another text in the place of a block comment. -/
def rewritten (insert : List Char → List Char) : Piece → List Char
  | plain c => [c]
  | line text => '/' :: '/' :: text
  | block text => insert text

/-- What is left of the piece without comments, with this text in the place of a block comment. -/
def left (insert : List Char → List Char) : Piece → List Char
  | plain c => [c]
  | line _ => [' ']
  | block text => insert text

end Piece

/-- A script with other texts in the places of its closed block comments. -/
def rewritten (insert : List Char → List Char) (cs : List Char) : List Char :=
  (pieces cs).flatMap (Piece.rewritten insert)

variable {insert : List Char → List Char} {c : Char} {cs rest : List Char}

theorem pieces_plain (noLine : ∀ more, c :: rest ≠ '/' :: '/' :: more)
    (noBlock : ∀ more, c :: rest ≠ '/' :: '*' :: more) :
    pieces (c :: rest) = .plain c :: pieces rest := by
  rw [pieces]
  · rintro more rfl rfl
    exact noLine more rfl
  · rintro more rfl rfl
    exact noBlock more rfl

theorem withoutComments_plain (noLine : ∀ more, c :: rest ≠ '/' :: '/' :: more)
    (noBlock : ∀ more, c :: rest ≠ '/' :: '*' :: more) :
    withoutComments (c :: rest) = c :: withoutComments rest := by
  rw [withoutComments]
  · rintro more rfl rfl
    exact noLine more rfl
  · rintro more rfl rfl
    exact noBlock more rfl

/-- The pieces make up the script. -/
theorem rewritten_marks (cs : List Char) : rewritten (fun text => '/' :: '*' :: text) cs = cs := by
  rw [rewritten]
  fun_induction pieces cs with
  | case1 => rfl
  | case2 rest ih =>
    rw [List.flatMap_cons, ih]
    simp [Piece.rewritten]
  | case3 rest n closed ih =>
    rw [List.flatMap_cons, ih]
    simp [Piece.rewritten]
  | case4 rest unclosed ih =>
    rw [List.flatMap_cons, ih]
    rfl
  | case5 c rest noLine noBlock ih =>
    rw [List.flatMap_cons, ih]
    rfl

/-- What preparation leaves of a script, piece by piece. -/
theorem withoutComments_eq (cs : List Char) :
    withoutComments cs = (pieces cs).flatMap (Piece.left blankFor) := by
  fun_induction pieces cs with
  | case1 => rw [withoutComments, List.flatMap_nil]
  | case2 rest ih =>
    rw [withoutComments, List.flatMap_cons, ← ih]
    rfl
  | case3 rest n closed ih =>
    rw [withoutComments, List.flatMap_cons, ← ih]
    simp only [closed]
    rfl
  | case4 rest unclosed ih =>
    rw [withoutComments, List.flatMap_cons, ← ih]
    simp only [unclosed]
    rfl
  | case5 c rest noLine noBlock ih =>
    rw [withoutComments, List.flatMap_cons, ← ih]
    · rfl
    · exact noLine
    · exact noBlock

/-- A comment leaves nothing but blanks and line feeds behind. -/
theorem mem_blankFor {comment : List Char} (h : c ∈ blankFor comment) : c = ' ' ∨ c = '\n' := by
  simp only [blankFor] at h
  split at h
  · exact .inl (List.mem_singleton.mp h)
  · exact .inr (List.mem_replicate.mp h).2

theorem blankFor_ne_nil (comment : List Char) : blankFor comment ≠ [] := by
  rw [blankFor]
  split
  · exact List.cons_ne_nil _ _
  · next some => simpa using some

theorem unclosed_tail (h : blockLength? (c :: rest) = none) : blockLength? rest = none := by
  unfold blockLength? at h
  split at h
  · next same => cases same
  · cases h
  · next same =>
    cases same
    exact Option.map_eq_none_iff.mp h

theorem unclosed_suffix (h : blockLength? cs = none) (behind : rest <:+ cs) :
    blockLength? rest = none := by
  induction cs with
  | nil =>
    rw [List.suffix_nil.mp behind]
    exact h
  | cons c more ih =>
    rcases List.suffix_cons_iff.mp behind with rfl | inside
    · exact h
    · exact ih (unclosed_tail h) inside

/-- Without an end mark there is no block comment. -/
theorem rewritten_of_unclosed (h : blockLength? cs = none) : rewritten insert cs = cs := by
  rw [rewritten]
  fun_induction pieces cs with
  | case1 => rfl
  | case2 rest ih =>
    have behind : rest.dropWhile (· ≠ '\n') <:+ '/' :: '/' :: rest :=
      (List.dropWhile_suffix _).trans ((List.suffix_cons _ _).trans (List.suffix_cons _ _))
    rw [List.flatMap_cons, ih (unclosed_suffix h behind)]
    simp [Piece.rewritten]
  | case3 rest n closed ih =>
    rw [unclosed_tail (unclosed_tail h)] at closed
    cases closed
  | case4 rest unclosed ih =>
    rw [List.flatMap_cons, ih (unclosed_tail h)]
    rfl
  | case5 c rest noLine noBlock ih =>
    rw [List.flatMap_cons, ih (unclosed_tail h)]
    rfl

theorem withoutComments_append {blanks : List Char} (h : ∀ c ∈ blanks, c ≠ '/') (rest : List Char) :
    withoutComments (blanks ++ rest) = blanks ++ withoutComments rest := by
  induction blanks with
  | nil => rfl
  | cons c more ih =>
    have other := h c List.mem_cons_self
    rw [List.cons_append, withoutComments_plain, ih fun d hd => h d (List.mem_cons_of_mem c hd),
      List.cons_append]
    · exact fun more same => other (List.cons.inj same).1
    · exact fun more same => other (List.cons.inj same).1

theorem rewritten_cons (noSlash : c ≠ '/') :
    rewritten insert (c :: rest) = c :: rewritten insert rest := by
  rw [rewritten, pieces_plain]
  · rfl
  · exact fun more same => noSlash (List.cons.inj same).1
  · exact fun more same => noSlash (List.cons.inj same).1

theorem dropWhile_rewritten (cs : List Char) :
    (rewritten insert (cs.dropWhile (· ≠ '\n'))).dropWhile (· ≠ '\n') =
      rewritten insert (cs.dropWhile (· ≠ '\n')) := by
  induction cs with
  | nil => simp [rewritten, pieces]
  | cons c more ih =>
    by_cases ends : c = '\n'
    · subst ends
      rw [List.dropWhile_cons_of_neg (by decide), rewritten_cons (by decide)]
      exact List.dropWhile_cons_of_neg (by decide)
    · rw [List.dropWhile_cons_of_pos (by simpa using ends)]
      exact ih

/-- Texts without slashes in the places of the block comments stay as they are. -/
theorem withoutComments_rewritten (h : ∀ text, insert text ≠ [] ∧ ∀ c ∈ insert text, c ≠ '/')
    (cs : List Char) :
    withoutComments (rewritten insert cs) = (pieces cs).flatMap (Piece.left insert) := by
  fun_induction pieces cs with
  | case1 => rw [rewritten, pieces, List.flatMap_nil, withoutComments, List.flatMap_nil]
  | case2 rest ih =>
    have whole : rewritten insert ('/' :: '/' :: rest) =
        '/' :: '/' ::
          (rest.takeWhile (· ≠ '\n') ++ rewritten insert (rest.dropWhile (· ≠ '\n'))) := by
      rw [rewritten, pieces]
      rfl
    have behind :
      (rest.takeWhile (· ≠ '\n') ++ rewritten insert (rest.dropWhile (· ≠ '\n'))).dropWhile
      (· ≠ '\n') =
        rewritten insert (rest.dropWhile (· ≠ '\n')) := by
      rw [List.dropWhile_append_of_pos (List.all_eq_true.mp List.all_takeWhile)]
      exact dropWhile_rewritten rest
    rw [whole, withoutComments, behind, ih]
    rfl
  | case3 rest n closed ih =>
    have whole : rewritten insert ('/' :: '*' :: rest) = insert (rest.take n) ++ rewritten insert
        (rest.drop n) := by
      rw [rewritten, pieces]
      simp only [closed]
      rfl
    rw [whole, withoutComments_append (h _).2, ih]
    rfl
  | case4 rest unclosed ih =>
    have whole : rewritten insert ('/' :: '*' :: rest) = '/' :: '*' :: rest := by
      rw [rewritten, pieces]
      simp only [unclosed]
      exact congrArg ('/' :: ·) ((rewritten_cons (by decide)).trans
        (congrArg ('*' :: ·) (rewritten_of_unclosed unclosed)))
    rw [rewritten_cons (by decide), rewritten_of_unclosed unclosed] at ih
    rw [whole, withoutComments]
    simp only [unclosed]
    rw [ih]
    rfl
  | case5 c rest noLine noBlock ih =>
    have whole : rewritten insert (c :: rest) = c :: rewritten insert rest := by
      rw [rewritten, pieces_plain]
      · rfl
      · rintro more same
        obtain ⟨rfl, rfl⟩ := List.cons.inj same
        exact noLine more rfl rfl
      · rintro more same
        obtain ⟨rfl, rfl⟩ := List.cons.inj same
        exact noBlock more rfl rfl
    -- What follows a slash starts like the script, so it makes no comment with the slash.
    have apart : ∀ d, (d = '/' ∨ d = '*') →
        ∀ more, c :: rewritten insert rest ≠ '/' :: d :: more := by
      intro d mark more same
      obtain ⟨rfl, behind⟩ := List.cons.inj same
      cases rest with
      | nil => simp [rewritten, pieces] at behind
      | cons r tail =>
        by_cases slash : r = '/'
        · exact noLine tail rfl (by rw [slash])
        · rw [rewritten_cons slash] at behind
          obtain ⟨rfl, _⟩ := List.cons.inj behind
          rcases mark with rfl | rfl
          · exact slash rfl
          · exact noBlock tail rfl rfl
    rw [whole, withoutComments_plain (apart '/' (Or.inl rfl)) (apart '*' (Or.inr rfl)), ih]
    rfl

end RateRules.Script
