import RateRules.Proofs.Ink
import RateRules.Proofs.Steps
import RateRules.Script.Reading

/-!
# Where line comments end

A line comment takes everything up to the next line feed, but the lines of the text that is left end
at other characters, too. So a comment takes lines behind its own exactly if its line ends with
something else.
-/
namespace RateRules.Script

open Text (isLineEnd isBlank)

variable {cs text behind : List Char} {ps qs : List Piece}

/-- The text that pieces make up. -/
def written (ps : List Piece) : List Char :=
  ps.flatMap (Piece.rewritten fun text => '/' :: '*' :: text)

theorem exists_behind_piece {p : Piece} (h : pieces cs = p :: qs) :
    ∃ rest, cs = written [p] ++ rest ∧ pieces rest = qs := by
  fun_cases pieces cs with
  | case1 => rw [pieces] at h; cases h
  | case2 rest =>
    rw [pieces] at h
    obtain ⟨rfl, same⟩ := List.cons.inj h
    refine ⟨rest.dropWhile (· ≠ '\n'), ?_, same⟩
    simp [written, Piece.rewritten]
  | case3 rest n closed =>
    rw [pieces] at h
    simp only [closed] at h
    obtain ⟨rfl, same⟩ := List.cons.inj h
    refine ⟨rest.drop n, ?_, same⟩
    simp [written, Piece.rewritten]
  | case4 rest unclosed =>
    rw [pieces] at h
    simp only [unclosed] at h
    obtain ⟨rfl, same⟩ := List.cons.inj h
    exact ⟨'*' :: rest, rfl, same⟩
  | case5 c rest noLine noBlock =>
    rw [pieces_plain] at h
    · obtain ⟨rfl, same⟩ := List.cons.inj h
      exact ⟨rest, rfl, same⟩
    · exact fun more same => noLine more (List.cons.inj same).1 (List.cons.inj same).2
    · exact fun more same => noBlock more (List.cons.inj same).1 (List.cons.inj same).2

/-- What stands behind some pieces has the further pieces. -/
theorem exists_behind_pieces (h : pieces cs = ps ++ qs) :
    ∃ rest, cs = written ps ++ rest ∧ pieces rest = qs := by
  induction ps generalizing cs with
  | nil => exact ⟨cs, rfl, h⟩
  | cons p more ih =>
    obtain ⟨rest, rfl, further⟩ := exists_behind_piece h
    obtain ⟨rest', rfl, left⟩ := ih further
    refine ⟨rest', ?_, left⟩
    rw [← List.append_assoc, written, written, written, ← List.flatMap_append]
    rfl

/-- A line comment has everything up to the next line feed. -/
theorem pieces_eq_line (h : pieces cs = .line text :: qs) :
    '\n' ∉ text ∧ ∃ rest, cs = '/' :: '/' :: (text ++ rest) ∧ pieces rest = qs ∧
    (rest = [] ∨ rest.head? = some '\n') := by
  fun_cases pieces cs with
  | case1 => rw [pieces] at h; cases h
  | case2 rest =>
    rw [pieces] at h
    obtain ⟨same, left⟩ := List.cons.inj h
    obtain rfl := Piece.line.inj same
    refine ⟨fun feed => ?_, rest.dropWhile (· ≠ '\n'),
      by rw [List.takeWhile_append_dropWhile], left, ?_⟩
    · simpa using List.all_eq_true.mp List.all_takeWhile _ feed
    · have stops := List.head?_dropWhile_not (fun c => decide (c ≠ '\n')) rest
      cases behind : rest.dropWhile (· ≠ '\n') with
      | nil => exact .inl rfl
      | cons c more =>
        rw [behind] at stops
        exact .inr (by simpa using stops)
  | case3 rest n closed =>
    rw [pieces] at h
    simp only [closed] at h
    cases h
  | case4 rest unclosed =>
    rw [pieces] at h
    simp only [unclosed] at h
    cases h
  | case5 c rest noLine noBlock =>
    rw [pieces_plain] at h
    · cases h
    · exact fun more same => noLine more (List.cons.inj same).1 (List.cons.inj same).2
    · exact fun more same => noBlock more (List.cons.inj same).1 (List.cons.inj same).2

/-- A text is on one line, or its first line ends. -/
theorem firstLineEnd_cases (cs : List Char) :
    (∀ c ∈ cs, isLineEnd c = false) ∨
      ∃ line e more, cs = line ++ e :: more ∧ (∀ c ∈ line, isLineEnd c = false) ∧
      isLineEnd e = true := by
  induction cs with
  | nil => exact .inl nofun
  | cons c rest ih =>
    by_cases ends : isLineEnd c = true
    · exact .inr ⟨[], c, rest, rfl, nofun, ends⟩
    · have goes := Bool.eq_false_iff.mpr ends
      rcases ih with plain | ⟨line, e, more, rfl, plain, isEnd⟩
      · exact .inl (List.forall_mem_cons.mpr ⟨goes, plain⟩)
      · exact .inr ⟨c :: line, e, more, rfl, List.forall_mem_cons.mpr ⟨goes, plain⟩, isEnd⟩

/-- No character stands beyond the end of the first line. -/
def StaysOnLine (cs : List Char) : Prop := (Text.lines cs).length ≤ 1

theorem staysOnLine_of_plain (h : ∀ c ∈ cs, isLineEnd c = false) : StaysOnLine cs := by
  cases cs with
  | nil => exact Nat.zero_le 1
  | cons c rest =>
    rw [StaysOnLine, lines_singleton h]
    exact Nat.le_refl 1

theorem staysOnLine_append_iff {line more : List Char} {e : Char}
    (plain : ∀ c ∈ line, isLineEnd c = false)
    (ends : isLineEnd e = true) (apart : e = '\r' → more.head? ≠ some '\n') :
    StaysOnLine (line ++ e :: more) ↔ more = [] := by
  rw [StaysOnLine, lines_append_ended plain (lines_lineEnd ends apart), List.length_cons]
  cases more with
  | nil => simp [Text.lines]
  | cons c rest =>
    have some := List.length_pos_iff.mpr (lines_ne_nil c rest)
    simp only [List.cons_ne_nil, iff_false]
    omega

/-- The first line of a text ends with a line feed, right before one, or with the text. -/
def EndsLikeComment (cs : List Char) : Prop :=
  ∀ line e more, cs = line ++ e :: more → (∀ c ∈ line, isLineEnd c = false) → isLineEnd e = true →
    e = '\n' ∨ more = [] ∨ more.head? = some '\n'

theorem staysOnLine_iff (noFeed : '\n' ∉ text) (next : behind = [] ∨ behind.head? = some '\n') :
    StaysOnLine text ↔ EndsLikeComment (text ++ behind) := by
  -- Inside of the comment no carriage return has a line feed behind it.
  have inside : ∀ {line more : List Char} {e : Char}, text = line ++ e :: more →
      more.head? ≠ some '\n' := by
    rintro line more e rfl feed
    exact noFeed (List.mem_append_right _ (List.mem_cons_of_mem e (List.mem_of_mem_head? feed)))
  constructor
  · intro stays line e more same plain ends
    have atEnd : behind = e :: more → e = '\n' := by
      rintro rfl
      exact Option.some.inj (next.resolve_left (List.cons_ne_nil e more))
    rcases List.append_eq_append_iff.mp same with ⟨x, rfl, left⟩ | ⟨x, split, left⟩
    · cases x with
      | nil => exact .inl (atEnd left)
      | cons c rest =>
        rw [left] at next
        obtain rfl : c = '\n' := Option.some.inj (next.resolve_left (List.cons_ne_nil _ _))
        exact absurd (plain '\n' (by simp)) (by decide)
    · cases x with
      | nil => exact .inl (atEnd left.symm)
      | cons c rest =>
        obtain ⟨rfl, rfl⟩ := List.cons.inj left
        rw [split] at stays
        rw [(staysOnLine_append_iff plain ends fun _ => inside split).mp stays]
        exact .inr next
  · intro feeds
    rcases firstLineEnd_cases text with plain | ⟨line, e, more, rfl, plain, ends⟩
    · exact staysOnLine_of_plain plain
    · refine (staysOnLine_append_iff plain ends fun _ => inside rfl).mpr ?_
      rcases feeds line e (more ++ behind) (by simp) plain ends with rfl | none | feed
      · exact absurd (by simp) noFeed
      · exact (List.append_eq_nil_iff.mp none).1
      · cases more with
        | nil => rfl
        | cons c rest =>
          have first : (c :: rest).head? = some '\n' := feed
          exact absurd first (inside rfl)

/-- In every script a line comment takes all characters up to the next line feed and leaves one
blank. It takes no text beyond the end of its line exactly if that line ends with a line feed, right
before one, or with the script. -/
theorem line_comment_stays_on_line_iff (script : String)
    (h : pieces script.toList = ps ++ .line text :: qs) :
    ∃ behind, script.toList = written ps ++ '/' :: '/' :: (text ++ behind) ∧
      withoutComments script.toList = ps.flatMap (Piece.left blankFor) ++ ' '
        :: withoutComments behind ∧
      '\n' ∉ text ∧ (behind = [] ∨ behind.head? = some '\n') ∧
      (StaysOnLine text ↔ EndsLikeComment (text ++ behind)) := by
  obtain ⟨comment, same, further⟩ := exists_behind_pieces h
  obtain ⟨noFeed, behind, rfl, left, next⟩ := pieces_eq_line further
  refine ⟨behind, same, ?_, noFeed, next, staysOnLine_iff noFeed next⟩
  rw [withoutComments_eq, h, List.flatMap_append, List.flatMap_cons, ← left, ← withoutComments_eq]
  rfl

/-- The comment between two rules ends with its line, which a carriage return and a line feed
end. -/
theorem line_comment_before_line_feed :
    ∃ behind, "BTC_USD = 1; // one\r\nBTC_EUR = 2;".toList =
        written ("BTC_USD = 1; ".toList.map .plain) ++ '/' :: '/' :: (" one\r".toList ++ behind) ∧
      StaysOnLine " one\r".toList ∧ EndsLikeComment (" one\r".toList ++ behind) := by
  have comment : pieces "BTC_USD = 1; // one\r\nBTC_EUR = 2;".toList =
      "BTC_USD = 1; ".toList.map .plain ++ .line " one\r".toList ::
        "\nBTC_EUR = 2;".toList.map .plain := by decide +kernel
  obtain ⟨behind, same, _, _, _, ends⟩ := line_comment_stays_on_line_iff _ comment
  have stays : StaysOnLine " one\r".toList := by unfold StaysOnLine; decide +kernel
  exact ⟨behind, same, stays, ends.mp stays⟩

/-- A comment whose line ends with a carriage return alone takes the rule on the next line. -/
theorem line_comment_may_take_rule :
    pieces "BTC_USD = 1; // one\rBTC_EUR = 2;".toList =
        "BTC_USD = 1; ".toList.map .plain ++ [.line " one\rBTC_EUR = 2;".toList] ∧
      ¬ StaysOnLine " one\rBTC_EUR = 2;".toList ∧
      Text.lines "BTC_USD = 1; // one\rBTC_EUR = 2;".toList =
        ["BTC_USD = 1; // one".toList, "BTC_EUR = 2;".toList] ∧
      (statements "BTC_USD = 1; // one\rBTC_EUR = 2;").toOption.map List.length = some 1 ∧
      (statements "BTC_USD = 1; // one\nBTC_EUR = 2;").toOption.map List.length = some 2 := by
  unfold StaysOnLine
  decide +kernel

end RateRules.Script
