import RateRules.Proofs.LineComments
import RateRules.Proofs.LineNumbers
import RateRules.Proofs.RuleTokens
import RateRules.Proofs.Transparency
import RateRules.Proofs.Uncommented

/-!
# Block comments without an end

Preparation leaves a start mark alone that no end mark follows. The scanner then finds a slash and a
star, and no tree of a rule has the one before the other: a slash joins two operands, and no operand
starts with a star.
-/
namespace RateRules.Script

open Text (isLineEnd isBlank trimLeft)

namespace Grammar

variable {tokens rest : List Token}

/-- Usable tokens hold no start mark of a block comment. -/
theorem Usable.holdsOpening (h : Usable tokens rest) (opening : HoldsOpening tokens) :
    HoldsOpening rest := by
  induction h with
  | none => exact opening
  | token usable apart _ ih =>
    obtain ⟨t, more, within, found⟩ := opening
    rcases List.suffix_cons_iff.mp within with same | inside
    · cases same
      rcases found with unusable | ⟨slash, u, next, star⟩
      · rw [(Bool.or_eq_false_iff.mp usable).1] at unusable
        cases unusable
      · rw [apart slash u next] at star
        cases star
    · exact ih ⟨t, more, inside, found⟩

end Grammar

/-- The tokens of a script that is accepted hold no start mark of a block comment. -/
theorem not_holdsOpening {script : String} {ss : List Statement} (h : statements script = .ok ss) :
    ¬ HoldsOpening (scan 1 (withLineEnd (prepared script.toList))).tokens := by
  intro opening
  simp only [statements, bind_eq_ok] at h
  obtain ⟨clauses, hclauses, accepted⟩ := h
  obtain ⟨rest, derived, ends⟩ := derives_of_readWith hclauses
  have clauses' := fun c hc => isAccepted_of_statementsOf accepted c (List.mem_reverse.mp hc)
  obtain ⟨t, more, within, found⟩ :=
    (Grammar.usable_of_derivesClauses derived clauses').holdsOpening opening
  have last : t.lexeme = .textEnd := by
    cases rest with
    | nil => cases List.suffix_nil.mp within
    | cons u others =>
      have isEnd : u.lexeme = .textEnd := ends u rfl
      have ordered :=
        (orderedFrom_scanFrom [] true ⟨1, 0⟩ _).pairwise.sublist derived.isSuffix.sublist
      rcases List.suffix_cons_iff.mp within with same | inside
      · cases same
        exact isEnd
      · have goes := ((List.pairwise_cons.mp ordered).1 t (inside.subset List.mem_cons_self)).1
        rw [Token.isEnd, isEnd] at goes
        cases goes
  rcases found with unusable | ⟨slash, _⟩
  · rw [Token.isUnusable, Token.isBroken, last] at unusable
    cases unusable
  · rw [Token.is, last] at slash
    cases slash

variable {cs ds fore behind : List Char} {ps qs : List Piece}

theorem endsComments_lineFeed (cs : List Char) : EndsComments (cs ++ ['\n']) := by
  intro x y same
  have last := congrArg List.getLast? same
  cases y with
  | nil =>
    rw [List.getLast?_concat, List.getLast?_concat] at last
    cases last
  | cons c more =>
    rw [List.getLast?_concat, List.getLast?_append, List.getLast?_cons_cons] at last
    cases hlast : (c :: more).getLast? with
    | none => cases List.getLast?_eq_none_iff.mp hlast
    | some d =>
      rw [hlast] at last
      cases last
      exact List.mem_of_getLast? hlast

theorem EndsComments.append (h : EndsComments cs) (none : '#' ∉ ds) : EndsComments (cs ++ ds) := by
  intro x y same
  rcases List.append_eq_append_iff.mp same with ⟨z, _, inside⟩ | ⟨z, split, inside⟩
  · exact absurd (by rw [inside]; simp) none
  · cases z with
    | nil => exact absurd (by rw [← List.nil_append ds, ← inside]; exact List.mem_cons_self) none
    | cons c more =>
      obtain ⟨rfl, rfl⟩ := List.cons.inj inside
      exact List.mem_append_left ds (h x more split)

theorem trimLeft_append {c : Char} (visible : isBlank c = false) (line rest : List Char) :
    trimLeft (line ++ c :: rest) = trimLeft line ++ c :: rest := by
  induction line with
  | nil => exact List.dropWhile_cons_of_neg (ne_true_of_eq_false visible)
  | cons d more ih =>
    simp only [trimLeft, List.cons_append, List.dropWhile_cons] at ih ⊢
    split
    · exact ih
    · rfl

theorem endsComments_linesBefore (fore : List Char) :
    EndsComments ((linesBefore fore).flatMap (· ++ ['\n'])) := by
  by_cases none : linesBefore fore = []
  · rw [none]
    intro x y same
    simp at same
  · rw [flatMap_eq_joinLines none]
    exact endsComments_lineFeed _

/-- If no comment of the grammar starts before a slash and a star on their line, they are read
outside of its comments. -/
theorem exists_source_slash (h : '#' ∉ unfinished fore) (behind : List Char) :
    ∃ before rest, source (fore ++ '/' :: '*' :: behind) = before ++ '/' :: '*' :: rest ∧
    EndsComments before := by
  have star : lineBehind ('*' :: behind) = '*' :: lineBehind behind := by
    rw [lineBehind, lines_cons_first (by decide)]
    rfl
  have read := source_eq (fore ++ '/' :: '*' :: behind)
  rw [lines_behind (by decide), star, List.map_append, List.map_cons, trimLeft_append (by decide),
    terminated_append (List.cons_ne_nil _ _), terminated_cons (.inr (.inl (by simp)))] at read
  have none : '#' ∉ trimLeft (unfinished fore) :=
    fun hash => h ((List.dropWhile_sublist _).mem hash)
  refine ⟨(linesBefore fore).flatMap (· ++ ['\n']) ++ trimLeft (unfinished fore),
    lineBehind behind ++ '\n' :: terminated true ((Text.lines ('*' :: behind)).tail.map trimLeft),
    ?_,
    (endsComments_linesBefore fore).append none⟩
  rw [read, List.append_assoc, List.append_assoc]
  rfl

/-- A start mark outside of comments is left alone if no end mark follows it. -/
theorem unclosed_of_pieces (h : pieces cs = ps ++ .plain '/' :: .plain '*' :: qs) :
    ∃ behind, cs = written ps ++ '/' :: '*' :: behind ∧ blockLength? behind = none ∧
      withoutComments cs =
        ps.flatMap (Piece.left blankFor) ++ '/' :: '*' :: withoutComments behind := by
  obtain ⟨_, split, opening⟩ := exists_behind_pieces h
  obtain ⟨_, rfl, star⟩ := exists_behind_piece opening
  obtain ⟨behind, rfl, further⟩ := exists_behind_piece star
  have same : written [.plain '/'] ++ (written [.plain '*'] ++ behind) = '/' :: '*' :: behind := rfl
  rw [same] at split opening
  refine ⟨behind, split, ?_, ?_⟩
  · cases closed : blockLength? behind with
    | none => rfl
    | some n =>
      rw [pieces] at opening
      simp only [closed] at opening
      cases opening
  · rw [withoutComments_eq, h, List.flatMap_append, List.flatMap_cons, List.flatMap_cons, ← further,
      ← withoutComments_eq]
    rfl

theorem parse_eq_error {script : String} {p : Problem} (h : statements script = .error p)
    (given : Given) :
    Rulebook.parse script given = .error (.script p) := by
  rw [Rulebook.parse, Rulebook.tableOf, h]
  rfl

/-- A start mark of a block comment outside of comments has no end mark behind it. The script is
refused, as a script and as a rulebook, if no comment of the grammar hides the start mark: none
starts before it on its line. -/
theorem unclosed_comment_is_refused (script : String)
    (h : pieces script.toList = ps ++ .plain '/' :: .plain '*' :: qs)
    (visible : '#' ∉ unfinished (ps.flatMap (Piece.left blankFor))) :
    (∃ behind, script.toList = written ps ++ '/' :: '*' :: behind ∧ blockLength? behind = none) ∧
      ∃ p, statements script = .error p ∧
      ∀ given, Rulebook.parse script given = .error (.script p) := by
  obtain ⟨behind, split, unclosed, left⟩ := unclosed_of_pieces h
  refine ⟨⟨behind, split, unclosed⟩, ?_⟩
  cases hread : statements script with
  | error p => exact ⟨p, rfl, parse_eq_error hread⟩
  | ok ss =>
    have tokens := not_holdsOpening hread
    obtain ⟨before, rest, same, ends⟩ := exists_source_slash visible (withoutComments behind)
    have read : withLineEnd (prepared script.toList) = before ++ '/' :: '*' :: rest := by
      rw [← same, ← left]
      rfl
    have apart := (cleared_withLineEnd _).slashesApart (uncommented_prepared script.toList).slashes
    rw [read] at tokens apart
    exact absurd (holdsOpening_scanFrom ends apart [] true ⟨1, 0⟩) tokens

/-- A start mark behind a rule, with a closed comment before it. -/
theorem unclosed_comment_behind_rule :
    (∃ behind, "/* # */ BTC_USD = 1; /* x".toList =
        written (.block " # */".toList ::
          " BTC_USD = 1; ".toList.map .plain) ++ '/' :: '*' :: behind ∧
          blockLength? behind = none) ∧
      ∃ p, statements "/* # */ BTC_USD = 1; /* x" = .error p ∧
        ∀ given, Rulebook.parse "/* # */ BTC_USD = 1; /* x" given = .error (.script p) := by
  have comment : pieces "/* # */ BTC_USD = 1; /* x".toList =
      (.block " # */".toList :: " BTC_USD = 1; ".toList.map .plain) ++
        .plain '/' :: .plain '*' :: " x".toList.map .plain := by
    decide +kernel
  exact unclosed_comment_is_refused _ comment (by decide +kernel)

/-- A comment of the grammar hides the start mark behind it, and the script is accepted. -/
theorem unclosed_comment_may_be_hidden :
    pieces "BTC_USD = 1; # /* x".toList =
        "BTC_USD = 1; # ".toList.map .plain ++ .plain '/' :: .plain '*' :: " x".toList.map .plain ∧
      blockLength? " x".toList = none ∧
      (statements "BTC_USD = 1; # /* x").toOption.map List.length = some 1 ∧
      (Rulebook.parse "BTC_USD = 1; # /* x" (.decimal .one)).toOption.isSome = true := by
  decide +kernel

end RateRules.Script
