import RateRules.Proofs.PartedLines
import RateRules.Proofs.Comments
import RateRules.Proofs.Lookahead
import RateRules.Proofs.PreparedText

/-!
# Comments mean nothing where line feeds mean nothing

A block comment leaves a blank or its line feeds behind. The line feeds do not matter inside
brackets, before the first token of a line, right behind a semicolon and where nothing else follows
on the line. A comment that stands there can be replaced by a blank.
-/
namespace RateRules.Script

open Placeless
open Grammar (Parted StartsInside)
open Text (isBlank trimLeft)

section Scanning

variable {opened : Opened} {fresh : Bool} {place : Place} {rest rest' : List Char}

/-- Two texts have the same tokens at some place of a script, apart from the places. -/
def AlikeAt (opened : Opened) (fresh : Bool) (place : Place) (rest rest' : List Char) : Prop :=
  placeless (scanFrom opened fresh place rest).tokens =
    placeless (scanFrom opened fresh place rest').tokens

theorem AlikeAt.trans {third : List Char} (h : AlikeAt opened fresh place rest rest')
    (h' : AlikeAt opened fresh place rest' third) : AlikeAt opened fresh place rest third :=
  Eq.trans h h'

theorem AlikeAt.symm (h : AlikeAt opened fresh place rest rest') :
    AlikeAt opened fresh place rest' rest := Eq.symm h

theorem placeless_moved (opened : Opened) (fresh : Bool) (place place' : Place) (rest : List Char) :
    placeless (scanFrom opened fresh place rest).tokens =
      placeless (scanFrom opened fresh place' rest).tokens :=
  placeless_scanFrom opened fresh place rest place' rfl

theorem alikeAt_blanks {blanks : List Char} (h : ∀ c ∈ blanks, isScanBlank c = true)
    (rest : List Char) :
    AlikeAt opened fresh place (blanks ++ rest) rest := by
  induction blanks generalizing place with
  | nil => rfl
  | cons c more ih =>
    have behind : AlikeAt opened fresh (place.after [c]) (more ++ rest) rest :=
      ih fun d hd => h d (List.mem_cons_of_mem c hd)
    rw [AlikeAt, List.cons_append, scanFrom_blank (h c List.mem_cons_self)]
    exact Eq.trans behind (placeless_moved _ _ _ _ _)

/-- Line feeds inside brackets and before the first token of a line. -/
theorem alikeAt_lineFeeds (skips : (fresh || !opened.isEmpty) = true) (n : Nat) (rest : List Char) :
    AlikeAt opened fresh place (List.replicate n '\n' ++ rest) rest := by
  induction n generalizing place with
  | zero => rfl
  | succ n ih =>
    rw [AlikeAt, List.replicate_succ, List.cons_append, scanFrom_lineFeed_skipped skips]
    exact Eq.trans ih (placeless_moved _ _ _ _ _)

/-- Behind a line feed the line has no token, or brackets are open. -/
theorem alikeAt_behind_lineFeed
    (h : ∀ {fresh place}, (fresh || !opened.isEmpty) = true →
      AlikeAt opened fresh place rest rest') :
    AlikeAt opened fresh place ('\n' :: rest) ('\n' :: rest') := by
  by_cases skips : (fresh || !opened.isEmpty) = true
  · rw [AlikeAt, scanFrom_lineFeed_skipped skips, scanFrom_lineFeed_skipped skips]
    exact h skips
  · obtain ⟨rfl, rfl⟩ : fresh = false ∧ opened = [] := by simpa using skips
    rw [AlikeAt, scanFrom_lineFeed, scanFrom_lineFeed]
    exact cons_congr rfl (h rfl)

/-- Further line feeds behind a line feed do not matter. -/
theorem alikeAt_further_lineFeeds (n : Nat) (rest : List Char) :
    AlikeAt opened fresh place ('\n' :: rest) ('\n' :: (List.replicate n '\n' ++ rest)) :=
  alikeAt_behind_lineFeed fun skips => (alikeAt_lineFeeds skips n rest).symm

/-- Whether a line without characters gets a line feed does not matter where line feeds do not. -/
theorem alikeAt_terminated (skips : (fresh || !opened.isEmpty) = true) (started started' : Bool)
    (line : List Char)
    (more : List (List Char)) :
    AlikeAt opened fresh place (terminated started (line :: more))
    (terminated started' (line :: more)) := by
  by_cases last : line = [] ∧ more = []
  · obtain ⟨rfl, rfl⟩ := last
    have feed : AlikeAt opened fresh place ['\n'] [] := alikeAt_lineFeeds skips 1 []
    cases started with
    | false =>
      cases started' with
      | false => rfl
      | true => exact feed
    | true =>
      cases started' with
      | false => exact feed.symm
      | true => rfl
  · have goes : line ≠ [] ∨ more ≠ [] := Classical.not_and_iff_not_or_not.mp last
    rw [terminated_cons (Or.inr goes), terminated_cons (Or.inr goes)]
    rfl

theorem startsInside_broken (place : Place) (opened : Opened) (ending : Ending) :
    StartsInside (Lexed.stop .broken place opened ending).tokens := by
  rintro _ ⟨⟩
  exact ⟨rfl, Lexeme.noConfusion⟩

theorem startsInside_of_visible {c : Char} (start : c ∉ skipped) :
    StartsInside (scanFrom opened fresh place (c :: rest)).tokens := by
  rw [scanFrom_visible start]
  split
  · exact startsInside_broken _ _ _
  · next found hfound =>
    have isToken := isToken_of_lexemeAt? hfound
    split
    · exact startsInside_broken _ _ _
    · rintro _ ⟨⟩
      refine ⟨beq_eq_false_iff_ne.mpr (Lexeme.ne_lineEnd_of_isToken isToken), fun isEnd => ?_⟩
      have noEnd := Lexeme.isEnd_of_isToken isToken
      rw [show found.lexeme = .textEnd from isEnd] at noEnd
      cases noEnd

/-- What follows the first characters of a text ends as the text does. -/
theorem getLast?_of_append {first : List Char} (h : (first ++ rest).getLast? = some '\n')
    (goes : '\n' ∉ first) : rest.getLast? = some '\n' := by
  rw [List.getLast?_append] at h
  cases last : rest.getLast? with
  | some c =>
    rw [last] at h
    exact h
  | none =>
    rw [last, Option.none_or] at h
    exact absurd (List.mem_of_getLast? h) goes

/-- A comment of the grammar has no line feed. -/
theorem not_mem_comment {n : Nat} (h : (rest.takeWhile (· ≠ '\n')).length = n) :
    '\n' ∉ '#' :: rest.take n := by
  have taken := List.prefix_iff_eq_take.mp (List.takeWhile_prefix (p := (· ≠ '\n')) (l := rest))
  rw [← h, ← taken]
  intro inside
  rcases List.mem_cons.mp inside with hash | inside
  · exact absurd hash (by decide)
  · exact absurd (List.mem_takeWhile_imp inside) (by decide)

variable {t : Token} {tokens tokens' : List Token}

/-- A token is read alike whether or not it is the first one of its line. -/
theorem placeless_scanFrom_visible {c : Char} (start : c ∉ skipped) (fresh fresh' : Bool)
    (place place' : Place) :
    placeless (scanFrom opened fresh place (c :: rest)).tokens =
      placeless (scanFrom opened fresh' place' (c :: rest)).tokens := by
  rw [placeless_moved _ _ _ place', scanFrom_visible start, scanFrom_visible start]

/-- Whether a line ends behind a semicolon does not matter to what follows. -/
theorem parted_lineEnd (isSemicolon : t.is ";" = true) (last : rest.getLast? = some '\n')
    {place place' feed : Place}
    (same : placeless tokens = placeless (scanFrom [] false place rest).tokens)
    (same' : placeless tokens' = placeless (scanFrom [] true place' rest).tokens) :
    Parted (t :: tokens) (t :: ⟨.lineEnd, feed, 0⟩ :: tokens') := by
  generalize hn : rest.length = n
  induction n using Nat.strongRecOn generalizing rest place place' with
  | ind n ih =>
    cases rest with
    | nil => cases last
    | cons c more =>
      rw [List.length_cons] at hn
      by_cases blank : isScanBlank c = true
      · rw [scanFrom_blank blank] at same same'
        have goes : '\n' ∉ [c] := by
          intro inside
          rw [← List.mem_singleton.mp inside] at blank
          cases blank
        have behind := @getLast?_of_append more [c] last goes
        exact ih more.length (by omega) behind same same' rfl
      by_cases comment : c = '#'
      · subst comment
        rw [scanFrom_comment rfl] at same same'
        generalize hk : (more.takeWhile (· ≠ '\n')).length = k at same same'
        rw [← List.take_append_drop k more, ← List.cons_append] at last
        have behind := getLast?_of_append last (not_mem_comment hk)
        exact ih (more.drop k).length (by rw [List.length_drop]; omega) behind same same' rfl
      by_cases ends : c = '\n'
      · subst ends
        rw [scanFrom_lineFeed] at same
        rw [scanFrom_lineFeed_skipped rfl, placeless_moved _ _ _ (place.after ['\n'])] at same'
        exact .same (cons_congr rfl (same.trans (cons_congr rfl same'.symm)))
      by_cases joins : c = '\\'
      · subst joins
        by_cases further : ∃ d behind, more = '\n' :: d :: behind
        · obtain ⟨d, behind, rfl⟩ := further
          rw [scanFrom_joined (List.cons_ne_nil d behind)] at same same'
          have shorter : (d :: behind).length < n := by
            rw [List.length_cons] at hn
            omega
          exact ih (d :: behind).length shorter (by simpa using last) same same' rfl
        · have alone : ∀ behind, more = '\n' :: behind → behind = [] := by
            rintro behind rfl
            cases behind with
            | nil => rfl
            | cons d behind => exact absurd ⟨d, behind, rfl⟩ further
          rw [scanFrom_stray alone] at same same'
          have inside := (startsInside_broken place [] .complete).congr same.symm
          exact .right t.place isSemicolon rfl inside (same.trans same'.symm)
      · have start := not_mem_skipped blank comment ends joins
        have alike := same.trans (placeless_scanFrom_visible start false true place place')
        have inside := (startsInside_of_visible start).congr same.symm
        exact .right t.place isSemicolon rfl inside (alike.trans same'.symm)

end Scanning

/-- Two texts have the same tokens, apart from their places, but a line may end behind a semicolon
in one of them. -/
def AlikeTexts (cs cs' : List Char) : Prop := Parted (scan 1 cs).tokens (scan 1 cs').tokens

theorem alikeTexts_behind {first rest rest' : List Char} {stand : Stand}
    (h : standBehind? [] true false ⟨1, 0⟩ first = some stand) (stops : Stops rest)
    (stops' : Stops rest') (alike : AlikeAt stand.opened stand.fresh stand.place rest rest') :
    AlikeTexts (first ++ rest) (first ++ rest') := by
  obtain ⟨tokens, _, scanned⟩ := scanFrom_standBehind? h
  rw [AlikeTexts, scan, scan, scanned rest stops, scanned rest' stops']
  exact .same (append_congr rfl alike)

theorem exists_last_of_endSeparated {tokens : List Token} (h : endSeparated false tokens = true) :
    ∃ before t, tokens = before ++ [t] ∧ t.is ";" = true := by
  rw [endSeparated] at h
  cases last : tokens.getLast? with
  | none =>
    rw [last] at h
    cases h
  | some t =>
    rw [last] at h
    obtain ⟨before, same⟩ := List.getLast?_eq_some_iff.mp last
    exact ⟨before, t, same, h⟩

/-- Behind a semicolon a line may end. -/
theorem alikeTexts_behind_semicolon {first rest rest' read : List Char} {place : Place}
    (h : standBehind? [] true false ⟨1, 0⟩ first = some ⟨[], false, true, place⟩)
    (stops : Stops rest) (stops' : Stops rest') (last : read.getLast? = some '\n')
    (alike : AlikeAt [] false place rest read)
    (alike' : AlikeAt [] false place rest' ('\n' :: read)) :
    AlikeTexts (first ++ rest) (first ++ rest') := by
  obtain ⟨tokens, separated, scanned⟩ := scanFrom_standBehind? h
  obtain ⟨before, t, rfl, isSemicolon⟩ := exists_last_of_endSeparated separated
  rw [AlikeAt, scanFrom_lineFeed] at alike'
  obtain ⟨u, behind, feed, isFeed, same'⟩ := cons_of_placeless_eq alike'.symm
  obtain ⟨feeds, rfl⟩ := Token.eq_of_placeless_eq isFeed
  rw [AlikeTexts, scan, scan, scanned rest stops, scanned rest' stops', Lexed.behind, Lexed.behind,
    feed, List.append_assoc, List.append_assoc]
  exact (parted_lineEnd isSemicolon last alike same'.symm).prepend before

/-- Nothing but blanks stands on the line behind a text. -/
def startsLine (before : List Char) : Bool := (unfinished before).all isBlank

/-- What stands on the line behind a comment. -/
def lineBehind (behind : List Char) : List Char := (Text.lines behind).headD []

/-- Where the scanner stands when it comes to a comment behind this text. -/
def standBefore? (before : List Char) : Option Stand :=
  let settled := if startsLine before then finished before else before
  standBehind? [] true false ⟨1, 0⟩ (joinLines ((Text.lines settled).map trimLeft))

/-- A line feed means nothing between two texts: it does not stand inside a token or right behind a
backslash, and it stands before the first token of a line, inside brackets, behind a semicolon or
behind the last token of a line. A carriage return at the end of a script would be one line end with
it. -/
def isQuiet (before behind : List Char) : Bool :=
  (before.getLast? != some '\r' || !behind.isEmpty) && (standBefore? before).any fun stand =>
    startsLine before ||
      ((lineBehind behind).takeWhile isBlank).all isScanBlank &&
        (stand.fresh || !stand.opened.isEmpty || stand.separated ||
          (lineBehind behind).all isBlank)

variable {before behind : List Char}

theorem head?_append_ne {line rest : List Char} (h : ∀ c ∈ line, Text.isLineEnd c = false)
    (behind : line = [] → rest.head? ≠ some '\n') : (line ++ rest).head? ≠ some '\n' := by
  cases line with
  | nil => exact behind rfl
  | cons d more =>
    intro same
    have goes := h d List.mem_cons_self
    rw [Option.some.inj same] at goes
    cases goes

theorem lines_behind {c : Char} (hc : Text.isLineEnd c = false) (before behind : List Char) :
    Text.lines (before ++ c :: behind) =
      Text.lines (finished before) ++
        (unfinished before ++ c :: lineBehind behind) :: (Text.lines behind).tail := by
  have whole : before ++ c :: behind = finished before ++ (unfinished before ++ c :: behind) := by
    rw [← List.append_assoc, finished_append_unfinished]
  have goes := isLineEnd_unfinished before
  have apart : c ≠ '\n' := ne_of_isLineEnd hc (by decide)
  rw [whole, lines_append (endsLine_finished before) fun _ => head?_append_ne goes fun _ =>
    by simpa using apart,
    lines_append_first goes hc]
  rfl

theorem unfinished_of_carriage (last : before.getLast? = some '\r') : unfinished before = [] := by
  obtain ⟨first, rfl⟩ := List.getLast?_eq_some_iff.mp last
  rw [unfinished, List.reverse_append]
  rfl

/-- A line feed behind a carriage return ends no further line. -/
theorem lines_carriage_lineFeed (last : before.getLast? = some '\r') :
    Text.lines (before ++ ['\n']) = Text.lines before := by
  obtain ⟨first, rfl⟩ := List.getLast?_eq_some_iff.mp last
  have goes := isLineEnd_unfinished first
  have split : ∀ {rest : List Char}, Text.lines ('\r' :: rest) = [[]] →
      Text.lines (first ++ '\r' :: rest) = Text.lines (finished first) ++ [unfinished first] := by
    intro rest ends
    have whole : first ++ '\r' :: rest = finished first ++ (unfinished first ++ '\r' :: rest) := by
      rw [← List.append_assoc, finished_append_unfinished]
    rw [whole, lines_append (endsLine_finished first) fun _ => head?_append_ne goes fun _ =>
      by simp,
      lines_append_ended goes ends]
  rw [List.append_assoc, split rfl]
  exact split rfl

theorem lines_behind_lineFeeds (last : before.getLast? ≠ some '\r') (n : Nat) (behind : List Char) :
    Text.lines (before ++ (List.replicate (n + 1) '\n' ++ behind)) =
      Text.lines (finished before) ++ unfinished before ::
        (List.replicate n [] ++ Text.lines behind) := by
  have whole : before ++ (List.replicate (n + 1) '\n' ++ behind) =
      finished before ++ (unfinished before ++ '\n' :: (List.replicate n '\n' ++ behind)) := by
    rw [← List.append_assoc (finished before), finished_append_unfinished]
    rfl
  have goes := isLineEnd_unfinished before
  have apart : (finished before).getLast? = some '\r' →
      (unfinished before ++ '\n' :: (List.replicate n '\n' ++ behind)).head? ≠ some '\n' := by
    intro carriage
    refine head?_append_ne goes fun none => ?_
    have same := finished_append_unfinished before
    rw [none, List.append_nil] at same
    rw [same] at carriage
    exact absurd carriage last
  rw [whole, lines_append (endsLine_finished before) apart, lines_append_lineFeed goes,
    lines_lineFeeds]

theorem lines_behind_carriage (last : before.getLast? = some '\r') (n : Nat) (behind : List Char) :
    Text.lines (before ++ (List.replicate (n + 1) '\n' ++ behind)) =
      Text.lines (finished before) ++ (List.replicate n [] ++ Text.lines behind) := by
  have whole : before ++ (List.replicate (n + 1) '\n' ++ behind) =
      (before ++ ['\n']) ++ (List.replicate n '\n' ++ behind) := by
    rw [List.append_assoc]
    rfl
  have ends : EndsLine (before ++ ['\n']) := by
    intro c hc
    rw [List.getLast?_concat] at hc
    rw [← Option.some.inj hc]
    decide
  have same := finished_append_unfinished before
  rw [unfinished_of_carriage last, List.append_nil] at same
  rw [whole, lines_append ends (by simp), lines_lineFeeds, lines_carriage_lineFeed last, same]

/-- The complete lines of a text as they are read. -/
def linesBefore (before : List Char) : List (List Char) :=
  (Text.lines (finished before)).map trimLeft

/-- The lines behind a comment as they are read, the first one from the comment on. -/
def linesBehind (behind : List Char) : List (List Char) :=
  trimLeft (lineBehind behind) :: (Text.lines behind).tail.map trimLeft

theorem terminated_linesBehind (started : Bool) (behind : List Char) :
    terminated started ((Text.lines behind).map trimLeft) =
      terminated started (linesBehind behind) := by
  rw [← terminated_headD started ((Text.lines behind).map trimLeft), linesBehind, lineBehind]
  cases Text.lines behind <;> rfl

theorem isEmpty_linesBefore (h : linesBefore before ≠ []) :
    (!(linesBefore before).isEmpty) = true := by
  simpa using h

theorem trimLeft_of_all {line : List Char} (h : line.all isBlank = true) : trimLeft line = [] := by
  rw [← List.append_nil line, trimLeft, List.dropWhile_append_of_pos (List.all_eq_true.mp h)]
  rfl

/-- Behind a blank line, a comment leaves the lines behind it. -/
theorem source_blank_at_start (starts : startsLine before = true) (behind : List Char) :
    source (before ++ ' ' :: behind) =
      (linesBefore before).flatMap (· ++ ['\n']) ++ terminated (!(linesBefore before).isEmpty)
      (linesBehind behind) := by
  have blank : ∀ c ∈ unfinished before, isBlank c = true := List.all_eq_true.mp starts
  have trimmed : trimLeft (unfinished before ++ ' ' :: lineBehind behind) =
      trimLeft (lineBehind behind) := by
    rw [trimLeft, List.dropWhile_append_of_pos blank]
    exact List.dropWhile_cons_of_pos (by decide)
  rw [source_eq, lines_behind (by decide), List.map_append, List.map_cons, trimmed]
  exact terminated_append (List.cons_ne_nil _ _) false

theorem exists_source_lineFeeds_at_start (last : before.getLast? ≠ some '\r' ∨ behind ≠ [])
    (starts : startsLine before = true) (n : Nat) :
    ∃ m started, (linesBefore before ≠ [] → started = true) ∧
      source (before ++ (List.replicate (n + 1) '\n' ++ behind)) =
        (linesBefore before).flatMap (· ++ ['\n']) ++
          (List.replicate m '\n' ++ terminated started (linesBehind behind)) := by
  -- The lines of the line feeds have no character.
  obtain ⟨k, some, feeds⟩ : ∃ k, List.replicate k [] ++ (Text.lines behind).map trimLeft ≠ [] ∧
      (Text.lines (before ++ (List.replicate (n + 1) '\n' ++ behind))).map trimLeft =
        linesBefore before ++ (List.replicate k [] ++ (Text.lines behind).map trimLeft) := by
    have blanks : ∀ k, (List.replicate k ([] : List Char)).map trimLeft = List.replicate k [] :=
      fun _ => List.map_replicate
    by_cases carriage : before.getLast? = some '\r'
    · refine ⟨n, ?_, ?_⟩
      · cases behind with
        | nil => exact absurd rfl (last.resolve_left fun other => other carriage)
        | cons c more => simp [lines_ne_nil]
      · rw [lines_behind_carriage carriage, List.map_append, List.map_append, blanks, linesBefore]
    · refine ⟨n + 1, by simp [List.replicate_succ], ?_⟩
      rw [lines_behind_lineFeeds carriage, List.map_append, List.map_cons, List.map_append, blanks,
        trimLeft_of_all starts, linesBefore]
      rfl
  obtain ⟨m, started, goes, same⟩ :=
    exists_terminated_blank k ((Text.lines behind).map trimLeft) (!(linesBefore before).isEmpty)
  refine ⟨m, started, fun h => goes (isEmpty_linesBefore h), ?_⟩
  rw [source_eq, feeds, ← terminated_linesBehind, ← same]
  exact terminated_append some false

theorem standBefore?_at_start (starts : startsLine before = true) :
    standBefore? before = standBehind? [] true false ⟨1, 0⟩ (joinLines (linesBefore before)) := by
  rw [standBefore?, starts]
  rfl

/-- A comment with nothing before it on its line. -/
theorem alikeTexts_at_start {stand : Stand} (starts : startsLine before = true)
    (last : before.getLast? ≠ some '\r' ∨ behind ≠ [])
    (hstand : standBefore? before = some stand) (n : Nat) :
    AlikeTexts (source (before ++ ' ' :: behind))
    (source (before ++ (List.replicate (n + 1) '\n' ++ behind))) := by
  obtain ⟨m, started, goes, feeds⟩ := exists_source_lineFeeds_at_start last starts n
  rw [source_blank_at_start starts, feeds]
  rw [standBefore?_at_start starts] at hstand
  -- Line feeds are skipped behind the lines before the comment.
  have skipped : ∀ {opened fresh place started'}, (fresh || !opened.isEmpty) = true →
      AlikeAt opened fresh place (terminated started' (linesBehind behind))
        (List.replicate m '\n' ++ terminated started (linesBehind behind)) :=
    fun skips => (alikeAt_terminated skips _ _ _ _).trans (alikeAt_lineFeeds skips m _).symm
  by_cases none : linesBefore before = []
  · rw [none]
    exact .same (@skipped [] true ⟨1, 0⟩ false rfl)
  · rw [flatMap_eq_joinLines none, List.append_assoc, List.append_assoc]
    exact alikeTexts_behind hstand (stops_cons (by decide) _) (stops_cons (by decide) _)
      (alikeAt_behind_lineFeed fun skips => skipped skips)

/-- The characters before a comment on its line, as they are read. -/
def lineBefore (before : List Char) : List Char := trimLeft (unfinished before)

theorem dropWhile_append_of_not_all {p : Char → Bool} {line : List Char} (h : line.all p = false)
    (rest : List Char) :
    (line ++ rest).dropWhile p = line.dropWhile p ++ rest := by
  induction line with
  | nil => cases h
  | cons c more ih =>
    rw [List.cons_append, List.dropWhile_cons, List.dropWhile_cons]
    split
    · next blank =>
      rw [List.all_cons, blank, Bool.true_and] at h
      exact ih h
    · rfl

theorem trimLeft_unfinished_append (inside : startsLine before = false) (rest : List Char) :
    trimLeft (unfinished before ++ rest) = lineBefore before ++ rest :=
  dropWhile_append_of_not_all inside rest

theorem lineBefore_ne_nil (inside : startsLine before = false) :
    trimLeft (unfinished before) ≠ [] := by
  intro none
  have whole := @List.takeWhile_append_dropWhile _ isBlank (unfinished before)
  rw [show (unfinished before).dropWhile isBlank = [] from none, List.append_nil] at whole
  rw [startsLine, ← whole, List.all_takeWhile] at inside
  cases inside

theorem source_blank_inside (inside : startsLine before = false) (behind : List Char) :
    source (before ++ ' ' :: behind) =
      ((linesBefore before).flatMap (· ++ ['\n']) ++ lineBefore before) ++
        ' ' ::
          (lineBehind behind ++ '\n' ::
            terminated true ((Text.lines behind).tail.map trimLeft)) := by
  have goes : lineBefore before ++ ' ' :: lineBehind behind ≠ [] :=
    List.append_ne_nil_of_right_ne_nil _ (List.cons_ne_nil _ _)
  rw [source_eq, lines_behind (by decide), List.map_append, List.map_cons,
    trimLeft_unfinished_append inside,
    terminated_append (List.cons_ne_nil _ _), terminated_cons (Or.inr (Or.inl goes))]
  simp [linesBefore]

theorem exists_source_lineFeeds_inside (inside : startsLine before = false)
    (last : before.getLast? ≠ some '\r')
    (n : Nat) (behind : List Char) :
    ∃ m, source (before ++ (List.replicate (n + 1) '\n' ++ behind)) =
      ((linesBefore before).flatMap (· ++ ['\n']) ++ lineBefore before) ++
        '\n' :: (List.replicate m '\n' ++ terminated true (linesBehind behind)) := by
  have blanks : (List.replicate n ([] : List Char)).map trimLeft = List.replicate n [] :=
    List.map_replicate
  obtain ⟨m, _, started, same⟩ := exists_terminated_blank n ((Text.lines behind).map trimLeft) true
  obtain rfl := started rfl
  refine ⟨m, ?_⟩
  rw [source_eq, lines_behind_lineFeeds last, List.map_append, List.map_cons,
    List.map_append, blanks,
    terminated_append (List.cons_ne_nil _ _),
    terminated_cons (Or.inr (Or.inl (lineBefore_ne_nil inside))), same,
    terminated_linesBehind]
  simp [linesBefore, lineBefore]

theorem standBefore?_inside (inside : startsLine before = false) :
    standBefore? before =
      standBehind? [] true false ⟨1, 0⟩ ((linesBefore before).flatMap (· ++ ['\n']) ++
        lineBefore before) := by
  have single : Text.lines (unfinished before) = [unfinished before] := by
    cases hline : unfinished before with
    | nil =>
      rw [startsLine, hline] at inside
      cases inside
    | cons c more =>
      refine lines_singleton fun d hd => isLineEnd_unfinished before d ?_
      rw [hline]
      exact hd
  have goes :=
    @head?_append_ne (unfinished before) [] (isLineEnd_unfinished before) fun _ => by decide
  rw [List.append_nil] at goes
  have whole := lines_append (endsLine_finished before) fun _ => goes
  rw [finished_append_unfinished, single] at whole
  rw [standBefore?, inside, ← joinLines_concat]
  simp [whole, linesBefore, lineBefore]

/-- The line behind a comment as it is read, without the blanks that it starts with. -/
theorem read_linesBehind (behind : List Char) :
    terminated false (linesBehind behind) =
      (lineBehind behind).dropWhile isBlank ++ '\n' ::
        terminated true ((Text.lines behind).tail.map trimLeft) :=
  terminated_cons (Or.inl rfl)

theorem getLast?_linesBehind (behind : List Char) :
    (terminated false (linesBehind behind)).getLast? = some '\n' := by
  have last := eq_of_mem_getLast?_terminated false (linesBehind behind)
  rw [read_linesBehind, List.getLast?_append_cons, List.getLast?_cons] at last ⊢
  exact congrArg some (last _ rfl)

variable {opened : Opened} {fresh : Bool} {place : Place}

/-- Behind a blank the line goes on with what is read of it. -/
theorem alikeAt_blank_lineBehind
    (h : ((lineBehind behind).takeWhile isBlank).all isScanBlank = true) :
    AlikeAt opened fresh place
      (' ' ::
        (lineBehind behind ++ '\n' :: terminated true ((Text.lines behind).tail.map trimLeft)))
      (terminated false (linesBehind behind)) := by
  have blanks : ∀ c ∈ ' ' :: (lineBehind behind).takeWhile isBlank, isScanBlank c = true :=
    List.forall_mem_cons.mpr ⟨by decide, List.all_eq_true.mp h⟩
  have whole := @List.takeWhile_append_dropWhile _ isBlank (lineBehind behind)
  have skipped :=
    @alikeAt_blanks opened fresh place _ blanks (terminated false (linesBehind behind))
  rw [read_linesBehind, List.cons_append, ← List.append_assoc, whole, ← read_linesBehind] at skipped
  exact skipped

/-- Behind line feeds, what is read of the line starts a line. -/
theorem alikeAt_lineFeeds_linesBehind (m : Nat) (behind : List Char) :
    AlikeAt opened fresh place
      ('\n' :: (List.replicate m '\n' ++ terminated true (linesBehind behind)))
      ('\n' :: terminated false (linesBehind behind)) :=
  (alikeAt_further_lineFeeds m _).symm.trans
    (alikeAt_behind_lineFeed fun skips => alikeAt_terminated skips true false _ _)

/-- A comment behind the first characters of a line. -/
theorem alikeTexts_inside (quiet : isQuiet before behind = true)
    (inside : startsLine before = false) (n : Nat) :
    AlikeTexts (source (before ++ ' ' :: behind))
    (source (before ++ (List.replicate (n + 1) '\n' ++ behind))) := by
  have last : before.getLast? ≠ some '\r' := by
    intro carriage
    rw [startsLine, unfinished_of_carriage carriage] at inside
    cases inside
  simp only [isQuiet, inside, Bool.false_or, Bool.and_eq_true] at quiet
  obtain ⟨stand, hstand, quiet⟩ := Option.any_eq_true .. |>.mp quiet.2
  rw [Bool.and_eq_true, Bool.or_eq_true, Bool.or_eq_true] at quiet
  obtain ⟨blanks, goes⟩ := quiet
  obtain ⟨m, feeds⟩ := exists_source_lineFeeds_inside inside last n behind
  rw [source_blank_inside inside, feeds]
  rw [standBefore?_inside inside] at hstand
  have stops : ∀ rest, Stops (' ' :: rest) ∧ Stops ('\n' :: rest) :=
    fun rest => ⟨stops_cons (by decide) rest, stops_cons (by decide) rest⟩
  -- Where a line feed is skipped, and where it ends the line, the same line is read behind it.
  have skipped : AlikeAt stand.opened stand.fresh stand.place
      (terminated false (linesBehind behind)) ('\n' :: terminated false (linesBehind behind)) →
      AlikeTexts _ _ := fun feed =>
    alikeTexts_behind hstand (stops _).1 (stops _).2 ((alikeAt_blank_lineBehind blanks).trans
      (feed.trans (alikeAt_lineFeeds_linesBehind m behind).symm))
  by_cases skips : (stand.fresh || !stand.opened.isEmpty) = true
  · exact skipped (alikeAt_lineFeeds skips 1 _).symm
  rcases goes with (again | separated) | alone
  · exact absurd again skips
  · obtain ⟨opened, fresh, _, place⟩ := stand
    obtain ⟨rfl, rfl⟩ : fresh = false ∧ opened = [] := by simpa using skips
    obtain rfl := separated
    exact alikeTexts_behind_semicolon hstand (stops _).1 (stops _).2 (getLast?_linesBehind behind)
      (alikeAt_blank_lineBehind blanks) (alikeAt_lineFeeds_linesBehind m behind)
  · refine skipped ?_
    have none : trimLeft (lineBehind behind) = [] := trimLeft_of_all alone
    rw [linesBehind, none, terminated_cons (Or.inl rfl)]
    exact alikeAt_further_lineFeeds 1 _

theorem alikeTexts_source (quiet : isQuiet before behind = true) (n : Nat) :
    AlikeTexts (source (before ++ ' ' :: behind))
    (source (before ++ (List.replicate (n + 1) '\n' ++ behind))) := by
  cases starts : startsLine before with
  | true =>
    simp only [isQuiet, Bool.and_eq_true, Bool.or_eq_true, bne_iff_ne, Bool.not_eq_true',
      ← Bool.not_eq_true,
      List.isEmpty_iff] at quiet
    obtain ⟨last, found⟩ := quiet
    obtain ⟨stand, hstand, -⟩ := Option.any_eq_true .. |>.mp found
    exact alikeTexts_at_start starts last hstand n
  | false => exact alikeTexts_inside quiet starts n

/-- What a script says whose comments are taken out. -/
def statementsIn (cs : List Char) : Except Problem (List Statement) := do
  let clauses ← readWith Grammar.wholeScript (source cs)
  statementsOf clauses

theorem answer?_statementsIn {cs cs' : List Char} (same : AlikeTexts (source cs) (source cs'))
    (null : '\x00' ∈ cs ↔ '\x00' ∈ cs') :
    answer? (statementsIn cs) = answer? (statementsIn cs') := by
  refine answer?_of_parted same ?_
  rw [mem_source (by decide), mem_source (by decide)]
  exact null

/-- A blank in the place of every closed block comment. -/
def blanked (script : String) : String := String.ofList (rewritten (fun _ => [' ']) script.toList)

/-- Its line feeds, or a blank if it has none, in the place of every closed block comment. -/
def outlined (script : String) : String := String.ofList (rewritten blankFor script.toList)

/-- The piece is a block comment that reaches over a line feed. -/
def Piece.breaks : Piece → Bool
  | block text => text.contains '\n'
  | _ => false

/-- Every block comment among the pieces that reaches over a line feed stands where line feeds mean
nothing. `before` is what stands before the pieces, with a blank for each comment. -/
def allQuiet (before : List Char) : List Piece → Bool
  | [] => true
  | p :: more =>
    (!p.breaks || isQuiet before (more.flatMap (Piece.left blankFor))) &&
      allQuiet (before ++ p.left fun _ => [' ']) more

theorem answer?_piece (p : Piece) (before behind : List Char)
    (h : (!p.breaks || isQuiet before behind) = true) :
    answer? (statementsIn (before ++ (p.left fun _ => [' ']) ++ behind)) =
      answer? (statementsIn (before ++ p.left blankFor ++ behind)) := by
  cases p with
  | plain c => rfl
  | line text => rfl
  | block text =>
    cases breaks : text.count '\n' with
    | zero => simp only [Piece.left, blankFor, breaks, if_true]
    | succ n =>
      have inside : '\n' ∈ text := List.count_pos_iff.mp (by omega)
      have quiet : isQuiet before behind = true := by simpa [Piece.breaks, inside] using h
      have feeds : Piece.left blankFor (.block text) = List.replicate (n + 1) '\n' := by
        simp [Piece.left, blankFor, breaks]
      rw [feeds, List.append_assoc, List.append_assoc]
      refine answer?_statementsIn (alikeTexts_source quiet n) ?_
      simp [List.mem_replicate, Piece.left]

theorem answer?_pieces (ps : List Piece) (before : List Char) (h : allQuiet before ps = true) :
    answer? (statementsIn (before ++ ps.flatMap (Piece.left fun _ => [' ']))) =
      answer? (statementsIn (before ++ ps.flatMap (Piece.left blankFor))) := by
  induction ps generalizing before with
  | nil => rfl
  | cons p more ih =>
    rw [allQuiet, Bool.and_eq_true] at h
    have behind := ih _ h.2
    have first := answer?_piece p before (more.flatMap (Piece.left blankFor)) h.1
    rw [List.flatMap_cons, List.flatMap_cons, ← List.append_assoc,
      ← List.append_assoc, behind, first]

theorem blankFor_blank (text : List Char) : blankFor text ≠ [] ∧ ∀ c ∈ blankFor text, c ≠ '/' := by
  refine ⟨blankFor_ne_nil text, fun c hc => ?_⟩
  rcases mem_blankFor hc with rfl | rfl <;> decide

/-- Comments do not matter to a script. It says the same, places included, with their line feeds in
the places of the block comments. With a blank in each place, both scripts are refused or say the
same apart from places, if every block comment that reaches over a line feed stands where line feeds
mean nothing. -/
theorem comments_are_transparent (script : String) :
    statements (outlined script) = statements script ∧
      (allQuiet [] (pieces script.toList) = true →
        answer? (statements (blanked script)) = answer? (statements script)) := by
  have read : ∀ s : String, statements s = statementsIn (withoutComments s.toList) := fun _ => rfl
  constructor
  · rw [read, read, outlined, String.toList_ofList, withoutComments_rewritten blankFor_blank,
      withoutComments_eq]
  · intro quiet
    rw [read, read, blanked, String.toList_ofList, withoutComments_rewritten (by simp),
      withoutComments_eq]
    exact answer?_pieces _ [] quiet

theorem comments_inside_brackets_and_between_lines :
    let script := "BTC_USD = (1 + /* one\n */ 2); /* two\n */ LTC_USD = 3; /* four\nlines */\n" ++
      "/* five\n */ X_X = BTC_USD /* six */ * 2"
    (statements script).toOption.isSome = true ∧ allQuiet [] (pieces script.toList) = true ∧
      answer? (statements (blanked script)) = answer? (statements script) :=
  ⟨by decide +kernel, by decide +kernel, (comments_are_transparent _).2 (by decide +kernel)⟩

/-- A comment inside an expression separates two statements if it reaches over a line feed. -/
theorem comments_may_separate :
    answer? (statements (blanked "BTC_USD = 2 /*\n*/ - 1;")) ≠
      answer? (statements "BTC_USD = 2 /*\n*/ - 1;") := by
  intro same
  have one : (answer? (statements (blanked "BTC_USD = 2 /*\n*/ - 1;"))).map List.length =
    some 1 := by decide +kernel
  have two : (answer? (statements "BTC_USD = 2 /*\n*/ - 1;")).map List.length = some 2 := by
    decide +kernel
  rw [same, two] at one
  cases one

end RateRules.Script
