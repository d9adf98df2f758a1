import RateRules.Proofs.Tokens

/-!
# One step of the scanner

What the scanner does at each kind of character: it skips blanks, comments and some line feeds, ends
lines, joins lines and takes tokens.
-/
namespace RateRules.Script

/-- Tokens before those that were found. -/
def Lexed.behind (tokens : List Token) (lexed : Lexed) : Lexed :=
  ⟨tokens ++ lexed.tokens, lexed.ending⟩

variable {opened : Opened} {fresh : Bool} {place : Place} {c : Char} {rest : List Char}

/-- Blanks between tokens. -/
def isScanBlank (c : Char) : Bool := c = ' ' || c = '\t' || c = '\x0c'

theorem scanFrom_blank (h : isScanBlank c = true) :
    scanFrom opened fresh place (c :: rest) = scanFrom opened fresh (place.after [c]) rest := by
  rw [scanFrom.eq_def]
  exact if_pos h

/-- A comment of the grammar ends before a line feed. -/
theorem scanFrom_comment {n : Nat} (h : (rest.takeWhile (· ≠ '\n')).length = n) :
    scanFrom opened fresh place ('#' :: rest) =
      scanFrom opened fresh (place.after ('#' :: rest.take n)) (rest.drop n) := by
  subst h
  rw [scanFrom.eq_def]
  simp

/-- A line feed ends no line before its first token and none inside brackets. -/
theorem scanFrom_lineFeed_skipped (h : (fresh || !opened.isEmpty) = true) :
    scanFrom opened fresh place ('\n' :: rest) =
      scanFrom opened fresh (place.after ['\n']) rest := by
  rw [scanFrom.eq_def]
  simp [h]

/-- A line with a token ends at its line feed. -/
theorem scanFrom_lineFeed (place : Place) (rest : List Char) :
    scanFrom [] false place ('\n' :: rest) =
      (scanFrom [] true (place.after ['\n']) rest).behind [⟨.lineEnd, place, 0⟩] := by
  rw [scanFrom.eq_def]
  simp [Lexed.behind]

/-- A backslash before a line feed joins two lines, if there is a second one. -/
theorem scanFrom_joined (more : rest ≠ []) :
    scanFrom opened fresh place ('\\' :: '\n' :: rest) =
      scanFrom opened fresh (place.after ['\\', '\n']) rest := by
  rw [scanFrom.eq_def]
  simp [more]

/-- A backslash that joins no lines ends the tokens. -/
theorem scanFrom_stray (alone : ∀ more, rest = '\n' :: more → more = []) :
    (scanFrom opened fresh place ('\\' :: rest)).tokens = [⟨.broken, place, opened.length⟩] := by
  rw [scanFrom.eq_def]
  simp only [Char.reduceEq, decide_false, Bool.or_self, Bool.false_eq_true, if_false, if_true]
  split
  · next more =>
    obtain rfl := alone more rfl
    cases opened <;> rfl
  · rfl

/-- Characters with which no token starts. -/
def skipped : List Char := [' ', '\t', '\x0c', '#', '\n', '\\']

theorem not_mem_skipped (blank : ¬isScanBlank c = true) (comment : c ≠ '#') (ends : c ≠ '\n')
    (joins : c ≠ '\\') :
    c ∉ skipped := by
  simp only [isScanBlank, Bool.or_eq_true, decide_eq_true_eq, not_or] at blank
  simp [skipped, blank, comment, ends, joins]

theorem scanFrom_visible (start : c ∉ skipped) :
    scanFrom opened fresh place (c :: rest) =
      match lexemeAt? c rest with
      | none => .stop .broken place opened (.fault place.line)
      | some found =>
        match opened.after? place.line found.lexeme with
        | none => .stop .broken place opened (.fault place.line)
        | some inner =>
          (scanFrom inner false (place.after (c :: rest.take found.more))
            (rest.drop found.more)).behind
            [⟨found.lexeme, place, inner.length⟩] := by
  simp only [skipped, List.mem_cons, List.not_mem_nil, or_false, not_or] at start
  obtain ⟨blank, tab, feed, comment, ends, joins⟩ := start
  rw [scanFrom.eq_def]
  simp only [blank, tab, feed, comment, ends, joins, decide_false, Bool.or_self,
    Bool.false_eq_true, if_false]
  rfl

/-- The scanner takes one token and goes on behind it. -/
theorem scanFrom_token {opened inner : Opened} {fresh : Bool} {place : Place} {c : Char}
    {word rest : List Char} {lexeme : Lexeme} (start : c ∉ skipped)
    (found : lexemeAt? c (word ++ rest) = some ⟨lexeme, word.length⟩)
    (brackets : opened.after? place.line lexeme = some inner) :
    scanFrom opened fresh place (c :: word ++ rest) =
      (scanFrom inner false (place.after (c :: word)) rest).behind
      [⟨lexeme, place, inner.length⟩] := by
  rw [List.cons_append, scanFrom_visible start]
  simp [found, brackets]

end RateRules.Script
