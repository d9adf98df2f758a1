import RateRules.Proofs.AlikeScripts
import RateRules.Proofs.Lines
import RateRules.Proofs.RuleTokens

/-!
# Scripts clause by clause

A script whose clauses rules can have is a run of clauses, with a semicolon or the end of a line
between two of them. The grammar reads every such run, and of scripts with such clauses it reads no
others.
-/
namespace RateRules.Script

open Placeless

namespace Grammar

open RateRules.Script.Parser

/-- Where a reader stands: at the start of a line, behind a clause or behind a semicolon. -/
inductive Stage where
  | line
  | clause
  | semicolon

/-- The tokens are read clause by clause up to the mark of the end, and rules can have each
clause. -/
inductive Runs (inner : Inner) : Stage → List Token → List Clause → Prop
  | ended {t : Token} {more : List Token} (isEnd : t.lexeme = .textEnd) :
      Runs inner .line (t :: more) []
  | clause {stage : Stage} {tokens rest : List Token} {c : Clause} {cs : List Clause}
      (starts : stage ≠ .clause) (read : Reads (simpleClause inner) tokens c rest)
      (accepted : c.IsAccepted) (further : Runs inner .clause rest cs) :
      Runs inner stage tokens (c :: cs)
  | semicolon {t : Token} {rest : List Token} {cs : List Clause} (isSemicolon : t.is ";" = true)
      (further : Runs inner .semicolon rest cs) : Runs inner .clause (t :: rest) cs
  | lineEnd {stage : Stage} {t : Token} {rest : List Token} {cs : List Clause}
      (inside : stage ≠ .line) (isLineEnd : t.isLineEnd = true)
      (further : Runs inner .line rest cs) : Runs inner stage (t :: rest) cs

variable {inner : Inner} {tokens tokens' mid more rest : List Token} {t u : Token} {c : Clause}
  {cs line : List Clause} {stage : Stage}

theorem isClauseEnd_of_semicolon (h : t.is ";" = true) : isClauseEnd t = true :=
  Bool.or_eq_true_iff.mpr (.inl h)

theorem isClauseEnd_of_isLineEnd (h : t.isLineEnd = true) : isClauseEnd t = true :=
  Bool.or_eq_true_iff.mpr (.inr h)

theorem isStop_of_isClauseEnd (h : isClauseEnd t = true) : t.isStop = true :=
  Bool.or_eq_true_iff.mpr (.inl h)

theorem is_semicolon_of_isLineEnd (h : t.isLineEnd = true) : t.is ";" = false := by
  rw [Token.is, eq_of_beq h]

/-- Rules can have all clauses. -/
def AllAccepted (cs : List Clause) : Prop := ∀ c ∈ cs, c.IsAccepted

/-- These clauses were read from the tokens, the newest one first, and others can follow. -/
def RunsFrom (inner : Inner) (tokens : List Token) (read : List Clause)
    (rest : List Token) : Prop :=
  AllAccepted read → ∀ cs, Runs inner .clause rest cs → Runs inner .line tokens (read.reverse ++ cs)

/-- These clauses were read from the tokens, the newest one first, and the line ends. -/
def RunsUpTo (inner : Inner) (tokens : List Token) (read : List Clause)
    (rest : List Token) : Prop :=
  AllAccepted read → ∀ t more cs, rest = t :: more → t.isLineEnd = true → Runs inner .line more cs →
    Runs inner .line tokens (read.reverse ++ cs)

theorem RunsFrom.upTo (h : RunsFrom inner tokens cs rest) : RunsUpTo inner tokens cs rest := by
  rintro accepted t more further rfl isLineEnd lines
  exact h accepted further (.lineEnd nofun isLineEnd lines)

/-- The step from one clause of a line to the next. -/
def clauseStep (inner : Inner) (read : List Clause) : Parser (Option (List Clause)) := do
  if ← skip? ";" then
    if (← peek).isLineEnd then return none else return some ((← simpleClause inner) :: read)
  else return none

theorem ensures_clauseStep {read : List Clause} (h : RunsFrom inner tokens read mid) :
    Ensures mid (clauseStep inner read) fun next rest =>
      (next = none → RunsUpTo inner tokens read rest) ∧
        ∀ further ∈ next, RunsFrom inner tokens further rest ∧ rest.length < mid.length := by
  refine ensures_skip ?_ (ensures_pure ⟨fun _ => h.upTo, nofun⟩)
  rintro sign behind rfl isSemicolon
  refine ensures_peek fun _ _ _ => ensures_ite (fun _ => ensures_pure ⟨fun _ => ?_, nofun⟩)
    fun _ => ?_
  · rintro accepted t more cs rfl isLineEnd lines
    exact h accepted cs (.semicolon isSemicolon (.lineEnd nofun isLineEnd lines))
  · have answer : Ensures behind (simpleClause inner) (Reads (simpleClause inner) behind) :=
      fun _ _ read => read
    refine ensures_bind answer fun c rest hc => ensures_pure ⟨nofun, ?_⟩
    rintro _ ⟨⟩
    refine ⟨fun accepted cs further => ?_, Nat.lt_succ_of_le hc.isSuffix.length_le⟩
    obtain ⟨last, others⟩ := List.forall_mem_cons.mp accepted
    rw [List.reverse_cons, List.append_assoc]
    exact h others (c :: cs) (.semicolon isSemicolon (.clause nofun hc last further))

/-- The clauses of a line come before those of the further lines, and tokens are left. -/
def RunsLine (inner : Inner) (tokens : List Token) (line : List Clause)
    (rest : List Token) : Prop :=
  AllAccepted line → (Ends tokens → rest ≠ []) ∧
    ∀ cs, Runs inner .line rest cs → Runs inner .line tokens (line ++ cs)

theorem runsLine_simpleClauses (tokens : List Token) :
    Ensures tokens (simpleClauses inner) (RunsLine inner tokens) := by
  have answer : Ensures tokens (simpleClause inner) (Reads (simpleClause inner) tokens) :=
    fun _ _ read => read
  refine ensures_bind answer fun first mid hfirst => ?_
  have started : RunsFrom inner tokens [first] mid := fun accepted cs further =>
    .clause nofun hfirst (accepted first List.mem_cons_self) further
  have steps : Ensures mid (iterate (clauseStep inner) [first]) fun read rest =>
      rest <:+ mid ∧ (RunsUpTo inner tokens read rest ∨ rest = []) := by
    intro read rest h
    refine ⟨h.isSuffix, ?_⟩
    exact (ensures_iterate_to_end started (fun _ _ => ensures_clauseStep) read rest h).imp_right
      And.right
  refine ensures_bind steps fun read rest stops => ensures_peek ?_
  rintro t more rfl
  refine ensures_ite (fun isLineEnd => ensures_advance (ensures_pure fun accepted => ?_))
    fun _ => ensures_refuse
  obtain ⟨suffix, upTo | none⟩ := stops
  · refine ⟨fun ends => ?_, fun cs lines => ?_⟩
    · have behind := ends.of_suffix (suffix.trans hfirst.isSuffix) (List.cons_ne_nil t more)
      exact (behind.tail (isEnd_of_isClauseEnd (isClauseEnd_of_isLineEnd isLineEnd))).ne_nil
    · exact upTo (fun c hc => accepted c (List.mem_reverse.mpr hc)) t more cs rfl isLineEnd lines
  · cases none

theorem not_isAccepted_foreign (place : Place) (command : Command) :
    ¬ (Clause.foreign place command).IsAccepted := by
  rintro ⟨ss, accepted⟩
  cases accepted

theorem runsLine_of_foreign {place : Place} {command : Command} :
    RunsLine inner tokens [.foreign place command] rest :=
  fun accepted => absurd (accepted _ List.mem_cons_self) (not_isAccepted_foreign place command)

theorem ensures_decorated (tokens : List Token) :
    Ensures tokens (decorated inner) fun c _ => ∃ place command, c = .foreign place command := by
  refine ensures_then fun _ _ _ => ensures_peek fun t _ _ => ensures_skip ?_ (ensures_skip ?_
    (ensures_then fun _ _ _ => ensures_then fun _ _ _ => ensures_then fun _ _ _ => ?_))
  · exact fun _ _ _ _ => ensures_then fun _ _ _ => ensures_pure ⟨_, _, rfl⟩
  · exact fun _ _ _ _ => ensures_then fun _ _ _ => ensures_pure ⟨_, _, rfl⟩
  · exact ensures_pure ⟨_, _, rfl⟩

theorem runsLine_clauses (tokens : List Token) :
    Ensures tokens (clauses inner) (RunsLine inner tokens) := by
  refine ensures_peek fun t more same => ensures_ite (fun _ => ?_) fun _ => ?_
  · refine ensures_bind (ensures_decorated tokens) ?_
    rintro _ mid ⟨place, command, rfl⟩
    exact ensures_pure runsLine_of_foreign
  · split
    · exact ensures_then fun _ _ _ => ensures_then fun _ _ _ => ensures_pure runsLine_of_foreign
    · refine ensures_bind (takesNothing_refuseChoice tokens) fun _ mid kept => ?_
      rw [kept]
      exact runsLine_simpleClauses tokens

/-- These lines were read from the tokens, the newest one first, and others can follow. -/
def RunsLines (inner : Inner) (tokens : List Token) (lines : List (List Clause))
    (rest : List Token) : Prop :=
  AllAccepted lines.reverse.flatten → Ends rest ∧
    ∀ cs, Runs inner .line rest cs → Runs inner .line tokens (lines.reverse.flatten ++ cs)

theorem ensures_lineStep (hinner : SpellsAll inner) {lines : List (List Clause)}
    (h : RunsLines inner tokens lines mid) :
    Ensures mid (lineStep inner lines) fun next rest =>
      (next = none → AllAccepted lines.reverse.flatten →
        Runs inner .line tokens lines.reverse.flatten) ∧
      ∀ further ∈ next, RunsLines inner tokens further rest ∧ rest.length < mid.length := by
  refine ensures_peek ?_
  rintro t more rfl
  refine ensures_ite (fun isEnd => ensures_pure ⟨fun _ accepted => ?_, nofun⟩) fun _ => ?_
  · have whole := (h accepted).2 [] (.ended isEnd)
    rwa [List.append_nil] at whole
  · have line : Ensures (t :: more) (clauses inner) fun line rest =>
        rest <:+ t :: more ∧ rest.length < (t :: more).length ∧
          RunsLine inner (t :: more) line rest := by
      intro line rest read
      obtain ⟨derived, some⟩ := spellsClauses_clauses hinner (t :: more) line rest read
      have shorter := derived.length_lt fun none => some (List.reverse_eq_nil_iff.mp none)
      refine ⟨read.isSuffix, shorter, ?_⟩
      exact runsLine_clauses (t :: more) line rest read
    refine ensures_bind line fun line rest taken => ensures_pure ⟨nofun, ?_⟩
    rintro _ ⟨⟩
    obtain ⟨suffix, shorter, runs⟩ := taken
    refine ⟨fun accepted => ?_, shorter⟩
    have flat : (line :: lines).reverse.flatten = lines.reverse.flatten ++ line := by simp
    rw [flat] at accepted ⊢
    obtain ⟨ends, before⟩ := h fun c hc => accepted c (List.mem_append_left line hc)
    obtain ⟨some, behind⟩ := runs fun c hc => accepted c (List.mem_append_right _ hc)
    refine ⟨ends.of_suffix suffix (some ends), fun cs further => ?_⟩
    rw [List.append_assoc]
    exact before (line ++ cs) (behind cs further)

theorem runs_wholeScript (hinner : SpellsAll inner) (ends : Ends tokens) :
    Ensures tokens (wholeScript inner) fun cs _ =>
      AllAccepted cs → Runs inner .line tokens cs := by
  have start : RunsLines inner tokens [] tokens := fun _ => ⟨ends, fun _ lines => lines⟩
  have steps := ensures_iterate_to_end start fun _ _ => ensures_lineStep hinner
  refine ensures_bind steps fun lines rest read => ensures_pure fun accepted => ?_
  rcases read with done | ⟨lines, none⟩
  · exact done accepted
  · obtain ⟨_, last, _⟩ := (lines accepted).1
    rw [none] at last
    cases last

/-- No clause starts with the end of a line or of the text. -/
theorem hasText_of_simpleClause (hinner : SpellsAll inner)
    (read : Reads (simpleClause inner) (t :: more) c rest) : t.hasText = true := by
  have first : Ensures (t :: more) (simpleClause inner) fun _ _ => t.hasText = true := by
    refine ensures_peek ?_
    rintro _ _ ⟨⟩
    split
    · next word found =>
      exact fun _ _ _ => Token.hasText_of_is (List.find?_some found)
    · refine ensures_peek fun _ _ _ => ensures_bind (spells_yieldOrExpressions hinner _)
        fun tree mid derived => ?_
      obtain ⟨_, _, ⟨⟩, hasText, _⟩ := derived.exists_first
      exact fun _ _ _ => hasText
  exact first c rest read

/-- What stands from the first stop on is left wherever a parser stops before it. -/
theorem isSuffix_of_alike {stop : Token} {behind behind' : List Token}
    (h : Alike stop behind behind' tokens tokens') : stop :: behind <:+ tokens := by
  induction h with
  | stop => exact List.suffix_rfl
  | token _ _ _ ih => exact ih.trans (List.suffix_cons _ _)

theorem isSuffix_of_isStop {stop : Token} {behind behind' : List Token}
    (h : Alike stop behind behind' tokens tokens') (within : t :: more <:+ tokens)
    (stops : t.isStop = true) : t :: more <:+ stop :: behind := by
  induction h with
  | stop => exact within
  | token _ inside _ ih =>
    rcases List.suffix_cons_iff.mp within with same | further
    · cases same
      rw [inside] at stops
      cases stops
    · exact ih further

theorem usable_of_simpleClause (hinner : SpellsAll inner)
    (read : Reads (simpleClause inner) tokens c rest) (accepted : c.IsAccepted) :
    Usable tokens rest :=
  usable_of_derivesClause (spellsClause_simpleClause hinner tokens c rest read) accepted

theorem isForeign_of_simpleClause (hinner : SpellsAll inner)
    (read : Reads (simpleClause inner) (t :: more) c rest) (accepted : c.IsAccepted) :
    t.isForeign = false := by
  obtain ⟨_, _, ⟨⟩, suffix⟩ :=
    (spellsClause_simpleClause hinner (t :: more) c rest read).exists_first
  exact (usable_of_simpleClause hinner read accepted).isForeign List.suffix_rfl suffix

/-- Before the first stop all tokens of a clause that rules can have are theirs. -/
theorem isForeign_of_alike {stop v : Token} {behind behind' block : List Token}
    (usable : Usable tokens (u :: rest)) (suffix : u :: rest <:+ tokens) (stops : u.isStop = true)
    (alike : Alike stop behind behind' tokens tokens') (within : v :: block <:+ tokens)
    (before : stop :: behind <:+ v :: block) (inside : v.isStop = false) :
    v.isForeign = false := by
  have last := (isSuffix_of_isStop alike suffix stops).trans before
  rcases List.suffix_cons_iff.mp last with same | below
  · obtain ⟨rfl, _⟩ := List.cons.inj same
    rw [stops] at inside
    cases inside
  · exact usable.isForeign within below

theorem reads_attempt_none {α : Type} {p : Parser α} (refused : Ensures tokens p fun _ _ => False) :
    Reads (attempt p) tokens none tokens := by
  refine ⟨List.suffix_rfl, ?_⟩
  rw [attempt]
  cases read : p tokens with
  | error refusal => rfl
  | ok parsed =>
    obtain ⟨a, rest, isSuffix⟩ := parsed
    exact (refused a rest ⟨isSuffix, read⟩).elim

/-- A clause that rules can have is no choice among patterns, which has a colon. -/
theorem reads_refuseChoice (hinner : AgreeAll inner) (ends : Ends (t :: more))
    (read : Reads (simpleClause inner) (t :: more) c (u :: rest)) (accepted : c.IsAccepted)
    (stops : u.isStop = true) :
    Reads (refuseChoice inner) (t :: more) () (t :: more) := by
  have usable := usable_of_simpleClause hinner.spells read accepted
  have whole := Token.isBroken_of_hasText (hasText_of_simpleClause hinner.spells read)
  refine (reads_peek_cons whole).bind (reads_ite.mpr ?_)
  by_cases isMatch : t.name? = some "match"
  · refine .inl ⟨isMatch, (reads_attempt_none (ensures_advance ?_)).bind (reads_return _ _)⟩
    have inside : t.isStop = false := Token.isStop_of_name? (by rw [isMatch]; rfl)
    obtain ⟨stop, after, after', _, alike⟩ :=
      exists_alike (rfl : placeless more = placeless more)
        (ends.tail (Bool.or_eq_false_iff.mp inside).2)
    have same : Alike stop after after' (t :: more) (t :: more) := .token t.place inside alike
    have subject : Ensures more (tupleOf startsItem (starNamed inner)) fun _ behind =>
        behind <:+ more ∧ stop :: after <:+ behind := by
      intro tree behind read
      obtain ⟨_, _, _, _, left⟩ :=
        (agree_tupleOf (fun _ _ => rfl) (agree_starNamed hinner)).reads alike read
      exact ⟨read.isSuffix, isSuffix_of_alike left⟩
    refine ensures_bind subject fun _ behind within => ensures_expect ?_
    rintro colon block rfl isColon
    have foreign := isForeign_of_alike usable read.isSuffix stops same
      (within.1.trans (List.suffix_cons t more)) within.2 (Token.isStop_of_is isColon (by decide))
    rw [Token.is_of_isForeign foreign (by decide)] at isColon
    cases isColon
  · exact .inr ⟨isMatch, reads_return _ _⟩

theorem isBroken_of_isLineEnd (h : t.isLineEnd = true) : t.isBroken = false := by
  rw [Token.isBroken, eq_of_beq h]
  rfl

theorem Runs.exists_stop (h : Runs inner .clause tokens cs) :
    ∃ u rest, tokens = u :: rest ∧ u.isStop = true := by
  cases h with
  | clause starts => exact absurd rfl starts
  | semicolon isSemicolon =>
    exact ⟨_, _, rfl, isStop_of_isClauseEnd (isClauseEnd_of_semicolon isSemicolon)⟩
  | lineEnd _ isLineEnd =>
    exact ⟨_, _, rfl, isStop_of_isClauseEnd (isClauseEnd_of_isLineEnd isLineEnd)⟩

theorem exists_cons_of_simpleClause (read : Reads (simpleClause inner) tokens c rest) :
    ∃ t more, tokens = t :: more := by
  obtain ⟨t, _, first, _⟩ := reads_bind.mp read
  obtain ⟨_, more, rfl⟩ := reads_peek first
  exact ⟨t, more, rfl⟩

/-- Line by line these clauses are read up to the end of the text. -/
def ReadsLines (inner : Inner) (tokens : List Token) (cs : List Clause) : Prop :=
  ∀ read, ∃ (lines : List (List Clause)) (t : Token) (more : List Token),
    lines.flatten = cs ∧ t.lexeme = .textEnd ∧
      Reaches (lineStep inner) read tokens (lines.reverse ++ read) (t :: more)

/-- Behind a clause the line goes on with the first ones of these clauses, and the others are read
line by line. -/
def ReadsOn (inner : Inner) (tokens : List Token) (cs : List Clause) : Prop :=
  ∃ (line further : List Clause) (u : Token) (rest : List Token),
    line ++ further = cs ∧ u.isLineEnd = true ∧ ReadsLines inner rest further ∧
      ∀ read, ∃ mid, Reaches (clauseStep inner) read tokens (line.reverse ++ read) mid ∧
        Reads (clauseStep inner (line.reverse ++ read)) mid none (u :: rest)

/-- The clauses are read from here on. -/
def ReadsFrom (inner : Inner) : Stage → List Token → List Clause → Prop
  | .line, tokens, cs => ReadsLines inner tokens cs
  | .clause, tokens, cs => ReadsOn inner tokens cs
  | .semicolon, tokens, cs => ∀ t : Token, t.is ";" = true → ReadsOn inner (t :: tokens) cs

theorem readsOn_of_none (isLineEnd : u.isLineEnd = true) (lines : ReadsLines inner rest cs)
    (last : ∀ read, Reads (clauseStep inner read) tokens none (u :: rest)) :
    ReadsOn inner tokens cs :=
  ⟨[], cs, u, rest, rfl, isLineEnd, lines, fun read => ⟨tokens, .refl read tokens, last read⟩⟩

theorem readsOn_of_some (step : ∀ read, Reads (clauseStep inner read) tokens (some (c :: read)) mid)
    (shorter : mid.length < tokens.length) (h : ReadsOn inner mid cs) :
    ReadsOn inner tokens (c :: cs) := by
  obtain ⟨line, further, u, rest, rfl, isLineEnd, lines, goes⟩ := h
  refine ⟨c :: line, further, u, rest, rfl, isLineEnd, lines, fun read => ?_⟩
  obtain ⟨mid, reached, last⟩ := goes (c :: read)
  rw [List.reverse_cons, List.append_assoc]
  exact ⟨mid, reached.head (step read) shorter, last⟩

theorem reads_clauseStep_lineEnd (isLineEnd : t.isLineEnd = true) (read : List Clause) :
    Reads (clauseStep inner read) (t :: rest) none (t :: rest) := by
  have whole := isBroken_of_isLineEnd isLineEnd
  exact (reads_skip_not whole (is_semicolon_of_isLineEnd isLineEnd)).bind (reads_return _ _)

theorem reads_clauseStep_last (isSemicolon : t.is ";" = true) (isLineEnd : u.isLineEnd = true)
    (read : List Clause) : Reads (clauseStep inner read) (t :: u :: rest) none (u :: rest) := by
  have whole := Token.isBroken_of_hasText (Token.hasText_of_is isSemicolon)
  refine (reads_skip_cons whole isSemicolon).bind ?_
  refine (reads_peek_cons (isBroken_of_isLineEnd isLineEnd)).bind ?_
  rw [isLineEnd]
  exact reads_return _ _

theorem reads_clauseStep_further (hinner : SpellsAll inner) (isSemicolon : u.is ";" = true)
    (h : Reads (simpleClause inner) (t :: more) c rest) (read : List Clause) :
    Reads (clauseStep inner read) (u :: t :: more) (some (c :: read)) rest := by
  have whole := Token.isBroken_of_hasText (Token.hasText_of_is isSemicolon)
  have hasText := hasText_of_simpleClause hinner h
  refine (reads_skip_cons whole isSemicolon).bind ?_
  refine (reads_peek_cons (Token.isBroken_of_hasText hasText)).bind ?_
  rw [Token.isLineEnd_of_hasText hasText]
  exact h.bind (reads_return _ _)

/-- A line that starts with a clause that rules can have has no block. -/
theorem reads_clauses_of_accepted (hinner : AgreeAll inner) (ends : Ends (t :: more))
    (h : Reads (simpleClause inner) (t :: more) c (u :: rest)) (accepted : c.IsAccepted)
    (stops : u.isStop = true) (read : Reads (simpleClauses inner) (t :: more) line mid) :
    Reads (clauses inner) (t :: more) line mid := by
  have known := isForeign_of_simpleClause hinner.spells h accepted
  have whole := Token.isBroken_of_hasText (hasText_of_simpleClause hinner.spells h)
  have noWord : blockWords.find? t.is = none := by
    refine List.find?_eq_none.mpr fun word hword => Bool.eq_false_iff.mp ?_
    exact Token.is_of_isForeign known (List.mem_append_right _ hword)
  refine (reads_peek_cons whole).bind ?_
  rw [Token.is_of_isForeign known (by decide), noWord]
  exact (reads_refuseChoice hinner ends h accepted stops).bind read

/-- A clause and what follows it on its line are a line of their own. -/
theorem readsLines_of_clause (hinner : AgreeAll inner) (ends : Ends tokens)
    (h : Reads (simpleClause inner) tokens c mid) (accepted : c.IsAccepted)
    (stops : ∃ u rest, mid = u :: rest ∧ u.isStop = true) (further : ReadsOn inner mid cs) :
    ReadsLines inner tokens (c :: cs) := by
  obtain ⟨t, more, rfl⟩ := exists_cons_of_simpleClause h
  obtain ⟨v, behind, rfl, stops⟩ := stops
  obtain ⟨line, others, u, rest, rfl, isLineEnd, lines, goes⟩ := further
  obtain ⟨last, reached, ended⟩ := goes [c]
  have repeated := reached.reads_iterate ended
  have hasText := hasText_of_simpleClause hinner.spells h
  have seen : Reads (simpleClauses inner) (t :: more) (c :: line) rest := by
    refine h.bind (repeated.bind ?_)
    refine (reads_peek_cons (isBroken_of_isLineEnd isLineEnd)).bind ?_
    rw [isLineEnd, List.reverse_append, List.reverse_reverse]
    exact reads_advance_cons.bind (reads_return _ _)
  have whole := reads_clauses_of_accepted hinner ends h accepted stops seen
  have shorter : rest.length < (t :: more).length :=
    (repeated.isSuffix.trans h.isSuffix).length_le
  intro read
  have step : Reads (lineStep inner read) (t :: more) (some ((c :: line) :: read)) rest := by
    refine (reads_peek_cons (Token.isBroken_of_hasText hasText)).bind ?_
    rw [if_neg (Token.ne_textEnd_of_hasText hasText)]
    exact whole.bind (reads_return _ _)
  obtain ⟨found, e, behind, rfl, isEnd, reached⟩ := lines ((c :: line) :: read)
  refine ⟨(c :: line) :: found, e, behind, rfl, isEnd, ?_⟩
  rw [List.reverse_cons, List.append_assoc]
  exact reached.head step shorter

/-- What can be read clause by clause is read. -/
theorem Runs.readsFrom (hinner : AgreeAll inner) (h : Runs inner stage tokens cs)
    (ends : Ends tokens) : ReadsFrom inner stage tokens cs := by
  induction h with
  | @ended t more isEnd =>
    have lines : ReadsLines inner (t :: more) [] :=
      fun read => ⟨[], t, more, rfl, isEnd, .refl read _⟩
    exact lines
  | @clause stage tokens rest c cs starts read accepted further ih =>
    obtain ⟨u, behind, rfl, stops⟩ := further.exists_stop
    have on := ih (ends.of_suffix read.isSuffix (List.cons_ne_nil u behind))
    cases stage with
    | line => exact readsLines_of_clause hinner ends read accepted ⟨u, behind, rfl, stops⟩ on
    | clause => exact absurd rfl starts
    | semicolon =>
      intro sign isSemicolon
      obtain ⟨t, more, rfl⟩ := exists_cons_of_simpleClause read
      exact readsOn_of_some (reads_clauseStep_further hinner.spells isSemicolon read)
        (Nat.lt_succ_of_le read.isSuffix.length_le) on
  | @semicolon t rest cs isSemicolon further ih =>
    have goes := isEnd_of_isClauseEnd (isClauseEnd_of_semicolon isSemicolon)
    exact ih (ends.tail goes) t isSemicolon
  | @lineEnd stage t rest cs inside isLineEnd further ih =>
    have lines := ih (ends.tail (isEnd_of_isClauseEnd (isClauseEnd_of_isLineEnd isLineEnd)))
    cases stage with
    | line => exact absurd rfl inside
    | clause => exact readsOn_of_none isLineEnd lines (reads_clauseStep_lineEnd isLineEnd)
    | semicolon =>
      exact fun sign isSemicolon =>
        readsOn_of_none isLineEnd lines (reads_clauseStep_last isSemicolon isLineEnd)

theorem Runs.reads_wholeScript (hinner : AgreeAll inner) (h : Runs inner .line tokens cs)
    (ends : Ends tokens) : ∃ rest, Reads (wholeScript inner) tokens cs rest := by
  have lines : ReadsLines inner tokens cs := h.readsFrom hinner ends
  obtain ⟨found, t, more, rfl, isEnd, reached⟩ := lines []
  have whole : t.isBroken = false := by rw [Token.isBroken, isEnd]; rfl
  have last : Reads (lineStep inner (found.reverse ++ [])) (t :: more) none (t :: more) := by
    refine (reads_peek_cons whole).bind ?_
    rw [if_pos isEnd]
    exact reads_return _ _
  refine ⟨t :: more, (reached.reads_iterate last).bind ?_⟩
  rw [List.append_nil, List.reverse_reverse]
  exact reads_return _ _

end Grammar
end RateRules.Script
