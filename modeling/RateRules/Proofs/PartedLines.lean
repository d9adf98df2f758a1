import RateRules.Proofs.ClauseRuns

/-!
# Lines that end behind semicolons

A semicolon and the end of a line part two clauses alike. So it does not matter to what a script
says whether a line ends behind a semicolon.
-/
namespace RateRules.Script

open Placeless

namespace Grammar

open RateRules.Script.Parser

variable {inner : Inner} {tokens tokens' more rest : List Token} {t : Token} {c : Clause}
  {cs : List Clause} {stage : Stage}

/-- The tokens do not start with the end of a line or of the text. -/
def StartsInside (tokens : List Token) : Prop :=
  ∀ t ∈ tokens.head?, t.isLineEnd = false ∧ t.lexeme ≠ .textEnd

theorem StartsInside.congr (h : StartsInside tokens) (same : placeless tokens = placeless tokens') :
    StartsInside tokens' := by
  cases tokens with
  | nil =>
    rw [eq_nil_of_placeless_eq same]
    exact nofun
  | cons t more =>
    obtain ⟨t', more', rfl, first, _⟩ := cons_of_placeless_eq same
    obtain ⟨place, rfl⟩ := Token.eq_of_placeless_eq first
    rintro _ ⟨⟩
    exact h t rfl

/-- Clauses that start here start behind a semicolon as they do at the start of a line. -/
theorem Runs.of_startsInside {stage' : Stage} (h : Runs inner stage tokens cs)
    (inside : StartsInside tokens) (starts : stage ≠ .clause) (starts' : stage' ≠ .clause) :
    Runs inner stage' tokens cs := by
  cases h with
  | ended isEnd => exact absurd isEnd (inside _ rfl).2
  | clause _ read accepted further => exact .clause starts' read accepted further
  | semicolon => exact absurd rfl starts
  | lineEnd _ isLineEnd =>
    rw [(inside _ rfl).1] at isLineEnd
    cases isLineEnd

/-- The tokens are the same, apart from their places, but a line may end behind a semicolon in one
of them. -/
inductive Parted : List Token → List Token → Prop
  | same {tokens tokens' : List Token} (h : placeless tokens = placeless tokens') :
      Parted tokens tokens'
  | token {t : Token} {rest rest' : List Token} (place : Place) (further : Parted rest rest') :
      Parted (t :: rest) ({ t with place := place } :: rest')
  | left {t u : Token} {rest rest' : List Token} (place : Place) (isSemicolon : t.is ";" = true)
      (isLineEnd : u.isLineEnd = true) (inside : StartsInside rest)
      (h : placeless rest = placeless rest') :
      Parted (t :: u :: rest) ({ t with place := place } :: rest')
  | right {t u : Token} {rest rest' : List Token} (place : Place) (isSemicolon : t.is ";" = true)
      (isLineEnd : u.isLineEnd = true) (inside : StartsInside rest)
      (h : placeless rest = placeless rest') :
      Parted (t :: rest) ({ t with place := place } :: u :: rest')

theorem Parted.symm (h : Parted tokens tokens') : Parted tokens' tokens := by
  induction h with
  | same h => exact .same h.symm
  | @token t _ _ place _ ih => exact @Parted.token { t with place := place } _ _ t.place ih
  | @left t _ _ _ place isSemicolon isLineEnd inside h =>
    exact @Parted.right { t with place := place } _ _ _ t.place isSemicolon isLineEnd
      (inside.congr h) h.symm
  | @right t _ _ _ place isSemicolon isLineEnd inside h =>
    exact @Parted.left { t with place := place } _ _ _ t.place isSemicolon isLineEnd
      (inside.congr h) h.symm

/-- What stands before such tokens does not matter. -/
theorem Parted.prepend (h : Parted tokens tokens') (before : List Token) :
    Parted (before ++ tokens) (before ++ tokens') := by
  induction before with
  | nil => exact h
  | cons t more ih => exact .token t.place ih

/-- What may stand behind two tokens that differ in their places alone. -/
inductive Follows (t : Token) : List Token → List Token → Prop
  | alike {rest rest' : List Token} (h : Parted rest rest') : Follows t rest rest'
  | left {u : Token} {rest rest' : List Token} (isSemicolon : t.is ";" = true)
      (isLineEnd : u.isLineEnd = true) (inside : StartsInside rest)
      (h : placeless rest = placeless rest') : Follows t (u :: rest) rest'
  | right {u : Token} {rest rest' : List Token} (isSemicolon : t.is ";" = true)
      (isLineEnd : u.isLineEnd = true) (inside : StartsInside rest)
      (h : placeless rest = placeless rest') : Follows t rest (u :: rest')

theorem Parted.cons (h : Parted (t :: rest) tokens') :
    ∃ place rest', tokens' = { t with place := place } :: rest' ∧ Follows t rest rest' := by
  cases h with
  | same h =>
    obtain ⟨t', rest', rfl, first, further⟩ := cons_of_placeless_eq h
    obtain ⟨place, rfl⟩ := Token.eq_of_placeless_eq first
    exact ⟨place, rest', rfl, .alike (.same further)⟩
  | token place further => exact ⟨place, _, rfl, .alike further⟩
  | left place isSemicolon isLineEnd inside h =>
    exact ⟨place, _, rfl, .left isSemicolon isLineEnd inside h⟩
  | right place isSemicolon isLineEnd inside h =>
    exact ⟨place, _, rfl, .right isSemicolon isLineEnd inside h⟩

theorem Follows.parted {rest' : List Token} (h : Follows t rest rest') (place : Place) :
    Parted (t :: rest) ({ t with place := place } :: rest') := by
  cases h with
  | alike h => exact .token place h
  | left isSemicolon isLineEnd inside h => exact .left place isSemicolon isLineEnd inside h
  | right isSemicolon isLineEnd inside h => exact .right place isSemicolon isLineEnd inside h

/-- Only a semicolon may have the end of a line behind it in one of the scripts alone. -/
theorem Follows.parted_of_not {rest' : List Token} (h : Follows t rest rest')
    (other : t.is ";" = false) : Parted rest rest' := by
  cases h with
  | alike h => exact h
  | left isSemicolon | right isSemicolon =>
    rw [other] at isSemicolon
    cases isSemicolon

theorem is_semicolon_of_isStop (h : t.isStop = false) : t.is ";" = false :=
  (Bool.or_eq_false_iff.mp (Bool.or_eq_false_iff.mp h).1).1

/-- Such scripts are alike up to the first token that ends a clause. -/
theorem Parted.exists_alike (h : Parted tokens tokens') (ends : Ends tokens) :
    ∃ stop behind behind', Alike stop behind behind' tokens tokens' ∧
      Follows stop behind behind' := by
  induction tokens generalizing tokens' with
  | nil => exact absurd rfl ends.ne_nil
  | cons t more ih =>
    obtain ⟨place, rest', rfl, follows⟩ := h.cons
    cases stops : t.isStop with
    | true => exact ⟨t, more, rest', .stop place stops, follows⟩
    | false =>
      have further := follows.parted_of_not (is_semicolon_of_isStop stops)
      obtain ⟨stop, behind, behind', alike, found⟩ :=
        ih further (ends.tail (Bool.or_eq_false_iff.mp stops).2)
      exact ⟨stop, behind, behind', .token place stops alike, found⟩

theorem parted_of_alike {stop : Token} {behind behind' : List Token}
    (h : Alike stop behind behind' tokens tokens') (follows : Follows stop behind behind') :
    Parted tokens tokens' := by
  induction h with
  | stop place _ => exact follows.parted place
  | token place _ _ ih => exact .token place ih

theorem isAccepted_congr {c' : Clause} (h : placeless c = placeless c') (accepted : c.IsAccepted) :
    c'.IsAccepted := by
  obtain ⟨ss, read⟩ := accepted
  have same := answer?_statements h
  rw [read] at same
  cases read' : c'.statements with
  | ok ss' => exact ⟨ss', read'⟩
  | error problem =>
    rw [read'] at same
    cases same

/-- What is read of one such script is read of the other one, apart from places. -/
theorem Runs.parted (hinner : AgreeAll inner) (h : Runs inner stage tokens cs)
    (parted : Parted tokens tokens') (ends : Ends tokens) :
    ∃ cs', Runs inner stage tokens' cs' ∧ placeless cs = placeless cs' := by
  induction h generalizing tokens' with
  | @ended t more isEnd =>
    obtain ⟨place, rest', rfl, _⟩ := parted.cons
    exact ⟨[], .ended isEnd, rfl⟩
  | @clause stage tokens rest c cs starts read accepted further ih =>
    obtain ⟨stop, behind, behind', alike, follows⟩ := parted.exists_alike ends
    obtain ⟨c', rest', read', value, left⟩ := (agree_simpleClause hinner).reads alike read
    have some : rest ≠ [] := List.ne_nil_of_length_pos left.pos.1
    obtain ⟨cs', runs, same⟩ :=
      ih (parted_of_alike left follows) (ends.of_suffix read.isSuffix some)
    exact ⟨c' :: cs', .clause starts read' (isAccepted_congr value accepted) runs,
      cons_congr value same⟩
  | @semicolon t rest cs isSemicolon further ih =>
    obtain ⟨place, rest', rfl, follows⟩ := parted.cons
    have goes := isEnd_of_isClauseEnd (isClauseEnd_of_semicolon isSemicolon)
    cases follows with
    | alike h =>
      obtain ⟨cs', runs, same⟩ := ih h (ends.tail goes)
      exact ⟨cs', .semicolon isSemicolon runs, same⟩
    | @left u rest _ _ isLineEnd inside h =>
      obtain ⟨cs', runs, same⟩ :=
        @ih (u :: rest') (.same (cons_congr rfl h)) (ends.tail goes)
      cases runs with
      | clause _ read =>
        rw [Token.isLineEnd_of_hasText (hasText_of_simpleClause hinner.spells read)] at isLineEnd
        cases isLineEnd
      | lineEnd _ _ runs =>
        have behind : Runs inner .semicolon rest' cs' :=
          runs.of_startsInside (inside.congr h) nofun nofun
        exact ⟨cs', .semicolon isSemicolon behind, same⟩
    | @right u _ rest' _ isLineEnd inside h =>
      obtain ⟨cs', runs, same⟩ := ih (.same h) (ends.tail goes)
      have behind : Runs inner .line rest' cs' :=
        runs.of_startsInside (inside.congr h) nofun nofun
      exact ⟨cs', .semicolon isSemicolon (.lineEnd nofun isLineEnd behind), same⟩
  | @lineEnd stage t rest cs inside isLineEnd further ih =>
    obtain ⟨place, rest', rfl, follows⟩ := parted.cons
    have goes := isEnd_of_isClauseEnd (isClauseEnd_of_isLineEnd isLineEnd)
    obtain ⟨cs', runs, same⟩ :=
      ih (follows.parted_of_not (is_semicolon_of_isLineEnd isLineEnd)) (ends.tail goes)
    exact ⟨cs', .lineEnd inside isLineEnd runs, same⟩

theorem levels_of_isLineEnd (h : t.isLineEnd = true) : t.levels = 0 := by
  rw [Token.levels, eq_of_beq h]

theorem maxDepth_congr (h : placeless tokens = placeless tokens') :
    maxDepth tokens = maxDepth tokens' := by
  have levels : ∀ ts : List Token, maxDepth ts = maxDepth (placeless ts) := by
    intro ts
    change _ = (ts.map placeless).foldr _ 2
    rw [List.foldr_map]
    rfl
  rw [levels, levels tokens', h]

theorem Parted.maxDepth (h : Parted tokens tokens') :
    Script.maxDepth tokens = Script.maxDepth tokens' := by
  have cons : ∀ (t : Token) ts, Script.maxDepth (t :: ts) = t.levels + Script.maxDepth ts :=
    fun _ _ => rfl
  induction h with
  | same h => exact maxDepth_congr h
  | @token t _ _ place _ ih => exact congrArg (t.levels + ·) ih
  | @left t u _ _ place _ isLineEnd _ h =>
    rw [cons, cons u, levels_of_isLineEnd isLineEnd, Nat.zero_add]
    exact congrArg (t.levels + ·) (maxDepth_congr h)
  | @right t u _ _ place _ isLineEnd _ h =>
    rw [cons, cons _ (u :: _), cons u, levels_of_isLineEnd isLineEnd, Nat.zero_add]
    exact congrArg (t.levels + ·) (maxDepth_congr h)

end Grammar

open Grammar RateRules.Script.Parser

variable {cs cs' : List Char} {clauses : List Clause}

theorem exists_readWith_of_parted (parted : Parted (scan 1 cs).tokens (scan 1 cs').tokens)
    (null : '\x00' ∈ cs ↔ '\x00' ∈ cs') (read : readWith wholeScript cs = .ok clauses)
    (accepted : AllAccepted clauses) :
    ∃ clauses', readWith wholeScript cs' = .ok clauses' ∧
      placeless clauses = placeless clauses' := by
  obtain ⟨noNull, rest, read⟩ := exists_reads_of_readWith read
  have hinner := agreeAll_nested (maxDepth (scan 1 cs).tokens)
  have runs := runs_wholeScript hinner.spells (ends_scanFrom _ _ _ _) _ _ read accepted
  obtain ⟨clauses', runs', same⟩ := runs.parted hinner parted (ends_scanFrom _ _ _ _)
  obtain ⟨rest', read'⟩ := runs'.reads_wholeScript hinner (ends_scanFrom _ _ _ _)
  rw [parted.maxDepth] at read'
  exact ⟨clauses', readWith_eq_ok (fun null' => noNull (null.mpr null')) read', same⟩

/-- Both texts are refused, or say the same apart from places. -/
theorem answer?_of_parted (parted : Parted (scan 1 cs).tokens (scan 1 cs').tokens)
    (null : '\x00' ∈ cs ↔ '\x00' ∈ cs') :
    answer? (readWith wholeScript cs >>= statementsOf) =
      answer? (readWith wholeScript cs' >>= statementsOf) := by
  have transfer : ∀ {cs cs' : List Char} {ss : List Statement},
      Parted (scan 1 cs).tokens (scan 1 cs').tokens → ('\x00' ∈ cs ↔ '\x00' ∈ cs') →
        readWith wholeScript cs >>= statementsOf = .ok ss →
        answer? (readWith wholeScript cs >>= statementsOf) =
          answer? (readWith wholeScript cs' >>= statementsOf) := by
    intro cs cs' ss parted null said
    obtain ⟨clauses, read, said⟩ := bind_eq_ok.mp said
    obtain ⟨clauses', read', same⟩ :=
      exists_readWith_of_parted parted null read (isAccepted_of_statementsOf said)
    rw [read, read']
    exact answer?_statementsOf same
  cases said : readWith wholeScript cs >>= statementsOf with
  | ok ss =>
    rw [← said]
    exact transfer parted null said
  | error problem =>
    cases said' : readWith wholeScript cs' >>= statementsOf with
    | ok ss =>
      rw [← said, ← said']
      exact (transfer parted.symm null.symm said').symm
    | error problem' => rfl

end RateRules.Script
