import RateRules.Proofs.Derivations

/-!
# Derivations of clauses

Assignments are derived from the trees between their signs. A clause that no rule may have is known
by the place of one of its tokens alone. A script is derived up to the mark of its end.
-/
namespace RateRules.Script.Grammar

open RateRules.Script.Parser

variable {inner : Inner} {tokens more rest : List Token} {first t : Token} {tree : Tree}

/-- The first tokens spell targets, the last one first, and a value behind them. -/
inductive DerivesValue : List Token → List Tree → Tree → List Token → Prop
  | first {tokens rest : List Token} {t : Tree} (value : Derives tokens (.tree t) rest) :
      DerivesValue tokens [] t rest
  | further {tokens mid rest : List Token} {targets : List Tree}
      {target value : Tree} {sign : Token}
      (before : DerivesValue tokens targets target (sign :: mid)) (isEqual : sign.is "=" = true)
      (behind : Derives mid (.tree value) rest) : DerivesValue tokens (target :: targets) value rest

/-- The first tokens spell the clause. One that no rule may have is known by the place of one of its
tokens. -/
inductive DerivesClause : List Token → Clause → List Token → Prop
  | assign {tokens rest : List Token} {targets : List Tree} {value : Tree}
      (assigned : DerivesValue tokens targets value rest) :
      DerivesClause tokens (.assign targets.reverse value) rest
  | augment {first sign : Token} {more mid rest : List Token} {op : Operation} {target value : Tree}
      (before : Derives (first :: more) (.tree target) (sign :: mid))
      (signed : augmentation? sign = some op)
      (behind : Derives mid (.tree value) rest) :
      DerivesClause (first :: more) (.augment first.place op target value) rest
  | expression {tokens rest : List Token} {t : Tree} (inside : Derives tokens (.tree t) rest) :
      DerivesClause tokens (.expression t) rest
  | pass {t : Token} {rest : List Token} (isPass : t.is "pass" = true) :
      DerivesClause (t :: rest) .pass rest
  | foreign {tokens more rest : List Token} {t : Token} (command : Command)
      (within : t :: more <:+ tokens)
      (hasText : t.hasText = true) (suffix : rest <:+ more) :
      DerivesClause tokens (.foreign t.place command) rest

/-- The first tokens spell the clauses, the last one first. Ends of clauses may stand behind each of
them. -/
inductive DerivesClauses : List Token → List Clause → List Token → Prop
  | none {tokens : List Token} : DerivesClauses tokens [] tokens
  | clause {tokens mid rest : List Token} {cs : List Clause} {c : Clause}
      (before : DerivesClauses tokens cs mid)
      (behind : DerivesClause mid c rest) : DerivesClauses tokens (c :: cs) rest
  | ending {tokens rest : List Token} {cs : List Clause} {t : Token}
      (before : DerivesClauses tokens cs (t :: rest))
      (isEnd : isClauseEnd t = true) : DerivesClauses tokens cs rest

/-- From these tokens the parser reads a clause that they derive. -/
abbrev SpellsClause (tokens : List Token) (p : Parser Clause) : Prop :=
  Ensures tokens p (DerivesClause tokens)

variable {c : Clause} {cs : List Clause}

theorem derives_foreign (hasText : first.hasText = true) (suffix : rest <:+ more)
    (command : Command) :
    DerivesClause (first :: more) (.foreign first.place command) rest :=
  .foreign command List.suffix_rfl hasText suffix

theorem spellsClause_annotated (hasText : first.hasText = true) (suffix : tokens <:+ more)
    (target : Tree) :
    Ensures tokens (annotated inner first.place target) (DerivesClause (first :: more)) := by
  refine ensures_expect ?_
  rintro colon behind rfl _
  have within := (List.suffix_cons colon behind).trans suffix
  refine ensures_ite (fun _ => ensures_then fun _ mid shape => ?_) fun _ =>
    ensures_then fun _ _ _ => ensures_refuseAt _
  refine ensures_skip ?_ (ensures_pure (derives_foreign hasText (shape.trans within) _))
  rintro sign rest rfl _
  refine ensures_then fun _ _ value => ensures_pure (derives_foreign hasText ?_ _)
  exact value.trans ((List.suffix_cons _ _).trans (shape.trans within))

theorem spellsClause_augmented (hinner : SpellsAll inner) {sign : Token} {op : Operation}
    (before : Derives (first :: more) (.tree tree) (sign :: tokens))
    (signed : augmentation? sign = some op) :
    Ensures (sign :: tokens) (augmented inner first.place tree op)
    (DerivesClause (first :: more)) := by
  refine ensures_advance (ensures_bind (spells_yieldOrExpressions hinner tokens)
    fun value rest hvalue => ?_)
  exact ensures_ite (fun _ => ensures_pure (.augment before signed hvalue)) fun _ =>
    ensures_refuseAt _

theorem takesNothing_refuseTarget (t : Tree) : TakesNothing (refuseTarget t) := by
  intro tokens
  unfold refuseTarget
  split
  · exact ensures_refuseAt _
  · exact ensures_pure rfl

theorem spellsClause_assignment (hinner : SpellsAll inner)
    (before : Derives tokens (.tree tree) rest) :
    Ensures rest (assignment inner tree) (DerivesClause tokens) := by
  refine ensures_bind (ensures_iterate (motive := fun read rest =>
    DerivesValue tokens read.1 read.2 rest)
    (.first before) fun read mid derived => ?_) fun read rest derived => ensures_pure ?_
  · obtain ⟨targets, target⟩ := read
    refine ensures_sees ?_ (ensures_pure derived)
    rintro sign behind rfl isEqual
    refine ensures_bind (takesNothing_refuseTarget target _) fun _ mid same => ?_
    obtain rfl := same
    refine ensures_advance (ensures_bind (spells_yieldOrExpressions hinner behind)
      fun value rest hvalue => ?_)
    exact ensures_pure (.further derived isEqual hvalue)
  · obtain ⟨targets, value⟩ := read
    cases derived with
    | first value => exact .expression value
    | further before isEqual behind => exact .assign (.further before isEqual behind)

theorem spellsClause_expressionClause (hinner : SpellsAll inner) (tokens : List Token) :
    SpellsClause tokens (expressionClause inner) := by
  refine ensures_peek ?_
  rintro start more rfl
  refine ensures_bind (spells_yieldOrExpressions hinner _) fun t mid ht =>
    ensures_sees (fun _ _ _ _ => ?_) ?_
  · obtain ⟨_, _, ⟨⟩, hasText, suffix⟩ := ht.exists_first
    exact spellsClause_annotated hasText suffix t
  · refine ensures_peek ?_
    rintro sign behind rfl
    split
    · next op signed => exact spellsClause_augmented hinner ht signed
    · exact spellsClause_assignment hinner ht

theorem spellsClause_afterWord {word : String} (isWord : t.is word = true) :
    Ensures tokens (afterWord inner t.place word) (DerivesClause (t :: tokens)) := by
  have hasText := Token.hasText_of_is isWord
  unfold afterWord
  split
  · exact ensures_pure (.pass isWord)
  · exact ensures_pure (derives_foreign hasText List.suffix_rfl _)
  · exact ensures_pure (derives_foreign hasText List.suffix_rfl _)
  · refine ensures_then fun _ mid peeked => ensures_check (fun _ => ?_) fun _ => ?_
    · exact fun _ _ read => ensures_pure (derives_foreign hasText (read.isSuffix.trans peeked) _)
    · exact ensures_pure (derives_foreign hasText peeked _)
  all_goals
    first
    | exact ensures_then fun _ _ suffix => ensures_pure (derives_foreign hasText suffix _)
    | exact ensures_refuse

theorem spellsClause_simpleClause (hinner : SpellsAll inner) (tokens : List Token) :
    SpellsClause tokens (simpleClause inner) := by
  refine ensures_peek ?_
  rintro t more rfl
  split
  · next word found => exact ensures_advance (spellsClause_afterWord (List.find?_some found))
  · exact spellsClause_expressionClause hinner _

theorem DerivesValue.exists_first {targets : List Tree}
    (h : DerivesValue tokens targets tree rest) :
    ∃ first more, tokens = first :: more ∧ rest <:+ more := by
  induction h with
  | first value =>
    obtain ⟨first, more, same, _, suffix⟩ := value.exists_first
    exact ⟨first, more, same, suffix⟩
  | further _ _ behind ih =>
    obtain ⟨first, more, same, suffix⟩ := ih
    exact ⟨first, more, same, behind.isSuffix.trans ((List.suffix_cons _ _).trans suffix)⟩

theorem DerivesValue.isSuffix {targets : List Tree} (h : DerivesValue tokens targets tree rest) :
    rest <:+ tokens := by
  obtain ⟨first, more, rfl, suffix⟩ := h.exists_first
  exact suffix.trans (List.suffix_cons first more)

/-- A clause takes at least one token. -/
theorem DerivesClause.exists_first (h : DerivesClause tokens c rest) :
    ∃ first more, tokens = first :: more ∧ rest <:+ more := by
  cases h with
  | assign assigned => exact assigned.exists_first
  | augment before _ behind =>
    obtain ⟨first, more, same, _, suffix⟩ := before.exists_first
    exact ⟨first, more, same, behind.isSuffix.trans ((List.suffix_cons _ _).trans suffix)⟩
  | expression inside =>
    obtain ⟨first, more, same, _, suffix⟩ := inside.exists_first
    exact ⟨first, more, same, suffix⟩
  | pass => exact ⟨_, _, rfl, List.suffix_rfl⟩
  | foreign _ within _ suffix =>
    cases tokens with
    | nil => cases List.suffix_nil.mp within
    | cons first more => exact ⟨first, more, rfl, suffix.trans (suffix_of_cons_suffix_cons within)⟩

theorem DerivesClauses.isSuffix (h : DerivesClauses tokens cs rest) : rest <:+ tokens := by
  induction h with
  | none => exact List.suffix_rfl
  | clause _ hc ih =>
    obtain ⟨_, _, rfl, suffix⟩ := hc.exists_first
    exact suffix.trans ((List.suffix_cons _ _).trans ih)
  | ending _ _ ih => exact (List.suffix_cons _ _).trans ih

theorem DerivesClauses.append {mid : List Token} {ds : List Clause}
    (before : DerivesClauses tokens cs mid)
    (behind : DerivesClauses mid ds rest) : DerivesClauses tokens (ds ++ cs) rest := by
  induction behind with
  | none => exact before
  | clause _ hc ih => exact .clause ih hc
  | ending _ isEnd ih => exact .ending ih isEnd

/-- Clauses take at least one token, if there are some. -/
theorem DerivesClauses.length_lt (h : DerivesClauses tokens cs rest) (some : cs ≠ []) :
    rest.length < tokens.length := by
  induction h with
  | none => exact absurd rfl some
  | clause before hc =>
    obtain ⟨_, _, rfl, suffix⟩ := hc.exists_first
    exact Nat.lt_of_le_of_lt suffix.length_le before.isSuffix.length_le
  | ending _ _ ih => exact Nat.lt_of_succ_lt (ih some)

/-- From these tokens the parser reads some clauses that they derive. -/
abbrev SpellsClauses (tokens : List Token) (p : Parser (List Clause)) : Prop :=
  Ensures tokens p fun line rest => DerivesClauses tokens line.reverse rest ∧ line ≠ []

theorem spellsClauses_simpleClauses (hinner : SpellsAll inner) (tokens : List Token) :
    SpellsClauses tokens (simpleClauses inner) := by
  refine ensures_bind (spellsClause_simpleClause hinner tokens) fun c behind hc => ?_
  refine ensures_bind (ensures_iterate (motive := fun line rest => DerivesClauses tokens line rest ∧
    line ≠ [])
    ⟨.clause .none hc, List.cons_ne_nil _ _⟩ fun line behind derived => ?_)
      fun line behind derived => ensures_peek ?_
  · refine ensures_skip ?_ (ensures_pure derived)
    rintro sign behind rfl isSemicolon
    have ended : DerivesClauses tokens line behind :=
      .ending derived.1 (by rw [isClauseEnd, isSemicolon, Bool.true_or])
    refine ensures_peek fun _ _ _ => ensures_ite (fun _ => ensures_pure ⟨ended, derived.2⟩)
      fun _ => ?_
    exact ensures_bind (spellsClause_simpleClause hinner behind) fun c rest hc =>
      ensures_pure ⟨.clause ended hc, List.cons_ne_nil _ _⟩
  · rintro t rest rfl
    refine ensures_ite (fun isLineEnd => ensures_advance (ensures_pure ?_)) fun _ => ensures_refuse
    rw [List.reverse_reverse, ne_eq, List.reverse_eq_nil_iff]
    exact ⟨.ending derived.1 (by rw [isClauseEnd, isLineEnd, Bool.or_true]), derived.2⟩

theorem spellsClause_decorated (tokens : List Token) : SpellsClause tokens (decorated inner) := by
  refine ensures_then fun _ mid decorators => ensures_peek ?_
  rintro t more rfl
  refine ensures_skip ?_ (ensures_skip ?_ (ensures_expect ?_))
  all_goals
    rintro word behind ⟨⟩ isWord
    have hasText := Token.hasText_of_is isWord
  · exact ensures_then fun _ _ suffix => ensures_pure (.foreign _ decorators hasText suffix)
  · exact ensures_then fun _ _ suffix => ensures_pure (.foreign _ decorators hasText suffix)
  · refine ensures_then fun _ _ word => ensures_then fun _ _ suffix => ensures_pure ?_
    exact .foreign _ decorators hasText (suffix.trans word)

theorem takesNothing_refuseChoice : TakesNothing (refuseChoice inner) := by
  intro tokens
  refine ensures_peek fun _ _ _ => ensures_ite (fun _ => ?_) fun _ => ensures_pure rfl
  exact ensures_attempt (fun _ _ => ensures_refuse) (ensures_pure rfl)

theorem spellsClauses_clauses (hinner : SpellsAll inner) (tokens : List Token) :
    SpellsClauses tokens (clauses inner) := by
  refine ensures_peek ?_
  rintro t more rfl
  refine ensures_ite (fun _ => ?_) fun _ => ?_
  · exact ensures_bind (spellsClause_decorated _) fun c rest hc =>
      ensures_pure ⟨.clause .none hc, List.cons_ne_nil _ _⟩
  · split
    · next word found =>
      have hasText := Token.hasText_of_is (List.find?_some found)
      exact ensures_advance (ensures_then fun command _ suffix =>
        ensures_pure ⟨.clause .none (derives_foreign hasText suffix command), List.cons_ne_nil _ _⟩)
    · refine ensures_bind (takesNothing_refuseChoice _) fun _ mid same => ?_
      rw [same]
      exact spellsClauses_simpleClauses hinner _

/-- A script is read up to the mark of its end, or to its last token. -/
theorem derives_wholeScript (hinner : SpellsAll inner) (tokens : List Token) :
    Ensures tokens (wholeScript inner) fun cs rest =>
      DerivesClauses tokens cs.reverse rest ∧ ∀ t ∈ rest.head?, t.lexeme = .textEnd := by
  have lines := @ensures_iterate_to_end (List (List Clause)) tokens (fun lines => do
      if (← peek).lexeme = .textEnd then return none
      else return some ((← clauses inner) :: lines))
    (fun lines rest => DerivesClauses tokens lines.reverse.flatten.reverse rest)
    (fun lines rest => DerivesClauses tokens lines.reverse.flatten.reverse rest ∧ ∀ t ∈ rest.head?,
      t.lexeme = .textEnd)
    [] .none fun lines mid before => ?_
  · refine ensures_bind lines fun lines rest derived => ensures_pure ?_
    rcases derived with ended | ⟨derived, rfl⟩
    · exact ended
    · exact ⟨derived, nofun⟩
  · refine ensures_peek ?_
    rintro t more rfl
    refine ensures_ite (fun ends => ensures_pure ⟨fun _ => ⟨before, ?_⟩, nofun⟩) fun _ => ?_
    · rintro _ ⟨⟩
      exact ends
    · refine ensures_bind (spellsClauses_clauses hinner _) fun line rest taken =>
        ensures_pure ⟨nofun, ?_⟩
      rintro _ ⟨⟩
      obtain ⟨derived, some⟩ := taken
      refine ⟨?_, derived.length_lt fun none => some (List.reverse_eq_nil_iff.mp none)⟩
      rw [List.reverse_cons, List.flatten_append, List.flatten_singleton, List.reverse_append]
      exact before.append derived

end RateRules.Script.Grammar