import RateRules.Proofs.ClauseDerivations
import RateRules.Proofs.Ink
import RateRules.Proofs.Lines
import RateRules.Proofs.Table

/-!
# Line numbers

The places of rules and of refused constructs are those of tokens, and a token starts with a
character that has ink. So the line that a place names is a line of the script itself, although the
text that is read has neither the comments of the script nor its leading blanks.
-/
namespace RateRules.Script

open Text (isLineEnd isBlank trimLeft)

theorem Place.after_append (place : Place) (cs ds : List Char) :
    place.after (cs ++ ds) = (place.after cs).after ds :=
  List.foldl_append

theorem Place.line_after (place : Place) (cs : List Char) :
    (place.after cs).line = place.line + cs.count '\n' := by
  induction cs generalizing place with
  | nil => rfl
  | cons c more ih =>
    have step : place.after (c :: more) = (place.after [c]).after more := rfl
    rw [step, ih, List.count_cons, Place.after, List.foldl_cons, List.foldl_nil]
    by_cases feed : c = '\n'
    · simp [feed]
      omega
    · simp [feed]

variable {c d : Char} {cs rest : List Char}

/-- Below the signs of ASCII no token starts. -/
theorem lexemeAt?_of_low (low : c.toNat < 33) (other : c ≠ ' ') : lexemeAt? c rest = none := by
  have controls : ∀ n < 33, startsQuotation (Char.ofNat n) = false ∧
    isWordStart (Char.ofNat n) = false ∧
      Text.isDigit (Char.ofNat n) = false := by decide
  obtain ⟨noQuotation, noWord, noDigit⟩ := controls c.toNat low
  rw [Char.ofNat_toNat] at noQuotation noWord noDigit
  have code : c.toNat ≠ 32 := fun same => other (by rw [← Char.ofNat_toNat c, same])
  have noPoint : c ≠ '.' := fun same => absurd low (by rw [same]; decide)
  have control : (decide (c.toNat < 32) || decide (c.toNat = 127)) = true := by
    simp
    omega
  simp [lexemeAt?, prefixLength_eq_none noQuotation, noWord, noDigit, noPoint, control]

theorem startsQuotation_of_high (high : ¬ c.toNat < 128) : startsQuotation c = false := by
  have small : c.toLower = c := by
    refine dif_neg fun upper => high ?_
    have below := UInt32.le_iff_toNat_le.mp upper.2
    exact Nat.lt_of_le_of_lt below (by decide)
  have far : ∀ d : Char, d.toNat < 128 → c ≠ d := fun d near same => high (same ▸ near)
  simp [startsQuotation, small, far '\'' (by decide), far '"' (by decide), far 'b' (by decide),
    far 'r' (by decide),
    far 'u' (by decide), far 'f' (by decide)]

/-- A word that starts beyond ASCII starts with a letter. -/
theorem isBlank_of_wordAt? {found : Found} (h : wordAt? c rest = some found)
    (high : ¬ c.toNat < 128) :
    isBlank c = false := by
  have plain : ∀ w ∈ keywords, w.toList.head?.all (fun k => decide (k.toNat < 128)) = true := by
    decide +kernel
  simp only [wordAt?] at h
  split at h
  · next isKeyword =>
    have first :=
      (Option.all_eq_true _ _).mp (plain _ (List.contains_iff_mem.mp isKeyword)) c (by simp)
    exact absurd (of_decide_eq_true first) high
  · split at h
    · next isName =>
      refine isBlank_of_continuesIdentifier ?_
      simp only [List.all_cons, decide_eq_false high, Bool.false_and, Bool.false_or,
        Text.isIdentifier,
        Text.startsIdentifier, if_neg high, Bool.and_eq_true] at isName
      rw [Text.continuesIdentifier, if_neg high, isName.1, Bool.true_or]
    · cases h

/-- A token starts with a character that has ink. -/
theorem isBlank_of_lexemeAt? {found : Found} (h : lexemeAt? c rest = some found) (other : c ≠ ' ') :
    isBlank c = false := by
  by_cases low : c.toNat < 33
  · rw [lexemeAt?_of_low low other] at h
    cases h
  by_cases high : c.toNat < 128
  · exact Numeral.isBlank_eq_false (by omega) high
  have word : isWordStart c = true := by simp [isWordStart, Nat.le_of_not_lt high]
  simp only [lexemeAt?, prefixLength_eq_none (startsQuotation_of_high high), word, if_true] at h
  exact isBlank_of_wordAt? h high

/-- A character with ink stands at this place of a text that starts at `place`. -/
def ShowsAt (place : Place) (cs : List Char) (x : Place) : Prop :=
  ∃ i c, cs[i]? = some c ∧ isBlank c = false ∧ place.after (cs.take i) = x

theorem ShowsAt.behind {place x : Place} {before : List Char}
    (h : ShowsAt (place.after before) cs x) :
    ShowsAt place (before ++ cs) x := by
  obtain ⟨i, c, there, visible, same⟩ := h
  refine ⟨before.length + i, c, ?_, visible, ?_⟩
  · rw [List.getElem?_append_right (Nat.le_add_right _ _), Nat.add_sub_cancel_left]
    exact there
  · rw [List.take_length_add_append, Place.after_append]
    exact same

theorem not_hasText_of_stop {lexeme : Lexeme} {behind : Place} {opened : Opened} {ending : Ending}
    (isEnd : lexeme.isEnd = true) {t : Token}
    (ht : t ∈ (Lexed.stop lexeme behind opened ending).tokens) :
    ¬ t.hasText = true := by
  obtain rfl := List.mem_singleton.mp ht
  rw [Token.hasText, Token.isEnd, isEnd]
  exact Bool.false_ne_true

/-- Tokens stand where their first characters do. -/
theorem showsAt_of_token (opened : Opened) (fresh : Bool) (place : Place) (cs : List Char) :
    ∀ t ∈ (scanFrom opened fresh place cs).tokens, t.hasText = true → ShowsAt place cs t.place := by
  fun_induction scanFrom opened fresh place cs with
  | case1 | case2 | case7 | case8 | case10 | case11 | case12 =>
    exact fun t ht hasText => absurd hasText (not_hasText_of_stop rfl ht)
  | case3 opened fresh place c rest blank ih => exact fun t ht hasText => (ih t ht hasText).behind
  | case4 opened fresh place rest n comment ih =>
    intro t ht hasText
    have found := (ih t ht hasText).behind
    rwa [List.cons_append, List.take_append_drop] at found
  | case5 opened fresh place rest skipped blank comment ih =>
    exact fun t ht hasText => (ih t ht hasText).behind
  | case6 opened fresh place rest ends blank comment after ih =>
    refine List.forall_mem_cons.mpr ⟨fun hasText => ?_, fun t ht hasText =>
      (ih t ht hasText).behind⟩
    cases hasText
  | case9 opened fresh place more goes blank comment lineEnd ih =>
    exact fun t ht hasText => (ih t ht hasText).behind
  | case13 opened fresh place c rest noBlank _ _ _ found hfound inner _ after ih =>
    refine List.forall_mem_cons.mpr ⟨fun _ => ⟨0, c, rfl, ?_, rfl⟩, fun t ht hasText => ?_⟩
    · exact isBlank_of_lexemeAt? hfound fun blank => noBlank (by rw [blank]; rfl)
    · have found := (ih t ht hasText).behind
      rwa [List.cons_append, List.take_append_drop] at found

/-- The position of a statement that assigns. -/
def Statement.position? : Statement → Option Place
  | .assign _ _ _ position => some position
  | .expression _ => none

/-- A token with text stands at this place. -/
def IsPlaceOf (tokens : List Token) (x : Place) : Prop :=
  ∃ t ∈ tokens, t.hasText = true ∧ t.place = x

/-- The problem is a construct at such a place. -/
def RefusesAt (tokens : List Token) (p : Problem) : Prop :=
  ∃ reason x, p = .construct reason x ∧ IsPlaceOf tokens x

variable {tokens mid : List Token} {t : Tree} {p : Problem}

theorem IsPlaceOf.of_suffix {x : Place} (h : IsPlaceOf mid x) (suffix : mid <:+ tokens) :
    IsPlaceOf tokens x := by
  obtain ⟨t, ht, hasText, same⟩ := h
  exact ⟨t, suffix.subset ht, hasText, same⟩

theorem RefusesAt.of_suffix (h : RefusesAt mid p) (suffix : mid <:+ tokens) :
    RefusesAt tokens p := by
  obtain ⟨reason, x, rfl, found⟩ := h
  exact ⟨reason, x, rfl, found.of_suffix suffix⟩

theorem exists_of_exprsOf_eq_error {ts : List Tree} (h : exprsOf ts = .error p) :
    ∃ t ∈ ts, t.expr = .error p := by
  induction ts with
  | nil => cases h
  | cons t more ih =>
    simp only [exprsOf, bind_eq_error] at h
    rcases h with h | ⟨_, _, h | ⟨_, _, h⟩⟩
    · exact ⟨t, List.mem_cons_self, h⟩
    · obtain ⟨u, hu, same⟩ := ih h
      exact ⟨u, List.mem_cons_of_mem t hu, same⟩
    · cases h

theorem construct_of_numberOf {place : Place} {text : String} (h : numberOf place text = .error p) :
    ∃ reason, p = .construct reason place := by
  rw [numberOf] at h
  split at h
  · split at h
    · cases h
    · cases h
      exact ⟨_, rfl⟩
  · cases h
    exact ⟨_, rfl⟩

theorem construct_of_knownOperator {α : Type} {place : Place} {op : Except ForeignOperator α}
    (h : knownOperator place op = .error p) : ∃ reason, p = .construct reason place := by
  cases op with
  | ok op => cases h
  | error op =>
    cases h
    exact ⟨_, rfl⟩

theorem error_of_unary {place : Place} {op : UnaryOp} {operand : Tree}
    (h : (Tree.unary place (.ok op) operand).expr = .error p) : operand.expr = .error p := by
  rw [Tree.expr, knownOperator] at h
  obtain ⟨_, ⟨⟩, h⟩ := (bind_eq_error.mp h).resolve_left nofun
  obtain h | ⟨_, _, h⟩ := bind_eq_error.mp h
  · exact h
  · cases h

theorem error_of_binary {place : Place} {op : BinaryOp} {left right : Tree}
    (h : (Tree.binary place (.ok op) left right).expr = .error p) :
    left.expr = .error p ∨ right.expr = .error p := by
  rw [Tree.expr, knownOperator] at h
  obtain ⟨_, ⟨⟩, h⟩ := (bind_eq_error.mp h).resolve_left nofun
  obtain h | ⟨_, _, h⟩ := bind_eq_error.mp h
  · exact .inl h
  · obtain h | ⟨_, _, h⟩ := bind_eq_error.mp h
    · exact .inr h
    · cases h

theorem error_of_call {place : Place} {callee : Tree} {args : List Tree}
    (h : (Tree.call place callee args false).expr = .error p) :
    callee.expr = .error p ∨ ∃ arg ∈ args, arg.expr = .error p := by
  rw [Tree.expr, if_neg Bool.false_ne_true] at h
  obtain h | ⟨_, _, h⟩ := bind_eq_error.mp h
  · exact .inl h
  · obtain h | ⟨_, _, h⟩ := bind_eq_error.mp h
    · exact .inr (exists_of_exprsOf_eq_error h)
    · cases h

namespace Grammar

theorem isPlaceOf_derives {rest : List Token} (h : Derives tokens (.tree t) rest) :
    IsPlaceOf tokens t.place := by
  generalize same : Phrase.tree t = phrase at h
  induction h generalizing t with
  | group opens inside _ ih =>
    cases same
    exact (ih rfl).of_suffix (List.suffix_cons _ _)
  | number lexeme | name lexeme =>
    cases same
    exact ⟨_, List.mem_cons_self,
      by rw [Token.hasText, Token.isEnd, Token.isLineEnd, lexeme]; rfl, rfl⟩
  | unary signed =>
    cases same
    exact ⟨_, List.mem_cons_self, Token.hasText_of_is signed, rfl⟩
  | binary before | call before =>
    cases same
    obtain ⟨_, _, ⟨⟩, hasText, _⟩ := before.exists_first
    exact ⟨_, List.mem_cons_self, hasText, rfl⟩
  | refused hasText refused =>
    cases same
    exact ⟨_, List.mem_cons_self, hasText, refused.2.symm⟩
  | noArgument | argument | comma | refusedArgument => cases same

/-- What a phrase is refused for. An argument without a place of its own has the place of its
bracket. -/
def Phrase.RefusesAt (tokens : List Token) : Phrase → Prop
  | tree t => ∀ p, t.expr = .error p → Script.RefusesAt tokens p
  | arguments bracket args => ∀ arg ∈ args, ∀ p, arg.expr = .error p →
      Script.RefusesAt tokens p ∨ ∃ reason, p = .construct reason bracket

theorem refusesAt_derives {phrase : Phrase} {rest : List Token} (h : Derives tokens phrase rest) :
    phrase.RefusesAt tokens := by
  have refusedAt : ∀ {t : Tree} {p : Problem} {place : Place}, t.IsRefusedAt place →
    t.expr = .error p →
      ∃ reason, p = .construct reason place := by
    intro t p place refused hp
    obtain ⟨reason, same⟩ := Tree.expr_of_isRefused refused.1
    rw [same, refused.2] at hp
    cases hp
    exact ⟨reason, rfl⟩
  induction h with
  | number lexeme =>
    intro p hp
    obtain ⟨reason, rfl⟩ := construct_of_numberOf hp
    exact ⟨reason, _, rfl, isPlaceOf_derives (.number lexeme)⟩
  | name => exact fun p hp => nomatch hp
  | group _ _ _ ih => exact fun p hp => (ih p hp).of_suffix (List.suffix_cons _ _)
  | unary _ _ _ ih => exact fun p hp => (ih p (error_of_unary hp)).of_suffix (List.suffix_cons _ _)
  | binary before _ _ _ left right =>
    intro p hp
    rcases error_of_binary hp with hp | hp
    · exact left p hp
    · exact (right p hp).of_suffix ((List.suffix_cons _ _).trans before.isSuffix)
  | call before opens _ _ callee args =>
    intro p hp
    have behind := before.isSuffix
    rcases error_of_call hp with hp | ⟨arg, harg, hp⟩
    · exact callee p hp
    · rcases args arg (List.mem_reverse.mp harg) p hp with found | ⟨reason, rfl⟩
      · exact found.of_suffix ((List.suffix_cons _ _).trans behind)
      · exact ⟨reason, _, rfl, _, behind.subset List.mem_cons_self, Token.hasText_of_is opens, rfl⟩
  | refused hasText refused =>
    intro p hp
    obtain ⟨reason, rfl⟩ := refusedAt refused hp
    exact ⟨reason, _, rfl, _, List.mem_cons_self, hasText, rfl⟩
  | noArgument => exact fun arg harg => absurd harg List.not_mem_nil
  | argument before _ args last =>
    refine List.forall_mem_cons.mpr ⟨fun p hp => .inl ?_, args⟩
    exact (last p hp).of_suffix before.isSuffix
  | comma _ _ ih => exact ih
  | refusedArgument _ refused _ ih =>
    exact List.forall_mem_cons.mpr ⟨fun p hp => .inr (refusedAt refused hp), ih⟩

variable {rest : List Token}

theorem isPlaceOf_derivesValue {targets : List Tree} {value : Tree}
    (h : DerivesValue tokens targets value rest) :
    IsPlaceOf tokens value.place := by
  cases h with
  | first value => exact isPlaceOf_derives value
  | further before _ behind =>
    exact (isPlaceOf_derives behind).of_suffix ((List.suffix_cons _ _).trans before.isSuffix)

theorem refusesAt_derivesValue {targets : List Tree} {value : Tree}
    (h : DerivesValue tokens targets value rest) :
    (∀ p, value.expr = .error p → RefusesAt tokens p) ∧ ∀ t ∈ targets, ∀ p, t.expr = .error p →
    RefusesAt tokens p := by
  induction h with
  | first value => exact ⟨refusesAt_derives value, fun t ht => absurd ht List.not_mem_nil⟩
  | further before _ behind ih =>
    have suffix := (List.suffix_cons _ _).trans before.isSuffix
    exact ⟨fun p hp => (refusesAt_derives behind p hp).of_suffix suffix,
      List.forall_mem_cons.mpr ⟨ih.1, ih.2⟩⟩

/-- A clause is refused at the place of one of its tokens. -/
theorem refusesAt_derivesClause {c : Clause} (h : DerivesClause tokens c rest)
    (hp : c.statements = .error p) :
    RefusesAt tokens p := by
  cases h with
  | assign assigned =>
    obtain ⟨value, targets⟩ := refusesAt_derivesValue assigned
    rw [Clause.statements] at hp
    obtain hp | ⟨_, _, hp⟩ := bind_eq_error.mp hp
    · exact value p hp
    · obtain hp | ⟨_, _, hp⟩ := bind_eq_error.mp hp
      · obtain ⟨t, ht, hp⟩ := exists_of_exprsOf_eq_error hp
        exact targets t (List.mem_reverse.mp ht) p hp
      · cases hp
  | augment before signed behind =>
    have suffix := (List.suffix_cons _ _).trans before.isSuffix
    rw [Clause.statements] at hp
    obtain hp | ⟨_, _, hp⟩ := bind_eq_error.mp hp
    · obtain ⟨_, _, ⟨⟩, hasText, _⟩ := before.exists_first
      obtain ⟨reason, rfl⟩ := construct_of_knownOperator hp
      exact ⟨reason, _, rfl, _, List.mem_cons_self, hasText, rfl⟩
    · obtain hp | ⟨_, _, hp⟩ := bind_eq_error.mp hp
      · exact refusesAt_derives before p hp
      · obtain hp | ⟨_, _, hp⟩ := bind_eq_error.mp hp
        · exact (refusesAt_derives behind p hp).of_suffix suffix
        · cases hp
  | expression inside =>
    rw [Clause.statements] at hp
    obtain hp | ⟨_, _, hp⟩ := bind_eq_error.mp hp
    · exact refusesAt_derives inside p hp
    · cases hp
  | pass => cases hp
  | foreign command within hasText _ =>
    cases hp
    exact ⟨_, _, rfl, _, within.subset List.mem_cons_self, hasText, rfl⟩

theorem isPlaceOf_position {c : Clause} (h : DerivesClause tokens c rest) {ss : List Statement}
    (read : c.statements = .ok ss) {s : Statement} (hs : s ∈ ss) :
    ∀ x ∈ s.position?, IsPlaceOf tokens x := by
  cases h with
  | assign assigned =>
    simp only [Clause.statements, bind_eq_ok, pure_eq_ok] at read
    obtain ⟨_, _, _, _, rfl⟩ := read
    obtain ⟨target, _, rfl⟩ := List.mem_map.mp hs
    rintro _ ⟨⟩
    exact isPlaceOf_derivesValue assigned
  | augment before _ behind =>
    simp only [Clause.statements, bind_eq_ok, pure_eq_ok] at read
    obtain ⟨_, _, _, _, _, _, rfl⟩ := read
    cases List.mem_singleton.mp hs
    rintro _ ⟨⟩
    exact (isPlaceOf_derives behind).of_suffix ((List.suffix_cons _ _).trans before.isSuffix)
  | expression =>
    simp only [Clause.statements, bind_eq_ok, pure_eq_ok] at read
    obtain ⟨_, _, rfl⟩ := read
    cases List.mem_singleton.mp hs
    rintro _ ⟨⟩
  | pass =>
    cases read
    cases hs
  | foreign => cases read

theorem exists_of_derivesClauses {cs : List Clause} (h : DerivesClauses tokens cs rest) {c : Clause}
    (hc : c ∈ cs) :
    ∃ mid behind, mid <:+ tokens ∧ DerivesClause mid c behind := by
  induction h with
  | none => cases hc
  | clause before hd ih =>
    rcases List.mem_cons.mp hc with rfl | hc
    · exact ⟨_, _, before.isSuffix, hd⟩
    · exact ih hc
  | ending _ _ ih => exact ih hc

end Grammar

theorem exists_of_statementsOf_eq_error {cs : List Clause} (h : statementsOf cs = .error p) :
    ∃ c ∈ cs, c.statements = .error p := by
  induction cs with
  | nil => cases h
  | cons c more ih =>
    simp only [statementsOf, bind_eq_error] at h
    rcases h with h | ⟨_, _, h | ⟨_, _, h⟩⟩
    · exact ⟨c, List.mem_cons_self, h⟩
    · obtain ⟨d, hd, same⟩ := ih h
      exact ⟨d, List.mem_cons_of_mem c hd, same⟩
    · cases h

theorem exists_of_mem_statementsOf {cs : List Clause} {ss : List Statement}
    (h : statementsOf cs = .ok ss)
    {s : Statement} (hs : s ∈ ss) : ∃ c ∈ cs, ∃ own, c.statements = .ok own ∧ s ∈ own := by
  induction cs generalizing ss with
  | nil =>
    cases h
    cases hs
  | cons c more ih =>
    simp only [statementsOf, bind_eq_ok, pure_eq_ok] at h
    obtain ⟨first, hfirst, rest, hrest, rfl⟩ := h
    rcases List.mem_append.mp hs with hs | hs
    · exact ⟨c, List.mem_cons_self, first, hfirst, hs⟩
    · obtain ⟨d, hd, found⟩ := ih hrest hs
      exact ⟨d, List.mem_cons_of_mem c hd, found⟩

/-- The clauses of a text are derived from its tokens. -/
theorem derives_of_readWith {cs : List Char} {clauses : List Clause}
    (h : readWith Grammar.wholeScript cs = .ok clauses) :
    ∃ rest, Grammar.DerivesClauses (scan 1 cs).tokens clauses.reverse rest ∧
    ∀ t ∈ rest.head?, t.lexeme = .textEnd := by
  simp only [readWith] at h
  split at h
  · cases h
  · split at h
    · next parsed hparsed =>
      cases h
      exact ⟨parsed.rest, Grammar.derives_wholeScript (Grammar.spellsAll_nested _) _ _ _
        ⟨parsed.isSuffix, hparsed⟩⟩
    · cases h

theorem readWith_ne_construct {α : Type} (p : Grammar.Inner → Parser α) (cs : List Char)
    {reason : Reason} {x : Place} :
    readWith p cs ≠ .error (.construct reason x) := by
  intro h
  simp only [readWith] at h
  split at h
  · cases h
  · split at h <;> cases h

/-- The character at this place of the text that is read, with ink, is the same one of the script,
as many with ink stand before it outside of comments, and the place names its line. -/
def StandsAt (cs : List Char) (place : Place) : Prop :=
  ∃ i j c, isBlank c = false ∧
    (prepared cs)[j]? = some c ∧ (⟨1, 0⟩ : Place).after ((prepared cs).take j) = place ∧
    (masked cs)[i]? = some c ∧ cs[i]? = some c ∧
      inkBefore (masked cs) i = inkBefore (prepared cs) j ∧
    lineAt cs i = place.line

/-- In a text whose lines end with line feeds alone, places count the lines. -/
theorem lineAt_of_feeds {j : Nat} (feeds : ∀ c ∈ cs, isLineEnd c = true → c = '\n')
    (there : cs[j]? = some d) :
    lineAt cs j = 1 + (cs.take j).count '\n' := by
  induction cs generalizing j with
  | nil => cases there
  | cons c more ih =>
    obtain ⟨first, others⟩ := List.forall_mem_cons.mp feeds
    cases j with
    | zero => exact lineAt_zero c more
    | succ j =>
      have behind := ih others there
      rw [List.take_succ_cons]
      by_cases ends : isLineEnd c = true
      · obtain rfl := first ends
        rw [lineAt_lineEnd ends (fun carriage => absurd carriage (by decide)), behind,
          List.count_cons_self]
        rfl
      · have inside : more[j]? = some d := there
        have other : c ≠ '\n' := ne_of_isLineEnd (Bool.eq_false_iff.mpr ends) (by decide)
        rw [lineAt_cons (Bool.eq_false_iff.mpr ends) inside, behind, List.count_cons_of_ne other]

theorem eq_lineFeed_of_mem_prepared (cs : List Char) :
    ∀ c ∈ prepared cs, isLineEnd c = true → c = '\n' := by
  intro c hc ends
  rcases mem_joinLines hc with rfl | ⟨l, hl, hc⟩
  · rfl
  · rw [isLineEnd_of_mem_trimmed _ l hl c hc] at ends
    cases ends

/-- What has ink in the text that is read stands on its line in the script. -/
theorem standsAt_of_prepared (feeds : endsWithFeeds cs = true) {j : Nat} {c : Char}
    (there : (prepared cs)[j]? = some c)
    (visible : isBlank c = false) :
    StandsAt cs ((⟨1, 0⟩ : Place).after ((prepared cs).take j)) := by
  obtain ⟨l, found, line⟩ := getElem?_inkOf there visible 1
  have same : ink (prepared cs) = inkOf 1 (Text.lines (prepared cs)) := rfl
  rw [← same, ← ink_masked feeds] at found
  obtain ⟨i, inside, _, before, line'⟩ := exists_index_of_inkOf found
  obtain ⟨own, sameLine⟩ := getElem?_of_masked inside visible
  refine ⟨i, j, c, visible, there, rfl, inside, own, before, ?_⟩
  rw [Place.line_after, ← sameLine, ← lineAt_of_feeds (eq_lineFeed_of_mem_prepared cs) there]
  omega

/-- The places of the tokens that are read. -/
theorem standsAt_of_isPlaceOf (feeds : endsWithFeeds cs = true) {x : Place}
    (h : IsPlaceOf (scan 1 (withLineEnd (prepared cs))).tokens x) : StandsAt cs x := by
  obtain ⟨t, ht, hasText, rfl⟩ := h
  obtain ⟨j, c, there, visible, same⟩ := showsAt_of_token [] true ⟨1, 0⟩ _ t ht hasText
  have goes : c ≠ '\n' := ne_of_isLineEnd (isLineEnd_eq_false visible) (by decide)
  have inside : (prepared cs)[j]? = some c ∧
      (withLineEnd (prepared cs)).take j = (prepared cs).take j := by
    by_cases ended : (prepared cs).getLast? = some '\n'
    · rw [withLineEnd, if_pos ended] at there ⊢
      exact ⟨there, rfl⟩
    · rw [withLineEnd, if_neg ended] at there ⊢
      have short : j < (prepared cs).length := by
        by_contra long
        rw [List.getElem?_append_right (Nat.le_of_not_lt long)] at there
        exact goes (List.mem_singleton.mp (List.mem_of_getElem? there))
      rw [List.getElem?_append_left short] at there
      exact ⟨there, List.take_append_of_le_length (Nat.le_of_lt short)⟩
  rw [inside.2] at same
  rw [← same]
  exact standsAt_of_prepared feeds inside.1 visible

/-- For every script whose lines end with line feeds, with or without a carriage return before them,
the ink outside of its comments is the ink of the prepared text, in the same order and on the same
lines. So whatever the script says is reported with the line of the script that it stands on:
assignments, constructs that are refused, and definitions. -/
theorem lines_survive_preparation (script : String) (feeds : endsWithFeeds script.toList = true) :
    ink (masked script.toList) = ink (prepared script.toList) ∧
      (∀ ss, statements script = .ok ss → ∀ s ∈ ss, ∀ x ∈ s.position?, StandsAt script.toList x) ∧
      (∀ reason x, statements script = .error (.construct reason x) → StandsAt script.toList x) ∧
      ∀ given book, Rulebook.parse script given = .ok book →
        ∀ d ∈ book.table.definitions, StandsAt script.toList d.position := by
  have positions : ∀ ss, statements script = .ok ss → ∀ s ∈ ss, ∀ x ∈ s.position?,
      StandsAt script.toList x := by
    intro ss h s hs x hx
    simp only [statements, bind_eq_ok] at h
    obtain ⟨clauses, hclauses, h⟩ := h
    obtain ⟨rest, derived, _⟩ := derives_of_readWith hclauses
    obtain ⟨c, hc, own, hown, hs⟩ := exists_of_mem_statementsOf h hs
    obtain ⟨mid, behind, suffix, hc⟩ :=
      Grammar.exists_of_derivesClauses derived (List.mem_reverse.mpr hc)
    exact standsAt_of_isPlaceOf feeds
      ((Grammar.isPlaceOf_position hc hown hs x hx).of_suffix suffix)
  refine ⟨ink_masked feeds, positions, ?_, ?_⟩
  · intro reason x h
    rw [statements] at h
    rcases bind_eq_error.mp h with h | ⟨clauses, hclauses, h⟩
    · exact absurd h (readWith_ne_construct _ _)
    · obtain ⟨rest, derived, _⟩ := derives_of_readWith hclauses
      obtain ⟨c, hc, refused⟩ := exists_of_statementsOf_eq_error h
      obtain ⟨mid, behind, suffix, hc⟩ :=
        Grammar.exists_of_derivesClauses derived (List.mem_reverse.mpr hc)
      obtain ⟨_, _, ⟨⟩, found⟩ := (Grammar.refusesAt_derivesClause hc refused).of_suffix suffix
      exact standsAt_of_isPlaceOf feeds found
  · intro given book accepted d hd
    obtain ⟨ss, target, e, hss, hs, _⟩ :=
      Rulebook.exists_statement_of_mem_definitions (Rulebook.parse_eq_ok accepted) hd
    exact positions ss hss _ hs d.position rfl

/-- The second rule stands behind a line comment and a block comment that ends on a further line. -/
theorem lines_of_commented_script :
    let script := "BTC_USD = 1; // one\r\n/* two\r\n*/ BTC_EUR = 2;"
    endsWithFeeds script.toList = true ∧ ink (masked script.toList) = ink (prepared script.toList) ∧
      ∃ book, Rulebook.parse script (.decimal .one) = .ok book ∧
        book.table.definitions.map Definition.position = [⟨1, 10⟩, ⟨3, 10⟩] ∧
        ∀ d ∈ book.table.definitions, StandsAt script.toList d.position := by
  have feeds : endsWithFeeds "BTC_USD = 1; // one\r\n/* two\r\n*/ BTC_EUR = 2;".toList = true := by
    decide +kernel
  have accepted : passes (fun book => book.table.definitions.map Definition.position ==
    [⟨1, 10⟩, ⟨3, 10⟩])
      (Rulebook.parse "BTC_USD = 1; // one\r\n/* two\r\n*/ BTC_EUR = 2;" (.decimal .one)) =
        true := by decide +kernel
  obtain ⟨book, hbook, positions⟩ := passes_iff.mp accepted
  obtain ⟨same, _, _, stands⟩ := lines_survive_preparation _ feeds
  exact ⟨feeds, same, book, hbook, beq_iff_eq.mp positions, stands _ _ hbook⟩

end RateRules.Script
