import RateRules.Proofs.Candidate
import RateRules.Script.Token.Scan

/-!
# The tokens of a text

Every token of a text stands behind the one before it. Only the last token may be none of the text:
it marks the end or a fault, and its place need not follow the others. A number token has no sign.
-/
namespace RateRules.Script

open RateRules.Candidate

theorem Place.isBefore_after_singleton (place : Place) (c : Char) :
    isBefore place (place.after [c]) = true := by
  have size := c.utf8Size_pos
  rw [isBefore_iff]
  simp only [Place.after, List.foldl_cons, List.foldl_nil]
  split
  · exact Or.inl (Nat.lt_succ_self _)
  · exact Or.inr ⟨rfl, Nat.lt_add_of_pos_right size⟩

theorem Place.isBefore_after (place : Place) (c : Char) (cs : List Char) :
    isBefore place (place.after (c :: cs)) = true := by
  induction cs generalizing place c with
  | nil => exact place.isBefore_after_singleton c
  | cons d more ih =>
    exact isBefore_trans (place.isBefore_after_singleton c) (ih (place.after [c]) d)

/-- What marks the end of the tokens. -/
def Lexeme.isEnd : Lexeme → Bool
  | textEnd => true
  | broken => true
  | _ => false

def Token.isEnd (t : Token) : Bool := t.lexeme.isEnd

/-- One token comes before another. -/
def Token.Precedes (t u : Token) : Prop :=
  t.isEnd = false ∧ (u.isEnd = false → isBefore t.place u.place = true)

/-- The tokens stand in their order, from `place` on. -/
structure OrderedFrom (place : Place) (tokens : List Token) : Prop where
  pairwise : tokens.Pairwise Token.Precedes
  from_place : ∀ t ∈ tokens, t.isEnd = false → t.place = place ∨ isBefore place t.place = true

variable {place behind : Place} {tokens : List Token}

theorem OrderedFrom.of_isBefore (h : OrderedFrom behind tokens)
    (hplace : isBefore place behind = true) :
    OrderedFrom place tokens := by
  constructor
  · exact h.pairwise
  · intro t ht goes
    right
    rcases h.from_place t ht goes with same | later
    · rw [same]
      exact hplace
    · exact isBefore_trans hplace later

theorem OrderedFrom.cons {t : Token} (h : OrderedFrom behind tokens) (goes : t.isEnd = false)
    (hbehind : isBefore t.place behind = true) : OrderedFrom t.place (t :: tokens) := by
  have later := h.of_isBefore hbehind
  constructor
  · have precedes : ∀ u ∈ tokens, t.Precedes u := by
      intro u hu
      refine ⟨goes, fun isToken => ?_⟩
      rcases h.from_place u hu isToken with same | after
      · rw [same]
        exact hbehind
      · exact isBefore_trans hbehind after
    exact List.pairwise_cons.mpr ⟨precedes, h.pairwise⟩
  · intro u hu isToken
    rcases List.mem_cons.mp hu with rfl | hu
    · exact Or.inl rfl
    · exact later.from_place u hu isToken

theorem orderedFrom_stop {lexeme : Lexeme} (h : lexeme.isEnd = true) (place behind : Place)
    (opened : Opened) (ending : Ending) :
    OrderedFrom place (Lexed.stop lexeme behind opened ending).tokens := by
  constructor
  · exact List.pairwise_singleton _ _
  · intro t ht goes
    obtain rfl := List.mem_singleton.mp ht
    rw [Token.isEnd, h] at goes
    cases goes

/-- A number starts with a digit or with a point. -/
def startsNumeral (text : String) : Bool :=
  text.toList.head?.any fun c => Text.isDigit c || c == '.'

/-- What a token of a text can be: no mark of an end, and no number with a sign. -/
def Lexeme.isToken : Lexeme → Bool
  | lineEnd => false
  | textEnd => false
  | broken => false
  | number text => startsNumeral text
  | _ => true

theorem Lexeme.isEnd_of_isToken {l : Lexeme} (h : l.isToken = true) : l.isEnd = false := by
  cases l with
  | textEnd => cases h
  | broken => cases h
  | _ => rfl

theorem Lexeme.ne_lineEnd_of_isToken {l : Lexeme} (h : l.isToken = true) : l ≠ .lineEnd := by
  rintro rfl
  cases h

theorem isToken_of_wordAt? {c : Char} {rest : List Char} {found : Found}
    (h : wordAt? c rest = some found) :
    found.lexeme.isToken = true := by
  simp only [wordAt?] at h
  split at h
  · cases h
    rfl
  · split at h
    · cases h
      rfl
    · cases h

theorem isToken_of_quotationAt? {letters rest : List Char} {quote : Char} {found : Found}
    (h : quotationAt? letters quote rest = some found) : found.lexeme.isToken = true := by
  simp only [quotationAt?, bind, pure] at h
  split at h
  · obtain ⟨_, _, ⟨⟩⟩ := Option.bind_eq_some_iff.mp h
    rfl
  · obtain ⟨_, _, ⟨⟩⟩ := Option.bind_eq_some_iff.mp h
    rfl

theorem isToken_signAt (c : Char) (rest : List Char) : (signAt c rest).lexeme.isToken = true := by
  simp only [signAt]
  split
  · rfl
  · split <;> rfl

theorem isToken_number {c : Char} (h : (Text.isDigit c || c == '.') = true) (more : List Char) :
    (Lexeme.number (String.ofList (c :: more))).isToken = true := by
  rw [Lexeme.isToken, startsNumeral, String.toList_ofList]
  exact h

/-- What can start at a character, and what the text has there. -/
inductive Finds (c : Char) (rest : List Char) : Found → Prop
  | quotation {letters after : List Char} {quote : Char} {found : Found}
      (text : letters ++ quote :: after = c :: rest)
      (read : quotationAt? letters quote after = some found) : Finds c rest found
  | word {found : Found} (starts : isWordStart c = true) (read : wordAt? c rest = some found) :
      Finds c rest found
  | number {n : Nat} (digit : Text.isDigit c = true) (length : numberLength? c rest = some n) :
      Finds c rest ⟨.number (String.ofList (c :: rest.take n)), n⟩
  | fraction {n : Nat} (point : c = '.') (length : fractionLength? rest = some n) :
      Finds c rest ⟨.number (String.ofList (c :: rest.take n)), n⟩
  | sign : Finds c rest (signAt c rest)

theorem finds_of_lexemeAt? {c : Char} {rest : List Char} {found : Found}
    (h : lexemeAt? c rest = some found) :
    Finds c rest found := by
  simp only [lexemeAt?] at h
  split at h
  · next n _ =>
    split at h
    · next quote after behind =>
      exact .quotation ((congrArg _ behind.symm).trans (List.take_append_drop n _)) h
    · cases h
  · split at h
    · next starts => exact .word starts h
    · split at h
      · next digit =>
        obtain ⟨n, length, rfl⟩ := Option.map_eq_some_iff.mp h
        exact .number digit length
      · split at h
        · next point =>
          obtain ⟨n, length, rfl⟩ := Option.map_eq_some_iff.mp h
          rw [Bool.and_eq_true, decide_eq_true_eq] at point
          exact .fraction point.1 length
        · split at h
          · cases h
          · cases h
            exact .sign

theorem isToken_of_lexemeAt? {c : Char} {rest : List Char} {found : Found}
    (h : lexemeAt? c rest = some found) : found.lexeme.isToken = true := by
  cases finds_of_lexemeAt? h with
  | quotation _ read => exact isToken_of_quotationAt? read
  | word _ read => exact isToken_of_wordAt? read
  | number digit => exact isToken_number (by rw [digit, Bool.true_or]) _
  | fraction point => exact isToken_number (by rw [point]; decide) _
  | sign => exact isToken_signAt c rest

/-- Where a token of a text comes from: it marks an end of the text or of a line, or it is found
where it starts. -/
inductive ComesFrom (cs : List Char) (t : Token) : Prop
  | textEnd (isEnd : t.isEnd = true)
  | lineEnd (same : t.lexeme = .lineEnd)
  | found {c : Char} {rest : List Char} {found : Found} (within : c :: rest <:+ cs)
      (read : lexemeAt? c rest = some found) (same : t.lexeme = found.lexeme)

theorem ComesFrom.of_suffix {cs ds : List Char} {t : Token} (h : ComesFrom cs t)
    (suffix : cs <:+ ds) : ComesFrom ds t := by
  cases h with
  | textEnd isEnd => exact .textEnd isEnd
  | lineEnd same => exact .lineEnd same
  | found within read same => exact .found (within.trans suffix) read same

/-- What marks no end is found where it starts. -/
theorem ComesFrom.exists_found {cs : List Char} {t : Token} {lexeme : Lexeme} (h : ComesFrom cs t)
    (same : t.lexeme = lexeme) (noEnd : lexeme.isEnd = false) (noLineEnd : lexeme ≠ .lineEnd) :
    ∃ c rest found, c :: rest <:+ cs ∧ lexemeAt? c rest = some found ∧ found.lexeme = lexeme := by
  subst same
  cases h with
  | textEnd isEnd => cases noEnd.symm.trans isEnd
  | lineEnd same => exact absurd same noLineEnd
  | found within read same => exact ⟨_, _, _, within, read, same.symm⟩

theorem comesFrom_of_mem_scanFrom (opened : Opened) (fresh : Bool) (place : Place)
    (cs : List Char) {t : Token}
    (ht : t ∈ (scanFrom opened fresh place cs).tokens) : ComesFrom cs t := by
  have stop : ∀ {lexeme : Lexeme} {place : Place} {opened : Opened} {ending : Ending},
      lexeme.isEnd = true → t ∈ (Lexed.stop lexeme place opened ending).tokens →
      t.isEnd = true := by
    rintro lexeme place opened ending isEnd inside
    rw [List.mem_singleton.mp inside]
    exact isEnd
  fun_induction scanFrom opened fresh place cs with
  | case1 | case2 | case7 | case8 | case10 | case11 | case12 => exact .textEnd (stop rfl ht)
  | case3 opened fresh place c rest blank ih => exact (ih ht).of_suffix (List.suffix_cons c rest)
  | case4 opened fresh place rest n comment ih =>
    exact (ih ht).of_suffix ((List.drop_suffix n rest).trans (List.suffix_cons _ rest))
  | case5 opened fresh place rest skipped blank comment ih =>
    exact (ih ht).of_suffix (List.suffix_cons _ rest)
  | case6 opened fresh place rest ends blank comment after ih =>
    rcases List.mem_cons.mp ht with rfl | ht
    · exact .lineEnd rfl
    · exact (ih ht).of_suffix (List.suffix_cons _ rest)
  | case9 opened fresh place more goes blank comment lineEnd ih =>
    exact (ih ht).of_suffix ((List.suffix_cons _ more).trans (List.suffix_cons _ _))
  | case13 opened fresh place c rest _ _ _ _ found hfound inner _ after ih =>
    rcases List.mem_cons.mp ht with rfl | ht
    · exact .found List.suffix_rfl hfound rfl
    · exact (ih ht).of_suffix ((List.drop_suffix found.more rest).trans (List.suffix_cons c rest))

/-- A token of a text, or the mark of an end. -/
def Token.isOfScript (t : Token) : Bool := t.isEnd || t.isLineEnd || t.lexeme.isToken

theorem isOfScript_scanFrom (opened : Opened) (fresh : Bool) (place : Place) (cs : List Char) :
    ∀ t ∈ (scanFrom opened fresh place cs).tokens, t.isOfScript = true := by
  intro t ht
  cases comesFrom_of_mem_scanFrom opened fresh place cs ht with
  | textEnd isEnd => rw [Token.isOfScript, isEnd, Bool.true_or, Bool.true_or]
  | lineEnd same =>
    rw [Token.isOfScript, Token.isLineEnd, same, beq_self_eq_true, Bool.or_true, Bool.true_or]
  | found _ read same => rw [Token.isOfScript, same, isToken_of_lexemeAt? read, Bool.or_true]

/-- The tokens of a text are ordered. -/
theorem orderedFrom_scanFrom (opened : Opened) (fresh : Bool) (place : Place) (cs : List Char) :
    OrderedFrom place (scanFrom opened fresh place cs).tokens := by
  fun_induction scanFrom opened fresh place cs with
  | case1 => exact orderedFrom_stop rfl _ _ _ _
  | case2 => exact orderedFrom_stop rfl _ _ _ _
  | case3 opened fresh place c rest blank ih => exact ih.of_isBefore (place.isBefore_after c [])
  | case4 opened fresh place rest n comment ih => exact ih.of_isBefore (place.isBefore_after '#' _)
  | case5 opened fresh place rest skipped blank comment ih =>
    exact ih.of_isBefore (place.isBefore_after '\n' [])
  | case6 opened fresh place rest ends blank comment after ih =>
    exact ih.cons (t := ⟨.lineEnd, place, 0⟩) rfl (place.isBefore_after '\n' [])
  | case7 => exact orderedFrom_stop rfl _ _ _ _
  | case8 => exact orderedFrom_stop rfl _ _ _ _
  | case9 opened fresh place more goes blank comment lineEnd ih =>
    exact ih.of_isBefore (place.isBefore_after '\\' ['\n'])
  | case10 => exact orderedFrom_stop rfl _ _ _ _
  | case11 => exact orderedFrom_stop rfl _ _ _ _
  | case12 => exact orderedFrom_stop rfl _ _ _ _
  | case13 opened fresh place c rest _ _ _ _ found hfound inner _ after ih =>
    exact ih.cons (t := ⟨found.lexeme, place, inner.length⟩)
      (Lexeme.isEnd_of_isToken (isToken_of_lexemeAt? hfound))
      (place.isBefore_after c _)

/-- The last token marks the end or a fault. -/
def Ends (tokens : List Token) : Prop := ∃ t ∈ tokens.getLast?, t.isEnd = true

theorem Ends.ne_nil (h : Ends tokens) : tokens ≠ [] := by
  rintro rfl
  obtain ⟨_, last, _⟩ := h
  cases last

theorem Ends.cons (h : Ends tokens) (t : Token) : Ends (t :: tokens) := by
  obtain ⟨u, last, isEnd⟩ := h
  refine ⟨u, ?_, isEnd⟩
  rw [Option.mem_def] at last
  rw [List.getLast?_cons, last]
  exact rfl

/-- What stands behind other tokens ends as they do. -/
theorem Ends.of_suffix {rest : List Token} (h : Ends tokens) (suffix : rest <:+ tokens)
    (some : rest ≠ []) : Ends rest := by
  obtain ⟨u, last, isEnd⟩ := h
  obtain ⟨before, rfl⟩ := suffix
  cases hlast : rest.getLast? with
  | none => exact absurd (List.getLast?_eq_none_iff.mp hlast) some
  | some v =>
    rw [List.getLast?_append, hlast] at last
    cases last
    exact ⟨u, hlast, isEnd⟩

theorem Ends.tail {t : Token} (h : Ends (t :: tokens)) (goes : t.isEnd = false) :
    Ends tokens := by
  refine h.of_suffix (List.suffix_cons t tokens) ?_
  rintro rfl
  obtain ⟨_, ⟨⟩, isEnd⟩ := h
  exact absurd (goes.symm.trans isEnd) Bool.false_ne_true

theorem ends_scanFrom (opened : Opened) (fresh : Bool) (place : Place) (cs : List Char) :
    Ends (scanFrom opened fresh place cs).tokens := by
  have stopped : ∀ {l : Lexeme} (place : Place) (o : Opened) (ending : Ending), l.isEnd = true →
      Ends (Lexed.stop l place o ending).tokens :=
    fun _ _ _ h => ⟨_, rfl, h⟩
  fun_induction scanFrom opened fresh place cs with
  | case1 | case2 | case7 | case8 | case10 | case11 | case12 => exact stopped _ _ _ rfl
  | case3 _ _ _ _ _ _ ih => exact ih
  | case4 _ _ _ _ _ _ ih => exact ih
  | case5 _ _ _ _ _ _ _ ih => exact ih
  | case9 _ _ _ _ _ _ _ _ ih => exact ih
  | case6 _ _ _ _ _ _ _ _ ih => exact ih.cons _
  | case13 _ _ _ _ _ _ _ _ _ _ _ _ _ _ ih => exact ih.cons _

end RateRules.Script
