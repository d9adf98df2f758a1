import RateRules.Proofs.NumberTokens
import RateRules.Proofs.Scanning

/-!
# Splitting a text part by part

A part of a text that closes the brackets it opens gives the same tokens wherever it stands, if the
text behind it does not go on with its last word and there are not too many brackets open. So the
tokens of a text are known from those of its parts.
-/
namespace RateRules.Script

/-- With so many brackets open before it, a text never has too many of them open at once. -/
def Fits (opened : Nat) (cs : List Char) : Prop :=
  ∀ before, before <+: cs → opened + before.count '(' ≤ before.count ')' + maxOpened

variable {opened : Nat} {cs ds : List Char}

/-- A text with few opening brackets never has too many of them open. -/
theorem fits_of_count_le (h : opened + cs.count '(' ≤ maxOpened) : Fits opened cs := by
  intro before hbefore
  have few := hbefore.sublist.count_le '('
  omega

theorem Fits.of_append (h : Fits opened (cs ++ ds)) : Fits opened cs :=
  fun before hbefore => h before (hbefore.trans (List.prefix_append cs ds))

/-- A part with closed brackets leaves the others where they are. -/
theorem Fits.behind (h : Fits opened (cs ++ ds)) (balanced : cs.count '(' = cs.count ')') :
    Fits opened ds := by
  intro before hbefore
  have whole := h (cs ++ before) ((List.prefix_append_right_inj cs).mpr hbefore)
  rw [List.count_append, List.count_append] at whole
  omega

theorem Fits.inside (h : Fits opened ('(' :: cs)) : Fits (opened + 1) cs := by
  intro before hbefore
  have whole := h ('(' :: before) ((List.prefix_cons_inj '(').mpr hbefore)
  rw [List.count_cons_self, List.count_cons_of_ne (by decide)] at whole
  omega

theorem Fits.lt (h : Fits opened ('(' :: cs)) : opened < maxOpened := by
  have first := h ['('] ((List.prefix_cons_inj '(').mpr List.nil_prefix)
  rw [List.count_singleton_self, List.count_eq_zero_of_not_mem (by decide)] at first
  omega

/-- Before `rest`, a text closes the brackets that it opens and is split into these lexemes. -/
structure Splits (cs : List Char) (lexemes : List Lexeme) (rest : List Char) : Prop where
  balanced : cs.count '(' = cs.count ')'
  scans : ∀ (opened : Opened) (fresh : Bool) (place : Place), Fits opened.length cs →
    ∃ tokens place', tokens.map Token.lexeme = lexemes ∧
      scanFrom opened fresh place (cs ++ rest) =
        (scanFrom opened (fresh && lexemes.isEmpty) place' rest).behind tokens

variable {lexemes more : List Lexeme} {rest : List Char}

theorem Splits.append (h : Splits cs lexemes (ds ++ rest)) (h' : Splits ds more rest) :
    Splits (cs ++ ds) (lexemes ++ more) rest := by
  constructor
  · rw [List.count_append, List.count_append, h.balanced, h'.balanced]
  · intro opened fresh place fits
    obtain ⟨tokens, mid, htokens, first⟩ := h.scans opened fresh place fits.of_append
    obtain ⟨further, place', hfurther, second⟩ :=
      h'.scans opened (fresh && lexemes.isEmpty) mid (fits.behind h.balanced)
    refine ⟨tokens ++ further, place', ?_, ?_⟩
    · rw [List.map_append, htokens, hfurther]
    · have fresh' : (fresh && (lexemes ++ more).isEmpty) =
          (fresh && lexemes.isEmpty && more.isEmpty) := by
        cases lexemes <;> simp
      rw [List.append_assoc, first, second, fresh', Lexed.behind, Lexed.behind, Lexed.behind,
        List.append_assoc]

theorem splits_nil (rest : List Char) : Splits [] [] rest :=
  ⟨rfl, fun opened fresh place _ => ⟨[], place, rfl, by simp [Lexed.behind]⟩⟩

theorem splits_blank (rest : List Char) : Splits [' '] [] rest := by
  refine ⟨by decide, fun opened fresh place _ => ⟨[], place.after [' '], rfl, ?_⟩⟩
  rw [List.singleton_append, scanFrom_blank (by decide)]
  simp [Lexed.behind]

/-- A token that is no bracket. -/
theorem splits_token {c : Char} {word : List Char} {lexeme : Lexeme} (start : c ∉ skipped)
    (noBracket : '(' ∉ c :: word ∧ ')' ∉ c :: word)
    (neutral : ∀ (opened : Opened) line, opened.after? line lexeme = some opened)
    (found : lexemeAt? c (word ++ rest) = some ⟨lexeme, word.length⟩) :
    Splits (c :: word) [lexeme] rest := by
  constructor
  · rw [List.count_eq_zero_of_not_mem noBracket.1, List.count_eq_zero_of_not_mem noBracket.2]
  · intro opened fresh place _
    refine ⟨[⟨lexeme, place, opened.length⟩], place.after (c :: word), rfl, ?_⟩
    rw [scanFrom_token start found (neutral opened place.line)]
    simp

/-- A sign that is the beginning of no longer one. -/
theorem signAt_single {c : Char} {rest : List Char}
    (h : ∀ s ∈ longSigns ++ doubleSigns, s.toList.take 2 ≠ c :: rest.take 1) :
    signAt c rest = ⟨.sign (String.singleton c), 0⟩ := by
  have three : longSigns.contains (String.ofList (c :: rest.take 2)) = false := by
    rw [List.contains_eq_mem, decide_eq_false_iff_not]
    intro hmem
    refine h _ (List.mem_append_left _ hmem) ?_
    rw [String.toList_ofList, List.take_succ_cons, List.take_take]
    rfl
  have two : doubleSigns.contains (String.ofList (c :: rest.take 1)) = false := by
    rw [List.contains_eq_mem, decide_eq_false_iff_not]
    intro hmem
    refine h _ (List.mem_append_right _ hmem) ?_
    rw [String.toList_ofList, List.take_succ_cons, List.take_take]
    rfl
  simp only [signAt, three, two, Bool.false_eq_true, if_false]

def brackets : List Char := ['(', ')', '[', ']', '\x7b', '\x7d']

/-- What starts no token but a sign, and is no bracket. -/
def isSignChar (c : Char) : Bool :=
  !startsQuotation c && !isWordStart c && !Text.isDigit c && c != '.' && 32 ≤ c.toNat &&
    c.toNat != 127 &&
    !skipped.contains c

theorem lexemeAt?_of_isSignChar {c : Char} (h : isSignChar c = true) (rest : List Char) :
    c ∉ skipped ∧ lexemeAt? c rest = some (signAt c rest) := by
  simp only [isSignChar, Bool.and_eq_true, Bool.not_eq_true', bne_iff_ne, ne_eq, decide_eq_true_eq,
    List.contains_eq_mem, decide_eq_false_iff_not] at h
  obtain ⟨⟨⟨⟨⟨⟨quotation, word⟩, digit⟩, point⟩, low⟩, delete⟩, start⟩ := h
  have shown : ¬ (c.toNat < 32 ∨ c.toNat = 127) := by omega
  exact ⟨start, by simp [lexemeAt?, prefixLength_eq_none quotation, word, digit, point, shown]⟩

theorem after?_of_not_bracket {c : Char} (h : c ∉ brackets) (opened : Opened) (line : Nat) :
    opened.after? line (.sign (String.singleton c)) = some opened := by
  simp only [brackets, List.mem_cons, List.not_mem_nil, or_false, not_or] at h
  obtain ⟨_, _, _, _, _, _⟩ := h
  simp [Opened.after?, *]

/-- A sign of one character that is no bracket. -/
theorem splits_sign {c : Char} (sign : isSignChar c = true) (noBracket : c ∉ brackets)
    (h : ∀ s ∈ longSigns ++ doubleSigns, s.toList.take 2 ≠ c :: rest.take 1) :
    Splits [c] [.sign (String.singleton c)] rest := by
  obtain ⟨start, found⟩ := lexemeAt?_of_isSignChar sign rest
  rw [signAt_single h] at found
  refine splits_token start ⟨?_, ?_⟩ (after?_of_not_bracket noBracket) found
  · intro opening
    refine noBracket ?_
    rw [← List.mem_singleton.mp opening]
    decide
  · intro closing
    refine noBracket ?_
    rw [← List.mem_singleton.mp closing]
    decide

/-- No longer sign has a blank. -/
theorem splits_sign_blank {c : Char} (sign : isSignChar c = true) (noBracket : c ∉ brackets)
    (rest : List Char) : Splits [c] [.sign (String.singleton c)] (' ' :: rest) := by
  have noBlank : ∀ s ∈ longSigns ++ doubleSigns, ' ' ∉ s.toList.take 2 := by decide +kernel
  refine splits_sign sign noBracket fun s hs same => noBlank s hs ?_
  rw [same]
  exact List.mem_cons_of_mem c List.mem_cons_self

/-- A sign that no longer one starts with. -/
theorem signAt_alone {c : Char} (alone : ∀ s ∈ longSigns ++ doubleSigns, s.toList.head? ≠ some c)
    (rest : List Char) : signAt c rest = ⟨.sign (String.singleton c), 0⟩ := by
  refine signAt_single fun s hs same => alone s hs ?_
  have first := congrArg List.head? same
  rwa [List.head?_take, if_neg (by decide), List.head?_cons] at first

theorem lexemeAt?_parenthesis {c : Char} (h : c ∈ ['(', ')']) (rest : List Char) :
    c ∉ skipped ∧ lexemeAt? c rest = some ⟨.sign (String.singleton c), 0⟩ := by
  have alone : ∀ c ∈ ['(', ')'], isSignChar c = true ∧
      ∀ s ∈ longSigns ++ doubleSigns, s.toList.head? ≠ some c :=
      forall_mem_of_all (by decide +kernel)
  obtain ⟨sign, single⟩ := alone c h
  obtain ⟨start, found⟩ := lexemeAt?_of_isSignChar sign rest
  exact ⟨start, found.trans (congrArg some (signAt_alone single rest))⟩

theorem scanFrom_opening {opened : Opened} (few : opened.length < maxOpened) (fresh : Bool)
    (place : Place)
    (rest : List Char) :
    scanFrom opened fresh place ('(' :: rest) =
      (scanFrom (('(', place.line) :: opened) false (place.after ['(']) rest).behind
        [⟨.sign "(", place, opened.length + 1⟩] := by
  obtain ⟨start, found⟩ := lexemeAt?_parenthesis (by decide : '(' ∈ ['(', ')']) rest
  have opens : opened.after? place.line (.sign "(") = some (('(', place.line) :: opened) := by
    simp [Opened.after?, Nat.not_le.mpr few]
  exact @scanFrom_token opened _ fresh place '(' [] rest _ start found opens

theorem scanFrom_closing (opened : Opened) (line : Nat) (fresh : Bool) (place : Place)
    (rest : List Char) :
    scanFrom (('(', line) :: opened) fresh place (')' :: rest) =
      (scanFrom opened false (place.after [')']) rest).behind
      [⟨.sign ")", place, opened.length⟩] := by
  obtain ⟨start, found⟩ := lexemeAt?_parenthesis (by decide : ')' ∈ ['(', ')']) rest
  have shuts : Opened.after? (('(', line) :: opened) place.line (.sign ")") = some opened := by
    simp [Opened.after?, closes]
  exact @scanFrom_token (('(', line) :: opened) _ fresh place ')' [] rest _ start found shuts

/-- A text in parentheses. -/
theorem Splits.parentheses (h : Splits cs lexemes (')' :: rest)) :
    Splits ('(' :: cs ++ [')']) (.sign "(" :: lexemes ++ [.sign ")"]) rest := by
  constructor
  · simp [List.count_append, h.balanced]
  · intro opened fresh place fits
    obtain ⟨tokens, mid, htokens, inner⟩ :=
      h.scans (('(', place.line) :: opened) false (place.after ['('])
      fits.inside.of_append
    refine ⟨⟨.sign "(", place, opened.length + 1⟩ :: tokens ++ [⟨.sign ")", mid, opened.length⟩],
      mid.after [')'], ?_, ?_⟩
    · rw [List.map_append, List.map_cons, htokens]
      rfl
    · have whole : '(' :: cs ++ [')'] ++ rest = '(' :: (cs ++ ')' :: rest) := by simp
      rw [whole, scanFrom_opening fits.lt, inner, Bool.false_and, scanFrom_closing]
      simp [Lexed.behind]

theorem splits_number {d : Decimal} (literal : d.isLiteral = true) (stops : Stops rest) :
    Splits d.text.toList [.number d.text] rest := by
  obtain ⟨n, written, _, _⟩ := Decimal.exists_numeral literal
  obtain ⟨c, word, hchars, found⟩ := lexemeAt?_chars stops n
  have range : ∀ x ∈ c :: word, 43 ≤ x.toNat ∧ x.toNat ≤ 69 := by
    intro x hx
    rw [← hchars] at hx
    exact (n.isChar_of_mem x hx).toNat
  have absent : ∀ x : Char, x.toNat < 43 ∨ 69 < x.toNat → x ∉ c :: word := by
    intro x hx mem
    have := range x mem
    omega
  have start : c ∉ skipped := by
    have others : ∀ x ∈ skipped, x.toNat < 43 ∨ 69 < x.toNat := forall_mem_of_all (by decide)
    exact fun mem => absent c (others c mem) List.mem_cons_self
  rw [written, String.toList_ofList, hchars]
  rw [hchars] at found
  exact splits_token start ⟨absent '(' (by decide), absent ')' (by decide)⟩ (fun _ _ => rfl) found

/-- A word that a script reads as a name and leaves as it is. -/
def isName (word : String) : Bool :=
  match word.toList with
  | [] => false
  | c :: more =>
    isWordStart c && more.all isWordChar && !keywords.contains word &&
      ((c :: more).all (·.toNat < 128) || Text.isIdentifier (c :: more)) &&
        Text.composed word == word

/-- No quote stands behind the letters of a word. -/
theorem prefixLength_of_word {c : Char} {more : List Char}
    (all : ∀ x ∈ c :: more, isWordChar x = true)
    (stops : Stops rest) : prefixLength (c :: more ++ rest) = none := by
  have noQuote : ∀ x, isWordChar x = true → x ≠ '\'' ∧ x ≠ '"' := by
    intro x hx
    constructor
    · rintro rfl
      exact absurd hx (by decide)
    · rintro rfl
      exact absurd hx (by decide)
  have noStop : ∀ x ∈ Script.stops, x ≠ '\'' ∧ x ≠ '"' ∧ x.toLower ∉ ['b', 'r', 'f'] :=
    forall_mem_of_all (by decide)
  obtain ⟨c₁, c₂⟩ := noQuote c (all c List.mem_cons_self)
  cases more with
  | nil =>
    cases rest with
    | nil => simp [prefixLength, c₁, c₂]
    | cons r further =>
      obtain ⟨single, double, letters⟩ := noStop r (stops r rfl)
      simp only [List.mem_cons, List.not_mem_nil, or_false, not_or] at letters
      simp [prefixLength, c₁, c₂, single, double, letters]
  | cons r further =>
    obtain ⟨single, double⟩ := noQuote r (all r (by simp))
    have second : ((further ++ rest).head?.any fun x => x == '\'' || x == '"') = false := by
      rw [Option.any_eq_false]
      intro x hx
      cases further with
      | nil =>
        obtain ⟨single, double, _⟩ := noStop x (stops x hx)
        simp [single, double]
      | cons y tail =>
        obtain ⟨single, double⟩ := noQuote x (all x (by simp [Option.some.inj hx]))
        simp [single, double]
    simp [prefixLength, c₁, c₂, single, double, second, -List.head?_append]

theorem exists_of_isName {word : String} (h : isName word = true) :
    ∃ c more, word.toList = c :: more ∧ isWordStart c = true ∧
    (∀ x ∈ c :: more, isWordChar x = true) ∧
      keywords.contains word = false ∧
      ((c :: more).all (·.toNat < 128) || Text.isIdentifier (c :: more)) = true ∧
      Text.composed word = word := by
  cases hword : word.toList with
  | nil => simp [isName, hword] at h
  | cons c more =>
    simp only [isName, hword, Bool.and_eq_true, Bool.not_eq_true', beq_iff_eq] at h
    obtain ⟨⟨⟨⟨letter, all⟩, noKeyword⟩, identifier⟩, composed⟩ := h
    have start : isWordChar c = true := by
      simp only [isWordStart, isWordChar, Char.isAlphanum, Bool.or_eq_true] at letter ⊢
      rcases letter with (alpha | underscore) | beyond
      · exact Or.inl (Or.inl (Or.inl alpha))
      · exact Or.inl (Or.inr underscore)
      · exact Or.inr beyond
    refine ⟨c, more, rfl, letter, fun x hx => ?_, noKeyword, identifier, composed⟩
    rcases List.mem_cons.mp hx with rfl | hx
    · exact start
    · exact List.all_eq_true.mp all x hx

theorem splits_name {word : String} (h : isName word = true) (stops : Stops rest) :
    Splits word.toList [.name word] rest := by
  obtain ⟨c, more, hword, letter, chars, noKeyword, identifier, composed⟩ := exists_of_isName h
  have same : String.ofList (c :: more) = word := by rw [← hword, String.ofList_toList]
  have absent : ∀ x, isWordChar x = false → x ∉ c :: more := by
    intro x hx mem
    rw [chars x mem] at hx
    cases hx
  have noToken : ∀ x ∈ skipped, isWordChar x = false := forall_mem_of_all (by decide)
  have taken : (more ++ rest).takeWhile isWordChar = more :=
    (span_append (fun x hx => chars x (List.mem_cons_of_mem c hx)) (isWordChar_of_stops stops)).1
  have noQuotation : prefixLength (c :: (more ++ rest)) = none := prefixLength_of_word chars stops
  have found : lexemeAt? c (more ++ rest) = some ⟨.name word, more.length⟩ := by
    simp only [lexemeAt?, noQuotation, letter, if_true, wordAt?, taken, List.take_left,
      same, noKeyword,
      Bool.false_eq_true, if_false, identifier, composed]
  rw [hword]
  exact splits_token (fun mem => absent c (noToken c mem) List.mem_cons_self)
    ⟨absent '(' (by decide), absent ')' (by decide)⟩ (fun _ _ => rfl) found

end RateRules.Script
