import Mathlib.Data.List.TakeWhile
import RateRules.Proofs.Lookahead

/-!
# Slashes in tokens

Where no two slashes follow each other, only quoted texts have slashes behind their first
characters. So where a slash and a star stand outside of the comments of the grammar, the scanner
finds two signs, or it does not get beyond a quoted text or a fault.
-/
namespace RateRules.Script

open Text (isDigit)

variable {cs rest : List Char} {length? other? : List Char → Option Nat}

def isNumberChar (c : Char) : Bool := isWordChar c || c == '.' || isSign c

theorem isNumberChar_of_isWordChar {c : Char} (h : isWordChar c = true) :
    isNumberChar c = true := by
  rw [isNumberChar, h, Bool.true_or, Bool.true_or]

theorem isWordChar_of_isDigit {c : Char} (h : isDigit c = true) : isWordChar c = true := by
  have all : ∀ d ∈ ['0', '1', '2', '3', '4', '5', '6', '7', '8', '9'], isWordChar d = true :=
    forall_mem_of_all (by decide)
  exact all c (mem_digits h)

/-- A length that counts characters of numbers alone. -/
def CountsNumber (length? : List Char → Option Nat) : Prop :=
  ∀ cs n, length? cs = some n → ∀ c ∈ cs.take n, isNumberChar c = true

theorem countsNumber_none : CountsNumber fun _ => none :=
  fun _ n h => absurd h (Option.not_mem_none n)

theorem countsNumber_zero : CountsNumber fun _ => some 0 := by
  intro cs n h c hc
  cases h
  cases hc

theorem CountsNumber.ite {b : List Char → Bool} (h : CountsNumber length?)
    (h' : CountsNumber other?) :
    CountsNumber fun cs => if b cs then length? cs else other? cs := by
  intro cs n hn
  simp only at hn
  split at hn
  · exact h cs n hn
  · exact h' cs n hn

theorem CountsNumber.andThen (h : CountsNumber length?) (h' : CountsNumber other?) :
    CountsNumber fun cs => do
      let n ← length? cs
      let m ← other? (cs.drop n)
      return n + m := by
  intro cs k hk c hc
  obtain ⟨n, hn, hk⟩ := Option.bind_eq_some_iff.mp hk
  obtain ⟨m, hm, same⟩ := Option.bind_eq_some_iff.mp hk
  cases same
  rw [List.take_add, List.mem_append] at hc
  rcases hc with first | further
  · exact h cs n hn c first
  · exact h' _ m hm c further

theorem countsNumber_behindFirst {p : Char → Bool} (hp : ∀ c, p c = true → isNumberChar c = true)
    (h : CountsNumber length?) (h' : CountsNumber other?) :
    CountsNumber (behindFirst p length? other?) := by
  intro cs n hn
  rw [behindFirst] at hn
  split at hn
  · next found =>
    obtain ⟨m, hm, rfl⟩ := Option.map_eq_some_iff.mp hn
    cases cs with
    | nil => cases found
    | cons c more => exact List.forall_mem_cons.mpr ⟨hp c found, h more m hm⟩
  · exact h' cs n hn

theorem countsNumber_digitsLength? {p : Char → Bool}
    (hp : ∀ c, p c = true → isNumberChar c = true) :
    CountsNumber (digitsLength? p) := by
  intro cs n
  fun_induction digitsLength? p cs generalizing n with
  | case1 d more digit ih =>
    intro h
    obtain ⟨m, hm, rfl⟩ := Option.map_eq_some_iff.mp h
    exact List.forall_mem_cons.mpr ⟨by decide, List.forall_mem_cons.mpr ⟨hp d digit, ih m hm⟩⟩
  | case4 d more first second digit ih =>
    intro h
    obtain ⟨m, hm, rfl⟩ := Option.map_eq_some_iff.mp h
    exact List.forall_mem_cons.mpr ⟨hp d digit, ih m hm⟩
  | _ =>
    intro h
    cases h <;> exact List.forall_mem_nil _

theorem countsNumber_zerosLength? : CountsNumber zerosLength? := by
  intro cs n
  fun_induction zerosLength? cs generalizing n with
  | case1 more digit ih =>
    intro h
    obtain ⟨m, hm, rfl⟩ := Option.map_eq_some_iff.mp h
    exact List.forall_mem_cons.mpr ⟨by decide, List.forall_mem_cons.mpr ⟨by decide, ih m hm⟩⟩
  | case2 d more =>
    intro h
    cases h
    exact List.forall_mem_cons.mpr ⟨by decide, List.forall_mem_nil _⟩
  | case5 more ih =>
    intro h
    obtain ⟨m, hm, rfl⟩ := Option.map_eq_some_iff.mp h
    exact List.forall_mem_cons.mpr ⟨by decide, ih m hm⟩
  | _ =>
    intro h
    cases h <;> exact List.forall_mem_nil _

theorem isNumberChar_of_either {a b c : Char} (ha : isNumberChar a = true)
    (hb : isNumberChar b = true)
    (h : (c == a || c == b) = true) : isNumberChar c = true := by
  rcases Bool.or_eq_true_iff.mp h with same | same
  · rwa [eq_of_beq same]
  · rwa [eq_of_beq same]

theorem isNumberChar_of_isDigit {c : Char} (h : isDigit c = true) : isNumberChar c = true :=
  isNumberChar_of_isWordChar (isWordChar_of_isDigit h)

theorem isNumberChar_of_isSign {c : Char} (h : isSign c = true) : isNumberChar c = true := by
  rw [isNumberChar, h, Bool.or_true]

theorem countsNumber_numberEnd? : CountsNumber numberEnd? := countsNumber_zero.ite countsNumber_none

theorem countsNumber_imaginaryLength? : CountsNumber imaginaryLength? := by
  rw [imaginaryLength?_eq]
  exact countsNumber_behindFirst (fun _ => isNumberChar_of_either (by decide) (by decide))
    countsNumber_numberEnd?
    countsNumber_numberEnd?

theorem countsNumber_digits : CountsNumber (digitsLength? isDigit) :=
  countsNumber_digitsLength? fun _ => isNumberChar_of_isDigit

/-- Digits with at least one of them, or something else. -/
theorem CountsNumber.orDigits (h : CountsNumber other?) :
    CountsNumber (behindFirst isDigit (digitsLength? isDigit) other?) :=
  countsNumber_behindFirst (fun _ => isNumberChar_of_isDigit) countsNumber_digits h

theorem countsNumber_powerLength? : CountsNumber powerLength? := by
  have digits : CountsNumber powerDigits? :=
    countsNumber_none.orDigits.andThen countsNumber_imaginaryLength?
  have signed := countsNumber_behindFirst (fun _ => isNumberChar_of_isSign) digits digits
  have letter : ∀ c, isPowerLetter c = true → isNumberChar c = true :=
    fun _ => isNumberChar_of_either (by decide) (by decide)
  rw [powerLength?_eq]
  exact (countsNumber_behindFirst letter signed countsNumber_none).ite
    (countsNumber_numberEnd?.ite countsNumber_imaginaryLength?)

theorem countsNumber_fractionLength? : CountsNumber fractionLength? := by
  rw [fractionLength?_eq]
  exact countsNumber_zero.orDigits.andThen countsNumber_powerLength?

theorem countsNumber_afterWholeLength? : CountsNumber afterWholeLength? := by
  have point : ∀ c, (c == '.') = true → isNumberChar c = true := by
    intro c h
    rw [eq_of_beq h]
    decide
  rw [afterWholeLength?_eq]
  exact countsNumber_behindFirst point countsNumber_fractionLength? countsNumber_powerLength?

theorem countsNumber_basedLength? {p : Char → Bool} (hp : ∀ c, p c = true → isNumberChar c = true) :
    CountsNumber (basedLength? p) := by
  have ending : CountsNumber basedEnd? := countsNumber_none.ite countsNumber_numberEnd?
  have digits : CountsNumber (basedDigits? p) :=
    (countsNumber_behindFirst hp (countsNumber_digitsLength? hp) countsNumber_none).andThen ending
  have underscore : ∀ c, (c == '_') = true → isNumberChar c = true := by
    intro c h
    rw [eq_of_beq h]
    decide
  rw [basedLength?_eq]
  exact countsNumber_behindFirst underscore digits digits

theorem countsNumber_afterZeros? : CountsNumber afterZeros? := by
  have marked : CountsNumber marked? := countsNumber_afterWholeLength?.ite countsNumber_none
  exact (countsNumber_none.orDigits.andThen marked).ite countsNumber_afterWholeLength?

theorem isNumberChar_of_isAlpha {c : Char} (h : c.isAlpha = true) : isNumberChar c = true :=
  isNumberChar_of_isWordChar (by simp [isWordChar, Char.isAlphanum, h])

theorem isNumberChar_of_isLower {c : Char} (h : 'a' ≤ c) (h' : c ≤ 'z') :
    isNumberChar c = true := by
  have letter : c.isLower = true := Bool.and_eq_true_iff.mpr ⟨decide_eq_true h, decide_eq_true h'⟩
  exact isNumberChar_of_isAlpha (Bool.or_eq_true_iff.mpr (.inr letter))

theorem isNumberChar_of_isUpper {c : Char} (h : 'A' ≤ c) (h' : c ≤ 'Z') :
    isNumberChar c = true := by
  have letter : c.isUpper = true := decide_eq_true ⟨h, h'⟩
  exact isNumberChar_of_isAlpha (Bool.or_eq_true_iff.mpr (.inl letter))

theorem isNumberChar_of_isHexDigit {c : Char} (h : isHexDigit c = true) :
    isNumberChar c = true := by
  simp only [isHexDigit, Bool.or_eq_true, Bool.and_eq_true, decide_eq_true_eq] at h
  rcases h with (digit | ⟨least, most⟩) | ⟨least, most⟩
  · exact isNumberChar_of_isDigit digit
  · exact isNumberChar_of_isLower least (Char.le_trans most (by decide))
  · exact isNumberChar_of_isUpper least (Char.le_trans most (by decide))

theorem isNumberChar_of_isOctalDigit {c : Char} (h : isOctalDigit c = true) :
    isNumberChar c = true := by
  simp only [isOctalDigit, Bool.and_eq_true, decide_eq_true_eq] at h
  have digit : isDigit c = true := by
    simp only [isDigit, Bool.and_eq_true, decide_eq_true_eq]
    exact ⟨h.1, Char.le_trans h.2 (by decide)⟩
  exact isNumberChar_of_isDigit digit

theorem countsNumber_afterZeroLength? : CountsNumber afterZeroLength? := by
  have hex := countsNumber_basedLength? fun _ => isNumberChar_of_isHexDigit
  have octal := countsNumber_basedLength? fun _ => isNumberChar_of_isOctalDigit
  have binary :=
    countsNumber_basedLength? fun _ =>
      isNumberChar_of_either (a := '0') (b := '1') (by decide) (by decide)
  have based : ∀ {a b : Char} {length? other? : List Char → Option Nat}, isNumberChar a = true →
    isNumberChar b = true →
      CountsNumber length? → CountsNumber other? →
      CountsNumber (behindFirst (fun c => c == a || c == b) length? other?) :=
    fun ha hb => countsNumber_behindFirst fun _ => isNumberChar_of_either ha hb
  rw [afterZeroLength?_eq]
  refine based (by decide) (by decide) hex (based (by decide) (by decide) octal ?_)
  exact based (by decide) (by decide) binary
    (countsNumber_zerosLength?.andThen countsNumber_afterZeros?)

/-- A number has only characters of numbers. -/
theorem countsNumber_numberLength? (c : Char) : CountsNumber (numberLength? c) := by
  by_cases zero : c = '0'
  · have same : numberLength? c = afterZeroLength? := funext fun _ => if_pos zero
    rw [same]
    exact countsNumber_afterZeroLength?
  · have same : numberLength? c = fun cs => do
        let n ← digitsLength? isDigit cs
        let m ← afterWholeLength? (cs.drop n)
        return n + m := funext fun _ => if_neg zero
    rw [same]
    exact countsNumber_digits.andThen countsNumber_afterWholeLength?

def Lexeme.isQuotation : Lexeme → Bool
  | quotation _ => true
  | _ => false

theorem isQuotation_of_quotationAt? {letters : List Char} {quote : Char} {found : Found}
    (h : quotationAt? letters quote rest = some found) : found.lexeme.isQuotation = true := by
  simp only [quotationAt?, bind, pure] at h
  split at h
  · obtain ⟨_, _, ⟨⟩⟩ := Option.bind_eq_some_iff.mp h
    rfl
  · obtain ⟨_, _, ⟨⟩⟩ := Option.bind_eq_some_iff.mp h
    rfl

theorem no_slash_of_isNumberChar (h : ∀ c ∈ cs, isNumberChar c = true) : '/' ∉ cs :=
  fun slash => absurd (h '/' slash) (by decide)

theorem no_slash_signAt {c : Char} (apart : ¬ ['/', '/'] <+: c :: rest) :
    '/' ∉ rest.take (signAt c rest).more := by
  have slashes : ∀ sign ∈ longSigns ++ doubleSigns, ['/', '/'] <+: sign.toList ∨
      '/' ∉ sign.toList.tail := by
    decide +kernel
  have inside : ∀ n, String.ofList (c :: rest.take n) ∈ longSigns ++ doubleSigns →
      '/' ∉ rest.take n := by
    intro n known
    have shape := slashes _ known
    rw [String.toList_ofList] at shape
    exact shape.resolve_left fun double =>
      apart (double.trans (List.cons_prefix_cons.mpr ⟨rfl, List.take_prefix n rest⟩))
  simp only [signAt]
  split
  · next long => exact inside 2 (List.mem_append_left _ (List.contains_iff_mem.mp long))
  · split
    · next double => exact inside 1 (List.mem_append_right _ (List.contains_iff_mem.mp double))
    · exact List.not_mem_nil

theorem no_slash_of_wordAt? {c : Char} {found : Found} (h : wordAt? c rest = some found) :
    '/' ∉ rest.take found.more := by
  have word : '/' ∉ rest.take (rest.takeWhile isWordChar).length := by
    rw [← List.prefix_iff_eq_take.mp (List.takeWhile_prefix isWordChar)]
    exact fun slash => absurd (List.all_eq_true.mp List.all_takeWhile _ slash) (by decide)
  simp only [wordAt?] at h
  split at h
  · cases h
    exact word
  · split at h
    · cases h
      exact word
    · cases h

/-- Only a quoted text can have a slash behind its first character, where no second slash follows a
first. -/
theorem no_slash_of_lexemeAt? {c : Char} {found : Found} (h : lexemeAt? c rest = some found)
    (plain : found.lexeme.isQuotation = false) (apart : ¬ ['/', '/'] <+: c :: rest) :
    '/' ∉ rest.take found.more := by
  cases finds_of_lexemeAt? h with
  | quotation _ read =>
    rw [isQuotation_of_quotationAt? read] at plain
    cases plain
  | word _ read => exact no_slash_of_wordAt? read
  | number _ length => exact no_slash_of_isNumberChar (countsNumber_numberLength? c rest _ length)
  | fraction _ length => exact no_slash_of_isNumberChar (countsNumber_fractionLength? rest _ length)
  | sign => exact no_slash_signAt apart

/-- The token is a star or a sign that starts with one. -/
def Token.startsWithStar (t : Token) : Bool :=
  match t.lexeme with
  | .sign text => text.toList.head? == some '*'
  | _ => false

/-- No rule has the token: it is quoted text or stands for a fault. -/
def Token.isUnusable (t : Token) : Bool := t.lexeme.isQuotation || t.isBroken

/-- Some token is unusable, or a slash and a star follow each other. -/
def HoldsOpening (tokens : List Token) : Prop :=
  ∃ t more, t :: more <:+ tokens ∧ (t.isUnusable = true ∨ t.is "/" = true ∧ ∃ u ∈ more.head?,
    u.startsWithStar = true)

variable {opened inner : Opened} {fresh : Bool} {place : Place} {before behind : List Char}
  {tokens : List Token} {t : Token}

theorem HoldsOpening.cons (h : HoldsOpening tokens) (t : Token) : HoldsOpening (t :: tokens) := by
  obtain ⟨u, more, within, opening⟩ := h
  exact ⟨u, more, within.trans (List.suffix_cons t tokens), opening⟩

theorem holdsOpening_of_isUnusable (h : t.isUnusable = true) (tokens : List Token) :
    HoldsOpening (t :: tokens) :=
  ⟨t, tokens, List.suffix_rfl, .inl h⟩

theorem holdsOpening_broken (place : Place) (opened : Opened) (ending : Ending) :
    HoldsOpening (Lexed.stop .broken place opened ending).tokens :=
  holdsOpening_of_isUnusable rfl []

/-- A sign is spelled as it stands in the text. -/
theorem toList_signAt (c : Char) (rest : List Char) :
    ∃ text, (signAt c rest).lexeme = .sign text ∧
    text.toList = c :: rest.take (signAt c rest).more := by
  simp only [signAt]
  split
  · exact ⟨_, rfl, String.toList_ofList⟩
  · split
    · exact ⟨_, rfl, String.toList_ofList⟩
    · exact ⟨_, rfl, by rw [String.toList_singleton]; rfl⟩

theorem lexemeAt?_star (rest : List Char) : lexemeAt? '*' rest = some (signAt '*' rest) := by
  rw [lexemeAt?, prefixLength_eq_none (by decide)]
  rfl

theorem after?_star {text : String} (h : text.toList.head? = some '*') (line : Nat) :
    opened.after? line (.sign text) = some opened := by
  obtain ⟨more, same⟩ := List.head?_eq_some_iff.mp h
  rw [Opened.after?, same]
  cases more <;> rfl

/-- The scanner finds a star where one stands. -/
theorem startsWithStar_scanFrom (opened : Opened) (fresh : Bool) (place : Place)
    (rest : List Char) :
    ∃ t ∈ (scanFrom opened fresh place ('*' :: rest)).tokens.head?, t.startsWithStar = true := by
  obtain ⟨text, sign, spelled⟩ := toList_signAt '*' rest
  have star : text.toList.head? = some '*' := by rw [spelled]; rfl
  rw [scanFrom_visible (by decide), lexemeAt?_star]
  simp only [sign, after?_star star]
  exact ⟨_, rfl, beq_iff_eq.mpr star⟩

/-- A slash before a star is a sign of its own. -/
theorem lexemeAt?_slash (behind : List Char) :
    lexemeAt? '/' ('*' :: behind) = some ⟨.sign "/", 0⟩ := by
  have apart : ∀ sign ∈ longSigns ++ doubleSigns, ¬ ['/', '*'] <+: sign.toList := by decide +kernel
  have long : longSigns.contains (String.ofList ('/' :: ('*' :: behind).take 2)) = false := by
    rw [List.contains_eq_mem, decide_eq_false_iff_not]
    intro known
    refine apart _ (List.mem_append_left _ known) ?_
    rw [String.toList_ofList]
    exact ⟨behind.take 1, rfl⟩
  have alone : signAt '/' ('*' :: behind) = ⟨.sign "/", 0⟩ := by
    simp only [signAt, long, Bool.false_eq_true, if_false]
    rfl
  rw [lexemeAt?, prefixLength_eq_none (by decide), ← alone]
  rfl

/-- No two slashes follow each other. -/
def SlashesApart (cs : List Char) : Prop := ¬ ['/', '/'] <:+: cs

theorem SlashesApart.within (h : SlashesApart cs) (within : rest <:+: cs) : SlashesApart rest :=
  fun slashes => h (slashes.trans within)

theorem SlashesApart.suffix (h : SlashesApart cs) (within : rest <:+ cs) : SlashesApart rest :=
  h.within within.isInfix

theorem SlashesApart.tail {c : Char} (h : SlashesApart (c :: rest)) : SlashesApart rest :=
  h.suffix (List.suffix_cons c rest)

/-- No comment of the grammar goes on behind the text. -/
def EndsComments (cs : List Char) : Prop := ∀ x y, cs = x ++ '#' :: y → '\n' ∈ y

theorem EndsComments.suffix (h : EndsComments cs) (within : rest <:+ cs) : EndsComments rest := by
  rintro x y rfl
  obtain ⟨z, rfl⟩ := within
  exact h (z ++ x) y (by rw [List.append_assoc])

theorem exists_tail {c : Char} (h : before ++ '/' :: behind = c :: rest) (other : c ≠ '/') :
    ∃ more, before = c :: more ∧ more ++ '/' :: behind = rest := by
  cases before with
  | nil => exact absurd (List.cons.inj h).1.symm other
  | cons d more =>
    obtain ⟨rfl, same⟩ := List.cons.inj h
    exact ⟨more, rfl, same⟩

/-- A text without a slash that starts another one is part of what stands before the first slash. -/
theorem drop_append_slash {n : Nat} (h : '/' ∉ (before ++ '/' :: behind).take n) :
    before.drop n ++ '/' :: behind = (before ++ '/' :: behind).drop n := by
  have inside : n ≤ before.length := by
    refine Nat.le_of_not_lt fun beyond => h ?_
    obtain ⟨k, rfl⟩ := Nat.exists_eq_add_of_lt beyond
    rw [Nat.add_assoc, List.take_length_add_append]
    exact List.mem_append_right _ List.mem_cons_self
  rw [List.drop_append_of_le_length inside]

theorem length_takeWhile_lt (h : '\n' ∈ cs) : (cs.takeWhile (· ≠ '\n')).length < cs.length := by
  have stops : cs.dropWhile (· ≠ '\n') ≠ [] := by
    intro none
    have all := List.dropWhile_eq_nil_iff.mp none '\n' h
    simp at all
  have whole :=
    congrArg List.length (List.takeWhile_append_dropWhile (p := fun c => decide (c ≠ '\n'))
      (l := cs))
  have some := List.length_pos_iff.mpr stops
  rw [List.length_append] at whole
  omega

/-- Where a slash and a star stand outside of the comments of the grammar, the scanner finds them as
signs of their own unless it has found a quoted text or a fault before. -/
theorem holdsOpening_scanFrom (ends : EndsComments before)
    (apart : SlashesApart (before ++ '/' :: '*' :: behind))
    (opened : Opened) (fresh : Bool) (place : Place) :
    HoldsOpening (scanFrom opened fresh place (before ++ '/' :: '*' :: behind)).tokens := by
  generalize same : before ++ '/' :: '*' :: behind = cs at apart
  fun_induction scanFrom opened fresh place cs generalizing before with
  | case1 | case2 => exact absurd same (List.append_ne_nil_of_right_ne_nil _ (List.cons_ne_nil _ _))
  | case7 | case8 | case10 | case11 | case12 => exact holdsOpening_broken _ _ _
  | case3 opened fresh place c rest blank ih =>
    have other : c ≠ '/' := by
      rintro rfl
      cases blank
    obtain ⟨more, rfl, further⟩ := exists_tail same other
    exact ih (ends.suffix (List.suffix_cons c more)) further apart.tail
  | case4 opened fresh place rest n blank =>
    rename_i ih
    obtain ⟨more, rfl, rfl⟩ := exists_tail same (by decide)
    have inside := length_takeWhile_lt (ends [] more rfl)
    have further : (more ++ '/' :: '*' :: behind).drop (more.takeWhile (· ≠ '\n')).length =
        more.drop (more.takeWhile (· ≠ '\n')).length ++ '/' :: '*' :: behind :=
      List.drop_append_of_le_length (Nat.le_of_lt inside)
    rw [← takeWhile_append_of_length_lt inside] at further
    exact ih (ends.suffix ((List.drop_suffix _ more).trans (List.suffix_cons _ more))) further.symm
      (apart.tail.suffix (List.drop_suffix _ _))
  | case5 opened fresh place rest skipped blank comment ih =>
    obtain ⟨more, rfl, further⟩ := exists_tail same (by decide)
    exact ih (ends.suffix (List.suffix_cons _ more)) further apart.tail
  | case6 opened fresh place rest goes blank comment after =>
    rename_i ih
    obtain ⟨more, rfl, further⟩ := exists_tail same (by decide)
    exact (ih (ends.suffix (List.suffix_cons _ more)) further apart.tail).cons _
  | case9 opened fresh place more goes blank comment lineEnd ih =>
    obtain ⟨tail, rfl, feed⟩ := exists_tail same (by decide)
    obtain ⟨next, rfl, further⟩ := exists_tail feed (by decide)
    exact ih (ends.suffix ((List.suffix_cons _ _).trans (List.suffix_cons _ _))) further
      apart.tail.tail
  | case13 opened fresh place c rest _ _ _ _ found hfound inner hinner after =>
    rename_i ih
    by_cases quoted : found.lexeme.isQuotation = true
    · exact holdsOpening_of_isUnusable (by rw [Token.isUnusable, quoted, Bool.true_or]) _
    cases before with
    | nil =>
      obtain ⟨rfl, rfl⟩ := List.cons.inj same
      rw [lexemeAt?_slash] at hfound
      cases hfound
      obtain ⟨u, first, star⟩ := startsWithStar_scanFrom inner false (place.after ['/']) behind
      exact ⟨_, _, List.suffix_rfl, .inr ⟨rfl, u, first, star⟩⟩
    | cons d more =>
      obtain ⟨rfl, rfl⟩ := List.cons.inj same
      have slash :=
        no_slash_of_lexemeAt? hfound (Bool.eq_false_iff.mpr quoted) fun slashes =>
          apart slashes.isInfix
      have within := (List.drop_suffix found.more more).trans (List.suffix_cons d more)
      exact (ih (ends.suffix within) (drop_append_slash slash)
        (apart.tail.suffix (List.drop_suffix _ _))).cons _

end RateRules.Script
