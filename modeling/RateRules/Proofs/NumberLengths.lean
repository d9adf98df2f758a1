import RateRules.Proofs.Splitting

/-!
# The lengths of numbers

How long a number is depends on its text alone: the count stays inside the text, and no stop behind
the text changes it. The lengths are put together from a few counts that keep this.
-/
namespace RateRules.Script

open Text (isDigit)

variable {cs rest : List Char}

/-- Letters that are no stops are found before a stop or not at all. -/
theorem exists_of_append_eq {letters more : List Char} (stop : Stops rest)
    (none : (letters.all fun c => decide (c ∉ stops)) = true)
    (h : cs ++ rest = letters ++ more) : ∃ tail, cs = letters ++ tail ∧ more = tail ++ rest := by
  rcases List.append_eq_append_iff.mp h with ⟨beyond, written, behind⟩ | inside
  · cases beyond with
    | nil => exact ⟨[], by rw [written, List.append_nil, List.append_nil], behind.symm⟩
    | cons c further =>
      have first : c ∈ rest.head? := by
        rw [behind]
        rfl
      have letter : c ∈ letters := by
        rw [written]
        exact List.mem_append_right _ List.mem_cons_self
      exact absurd (stop c first) (of_decide_eq_true (List.all_eq_true.mp none c letter))
  · exact inside

theorem any_head?_append {p : Char → Bool} (stop : Stops rest) (none : ∀ c ∈ stops, p c = false)
    (cs : List Char) : (cs ++ rest).head?.any p = cs.head?.any p := by
  cases cs with
  | nil =>
    cases rest with
    | nil => rfl
    | cons c more => exact none c (stop c rfl)
  | cons c more => rfl

/-- A length that a text tells by itself: it stays inside the text, and no stop behind the text
changes it. -/
structure Told (length? : List Char → Option Nat) : Prop where
  append : ∀ cs rest, Stops rest → length? (cs ++ rest) = length? cs
  le : ∀ cs n, length? cs = some n → n ≤ cs.length

variable {length? other? : List Char → Option Nat}

theorem told_none : Told fun _ => none :=
  ⟨fun _ _ _ => rfl, fun _ n h => absurd h (Option.not_mem_none n)⟩

theorem told_zero : Told fun _ => some 0 := by
  constructor
  · exact fun _ _ _ => rfl
  · intro cs n h
    cases h
    exact Nat.zero_le _

theorem Told.ite {b : List Char → Bool} (same : ∀ cs rest, Stops rest → b (cs ++ rest) = b cs)
    (h : Told length?) (h' : Told other?) :
    Told fun cs => if b cs then length? cs else other? cs := by
  constructor
  · intro cs rest stop
    simp only [same cs rest stop, h.append cs rest stop, h'.append cs rest stop]
  · intro cs n hn
    split at hn
    · exact h.le cs n hn
    · exact h'.le cs n hn

/-- Further characters are counted behind those that were counted first. -/
theorem Told.andThen (h : Told length?) (h' : Told other?) :
    Told fun cs => do
      let n ← length? cs
      let m ← other? (cs.drop n)
      return n + m := by
  constructor
  · intro cs rest stop
    rw [h.append cs rest stop]
    cases hfirst : length? cs with
    | none => rfl
    | some n =>
      simp only [bind, Option.bind]
      rw [List.drop_append_of_le_length (h.le cs n hfirst), h'.append _ rest stop]
  · intro cs k hk
    obtain ⟨n, hn, hk⟩ := Option.bind_eq_some_iff.mp hk
    obtain ⟨m, hm, same⟩ := Option.bind_eq_some_iff.mp hk
    cases same
    have first := h.le cs n hn
    have further := h'.le _ m hm
    rw [List.length_drop] at further
    omega

/-- A first character of a class, and what is counted behind it. -/
def behindFirst (p : Char → Bool) (length? other? : List Char → Option Nat)
    (cs : List Char) : Option Nat :=
  if cs.head?.any p then (length? cs.tail).map (· + 1) else other? cs

theorem told_behindFirst {p : Char → Bool} (none : ∀ c ∈ stops, p c = false) (h : Told length?)
    (h' : Told other?) : Told (behindFirst p length? other?) := by
  constructor
  · intro cs rest stop
    rw [behindFirst, behindFirst, any_head?_append stop none, h'.append cs rest stop]
    cases cs with
    | nil => rfl
    | cons c more => rw [List.cons_append, List.tail_cons, List.tail_cons, h.append more rest stop]
  · intro cs n hn
    rw [behindFirst] at hn
    split at hn
    · next found =>
      obtain ⟨m, hm, rfl⟩ := Option.map_eq_some_iff.mp hn
      have inside := h.le _ m hm
      cases cs with
      | nil => cases found
      | cons c more => exact Nat.succ_le_succ inside
    · exact h'.le cs n hn

theorem not_isWordChar_of_mem_stops : ∀ c ∈ stops, isWordChar c = false :=
  forall_mem_of_all (by decide)

theorem not_isDigit_of_mem_stops : ∀ c ∈ stops, isDigit c = false := forall_mem_of_all (by decide)

theorem endsWord_append (stop : Stops rest) (cs : List Char) :
    endsWord (cs ++ rest) = endsWord cs := by
  rw [endsWord, endsWord, any_head?_append stop not_isWordChar_of_mem_stops]

theorem endsNumber_append (stop : Stops rest) (cs : List Char) :
    endsNumber (cs ++ rest) = endsNumber cs := by
  have found : ∀ word more, (word.all fun c => decide (c ∉ stops)) = true →
      cs ++ rest = word ++ more → ∃ tail, cs = word ++ tail ∧ more = tail ++ rest :=
    fun word more none same => exists_of_append_eq stop none same
  have ends := fun cs => endsWord_append stop cs
  generalize hwhole : cs ++ rest = whole
  rw [hwhole] at found
  unfold endsNumber
  split
  · next more =>
    obtain ⟨tail, rfl, rfl⟩ := found ['a', 'n', 'd'] more (by decide) rfl
    exact ends tail
  · next more =>
    obtain ⟨tail, rfl, rfl⟩ := found ['e', 'l', 's', 'e'] more (by decide) rfl
    exact ends tail
  · next more =>
    obtain ⟨tail, rfl, rfl⟩ := found ['f', 'o', 'r'] more (by decide) rfl
    exact ends tail
  · next more =>
    obtain ⟨tail, rfl, rfl⟩ := found ['i', 'f'] more (by decide) rfl
    rfl
  · next more =>
    obtain ⟨tail, rfl, rfl⟩ := found ['i', 'n'] more (by decide) rfl
    rfl
  · next more =>
    obtain ⟨tail, rfl, rfl⟩ := found ['i', 's'] more (by decide) rfl
    rfl
  · next more =>
    obtain ⟨tail, rfl, rfl⟩ := found ['n', 'o', 't'] more (by decide) rfl
    exact ends tail
  · next more =>
    obtain ⟨tail, rfl, rfl⟩ := found ['o', 'r'] more (by decide) rfl
    exact ends tail
  · next h₁ h₂ h₃ h₄ h₅ h₆ h₇ h₈ =>
    subst hwhole
    rw [ends cs]
    split
    · next tail => exact absurd rfl (h₁ (tail ++ rest))
    · next tail => exact absurd rfl (h₂ (tail ++ rest))
    · next tail => exact absurd rfl (h₃ (tail ++ rest))
    · next tail => exact absurd rfl (h₄ (tail ++ rest))
    · next tail => exact absurd rfl (h₅ (tail ++ rest))
    · next tail => exact absurd rfl (h₆ (tail ++ rest))
    · next tail => exact absurd rfl (h₇ (tail ++ rest))
    · next tail => exact absurd rfl (h₈ (tail ++ rest))
    · rfl

/-- Nothing more, where a number may end. -/
def numberEnd? (cs : List Char) : Option Nat := if endsNumber cs then some 0 else none

theorem told_numberEnd? : Told numberEnd? :=
  Told.ite (fun cs _ stop => endsNumber_append stop cs) told_zero told_none

theorem told_digitsLength? {p : Char → Bool} (none : ∀ c ∈ stops, p c = false) :
    Told (digitsLength? p) := by
  constructor
  · intro cs rest stop
    fun_induction digitsLength? p cs with
    | case1 d more digit ih => simp [digitsLength?, digit, ih]
    | case2 d more noDigit => simp [digitsLength?, noDigit]
    | case3 =>
      cases rest with
      | nil => rfl
      | cons c more => simp [digitsLength?, none c (stop c rfl)]
    | case4 d more first second digit ih =>
      have other : d ≠ '_' := by
        rintro rfl
        cases more with
        | nil => exact second rfl rfl
        | cons e further => exact first e further rfl rfl
      rw [List.cons_append, digitsLength?_cons other, if_pos digit, ih]
    | case5 d more first second noDigit =>
      have other : d ≠ '_' := by
        rintro rfl
        cases more with
        | nil => exact second rfl rfl
        | cons e further => exact first e further rfl rfl
      rw [List.cons_append, digitsLength?_cons other, if_neg noDigit]
    | case6 =>
      cases rest with
      | nil => rfl
      | cons c more =>
        have other : c ≠ '_' := by
          rintro rfl
          exact absurd (stop '_' rfl) (by decide)
        rw [List.nil_append, digitsLength?_cons other, none c (stop c rfl)]
        rfl
  · intro cs n
    fun_induction digitsLength? p cs generalizing n with
    | case1 d more digit ih =>
      intro h
      obtain ⟨m, hm, rfl⟩ := Option.map_eq_some_iff.mp h
      have := ih m hm
      simp only [List.length_cons]
      omega
    | case4 d more first second digit ih =>
      intro h
      obtain ⟨m, hm, rfl⟩ := Option.map_eq_some_iff.mp h
      have := ih m hm
      simp only [List.length_cons]
      omega
    | _ =>
      intro h
      cases h <;> exact Nat.zero_le _

theorem imaginaryLength?_eq :
    imaginaryLength? = behindFirst (fun c => c == 'j' || c == 'J') numberEnd? numberEnd? := by
  funext cs
  cases cs with
  | nil => rfl
  | cons c more =>
    by_cases letter : (c == 'j' || c == 'J') = true
    · by_cases ends : endsNumber more = true <;> simp [imaginaryLength?, behindFirst,
        numberEnd?, letter, ends]
    · simp [imaginaryLength?, behindFirst, numberEnd?, letter]

theorem told_imaginaryLength? : Told imaginaryLength? := by
  rw [imaginaryLength?_eq]
  exact told_behindFirst (forall_mem_of_all (by decide)) told_numberEnd? told_numberEnd?

def isSign (c : Char) : Bool := c == '+' || c == '-'

/-- Digits with at least one of them, and what follows them. -/
def powerDigits? (cs : List Char) : Option Nat := do
  let n ← behindFirst isDigit (digitsLength? isDigit) (fun _ => none) cs
  let m ← imaginaryLength? (cs.drop n)
  return n + m

theorem told_powerDigits? : Told powerDigits? :=
  (told_behindFirst not_isDigit_of_mem_stops (told_digitsLength? not_isDigit_of_mem_stops)
    told_none).andThen
    told_imaginaryLength?

theorem powerDigits?_cons {d : Char} (digit : isDigit d = true) (k : Nat) (cs : List Char) :
    (powerDigits? (d :: cs)).map (· + k) =
      (digitsLength? isDigit cs).bind fun n => (imaginaryLength? (cs.drop n)).bind fun m =>
        some (k + 1 + n + m) := by
  simp only [powerDigits?, behindFirst, List.head?_cons, Option.any_some, digit, if_true,
    List.tail_cons]
  cases digitsLength? isDigit cs with
  | none => rfl
  | some n =>
    simp only [bind, Option.map_some, Option.bind_some, List.drop_succ_cons]
    cases imaginaryLength? (cs.drop n) with
    | none => rfl
    | some m =>
      have length : n + 1 + m + k = k + 1 + n + m := by omega
      exact congrArg some length

theorem powerDigits?_not {cs : List Char} (noDigit : cs.head?.any isDigit = false) :
    powerDigits? cs = none := by
  simp [powerDigits?, behindFirst, noDigit]

def isPowerLetter (c : Char) : Bool := c == 'e' || c == 'E'

/-- The letter of a power is followed by a sign or a digit. -/
def startsPower (cs : List Char) : Bool :=
  cs.head?.any isPowerLetter && cs.tail.head?.any fun c => isSign c || isDigit c

theorem powerLength?_eq :
    powerLength? = fun cs =>
      if startsPower cs then
        behindFirst isPowerLetter (behindFirst isSign powerDigits? powerDigits?) (fun _ => none) cs
      else if cs.head?.any isPowerLetter then numberEnd? cs
      else imaginaryLength? cs := by
  funext cs
  cases cs with
  | nil => rfl
  | cons e behind =>
    cases letter : e == 'e' || e == 'E' with
    | false => simp [powerLength?, startsPower, isPowerLetter, letter]
    | true =>
      have isLetter : isPowerLetter e = true := letter
      cases behind with
      | nil => simp [powerLength?, startsPower, isLetter, letter, numberEnd?]
      | cons x more =>
        have none : (x == '+' || x == '-') = true → isDigit x = false := by
          have all : ∀ c ∈ ['+', '-'], isDigit c = false := forall_mem_of_all (by decide)
          exact fun sign => all x (by simpa using sign)
        cases digit : isDigit x with
        | true =>
          have noSign : (x == '+' || x == '-') = false := by
            rw [← Bool.not_eq_true]
            intro sign
            rw [none sign] at digit
            cases digit
          have counted := powerDigits?_cons digit 1 more
          cases more with
          | nil =>
            simp [powerLength?, startsPower, isLetter, letter, behindFirst, isSign, noSign,
              digit, counted,
              digitsLength?, imaginaryLength?]
          | cons y further =>
            simp [powerLength?, startsPower, isLetter, letter, behindFirst, isSign, noSign,
              digit, counted]
        | false =>
          cases sign : x == '+' || x == '-' with
          | true =>
            cases more with
            | nil =>
              have noDigits : powerDigits? [] = Option.none := powerDigits?_not rfl
              have signs : x = '+' ∨ x = '-' := by simpa using sign
              rcases signs with rfl | rfl
              · simp [powerLength?, startsPower, isLetter, letter, behindFirst, isSign,
                  digit, noDigits]
              · simp [powerLength?, startsPower, isLetter, letter, behindFirst, isSign,
                  digit, noDigits]
            | cons y further =>
              cases second : isDigit y with
              | true =>
                have counted := powerDigits?_cons second 2 further
                simp only [powerLength?, startsPower, isLetter, letter, behindFirst,
                  isSign, sign, second,
                  List.head?_cons, Option.any_some, List.tail_cons, Bool.true_and,
                  Bool.true_or, if_true,
                  Option.map_map]
                exact counted.symm
              | false =>
                have noDigits : powerDigits? (y :: further) = Option.none := powerDigits?_not second
                simp [powerLength?, startsPower, isLetter, letter, behindFirst, isSign, sign,
                  second, noDigits]
          | false =>
            cases more with
            | nil =>
              have noSign : x ≠ '+' ∧ x ≠ '-' := by simpa using sign
              simp [powerLength?, startsPower, isLetter, letter, isSign, digit, numberEnd?, noSign]
            | cons y further =>
              simp [powerLength?, startsPower, isLetter, letter, isSign, sign, digit, numberEnd?]

theorem told_powerLength? : Told powerLength? := by
  have letter : ∀ c ∈ stops, isPowerLetter c = false := forall_mem_of_all (by decide)
  have sign : ∀ c ∈ stops, isSign c = false := forall_mem_of_all (by decide)
  have second : ∀ c ∈ stops, (isSign c || isDigit c) = false := forall_mem_of_all (by decide)
  have starts : ∀ cs rest, Stops rest → startsPower (cs ++ rest) = startsPower cs := by
    intro cs rest stop
    rw [startsPower, startsPower, any_head?_append stop letter]
    cases cs with
    | nil => rfl
    | cons c more =>
      rw [List.cons_append, List.tail_cons, List.tail_cons, any_head?_append stop second]
  rw [powerLength?_eq]
  refine Told.ite starts ?_ (Told.ite (fun cs _ stop =>
    any_head?_append stop letter cs) told_numberEnd? told_imaginaryLength?)
  exact told_behindFirst letter (told_behindFirst sign told_powerDigits? told_powerDigits?)
    told_none

theorem fractionLength?_eq :
    fractionLength? = fun cs => do
      let n ← behindFirst isDigit (digitsLength? isDigit) (fun _ => some 0) cs
      let m ← powerLength? (cs.drop n)
      return n + m := by
  funext cs
  simp only [fractionLength?, behindFirst]
  split <;> rfl

theorem told_fractionLength? : Told fractionLength? := by
  rw [fractionLength?_eq]
  exact (told_behindFirst not_isDigit_of_mem_stops (told_digitsLength? not_isDigit_of_mem_stops)
    told_zero).andThen
    told_powerLength?

theorem afterWholeLength?_eq :
    afterWholeLength? = behindFirst (· == '.') fractionLength? powerLength? := by
  funext cs
  unfold afterWholeLength? behindFirst
  split
  · rfl
  · next noPoint =>
    cases cs with
    | nil => rfl
    | cons c more =>
      have other : (c == '.') = false := by
        rw [beq_eq_false_iff_ne]
        rintro rfl
        exact noPoint more rfl
      simp [other]

theorem told_afterWholeLength? : Told afterWholeLength? := by
  rw [afterWholeLength?_eq]
  exact told_behindFirst (forall_mem_of_all (by decide)) told_fractionLength? told_powerLength?

theorem zerosLength?_of_ne {d : Char} (other : d ≠ '_' ∧ d ≠ '0') (cs : List Char) :
    zerosLength? (d :: cs) = some 0 := by
  unfold zerosLength?
  split
  · next same =>
    cases same
    exact absurd rfl other.1
  · next same =>
    cases same
    exact absurd rfl other.1
  · next same =>
    cases same
    exact absurd rfl other.2
  · rfl

theorem told_zerosLength? : Told zerosLength? := by
  constructor
  · intro cs rest stop
    fun_induction zerosLength? cs with
    | case1 more digit ih => simp [zerosLength?, digit, ih]
    | case2 d more digit other => simp [zerosLength?, digit, other]
    | case3 d more noDigit => simp [zerosLength?, noDigit]
    | case4 =>
      cases rest with
      | nil => rfl
      | cons c more => simp [zerosLength?, not_isDigit_of_mem_stops c (stop c rfl)]
    | case5 more ih => simp [zerosLength?, ih]
    | case6 cs noUnderscore noLast noZero =>
      cases cs with
      | nil =>
        cases rest with
        | nil => rfl
        | cons c more =>
          have other : ∀ c ∈ stops, c ≠ '_' ∧ c ≠ '0' := forall_mem_of_all (by decide)
          exact zerosLength?_of_ne (other c (stop c rfl)) more
      | cons c more =>
        have other : c ≠ '_' ∧ c ≠ '0' := by
          constructor
          · rintro rfl
            cases more with
            | nil => exact noLast rfl
            | cons d further => exact noUnderscore d further rfl
          · rintro rfl
            exact noZero more rfl
        exact zerosLength?_of_ne other (more ++ rest)
  · intro cs n
    fun_induction zerosLength? cs generalizing n with
    | case1 more digit ih =>
      intro h
      obtain ⟨m, hm, rfl⟩ := Option.map_eq_some_iff.mp h
      have := ih m hm
      simp only [List.length_cons]
      omega
    | case5 more ih =>
      intro h
      obtain ⟨m, hm, rfl⟩ := Option.map_eq_some_iff.mp h
      exact Nat.succ_le_succ (ih m hm)
    | case2 =>
      intro h
      cases h
      simp only [List.length_cons]
      omega
    | _ =>
      intro h
      cases h <;> exact Nat.zero_le _

/-- Nothing more, where a number of another base may end. -/
def basedEnd? (cs : List Char) : Option Nat := if cs.head?.any isDigit then none else numberEnd? cs

/-- Digits of another base up to the end of a number. -/
def basedDigits? (p : Char → Bool) (cs : List Char) : Option Nat := do
  let n ← behindFirst p (digitsLength? p) (fun _ => none) cs
  let m ← basedEnd? (cs.drop n)
  return n + m

theorem told_basedDigits? {p : Char → Bool} (none : ∀ c ∈ stops, p c = false) :
    Told (basedDigits? p) := by
  have ending : Told basedEnd? :=
    Told.ite (fun cs _ stop => any_head?_append stop not_isDigit_of_mem_stops cs) told_none
      told_numberEnd?
  exact (told_behindFirst none (told_digitsLength? none) told_none).andThen ending

theorem basedLength?_eq (p : Char → Bool) :
    basedLength? p = behindFirst (· == '_') (basedDigits? p) (basedDigits? p) := by
  funext cs
  -- With or without an underscore, the digits start behind `start` characters.
  have whole : ∀ start, (if (cs.drop start).head?.any p then do
        let n ← digitsLength? p (cs.drop (start + 1))
        let length := start + 1 + n
        if (cs.drop length).head?.any isDigit || !endsNumber (cs.drop length) then none
        else return length
      else none) = (basedDigits? p (cs.drop start)).map (· + start) := by
    intro start
    simp only [basedDigits?, behindFirst]
    split
    · rw [List.tail_drop]
      cases digitsLength? p (cs.drop (start + 1)) with
      | none => rfl
      | some n =>
        have length : start + (n + 1) = start + 1 + n := by omega
        simp only [bind, Option.bind_some, Option.map_some, List.drop_drop, basedEnd?,
          numberEnd?, length]
        generalize cs.drop (start + 1 + n) = tail
        by_cases digit : tail.head?.any isDigit = true
        · simp [digit]
        · by_cases ends : endsNumber tail = true
          · simp only [digit, ends, Bool.not_true, Bool.or_false, Bool.false_eq_true,
              if_false, if_true]
            exact congrArg some (length.symm.trans (Nat.add_comm start (n + 1)))
          · simp [digit, ends]
    · rfl
  cases cs with
  | nil => rfl
  | cons c more =>
    by_cases underscore : c = '_'
    · subst underscore
      exact whole 1
    · have other : (c == '_') = false := beq_eq_false_iff_ne.mpr underscore
      simp only [basedLength?, List.head?_cons, Option.some.injEq, underscore,
        if_false, behindFirst,
        Option.any_some, other, Bool.false_eq_true]
      refine (whole 0).trans ?_
      rw [List.drop_zero]
      exact Option.map_id_apply

theorem told_basedLength? {p : Char → Bool} (none : ∀ c ∈ stops, p c = false) :
    Told (basedLength? p) := by
  rw [basedLength?_eq]
  exact told_behindFirst (forall_mem_of_all (by decide)) (told_basedDigits? none)
    (told_basedDigits? none)

/-- Characters that make a number of digits with zeros in front. -/
def isZerosMark (c : Char) : Bool := c == '.' || c == 'e' || c == 'E' || c == 'j' || c == 'J'

/-- What follows the digits of such a number. -/
def marked? (cs : List Char) : Option Nat :=
  if cs.head?.any isZerosMark then afterWholeLength? cs else none

/-- What follows zeros in front of a number. -/
def afterZeros? (cs : List Char) : Option Nat :=
  if cs.head?.any isDigit then do
    let n ← behindFirst isDigit (digitsLength? isDigit) (fun _ => none) cs
    let m ← marked? (cs.drop n)
    return n + m
  else afterWholeLength? cs

theorem told_afterZeros? : Told afterZeros? := by
  have digits := told_digitsLength? not_isDigit_of_mem_stops
  have mark : ∀ c ∈ stops, isZerosMark c = false := forall_mem_of_all (by decide)
  have marked : Told marked? :=
    Told.ite (fun cs _ stop => any_head?_append stop mark cs) told_afterWholeLength? told_none
  exact Told.ite (fun cs _ stop => any_head?_append stop not_isDigit_of_mem_stops cs)
    ((told_behindFirst not_isDigit_of_mem_stops digits told_none).andThen marked)
      told_afterWholeLength?

theorem afterZeroLength?_eq :
    afterZeroLength? =
      behindFirst (fun c => c == 'x' || c == 'X') (basedLength? isHexDigit)
        (behindFirst (fun c => c == 'o' || c == 'O') (basedLength? isOctalDigit)
          (behindFirst (fun c => c == 'b' || c == 'B') (basedLength? isBinaryDigit) fun cs => do
            let n ← zerosLength? cs
            let m ← afterZeros? (cs.drop n)
            return n + m)) := by
  funext cs
  cases cs with
  | nil => rfl
  | cons c rest =>
    simp only [afterZeroLength?, behindFirst, List.head?_cons, Option.any_some, List.tail_cons]
    refine ite_congr rfl (fun _ => rfl) fun _ => ite_congr rfl (fun _ => rfl) fun _ =>
      ite_congr rfl (fun _ => rfl) fun _ => ?_
    cases zerosLength? (c :: rest) with
    | none => rfl
    | some zeros =>
      have whole : ∀ k, (c :: rest).drop (zeros + k) = ((c :: rest).drop zeros).drop k :=
        fun k => List.drop_drop.symm
      simp only [bind, Option.bind_some, afterZeros?, behindFirst, marked?]
      simp only [Nat.add_assoc zeros, whole]
      generalize (c :: rest).drop zeros = after
      split
      · cases digitsLength? isDigit after.tail with
        | none => rfl
        | some n =>
          simp only [Option.bind_some, Option.map_some, Nat.add_comm 1 n]
          cases after.drop (n + 1) with
          | nil => rfl
          | cons d tail =>
            have same : (d == '.' || d == 'e' || d == 'E' || d == 'j' || d == 'J') =
              isZerosMark d := rfl
            cases mark : isZerosMark d with
            | false => simp [same, mark]
            | true =>
              simp only [List.head?_cons, same, mark, Option.any_some, if_true]
              cases afterWholeLength? (d :: tail) <;> rfl
      · rfl

theorem told_afterZeroLength? : Told afterZeroLength? := by
  have hex := told_basedLength? (p := isHexDigit) (forall_mem_of_all (by decide))
  have octal := told_basedLength? (p := isOctalDigit) (forall_mem_of_all (by decide))
  have binary := told_basedLength? (p := isBinaryDigit) (forall_mem_of_all (by decide))
  rw [afterZeroLength?_eq]
  refine told_behindFirst (forall_mem_of_all (by decide)) hex ?_
  refine told_behindFirst (forall_mem_of_all (by decide)) octal ?_
  exact told_behindFirst (forall_mem_of_all (by decide)) binary
    (told_zerosLength?.andThen told_afterZeros?)

theorem told_numberLength? (c : Char) : Told (numberLength? c) := by
  have whole := (told_digitsLength? not_isDigit_of_mem_stops).andThen told_afterWholeLength?
  by_cases zero : c = '0'
  · have same : numberLength? c = afterZeroLength? := funext fun _ => if_pos zero
    rw [same]
    exact told_afterZeroLength?
  · have same : numberLength? c = fun cs => do
        let n ← digitsLength? isDigit cs
        let m ← afterWholeLength? (cs.drop n)
        return n + m := funext fun _ => if_neg zero
    rw [same]
    exact whole

end RateRules.Script
