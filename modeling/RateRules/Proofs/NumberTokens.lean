import RateRules.Proofs.Numeral
import RateRules.Script.Grammar.Expression

/-!
# Numerals are number tokens

A numeral before a blank, a bracket, a comma, a semicolon or the end of a line is one token of a
script.
-/
namespace RateRules.Script

open Text (isDigit)
open Numeral (partChars powerChars)

/-- Characters that end a word and a number before them. -/
def stops : List Char := [' ', '(', ')', ',', ';', '\n']

/-- No word and no number goes on with this text. -/
def Stops (rest : List Char) : Prop := ∀ c ∈ rest.head?, c ∈ stops

variable {rest : List Char}

theorem stops_nil : Stops [] := fun _ h => nomatch h

theorem stops_cons {c : Char} (h : c ∈ stops) (rest : List Char) : Stops (c :: rest) := by
  intro x hx
  rwa [← Option.some.inj hx]

theorem isWordChar_of_stops (h : Stops rest) : ∀ c ∈ rest.head?, isWordChar c = false := by
  have none : ∀ c ∈ stops, isWordChar c = false := forall_mem_of_all (by decide)
  exact fun c hc => none c (h c hc)

theorem endsWord_of_stops (h : Stops rest) : endsWord rest = true := by
  cases rest with
  | nil => rfl
  | cons c more =>
    have none := isWordChar_of_stops h c rfl
    simp [endsWord, none]

theorem endsNumber_of_stops (h : Stops rest) : endsNumber rest = true := by
  have letters : ∀ c ∈ ['a', 'e', 'f', 'i', 'n', 'o'], c ∉ stops := forall_mem_of_all (by decide)
  have ends := endsWord_of_stops h
  unfold endsNumber
  split
  all_goals first | exact ends | exact absurd (h _ rfl) (letters _ (by decide))

theorem imaginaryLength?_of_stops (h : Stops rest) : imaginaryLength? rest = some 0 := by
  cases rest with
  | nil => rfl
  | cons c more =>
    have letters : ∀ c ∈ stops, (c == 'j' || c == 'J') = false := forall_mem_of_all (by decide)
    simp only [imaginaryLength?, letters c (h c rfl), Bool.false_eq_true, if_false,
      endsNumber_of_stops h, if_true]

theorem powerLength?_of_stops (h : Stops rest) : powerLength? rest = some 0 := by
  cases rest with
  | nil => rfl
  | cons c more =>
    have letters : ∀ c ∈ stops, (c == 'e' || c == 'E') = false := forall_mem_of_all (by decide)
    simp only [powerLength?, letters c (h c rfl), Bool.false_eq_true, if_false]
    exact imaginaryLength?_of_stops h

theorem digitsLength?_cons {p : Char → Bool} {d : Char} (other : d ≠ '_') (rest : List Char) :
    digitsLength? p (d :: rest) = if p d then (digitsLength? p rest).map (· + 1) else some 0 := by
  rw [digitsLength?]
  · rintro e more rfl
    exact absurd rfl other
  · rintro rfl
    exact absurd rfl other

/-- More digits up to a character that is none. -/
theorem digitsLength?_append {ds : List Char} (digits : ∀ x ∈ ds, isDigit x = true)
    (stop : ∀ x ∈ rest.head?, isDigit x = false ∧ x ≠ '_') :
    digitsLength? isDigit (ds ++ rest) = some ds.length := by
  induction ds with
  | nil =>
    cases rest with
    | nil => rfl
    | cons x more =>
      obtain ⟨none, other⟩ := stop x rfl
      rw [List.nil_append, digitsLength?_cons other, none]
      rfl
  | cons d more ih =>
    have digit := digits d List.mem_cons_self
    have other : d ≠ '_' := by
      rintro rfl
      cases digit
    rw [List.cons_append, digitsLength?_cons other, if_pos digit,
      ih fun x hx => digits x (List.mem_cons_of_mem d hx)]
    rfl

/-- What may stand behind digits. -/
theorem not_digit_of_stops (h : Stops rest) : ∀ x ∈ rest.head?, isDigit x = false ∧ x ≠ '_' := by
  have none : ∀ c ∈ stops, isDigit c = false ∧ c ≠ '_' := forall_mem_of_all (by decide)
  exact fun x hx => none x (h x hx)

theorem head?_powerChars_append (power : Option Int) :
    ∀ x ∈ (powerChars power ++ rest).head?, x = 'E' ∨ x ∈ rest.head? := by
  intro x hx
  cases power with
  | none => exact Or.inr hx
  | some z => exact Or.inl (Option.some.inj hx).symm

theorem powerLength?_powerChars (h : Stops rest) (power : Option Int) :
    powerLength? (powerChars power ++ rest) = some (powerChars power).length := by
  cases power with
  | none => exact powerLength?_of_stops h
  | some z =>
    obtain ⟨d, more, written, digits, _, _⟩ := toDigits_eq_cons z.natAbs
    have digit := digits d List.mem_cons_self
    have length :=
      digitsLength?_append (fun x hx => digits x (List.mem_cons_of_mem d hx)) (not_digit_of_stops h)
    have dropped : (more ++ rest).drop more.length = rest := List.drop_left
    by_cases negative : z < 0
    · simp [powerChars, powerLength?, written, negative, digit, length, dropped,
        imaginaryLength?_of_stops h]
      omega
    · simp [powerChars, powerLength?, written, negative, digit, length, dropped,
        imaginaryLength?_of_stops h]
      omega

/-- What may stand behind the digits before a power of ten. -/
theorem afterDigits_powerChars (h : Stops rest) (power : Option Int) :
    ∀ x ∈ (powerChars power ++ rest).head?, isDigit x = false ∧ x ≠ '_' := by
  intro x hx
  rcases head?_powerChars_append power x hx with rfl | hx
  · decide
  · exact not_digit_of_stops h x hx

theorem fractionLength?_append (h : Stops rest) {d : Char} {more : List Char}
    (digits : ∀ x ∈ d :: more, isDigit x = true) (power : Option Int) :
    fractionLength? (d :: more ++ (powerChars power ++ rest)) =
      some ((d :: more).length + (powerChars power).length) := by
  have digit := digits d List.mem_cons_self
  have length := digitsLength?_append (fun x hx => digits x (List.mem_cons_of_mem d hx))
    (afterDigits_powerChars h power)
  have dropped : (more ++ (powerChars power ++ rest)).drop more.length = powerChars power ++ rest :=
    List.drop_left
  simp [fractionLength?, digit, length, dropped, powerLength?_powerChars h power]

theorem afterWholeLength?_append (h : Stops rest) {part : List Char}
    (digits : ∀ x ∈ part, isDigit x = true) (power : Option Int) :
    afterWholeLength? (partChars part ++ (powerChars power ++ rest)) =
      some (partChars part ++ powerChars power).length := by
  cases part with
  | nil =>
    have noPoint : ∀ tail, powerChars power ++ rest ≠ '.' :: tail := by
      intro tail same
      have point := @head?_powerChars_append rest power '.' (by rw [same]; rfl)
      rcases point with point | point
      · exact absurd point (by decide)
      · exact absurd (h '.' point) (by decide)
    rw [partChars, List.nil_append, List.nil_append]
    unfold afterWholeLength?
    split
    · next tail same => exact absurd same (noPoint tail)
    · exact powerLength?_powerChars h power
  | cons d more =>
    have length := fractionLength?_append h digits power
    simp only [partChars, List.cons_append, afterWholeLength?] at length ⊢
    rw [length]
    simp
    omega

/-- What may stand behind the first digits of a numeral. -/
theorem head?_behind (h : Stops rest) (part : List Char) (power : Option Int) :
    ∀ x ∈ (partChars part ++ (powerChars power ++ rest)).head?, x ∈ '.' :: 'E' :: stops := by
  intro x hx
  cases part with
  | nil =>
    rcases head?_powerChars_append power x hx with rfl | hx
    · decide
    · exact List.mem_cons_of_mem _ (List.mem_cons_of_mem _ (h x hx))
  | cons d more =>
    rw [← Option.some.inj hx]
    exact List.mem_cons_self

theorem zerosLength?_of_head {cs : List Char} (h : ∀ x ∈ cs.head?, x ∈ '.' :: 'E' :: stops) :
    zerosLength? cs = some 0 := by
  have other : ∀ x ∈ '.' :: 'E' :: stops, x ≠ '_' ∧ x ≠ '0' := forall_mem_of_all (by decide)
  unfold zerosLength?
  split
  · exact absurd rfl (other _ (h _ rfl)).1
  · exact absurd rfl (other _ (h _ rfl)).1
  · exact absurd rfl (other _ (h _ rfl)).2
  · rfl

/-- A zero in front is followed by a point, by a power of ten or by nothing. -/
theorem afterZeroLength?_append (h : Stops rest) {part : List Char}
    (digits : ∀ x ∈ part, isDigit x = true) (power : Option Int) :
    afterZeroLength? (partChars part ++ (powerChars power ++ rest)) =
      some (partChars part ++ powerChars power).length := by
  have behind := head?_behind h part power
  have length := afterWholeLength?_append h digits power
  generalize partChars part ++ (powerChars power ++ rest) = cs at behind length ⊢
  cases cs with
  | nil =>
    rw [← length]
    rfl
  | cons c more =>
    have other : ∀ x ∈ '.' :: 'E' :: stops, (x == 'x' || x == 'X') = false ∧
        (x == 'o' || x == 'O') = false ∧ (x == 'b' || x == 'B') = false ∧ isDigit x = false :=
      forall_mem_of_all (by decide)
    obtain ⟨noHex, noOctal, noBinary, noDigit⟩ := other c (behind c rfl)
    simp [afterZeroLength?, noHex, noOctal, noBinary, noDigit, zerosLength?_of_head behind, length]

/-- The length of a numeral behind its first digit. -/
theorem numberLength?_chars (h : Stops rest) (n : Numeral) :
    numberLength? n.first (n.more ++ partChars n.part ++ powerChars n.power ++ rest) =
      some (n.more ++ partChars n.part ++ powerChars n.power).length := by
  have behind := head?_behind h n.part n.power
  have part : ∀ x ∈ n.part, isDigit x = true := fun x hx => n.digits x (List.mem_append_right _ hx)
  have more : ∀ x ∈ n.more, isDigit x = true := by
    intro x hx
    exact n.digits x (List.mem_append_left _ (List.mem_cons_of_mem _ hx))
  simp only [List.append_assoc]
  by_cases zero : n.first = '0'
  · rw [numberLength?, if_pos zero, n.leading zero]
    exact afterZeroLength?_append h part n.power
  · have other : ∀ x ∈ '.' :: 'E' :: stops, isDigit x = false ∧ x ≠ '_' :=
      forall_mem_of_all (by decide)
    have length := digitsLength?_append more fun x hx => other x (behind x hx)
    have dropped : (n.more ++ (partChars n.part ++ (powerChars n.power ++ rest))).drop
      n.more.length =
        partChars n.part ++ (powerChars n.power ++ rest) := List.drop_left
    simp [numberLength?, zero, length, dropped, afterWholeLength?_append h part n.power]

/-- Quotes, and the letters that may stand before them. -/
def startsQuotation (c : Char) : Bool :=
  c == '\'' || c == '"' || ['b', 'r', 'u', 'f'].contains c.toLower

theorem prefixLength_eq_none {c : Char} (h : startsQuotation c = false) (rest : List Char) :
    prefixLength (c :: rest) = none := by
  simp only [startsQuotation, Bool.or_eq_false_iff, beq_eq_false_iff_ne, List.contains_eq_mem,
    decide_eq_false_iff_not, List.mem_cons, List.not_mem_nil, or_false, not_or] at h
  obtain ⟨⟨single, double⟩, b, r, u, f⟩ := h
  cases rest with
  | nil => simp [prefixLength, single, double]
  | cons d more => simp [prefixLength, single, double, b, r, u, f]

theorem mem_digits {c : Char} (h : isDigit c = true) :
    c ∈ ['0', '1', '2', '3', '4', '5', '6', '7', '8', '9'] := by
  have range := isDigit_iff_toNat.mp h
  have code : c.toNat ∈ List.range' 48 10 := by
    rw [List.mem_range'_1]
    omega
  have char := List.mem_map_of_mem (f := Char.ofNat) code
  rwa [Char.ofNat_toNat] at char

/-- A numeral is a token. -/
theorem lexemeAt?_chars (h : Stops rest) (n : Numeral) :
    ∃ c more, n.chars = c :: more ∧
      lexemeAt? c (more ++ rest) = some ⟨.number (String.ofList n.chars), more.length⟩ := by
  refine ⟨n.first, n.more ++ partChars n.part ++ powerChars n.power, rfl, ?_⟩
  have digit := n.digits n.first List.mem_cons_self
  have none : ∀ c ∈ ['0', '1', '2', '3', '4', '5', '6', '7', '8', '9'],
      startsQuotation c = false ∧ isWordStart c = false := forall_mem_of_all (by decide)
  obtain ⟨noQuotation, noWord⟩ := none n.first (mem_digits digit)
  simp only [lexemeAt?, prefixLength_eq_none noQuotation, noWord, digit,
    Bool.false_eq_true, if_false, if_true, numberLength?_chars h n, Option.map_some, List.take_left]
  rfl

/-- A numeral is no imaginary number. -/
theorem isImaginary_chars (n : Numeral) : Grammar.isImaginary (String.ofList n.chars) = false := by
  rw [Grammar.isImaginary, String.toList_ofList]
  cases hlast : n.chars.getLast? with
  | none => rfl
  | some x =>
    have range := (n.isChar_of_mem x (List.mem_of_getLast? hlast)).toNat.2
    have small : x ≠ 'j' := by
      rintro rfl
      exact absurd range (by decide)
    have capital : x ≠ 'J' := by
      rintro rfl
      exact absurd range (by decide)
    simp [small, capital]

theorem exists_not_digit {n : Numeral} (h : ¬ n.IsPlain) : ∃ x ∈ n.chars, x.isDigit = false := by
  by_cases whole : n.part = []
  · obtain ⟨z, hz⟩ : ∃ z, n.power = some z :=
      Option.ne_none_iff_exists'.mp fun none => h ⟨whole, none⟩
    refine ⟨'E', List.mem_append_right _ ?_, by decide⟩
    rw [hz]
    exact List.mem_cons_self
  · refine ⟨'.', List.mem_append_left _ (List.mem_append_right _ ?_), by decide⟩
    rw [Numeral.partChars_of_ne_nil whole]
    exact List.mem_cons_self

/-- A numeral of digits alone is not too long if they are not. -/
theorem isTooLong_chars (n : Numeral)
    (short : n.IsPlain → (n.first :: n.more).length ≤ Grammar.maxWholeDigits) :
    Grammar.isTooLong (String.ofList n.chars) = false := by
  have kept : n.chars.filter (· ≠ '_') = n.chars := by
    rw [List.filter_eq_self]
    intro x hx
    exact decide_eq_true (n.isChar_of_mem x hx).ne_underscore
  simp only [Grammar.isTooLong, String.toList_ofList, kept]
  by_cases plain : n.IsPlain
  · have written : n.chars = n.first :: n.more := by
      rw [Numeral.chars, plain.1, plain.2, partChars, powerChars, List.append_nil, List.append_nil]
    have few : ¬ Grammar.maxWholeDigits < n.chars.length := by
      rw [written]
      exact Nat.not_lt.mpr (short plain)
    rw [decide_eq_false few, Bool.and_false]
  · obtain ⟨x, hx, other⟩ := exists_not_digit plain
    have all : n.chars.all Char.isDigit = false := by
      rw [List.all_eq_false]
      exact ⟨x, hx, by simp [other]⟩
    rw [all, Bool.false_and, Bool.false_and]

end RateRules.Script

namespace RateRules.Decimal

/-- A whole number has so few digits that a script can spell them all. -/
def isShort : Decimal → Bool
  | finite _ coefficient exponent =>
    exponent != 0 || digitCount coefficient ≤ Script.Grammar.maxWholeDigits
  | _ => true

/-- A number that a script can spell: finite, without a sign, within the limits of the exponent and
of the digits of whole numbers. -/
def isLiteral (d : Decimal) : Bool := d.isFinite && !d.isNegative && d.isStorable && d.isShort

theorem isLiteral_iff {d : Decimal} :
    d.isLiteral = true ↔
      d.isFinite = true ∧ d.isNegative = false ∧ d.isStorable = true ∧ d.isShort = true := by
  rw [isLiteral, Bool.and_eq_true, Bool.and_eq_true, Bool.and_eq_true, Bool.not_eq_true', and_assoc,
    and_assoc]

/-- The text of such a number is a numeral that is a number token. -/
theorem exists_numeral {d : Decimal} (h : d.isLiteral = true) :
    ∃ n : Numeral, d.text = String.ofList n.chars ∧ Script.Grammar.isTooLong d.text = false ∧
      Script.Grammar.isImaginary d.text = false := by
  obtain ⟨finite, unsigned, _, short⟩ := isLiteral_iff.mp h
  obtain ⟨c, e, rfl, written⟩ := text_eq_magnitude finite unsigned
  obtain ⟨n, hchars, _, _, plain⟩ := Numeral.spells_magnitude c e
  rw [← hchars] at written
  refine ⟨n, written, ?_, ?_⟩
  · rw [written]
    refine Script.isTooLong_chars n fun isPlain => ?_
    obtain ⟨zero, digits⟩ := plain isPlain
    rw [digits, ← digitCount_eq_length]
    simpa [isShort, zero] using short
  · rw [written]
    exact Script.isImaginary_chars n

end RateRules.Decimal
