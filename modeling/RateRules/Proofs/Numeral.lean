import RateRules.Decimal.Reader
import RateRules.Decimal.Text

/-!
# Decimals are read as they are written

The text of a decimal without a sign is a numeral: digits, perhaps a point with digits behind it,
and perhaps a power of ten. The coefficient and the exponent of a numeral are those of the decimal,
and they are what is read from it.
-/
namespace RateRules

open Text (isDigit)

/-- A decidable property of the members of a list is evaluated member by member. -/
theorem forall_mem_of_all {α : Type} {p : α → Prop} [DecidablePred p] {l : List α}
    (h : (l.all fun a => decide (p a)) = true) : ∀ a ∈ l, p a :=
  fun a ha => of_decide_eq_true (List.all_eq_true.mp h a ha)

theorem isDigit_iff_toNat {c : Char} : isDigit c = true ↔ 48 ≤ c.toNat ∧ c.toNat ≤ 57 := by
  rw [isDigit, Bool.and_eq_true, decide_eq_true_eq, decide_eq_true_eq]
  exact Iff.rfl

theorem isDigit_of_mem_toDigits {n : Nat} {c : Char} (h : c ∈ Nat.toDigits 10 n) :
    isDigit c = true := by
  have digit := Nat.isDigit_of_mem_toDigits (by decide) (by decide) h
  rw [Char.isDigit_iff_toNat] at digit
  exact isDigit_iff_toNat.mpr digit

theorem digitsValue_eq (cs : List Char) : Decimal.digitsValue cs = Nat.ofDigitChars 10 cs 0 := rfl

theorem digitsValue_toDigits (n : Nat) : Decimal.digitsValue (Nat.toDigits 10 n) = n := by
  rw [digitsValue_eq, Nat.ofDigitChars_ten_toDigits]

theorem digitsValue_zeros_append (n : Nat) (cs : List Char) :
    Decimal.digitsValue (Decimal.zeroChars n ++ cs) = Decimal.digitsValue cs := by
  rw [digitsValue_eq, digitsValue_eq, Nat.ofDigitChars_append, Decimal.zeroChars,
    Nat.ofDigitChars_replicate_zero, Nat.mul_zero]

theorem digitCount_eq_length (n : Nat) : digitCount n = (Nat.toDigits 10 n).length := by
  fun_induction digitCount n with
  | case1 n small => rw [Nat.toDigits_of_lt_base small, List.length_singleton]
  | case2 n large ih =>
    rw [Nat.toDigits_of_base_le (by decide) (by omega), List.length_append,
      List.length_singleton, ih]

/-- Only zero is written with a zero in front. -/
theorem exists_toDigits (n : Nat) :
    ∃ d more, Nat.toDigits 10 n = d :: more ∧ (d = '0' → n = 0) := by
  induction n using Nat.strongRecOn with
  | ind n ih =>
    by_cases small : n < 10
    · refine ⟨n.digitChar, [], Nat.toDigits_of_lt_base small, fun h => ?_⟩
      exact Nat.digitChar_eq_zero.mp h
    · obtain ⟨d, more, written, zero⟩ := ih (n / 10) (by omega)
      refine ⟨d, more ++ [(n % 10).digitChar], ?_, fun h => ?_⟩
      · rw [Nat.toDigits_of_base_le (by decide) (by omega), written, List.cons_append]
      · have := zero h
        omega

/-- The digits of a number: what they are worth, and that a zero in front stands alone. -/
theorem toDigits_eq_cons (n : Nat) :
    ∃ d more, Nat.toDigits 10 n = d :: more ∧ (∀ x ∈ d :: more, isDigit x = true) ∧
      Decimal.digitsValue (d :: more) = n ∧ (d = '0' → more = []) := by
  obtain ⟨d, more, written, zero⟩ := exists_toDigits n
  refine ⟨d, more, written, fun x hx => ?_, ?_, fun h => ?_⟩
  · rw [← written] at hx
    exact isDigit_of_mem_toDigits hx
  · rw [← written]
    exact digitsValue_toDigits n
  · rw [zero h, Nat.toDigits_zero] at written
    exact (List.cons.inj written).2.symm

/-- What satisfies a test, up to what does not. -/
theorem span_append {p : Char → Bool} {cs rest : List Char} (all : ∀ x ∈ cs, p x = true)
    (stop : ∀ x ∈ rest.head?, p x = false) :
    (cs ++ rest).takeWhile p = cs ∧ (cs ++ rest).dropWhile p = rest := by
  have front : rest.takeWhile p = [] ∧ rest.dropWhile p = rest := by
    cases rest with
    | nil => exact ⟨rfl, rfl⟩
    | cons x more =>
      have none : ¬ p x = true := by
        rw [stop x rfl]
        decide
      exact ⟨List.takeWhile_cons_of_neg none, List.dropWhile_cons_of_neg none⟩
  constructor
  · rw [List.takeWhile_append_of_pos all, front.1, List.append_nil]
  · rw [List.dropWhile_append_of_pos all, front.2]

/-- The parts of a number that is written without a sign. A zero in front is the only digit before
the point. -/
structure Numeral where
  first : Char
  more : List Char
  part : List Char
  power : Option Int
  digits : ∀ c ∈ first :: more ++ part, isDigit c = true
  leading : first = '0' → more = []

namespace Numeral

/-- The digits behind a point. -/
def partChars : List Char → List Char
  | [] => []
  | d :: more => '.' :: d :: more

def powerChars : Option Int → List Char
  | none => []
  | some z => 'E' :: (if z < 0 then '-' else '+') :: Nat.toDigits 10 z.natAbs

def chars (n : Numeral) : List Char := n.first :: n.more ++ partChars n.part ++ powerChars n.power

def coefficient (n : Numeral) : Nat := Decimal.digitsValue (n.first :: n.more ++ n.part)

def exponent (n : Numeral) : Int := n.power.getD 0 - n.part.length

/-- There are digits alone. -/
def IsPlain (n : Numeral) : Prop := n.part = [] ∧ n.power = none

theorem partChars_of_ne_nil {cs : List Char} (h : cs ≠ []) : partChars cs = '.' :: cs := by
  cases cs with
  | nil => exact absurd rfl h
  | cons d more => rfl

/-- The text `cs` is that of a numeral with this coefficient and this exponent. It has digits alone
only if they are those of the coefficient. -/
def Spells (cs : List Char) (c : Nat) (e : Int) : Prop :=
  ∃ n : Numeral, n.chars = cs ∧ n.coefficient = c ∧ n.exponent = e ∧
    (n.IsPlain → e = 0 ∧ n.first :: n.more = Nat.toDigits 10 c)

theorem spells_toDigits (c : Nat) : Spells (Nat.toDigits 10 c) c 0 := by
  obtain ⟨d, more, written, digits, value, single⟩ := toDigits_eq_cons c
  rw [written]
  refine ⟨⟨d, more, [], none, ?_, single⟩, ?_, ?_, rfl, ?_⟩
  · rwa [List.append_nil]
  · simp [chars, partChars, powerChars]
  · rwa [coefficient, List.append_nil]
  · exact fun _ => ⟨rfl, written.symm⟩

/-- The point stands among the digits. -/
theorem spells_inside {c places : Nat} (least : places ≠ 0)
    (inside : places < (Nat.toDigits 10 c).length) :
    Spells (Decimal.pointed (Nat.toDigits 10 c) places) c (-places) := by
  obtain ⟨d, more, written, digits, value, single⟩ := toDigits_eq_cons c
  rw [written] at inside ⊢
  obtain ⟨k, hk⟩ : ∃ k, (d :: more).length - places = k + 1 := by
    refine ⟨more.length - places, ?_⟩
    rw [List.length_cons] at inside ⊢
    omega
  have split : more.take k ++ more.drop k = more := List.take_append_drop k more
  have behind : more.drop k ≠ [] := by
    rw [List.length_cons] at hk
    rw [Ne, List.drop_eq_nil_iff]
    omega
  have first : d = '0' → more.take k = [] := by
    intro h
    rw [single h, List.take_nil]
  refine ⟨⟨d, more.take k, more.drop k, none, ?_, first⟩, ?_, ?_, ?_, ?_⟩
  · rwa [List.cons_append, split]
  · rw [Decimal.pointed, if_neg least, if_pos inside, hk, List.take_succ_cons, List.drop_succ_cons]
    simp only [chars, powerChars, partChars_of_ne_nil behind, List.append_nil]
  · simpa only [coefficient, List.cons_append, split] using value
  · simp only [exponent, List.length_drop, Option.getD_none]
    rw [List.length_cons] at inside hk
    omega
  · exact fun plain => absurd plain.1 behind

/-- The point stands before the digits, with zeros in between. -/
theorem spells_before {c places : Nat} (least : places ≠ 0)
    (outside : (Nat.toDigits 10 c).length ≤ places) :
    Spells (Decimal.pointed (Nat.toDigits 10 c) places) c (-places) := by
  obtain ⟨d, more, written, digits, value, _⟩ := toDigits_eq_cons c
  rw [written] at outside ⊢
  have behind : Decimal.zeroChars (places - (d :: more).length) ++ d :: more ≠ [] :=
    List.append_ne_nil_of_right_ne_nil _ (List.cons_ne_nil d more)
  refine ⟨⟨'0', [], Decimal.zeroChars (places - (d :: more).length) ++ d :: more, none,
    ?_, fun _ => rfl⟩,
    ?_, ?_, ?_, ?_⟩
  · intro x hx
    rcases List.mem_append.mp hx with hx | hx
    · rw [List.mem_singleton.mp hx]
      decide
    · rcases List.mem_append.mp hx with hx | hx
      · rw [(List.mem_replicate.mp hx).2]
        decide
      · exact digits x hx
  · rw [Decimal.pointed, if_neg least, if_neg (by omega)]
    simp only [chars, powerChars, partChars_of_ne_nil behind, List.append_nil]
    rfl
  · have shorter := digitsValue_zeros_append (places - (d :: more).length) (d :: more)
    have padded :=
      digitsValue_zeros_append 1 (Decimal.zeroChars (places - (d :: more).length) ++ d :: more)
    exact padded.trans (shorter.trans value)
  · simp only [exponent, List.length_append, Decimal.zeroChars, List.length_replicate,
      Option.getD_none]
    omega
  · exact fun plain => absurd plain.1 behind

theorem spells_pointed {c : Nat} {e : Int} (h : e ≤ 0) :
    Spells (Decimal.pointed (Nat.toDigits 10 c) e.natAbs) c e := by
  have sign : e = -(e.natAbs : Int) := by omega
  by_cases whole : e.natAbs = 0
  · have zero : e = 0 := Int.natAbs_eq_zero.mp whole
    rw [Decimal.pointed, if_pos whole, zero]
    exact spells_toDigits c
  · rw [sign, Int.natAbs_neg, Int.natAbs_natCast]
    by_cases inside : e.natAbs < (Nat.toDigits 10 c).length
    · exact spells_inside whole inside
    · exact spells_before whole (by omega)

theorem spells_scientific (c : Nat) (power : Int) :
    Spells (Decimal.scientific (Nat.toDigits 10 c) power) c
    (power - (Nat.toDigits 10 c).length + 1) := by
  obtain ⟨d, more, written, digits, value, _⟩ := toDigits_eq_cons c
  rw [written]
  refine ⟨⟨d, [], more, some power, digits, fun _ => rfl⟩, ?_, value, ?_, ?_⟩
  · cases more with
    | nil => rfl
    | cons x rest => rfl
  · simp only [exponent, List.length_cons, Option.getD_some]
    omega
  · exact fun plain => absurd plain.2 (Option.some_ne_none power)

/-- The text of a decimal without a sign is a numeral. -/
theorem spells_magnitude (c : Nat) (e : Int) : Spells (Decimal.magnitude c e) c e := by
  simp only [Decimal.magnitude]
  split
  · next pointed => exact spells_pointed pointed.1
  · have spelled := spells_scientific c (e + (Nat.toDigits 10 c).length - 1)
    have same : e + (Nat.toDigits 10 c).length - 1 - (Nat.toDigits 10 c).length + 1 = e := by omega
    rwa [same] at spelled

/-- A character that can stand in a numeral. -/
def IsChar (c : Char) : Prop := isDigit c = true ∨ c ∈ ['.', 'E', '+', '-']

theorem isChar_of_mem_powerChars (power : Option Int) (x : Char)
    (h : x ∈ powerChars power) : IsChar x := by
  cases power with
  | none => cases h
  | some z =>
    rcases List.mem_cons.mp h with rfl | h
    · exact Or.inr (by decide)
    · rcases List.mem_cons.mp h with rfl | h
      · right
        split <;> decide
      · exact Or.inl (isDigit_of_mem_toDigits h)

theorem isChar_of_mem (n : Numeral) (x : Char) (h : x ∈ n.chars) : IsChar x := by
  rcases List.mem_append.mp h with h | h
  · rcases List.mem_append.mp h with h | h
    · exact Or.inl (n.digits x (List.mem_append_left _ h))
    · have behind := fun y (hy : y ∈ n.part) => n.digits y (List.mem_append_right _ hy)
      cases hpart : n.part with
      | nil =>
        rw [hpart] at h
        cases h
      | cons d more =>
        rw [hpart] at h behind
        rcases List.mem_cons.mp h with rfl | h
        · exact Or.inr (by decide)
        · exact Or.inl (behind x h)
  · exact isChar_of_mem_powerChars n.power x h

theorem IsChar.toNat {x : Char} (h : IsChar x) : 43 ≤ x.toNat ∧ x.toNat ≤ 69 := by
  rcases h with h | h
  · have := isDigit_iff_toNat.mp h
    omega
  · simp only [List.mem_cons, List.not_mem_nil, or_false] at h
    rcases h with rfl | rfl | rfl | rfl <;> decide

theorem IsChar.ne_underscore {x : Char} (h : IsChar x) : x ≠ '_' := by
  rintro rfl
  exact absurd h.toNat.2 (by decide)

theorem isBlank_eq_false {x : Char} (h : 33 ≤ x.toNat) (h' : x.toNat < 128) :
    Text.isBlank x = false := by
  simp only [Text.isBlank, Text.blanks, Text.Ranges.has, List.any_cons, List.any_nil, Bool.or_false,
    Bool.or_eq_false_iff, Bool.and_eq_false_iff, decide_eq_false_iff_not]
  omega

theorem plainChar?_of_isChar {x : Char} (h : IsChar x) : Decimal.plainChar? x = some x := by
  have range := h.toNat
  have notNull : x ≠ '\x00' := by
    rintro rfl
    exact absurd range.1 (by decide)
  rw [Decimal.plainChar?, if_pos (by omega), if_neg notNull]

theorem trim_eq_self {cs : List Char} (first : ∀ x ∈ cs.head?, Text.isBlank x = false)
    (last : ∀ x ∈ cs.getLast?, Text.isBlank x = false) : Text.trim cs = cs := by
  have front : ∀ l : List Char, (∀ x ∈ l.head?, Text.isBlank x = false) →
      l.dropWhile Text.isBlank = l :=
    fun l hl => (@span_append Text.isBlank [] l (fun _ hx => nomatch hx) hl).2
  rw [Text.trim, Text.trimLeft, front cs first, Text.trimRight, front cs.reverse,
    List.reverse_reverse]
  rwa [List.head?_reverse]

/-- A text of characters of a numeral is read character by character. -/
theorem ofText?_of_isChar {cs : List Char} (h : ∀ x ∈ cs, IsChar x) :
    Decimal.ofText? (String.ofList cs) = Decimal.ofChars? cs := by
  have visible : ∀ x ∈ cs, Text.isBlank x = false := by
    intro x hx
    have range := (h x hx).toNat
    exact isBlank_eq_false (by omega) (by omega)
  have kept : cs.filter (· ≠ '_') = cs := by
    rw [List.filter_eq_self]
    intro x hx
    exact decide_eq_true (h x hx).ne_underscore
  have plain : cs.mapM Decimal.plainChar? = some cs := by
    clear visible kept
    induction cs with
    | nil => rfl
    | cons x more ih =>
      rw [List.mapM_cons, plainChar?_of_isChar (h x List.mem_cons_self),
        ih fun y hy => h y (List.mem_cons_of_mem x hy)]
      rfl
  have trimmed := trim_eq_self (fun x hx => visible x (List.mem_of_mem_head? hx))
    fun x hx => visible x (List.mem_of_getLast? hx)
  rw [Decimal.ofText?, String.toList_ofList, trimmed, kept, plain]
  rfl

theorem readPower?_powerChars (power : Option Int) :
    Decimal.readPower? (powerChars power) = some (power.getD 0) := by
  cases power with
  | none => rfl
  | some z =>
    have digits : (Nat.toDigits 10 z.natAbs).all isDigit = true :=
      List.all_eq_true.mpr fun x hx => isDigit_of_mem_toDigits hx
    have more : (Nat.toDigits 10 z.natAbs).isEmpty = false :=
      List.isEmpty_eq_false_iff.mpr Nat.toDigits_ne_nil
    have letter : (('E' == 'e' || 'E' == 'E') && !false && true) = true := rfl
    by_cases negative : z < 0
    · simp only [powerChars, Decimal.readPower?, negative, if_true, Decimal.readSign, digits, more,
        digitsValue_toDigits, Option.getD_some]
      rw [if_pos letter, Option.some.injEq]
      omega
    · simp only [powerChars, Decimal.readPower?, negative, if_false, Decimal.readSign, digits, more,
        digitsValue_toDigits, Option.getD_some]
      rw [if_pos letter, if_neg Bool.false_ne_true, Option.some.injEq]
      omega

theorem head?_powerChars (power : Option Int) : ∀ x ∈ (powerChars power).head?, x = 'E' := by
  intro x hx
  cases power with
  | none => cases hx
  | some z => exact (Option.some.inj hx).symm

/-- What is read from a numeral. -/
theorem readFinite?_chars (n : Numeral) (negative : Bool) :
    Decimal.readFinite? negative n.chars =
      Decimal.withinLimits? negative n.coefficient n.exponent := by
  obtain ⟨first, more, part, power, digits, leading⟩ := n
  have whole : ∀ x ∈ first :: more, isDigit x = true :=
    fun x hx => digits x (List.mem_append_left _ hx)
  have behind : ∀ x ∈ part, isDigit x = true := fun x hx => digits x (List.mem_append_right _ hx)
  have stop : ∀ x ∈ (powerChars power).head?, isDigit x = false := by
    intro x hx
    rw [head?_powerChars power x hx]
    decide
  cases part with
  | nil =>
    obtain ⟨taken, dropped⟩ := span_append whole stop
    simp only [Decimal.readFinite?, chars, partChars, List.append_nil, taken, dropped]
    have noPoint : ∀ tail, powerChars power ≠ '.' :: tail := by
      intro tail h
      have point := head?_powerChars power '.' (by rw [h]; rfl)
      exact absurd point (by decide)
    split
    · next tail h => exact absurd h (noPoint tail)
    · simp only [List.isEmpty_cons, Bool.false_and, Bool.false_eq_true, if_false,
        readPower?_powerChars, coefficient, exponent, List.append_nil]
      rfl
  | cons d tail =>
    have point : ∀ x ∈ ('.' :: d :: tail ++ powerChars power).head?, isDigit x = false := by
      intro x hx
      rw [← Option.some.inj hx]
      decide
    obtain ⟨taken, dropped⟩ := span_append whole point
    obtain ⟨takenPart, droppedPart⟩ := span_append behind stop
    simp only [Decimal.readFinite?, chars, partChars, List.append_assoc, taken, dropped]
    simp only [List.cons_append] at takenPart droppedPart ⊢
    simp only [takenPart, droppedPart, List.isEmpty_cons, Bool.false_and,
      Bool.false_eq_true, if_false,
      readPower?_powerChars]
    rfl

theorem readSign_of_head {c : Char} (minus : c ≠ '-') (plus : c ≠ '+') (more : List Char) :
    Decimal.readSign (c :: more) = (false, c :: more) := by
  unfold Decimal.readSign
  split
  · next h => exact absurd (List.cons.inj h).1 minus
  · next h => exact absurd (List.cons.inj h).1 plus
  · rfl

theorem readSign_chars (n : Numeral) : Decimal.readSign n.chars = (false, n.chars) := by
  have digit := n.digits n.first (by simp)
  have minus : n.first ≠ '-' := by
    intro h
    rw [h] at digit
    cases digit
  have plus : n.first ≠ '+' := by
    intro h
    rw [h] at digit
    cases digit
  exact readSign_of_head minus plus _

end Numeral

namespace Decimal

/-- The exponent is within the limits that a reader keeps. -/
def isStorable : Decimal → Bool
  | finite _ coefficient exponent =>
    firstDigit coefficient exponent ≤ highestPower && lowestPower ≤ exponent
  | _ => true

/-- A finite decimal without a sign is written as its magnitude. -/
theorem text_eq_magnitude {d : Decimal} (finite : d.isFinite = true)
    (unsigned : d.isNegative = false) :
    ∃ c e, d = .finite false c e ∧ d.text = String.ofList (magnitude c e) := by
  cases d with
  | infinite negative => cases finite
  | undefined negative signaling payload => cases finite
  | finite negative c e =>
    obtain rfl : negative = false := unsigned
    exact ⟨c, e, rfl, rfl⟩

/-- A decimal without a sign is read as it is written. -/
theorem ofText?_text {d : Decimal} (finite : d.isFinite = true) (unsigned : d.isNegative = false)
    (storable : d.isStorable = true) : ofText? d.text = some d := by
  obtain ⟨c, e, rfl, written⟩ := text_eq_magnitude finite unsigned
  obtain ⟨n, hchars, hcoefficient, hexponent, _⟩ := Numeral.spells_magnitude c e
  have limits : firstDigit c e ≤ highestPower ∧ lowestPower ≤ e := by
    simpa [isStorable] using storable
  rw [written, ← hchars, Numeral.ofText?_of_isChar n.isChar_of_mem, ofChars?, n.readSign_chars]
  simp only [n.readFinite?_chars, hcoefficient, hexponent, withinLimits?, if_pos limits]
  rfl

end Decimal
end RateRules
