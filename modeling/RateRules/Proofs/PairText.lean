import Mathlib.Data.List.TakeWhile
import RateRules.Proofs.Canonical
import RateRules.Proofs.Small

/-!
# Texts of pairs

A text names a pair if it is the text of that pair once ten characters beyond ASCII are written with
plain letters and the letters are capitals. Among texts without these characters only letters and
digits of ASCII name a pair, and only the case of the letters does not count.
-/
namespace RateRules

open Text (isUpper_iff isLower_iff)

theorem isAlphanum_iff {c : Char} :
    c.isAlphanum = true ↔ isCodeChar c = true ∨ c.isLower = true := by
  change (c.isUpper || c.isLower || c.isDigit) = true ↔ _
  rw [Bool.or_eq_true, Bool.or_eq_true, isUpper_iff, Char.isDigit_iff_toNat, isCodeChar_iff]
  exact or_right_comm

theorem toNat_lt_of_isAlphanum {c : Char} (h : c.isAlphanum = true) : c.toNat < 128 := by
  rw [isAlphanum_iff, isCodeChar_iff, isLower_iff] at h
  omega

theorem toNat_toUpper (c : Char) :
    c.toUpper.toNat = if c.isLower then c.toNat - 32 else c.toNat := by
  by_cases inside : 'a'.val ≤ c.val ∧ c.val ≤ 'z'.val
  · have range : 97 ≤ c.toNat ∧ c.toNat ≤ 122 :=
      inside.imp UInt32.le_iff_toNat_le.mp UInt32.le_iff_toNat_le.mp
    have offset : ('A'.val - 'a'.val).toNat = 4294967264 := by decide
    obtain ⟨_, capital⟩ : ∃ valid, c.toUpper = ⟨c.val + ('A'.val - 'a'.val), valid⟩ :=
      ⟨_, dif_pos inside⟩
    rw [if_pos (isLower_iff.mpr range), capital, Char.toNat, UInt32.toNat_add, offset]
    rw [Char.toNat] at range ⊢
    omega
  · have same : c.toUpper = c := dif_neg inside
    rw [same, if_neg]
    rw [isLower_iff]
    exact fun range => inside (range.imp UInt32.le_iff_toNat_le.mpr UInt32.le_iff_toNat_le.mpr)

theorem isCodeChar_toUpper (c : Char) : isCodeChar c.toUpper = c.isAlphanum := by
  rw [Bool.eq_iff_iff, isAlphanum_iff, isCodeChar_iff, isCodeChar_iff, toNat_toUpper]
  by_cases lower : c.isLower = true
  · rw [if_pos lower]
    rw [isLower_iff] at lower ⊢
    omega
  · rw [if_neg lower]
    rw [isLower_iff] at lower ⊢
    omega

theorem toUpper_eq_underscore {c : Char} : c.toUpper = '_' ↔ c = '_' := by
  have code : '_'.toNat = 95 := by decide
  rw [← Char.toNat_inj, ← Char.toNat_inj, toNat_toUpper, code]
  split
  · next lower =>
    have range := isLower_iff.mp lower
    omega
  · exact Iff.rfl

namespace Text

/-- A character beyond ASCII in plain letters, if its capital form is made of such. -/
def plainLetters (c : Char) : List Char := ((ligatures.lookup c).map String.toList).getD [c]

/-- A text in plain letters. -/
def plain (cs : List Char) : List Char := cs.flatMap plainLetters

/-- No character of the text stands for plain letters. -/
def isPlain (cs : List Char) : Bool := cs.all fun c => (ligatures.lookup c).isNone

/-- Two runs of letters and digits with an underscore between them. -/
def IsPairText (cs : List Char) : Prop :=
  ∃ left right, cs = left ++ '_' :: right ∧ left ≠ [] ∧ right ≠ [] ∧ ∀ c ∈ left ++ right,
    c.isAlphanum = true

theorem plain_cons (c : Char) (cs : List Char) : plain (c :: cs) = plainLetters c ++ plain cs := rfl

theorem plain_append (cs ds : List Char) : plain (cs ++ ds) = plain cs ++ plain ds :=
  List.flatMap_append

theorem plainLetters_of_none {c : Char} (h : ligatures.lookup c = none) : plainLetters c = [c] := by
  rw [plainLetters, h]
  rfl

theorem plain_eq_self {cs : List Char} (h : isPlain cs = true) : plain cs = cs := by
  induction cs with
  | nil => rfl
  | cons c more ih =>
    rw [isPlain, List.all_cons, Bool.and_eq_true, Option.isNone_iff_eq_none] at h
    rw [plain_cons, plainLetters_of_none h.1, ih h.2]
    rfl

/-- The characters that stand for others are beyond ASCII, and what they stand for can be in a
code. -/
theorem of_mem_ligatures :
    ∀ entry ∈ ligatures, 128 ≤ entry.1.toNat ∧ entry.2.toList.all isCodeChar = true := by
  decide

theorem of_lookup_eq_some {c : Char} {letters : String} (h : ligatures.lookup c = some letters) :
    128 ≤ c.toNat ∧ letters.toList.all isCodeChar = true := by
  obtain ⟨before, behind, split, -⟩ := List.lookup_eq_some_iff.mp h
  exact of_mem_ligatures (c, letters) (split ▸ List.mem_append_right before List.mem_cons_self)

theorem underscore_mem_plain {cs : List Char} : '_' ∈ plain cs ↔ '_' ∈ cs := by
  have own (c : Char) : '_' ∈ plainLetters c ↔ '_' = c := by
    cases found : ligatures.lookup c with
    | none => rw [plainLetters_of_none found, List.mem_singleton]
    | some letters =>
      obtain ⟨beyond, codes⟩ := of_lookup_eq_some found
      rw [plainLetters, found]
      constructor
      · intro inside
        exact absurd (List.all_eq_true.mp codes '_' inside) (by decide)
      · rintro rfl
        exact absurd beyond (by decide)
  simp only [plain, List.mem_flatMap, own, exists_eq_right']

theorem map_toUpper_of_all {cs : List Char} (h : cs.all isCodeChar = true) :
    cs.map Char.toUpper = cs := by
  refine (List.map_congr_left fun c hc => ?_).trans (List.map_id cs)
  exact toUpper_of_isCodeChar (List.all_eq_true.mp h c hc)

/-- A character has capitals that can stand in a code exactly if its plain letters have them. -/
theorem capital?_eq_some_iff {c : Char} {ds : List Char} (codes : ds.all isCodeChar = true) :
    capital? c = some ds ↔ (plainLetters c).map Char.toUpper = ds := by
  rw [capital?]
  cases found : ligatures.lookup c with
  | some letters =>
    obtain ⟨beyond, plainCodes⟩ := of_lookup_eq_some found
    rw [if_neg (Nat.not_lt.mpr beyond), plainLetters, found]
    simp [map_toUpper_of_all plainCodes]
  | none =>
    rw [plainLetters_of_none found]
    split
    · simp
    · next beyond =>
      constructor
      · rintro ⟨⟩
      · rintro rfl
        have code : isCodeChar c.toUpper = true := List.all_eq_true.mp codes _ List.mem_cons_self
        rw [isCodeChar_toUpper, isAlphanum_iff, isCodeChar_iff, isLower_iff] at code
        omega

theorem capitals?_cons (c : Char) (cs : List Char) :
    capitals? (c :: cs) = (capital? c).bind fun own => (capitals? cs).map (own ++ ·) := by
  simp only [capitals?, List.mapM_cons]
  cases capital? c <;> cases cs.mapM capital? <;> rfl

theorem capitals?_eq_some_iff {cs ds : List Char} (codes : ds.all isCodeChar = true) :
    capitals? cs = some ds ↔ (plain cs).map Char.toUpper = ds := by
  induction cs generalizing ds with
  | nil => simp [capitals?, plain]
  | cons c more ih =>
    rw [capitals?_cons, plain_cons, List.map_append]
    constructor
    · intro h
      obtain ⟨own, hown, h⟩ := Option.bind_eq_some_iff.mp h
      obtain ⟨rest, hrest, rfl⟩ := Option.map_eq_some_iff.mp h
      rw [List.all_append, Bool.and_eq_true] at codes
      rw [(capital?_eq_some_iff codes.1).mp hown, (ih codes.2).mp hrest]
    · rintro rfl
      rw [List.all_append, Bool.and_eq_true] at codes
      rw [(capital?_eq_some_iff codes.1).mpr rfl, Option.bind_some, (ih codes.2).mpr rfl]
      rfl

end Text

theorem Code.ofText?_eq_some_iff {s : String} {code : Code} :
    ofText? s = some code ↔ s = code.text := by
  rw [ofText?]
  constructor
  · intro h
    split at h
    · cases h
      rfl
    · cases h
  · rintro rfl
    rw [dif_pos code.valid]

namespace Pair

open Text

theorem sides?_eq_some_iff {cs left right : List Char} :
    sides? cs = some (left, right) ↔ cs = left ++ '_' :: right ∧ '_' ∉ left ∧ '_' ∉ right := by
  constructor
  · intro h
    have stops := List.head?_dropWhile_not (fun c => decide (c ≠ '_')) cs
    have whole := List.takeWhile_append_dropWhile (p := fun c => decide (c ≠ '_')) (l := cs)
    rw [sides?] at h
    split at h
    · next c right' behind =>
      split at h
      · cases h
      · next single =>
        cases h
        rw [behind] at stops whole
        have underscore : c = '_' := by simpa using stops
        refine ⟨?_, ?_, ?_⟩
        · rw [underscore] at whole
          exact whole.symm
        · exact fun inside => absurd (List.mem_takeWhile_imp inside) (by decide)
        · rwa [List.contains_iff_mem] at single
    · cases h
  · rintro ⟨rfl, onlyLeft, onlyRight⟩
    exact sides?_append onlyLeft onlyRight

/-- A text has two sides where it has them in plain letters. -/
theorem sides?_of_plain {cs left right : List Char} (h : plain cs = left ++ '_' :: right)
    (onlyLeft : '_' ∉ left)
    (onlyRight : '_' ∉ right) :
    ∃ l r, sides? cs = some (l, r) ∧ plain l = left ∧ plain r = right := by
  have inside : '_' ∈ cs :=
    underscore_mem_plain.mp (h ▸ List.mem_append_right left List.mem_cons_self)
  obtain ⟨l, r, rfl, -⟩ := List.eq_append_cons_of_mem inside
  rw [plain_append, plain_cons, plainLetters_of_none (by decide), List.singleton_append] at h
  obtain ⟨rfl, -, rfl⟩ := (List.append_cons_inj_of_notMem onlyLeft onlyRight).mp h.symm
  rw [underscore_mem_plain] at onlyLeft onlyRight
  exact ⟨l, r, sides?_eq_some_iff.mpr ⟨rfl, onlyLeft, onlyRight⟩, rfl, rfl⟩

/-- What a text with the capitals of a pair is made of. -/
theorem map_toUpper_eq_text_iff {cs : List Char} {p : Pair} :
    cs.map Char.toUpper = p.text.toList ↔ ∃ left right, cs = left ++ '_' :: right ∧
      left.map Char.toUpper = p.left.text.toList ∧
      right.map Char.toUpper = p.right.text.toList := by
  rw [toList_text]
  constructor
  · intro h
    obtain ⟨left, more, rfl, hleft, h⟩ := List.map_eq_append_iff.mp h
    obtain ⟨c, right, rfl, hc, hright⟩ := List.map_eq_cons_iff.mp h
    rw [toUpper_eq_underscore.mp hc]
    exact ⟨left, right, rfl, hleft, hright⟩
  · rintro ⟨left, right, rfl, hleft, hright⟩
    rw [List.map_append, List.map_cons, hleft, hright]
    rfl

/-- A text names a pair exactly if its plain letters in capitals are the text of the pair. -/
theorem ofText?_eq_some_iff {s : String} {p : Pair} :
    ofText? s = some p ↔ (plain s.toList).map Char.toUpper = p.text.toList := by
  rw [map_toUpper_eq_text_iff]
  simp only [ofText?, Option.bind_eq_bind, Option.bind_eq_some_iff]
  constructor
  · rintro ⟨⟨l, r⟩, sides, left, hleft, leftCode, hcode, right, hright, rightCode, hcode', same⟩
    cases same
    rw [Code.ofText?_eq_some_iff] at hcode hcode'
    have leftText : left = leftCode.text.toList := by rw [← hcode, String.toList_ofList]
    have rightText : right = rightCode.text.toList := by rw [← hcode', String.toList_ofList]
    rw [leftText] at hleft
    rw [rightText] at hright
    obtain ⟨split, -, -⟩ := sides?_eq_some_iff.mp sides
    refine ⟨plain l, plain r, ?_, ?_, ?_⟩
    · rw [split, plain_append, plain_cons, plainLetters_of_none (by decide), List.singleton_append]
    · exact (capitals?_eq_some_iff leftCode.all_text).mp hleft
    · exact (capitals?_eq_some_iff rightCode.all_text).mp hright
  · rintro ⟨left, right, split, hleft, hright⟩
    have onlyLeft : '_' ∉ left := fun inside =>
      p.left.underscore_not_mem (hleft ▸ List.mem_map.mpr ⟨'_', inside, by decide⟩)
    have onlyRight : '_' ∉ right := fun inside =>
      p.right.underscore_not_mem (hright ▸ List.mem_map.mpr ⟨'_', inside, by decide⟩)
    obtain ⟨l, r, sides, rfl, rfl⟩ := sides?_of_plain split onlyLeft onlyRight
    refine ⟨(l, r), sides, _, (capitals?_eq_some_iff p.left.all_text).mpr hleft, p.left, ?_, _,
      (capitals?_eq_some_iff p.right.all_text).mpr hright, p.right, ?_, rfl⟩
    · exact p.left.ofText?_text
    · exact p.right.ofText?_text

theorem map_ne_nil {cs : List Char} {code : Code}
    (h : cs.map Char.toUpper = code.text.toList) : cs ≠ [] := by
  rintro rfl
  have valid := code.valid
  rw [← h] at valid
  cases valid

theorem isAlphanum_of_map {cs : List Char} {code : Code}
    (h : cs.map Char.toUpper = code.text.toList) :
    ∀ c ∈ cs, c.isAlphanum = true := by
  intro c hc
  rw [← isCodeChar_toUpper]
  exact List.all_eq_true.mp code.all_text _ (h ▸ List.mem_map.mpr ⟨c, hc, rfl⟩)

theorem exists_code {cs : List Char} (nonempty : cs ≠ [])
    (alphanum : ∀ c ∈ cs, c.isAlphanum = true) :
    ∃ code : Code, cs.map Char.toUpper = code.text.toList := by
  have valid : isCode (String.ofList (cs.map Char.toUpper)).toList = true := by
    rw [String.toList_ofList, isCode, Bool.and_eq_true, List.all_map, List.all_eq_true]
    refine ⟨by simpa using nonempty, fun c hc => ?_⟩
    exact (isCodeChar_toUpper c).trans (alphanum c hc)
  exact ⟨⟨_, valid⟩, String.toList_ofList.symm⟩

/-- A text names some pair exactly if in plain letters it has the form of a pair. -/
theorem isSome_ofText?_iff {s : String} :
    (ofText? s).isSome = true ↔ IsPairText (plain s.toList) := by
  rw [Option.isSome_iff_exists]
  constructor
  · rintro ⟨p, h⟩
    obtain ⟨left, right, split, hleft, hright⟩ :=
      map_toUpper_eq_text_iff.mp (ofText?_eq_some_iff.mp h)
    refine ⟨left, right, split, map_ne_nil hleft, map_ne_nil hright, ?_⟩
    intro c hc
    rcases List.mem_append.mp hc with hc | hc
    · exact isAlphanum_of_map hleft c hc
    · exact isAlphanum_of_map hright c hc
  · rintro ⟨left, right, split, someLeft, someRight, alphanum⟩
    obtain ⟨l, hleft⟩ := exists_code someLeft fun c hc => alphanum c (List.mem_append_left _ hc)
    obtain ⟨r, hright⟩ := exists_code someRight fun c hc => alphanum c (List.mem_append_right _ hc)
    exact ⟨⟨l, r⟩,
      ofText?_eq_some_iff.mpr (map_toUpper_eq_text_iff.mpr ⟨left, right, split, hleft, hright⟩)⟩

theorem isPlain_of_isPairText {cs : List Char} (h : IsPairText cs) : isPlain cs = true := by
  have ascii : ∀ c ∈ cs, c.toNat < 128 := by
    obtain ⟨left, right, rfl, -, -, alphanum⟩ := h
    intro c hc
    rcases List.mem_append.mp hc with hc | hc
    · exact toNat_lt_of_isAlphanum (alphanum c (List.mem_append_left _ hc))
    · rcases List.mem_cons.mp hc with rfl | hc
      · decide
      · exact toNat_lt_of_isAlphanum (alphanum c (List.mem_append_right _ hc))
  refine List.all_eq_true.mpr fun c hc => ?_
  cases found : ligatures.lookup c with
  | none => rfl
  | some letters => exact absurd (ascii c hc) (Nat.not_lt.mpr (of_lookup_eq_some found).1)

/-- A text has the form of a pair itself exactly if it names one and has nothing that stands for
plain letters. -/
theorem isPairText_iff {s : String} :
    IsPairText s.toList ↔ (ofText? s).isSome = true ∧ isPlain s.toList = true := by
  rw [isSome_ofText?_iff]
  constructor
  · intro h
    have kept := isPlain_of_isPairText h
    exact ⟨(plain_eq_self kept).symm ▸ h, kept⟩
  · rintro ⟨h, kept⟩
    rwa [plain_eq_self kept] at h

/-- A text names a pair if it has the form of a pair once ten characters beyond ASCII are written
with plain letters; without these characters it has to have the form itself. The text of the pair is
then this text in capitals, and only the case of its letters does not count. The text of every pair
names the pair. -/
theorem texts_name_pairs_in_plain_letters (s : String) :
    ((ofText? s).isSome = true ↔ IsPairText (plain s.toList)) ∧
    (IsPairText s.toList ↔ (ofText? s).isSome = true ∧ isPlain s.toList = true) ∧
    (∀ p : Pair, ofText? s = some p → p.text.toList = (plain s.toList).map Char.toUpper ∧
      ∀ t : String, ofText? t = some p ↔
        (plain t.toList).map Char.toUpper = (plain s.toList).map Char.toUpper) ∧
    (∀ p : Pair, ofText? p.text = some p) ∧
    (isPlain s.toList = true → plain s.toList = s.toList) := by
  refine ⟨isSome_ofText?_iff, isPairText_iff, fun p named => ?_, ofText?_text, plain_eq_self⟩
  have text := ofText?_eq_some_iff.mp named
  refine ⟨text.symm, fun t => ?_⟩
  rw [text, ofText?_eq_some_iff]

/-- Small letters name the same pair as capitals. -/
theorem pair_in_small_letters :
    ∃ p : Pair, p.text = "USDT0_EUR" ∧ isPlain "usdt0_Eur".toList = true ∧
    ofText? "usdt0_Eur" = some p ∧
      ofText? "USDT0_EUR" = some p ∧ p.text.toList = "usdt0_Eur".toList.map Char.toUpper := by
  let p : Pair := ⟨⟨"USDT0", by decide⟩, ⟨"EUR", by decide⟩⟩
  obtain ⟨-, -, names, -, kept⟩ := texts_name_pairs_in_plain_letters "usdt0_Eur"
  have noLigature : isPlain "usdt0_Eur".toList = true := by decide +kernel
  have named : ofText? "usdt0_Eur" = some p := by decide
  obtain ⟨text, same⟩ := names p named
  refine ⟨p, rfl, noLigature, named, (same _).mpr (by decide), ?_⟩
  rw [text, kept noLigature]

/-- A letter beyond ASCII stands for two letters of a code, so two texts that differ in more than
the case of their letters name one pair. -/
theorem pair_beyond_ascii :
    ∃ p : Pair, p.text = "SS_USD" ∧ ofText? "ß_USD" = some p ∧ ofText? "SS_USD" = some p ∧
      ¬ IsPairText "ß_USD".toList ∧
      "ß_USD".toList.map Char.toUpper ≠ "SS_USD".toList.map Char.toUpper := by
  refine ⟨⟨⟨"SS", by decide⟩, ⟨"USD", by decide⟩⟩, rfl, by decide, by decide, ?_, by decide⟩
  rintro ⟨left, right, split, -, -, alphanum⟩
  have inside : 'ß' ∈ left ++ '_' :: right := split ▸ List.mem_cons_self
  have elsewhere : 'ß' ∈ left ++ right := by
    rcases List.mem_append.mp inside with h | h
    · exact List.mem_append_left _ h
    · exact List.mem_append_right _ ((List.mem_cons.mp h).resolve_left (by decide))
  exact absurd (alphanum 'ß' elsewhere) (by decide)

end Pair
end RateRules
