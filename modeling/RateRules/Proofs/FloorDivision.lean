import RateRules.Proofs.Uncommented

/-!
# Floor division is never read

The grammar knows two slashes as a sign, but it never comes to read them. The texts that it reads
are prepared ones, where no two slashes follow each other, and the fields of templates in them,
which are parts of these texts. So two slashes always start a comment.
-/
namespace RateRules.Script

variable {c : Char} {cs ds rest : List Char} {found : Found}

/-- A word is a keyword or a name. -/
theorem lexeme_of_wordAt? (h : wordAt? c rest = some found) :
    (∃ word, found.lexeme = .keyword word) ∨ ∃ word, found.lexeme = .name word := by
  simp only [wordAt?] at h
  split at h
  · cases h
    exact .inl ⟨_, rfl⟩
  · split at h
    · cases h
      exact .inr ⟨_, rfl⟩
    · cases h

/-- The text has a sign where it is found. -/
theorem sign_prefix_of_lexemeAt? {text : String} (h : lexemeAt? c rest = some found)
    (sign : found.lexeme = .sign text) :
    text.toList <+: c :: rest := by
  cases finds_of_lexemeAt? h with
  | quotation _ read =>
    have quotation := isQuotation_of_quotationAt? read
    rw [sign] at quotation
    cases quotation
  | word _ read =>
    rcases lexeme_of_wordAt? read with ⟨_, word⟩ | ⟨_, word⟩ <;> cases word.symm.trans sign
  | number => cases sign
  | fraction => cases sign
  | sign =>
    obtain ⟨_, same, spelled⟩ := toList_signAt c rest
    cases same.symm.trans sign
    rw [spelled]
    exact List.cons_prefix_cons.mpr ⟨rfl, List.take_prefix _ rest⟩

theorem body_infix_of_quotationAt? {letters : List Char} {quote : Char} {q : Quotation}
    (h : quotationAt? letters quote rest = some found) (quotation : found.lexeme = .quotation q) :
    q.body <:+: rest := by
  simp only [quotationAt?, bind, pure] at h
  split at h
  · obtain ⟨n, _, ⟨⟩⟩ := Option.bind_eq_some_iff.mp h
    cases quotation
    exact (List.take_prefix _ _).isInfix.trans (List.drop_suffix 2 rest).isInfix
  · obtain ⟨n, _, ⟨⟩⟩ := Option.bind_eq_some_iff.mp h
    cases quotation
    exact (List.take_prefix _ rest).isInfix

/-- What stands between quotes is part of the text. -/
theorem body_infix_of_lexemeAt? {q : Quotation} (h : lexemeAt? c rest = some found)
    (quotation : found.lexeme = .quotation q) : q.body <:+: c :: rest := by
  cases finds_of_lexemeAt? h with
  | quotation text read =>
    rw [← text]
    exact (body_infix_of_quotationAt? read quotation).trans
      ((List.suffix_cons _ _).trans (List.suffix_append _ _)).isInfix
  | word _ read =>
    rcases lexeme_of_wordAt? read with ⟨_, word⟩ | ⟨_, word⟩ <;> cases word.symm.trans quotation
  | number => cases quotation
  | fraction => cases quotation
  | sign =>
    obtain ⟨_, sign, _⟩ := toList_signAt c rest
    cases sign.symm.trans quotation

namespace Template

theorem field?_eq_some {opened : List Char} {quote : OpenQuote} {text after : List Char}
    (h : field? opened quote cs = some (text, after)) : text ++ after = cs := by
  have goesOn :
    ∀ {found : Option (List Char × List Char)} {rest text after : List Char} (first : List Char),
      found.map (fun found => (first ++ found.1, found.2)) = some (text, after) →
      (∀ {text after}, found = some (text, after) → text ++ after = rest) →
          text ++ after = first ++ rest := by
    intro found rest text after first h inside
    obtain ⟨⟨_, _⟩, same, ends⟩ := Option.map_eq_some_iff.mp h
    cases ends
    rw [List.append_assoc, inside same]
  -- The text goes on by three quotes, by a sign of two characters or by one character.
  fun_induction field? opened quote cs generalizing text after with
  | case1 | case2 | case10 | case12 | case13 | case20 => cases h
  | case15 | case17 =>
    cases h
    rfl
  | case4 | case7 =>
    rename_i ih
    exact goesOn [_, _, _] h ih
  | case14 =>
    rename_i ih
    exact goesOn [_, _] h ih
  | _ =>
    rename_i ih
    exact goesOn [_] h (ih _ _)

theorem conversion?_suffix (h : conversion? cs = some rest) : rest <:+ cs := by
  unfold conversion? at h
  extract_lets unequal at h
  -- An equals sign with the blanks behind it.
  have without : unequal <:+ cs := by
    unfold unequal
    split
    · exact (List.dropWhile_suffix _).trans (List.suffix_cons _ _)
    · exact List.suffix_rfl
  clear_value unequal
  refine List.IsSuffix.trans ?_ without
  split at h
  · split at h
    · cases h
      exact (List.suffix_cons _ _).trans (List.suffix_cons _ _)
    · cases h
  · cases h
  · cases h
    exact List.suffix_rfl

/-- The fields are parts of a text, and what is not taken apart is its end. -/
structure IsWithin (template : Template) (cs : List Char) : Prop where
  fields : ∀ f ∈ template.fields, f.text <:+: cs
  rest : ∀ rest, template.rest? = some rest → rest <:+ cs

theorem isWithin_of_suffix {template : Template} (h : template.IsWithin ds) (within : ds <:+ cs) :
    template.IsWithin cs :=
  ⟨fun f hf => (h.fields f hf).trans within.isInfix, fun rest left =>
    (h.rest rest left).trans within⟩

theorem isWithin_none {fs : List Field} (h : ∀ f ∈ fs, f.text <:+: cs) :
    IsWithin ⟨fs, none⟩ cs := ⟨h, nofun⟩

theorem isWithin_takeFrom (raw : Bool) (lines fuel level : Nat) (cs : List Char) :
    (takeFrom raw lines fuel level cs).IsWithin cs := by
  -- The text of a field and what follows its conversion.
  have opened : ∀ {cs inner text after : List Char} {n : Nat}, cs.drop n = '\x7b' :: inner →
      field? [] none inner = some (text, after) → text <:+: cs ∧
      ∀ rest, conversion? after = some rest → rest <:+ cs := by
    intro cs inner text after n behind field
    have within : inner <:+ cs := (List.suffix_cons _ inner).trans (behind ▸ List.drop_suffix n cs)
    rw [← field?_eq_some field] at within
    exact ⟨(List.prefix_append text after).isInfix.trans within.isInfix,
      fun rest left =>
        (conversion?_suffix left).trans ((List.suffix_append text after).trans within)⟩
  fun_induction takeFrom raw lines fuel level cs with
  | case1 | case2 | case4 | case5 | case6 => exact isWithin_none (List.forall_mem_nil _)
  | case3 => exact ⟨List.forall_mem_nil _, fun rest left => Option.some.inj left ▸ List.nil_suffix⟩
  | case7 fuel level cs nested text rest literal _ inner behind _ own after hfield _ field format
      hformat formatted more
      hmore further ih ih' =>
    obtain ⟨first, left⟩ := opened behind hfield
    have inside := (List.suffix_cons ':' format).trans (left _ hformat)
    have beyond := ((List.suffix_cons _ more).trans (ih.rest _ hmore)).trans inside
    refine ⟨?_, fun rest left => (ih'.rest rest left).trans beyond⟩
    refine List.forall_mem_cons.mpr ⟨first, List.forall_mem_append.mpr ⟨?_, ?_⟩⟩
    · exact (isWithin_of_suffix ih inside).fields
    · exact (isWithin_of_suffix ih' beyond).fields
  | case8 fuel level cs nested text rest literal _ inner behind _ own after hfield _ field format
      hformat formatted _ ih =>
    obtain ⟨first, left⟩ := opened behind hfield
    have inside := (List.suffix_cons ':' format).trans (left _ hformat)
    exact isWithin_none (List.forall_mem_cons.mpr ⟨first, (isWithin_of_suffix ih inside).fields⟩)
  | case9 fuel level cs nested text rest literal _ inner behind _ own after hfield _ field more
      hmore further ih =>
    obtain ⟨first, left⟩ := opened behind hfield
    have behind := isWithin_of_suffix ih ((List.suffix_cons _ more).trans (left _ hmore))
    exact ⟨List.forall_mem_cons.mpr ⟨first, behind.fields⟩, behind.rest⟩
  | case10 fuel level cs nested text rest literal _ inner behind _ own after hfield =>
    exact isWithin_none (List.forall_mem_cons.mpr ⟨(opened behind hfield).1, List.forall_mem_nil _⟩)
  | case11 fuel level cs nested text rest =>
    refine ⟨List.forall_mem_nil _, fun left h => ?_⟩
    simp only at h
    split at h
    · cases h
      exact List.drop_suffix _ cs
    · cases h

theorem field_isInfix {q : Quotation} {f : Field} (hf : f ∈ (ofQuotation q).fields) :
    f.text <:+: q.body :=
  (isWithin_takeFrom _ _ _ _ q.body).fields f hf

end Template

/-- The texts that are split into tokens when a text is read: the text itself and the fields of the
templates among its tokens, each in parentheses, then those of the templates in fields. -/
inductive IsScanned (source : List Char) : List Char → Prop
  | whole : IsScanned source source
  | field {text : List Char} {line : Nat} {t : Token} {q : Quotation} {f : Field}
      (outer : IsScanned source text)
      (ht : t ∈ (scan line text).tokens) (template : t.lexeme = .quotation q)
      (hf : f ∈ (Template.ofQuotation q).fields) : IsScanned source ('(' :: f.text ++ [')', '\n'])

theorem slashesApart_of_isScanned {source text : List Char} (h : IsScanned source text)
    (apart : SlashesApart source) :
    SlashesApart text := by
  induction h with
  | whole => exact apart
  | @field text line t q f _ ht template hf ih =>
    obtain ⟨c, rest, found, within, read, same⟩ :=
      (comesFrom_of_mem_scanFrom _ _ _ _ ht).exists_found template rfl Lexeme.noConfusion
    have body : q.body <:+: text := (body_infix_of_lexemeAt? read same).trans within.isInfix
    have own := (ih.within body).within (Template.field_isInfix hf)
    have noMarks : ∀ b ∈ [')', '\n'], isMark b = false :=
      List.forall_mem_cons.mpr ⟨rfl, List.forall_mem_singleton.mpr rfl⟩
    have closed := (Cleared.append noMarks f.text).slashesApart own
    exact (Cleared.blank rfl List.suffix_rfl (.refl _)).slashesApart closed

/-- Where no two slashes follow each other, no token is floor division. -/
theorem not_floor_of_slashesApart {text : List Char} (apart : SlashesApart text) (line : Nat) :
    ∀ t ∈ (scan line text).tokens, t.lexeme ≠ .sign "//" ∧ t.lexeme ≠ .sign "//=" := by
  intro t ht
  have other : ∀ sign : String, ['/', '/'] <+: sign.toList → t.lexeme ≠ .sign sign := by
    intro sign slashes lexeme
    obtain ⟨c, rest, found, within, read, same⟩ :=
      (comesFrom_of_mem_scanFrom _ _ _ _ ht).exists_found lexeme rfl Lexeme.noConfusion
    exact apart ((slashes.trans (sign_prefix_of_lexemeAt? read same)).isInfix.trans within.isInfix)
  exact ⟨other "//" (by decide), other "//=" (by decide)⟩

theorem trim_isInfix (cs : List Char) : Text.trim cs <:+: cs := by
  have right : Text.trimRight (Text.trimLeft cs) <+: Text.trimLeft cs := by
    rw [Text.trimRight, ← List.reverse_suffix, List.reverse_reverse]
    exact List.dropWhile_suffix _
  exact right.isInfix.trans (List.dropWhile_suffix _).isInfix

/-- No comment survives preparation: two slashes never follow each other, and no start mark of a
block comment has an end mark behind it. So no text that the grammar reads, of a script or an
expression, has floor division as a token. What is left without comments makes up no new one, and a
prepared text is prepared but for a line feed at its end. -/
theorem preparation_leaves_no_comment (script : String) :
    ¬ ['/', '/'] <:+: prepared script.toList ∧
      (∀ before behind, prepared script.toList = before ++ '/' :: '*' :: behind →
        ¬ ['*', '/'] <:+: behind) ∧
      (∀ source ∈ [withLineEnd (prepared script.toList), Text.trim (prepared script.toList)],
        ∀ text, IsScanned source text → ∀ line, ∀ t ∈ (scan line text).tokens,
          t.lexeme ≠ .sign "//" ∧ t.lexeme ≠ .sign "//=") ∧
      withoutComments (withoutComments script.toList) = withoutComments script.toList ∧
      prepared (prepared script.toList) = withoutLineFeed (prepared script.toList) := by
  have none := uncommented_prepared script.toList
  have sources : ∀ source ∈ [withLineEnd (prepared script.toList),
    Text.trim (prepared script.toList)],
      SlashesApart source := by
    refine List.forall_mem_cons.mpr ⟨(cleared_withLineEnd _).slashesApart none.slashes, ?_⟩
    exact List.forall_mem_singleton.mpr (none.slashes.within (trim_isInfix _))
  refine ⟨none.slashes, none.blocks, ?_, (uncommented_withoutComments _).withoutComments_eq,
    prepared_prepared _⟩
  intro source hsource text scanned line
  exact not_floor_of_slashesApart (slashesApart_of_isScanned scanned (sources source hsource)) line

/-- Not prepared, two slashes are floor division. -/
example : ((scan 1 "4 // 2".toList).tokens.map Token.lexeme).contains (.sign "//") = true := by
  decide +kernel

end RateRules.Script
