import RateRules.Proofs.LineNumbers
import RateRules.Proofs.Small
import RateRules.Proofs.Unclosed

/-!
# Names of a script

The names in the expressions of a script are names among its tokens. In a script of ASCII they are
words of its text, which are no keywords and stay as they are when they are read again; in small
letters they are names, too, or keywords.
-/
namespace RateRules.Script

/-- The tokens have this word as a name. -/
def HasName (tokens : List Token) (word : String) : Prop := ∃ t ∈ tokens, t.lexeme = .name word

theorem HasName.of_suffix {tokens rest : List Token} {word : String} (h : HasName rest word)
    (suffix : rest <:+ tokens) :
    HasName tokens word := by
  obtain ⟨t, ht, lexeme⟩ := h
  exact ⟨t, suffix.subset ht, lexeme⟩

theorem exists_of_mem_nodesOfAll {es : List Expr} {x : Expr} (h : x ∈ Expr.nodesOfAll es) :
    ∃ e ∈ es, x ∈ e.nodes := by
  induction es with
  | nil => cases h
  | cons e more ih =>
    rcases List.mem_append.mp h with h | h
    · exact ⟨e, List.mem_cons_self, h⟩
    · obtain ⟨d, hd, inside⟩ := ih h
      exact ⟨d, List.mem_cons_of_mem e hd, inside⟩

theorem exists_of_mem_exprsOf {ts : List Tree} {es : List Expr} (h : exprsOf ts = .ok es) {e : Expr}
    (he : e ∈ es) :
    ∃ t ∈ ts, t.expr = .ok e := by
  induction ts generalizing es with
  | nil =>
    cases h
    cases he
  | cons t more ih =>
    simp only [exprsOf, bind_eq_ok, pure_eq_ok] at h
    obtain ⟨first, hfirst, rest, hrest, rfl⟩ := h
    rcases List.mem_cons.mp he with rfl | he
    · exact ⟨t, List.mem_cons_self, hfirst⟩
    · obtain ⟨u, hu, same⟩ := ih hrest he
      exact ⟨u, List.mem_cons_of_mem t hu, same⟩

theorem name_not_mem_numberOf {place : Place} {text word : String} {e : Expr}
    (h : numberOf place text = .ok e) :
    .name word ∉ e.nodes := by
  rw [numberOf] at h
  split at h
  · split at h
    · cases h
      simp [Expr.nodes]
    · cases h
  · cases h

/-- The names of the expression that a tree stands for are names among the tokens. -/
def Tree.NamedIn (tokens : List Token) (t : Tree) : Prop :=
  ∀ e, t.expr = .ok e → ∀ word, .name word ∈ e.nodes → HasName tokens word

theorem Tree.NamedIn.of_suffix {tokens rest : List Token} {t : Tree} (h : t.NamedIn rest)
    (suffix : rest <:+ tokens) :
    t.NamedIn tokens :=
  fun e he word inside => (h e he word inside).of_suffix suffix

theorem Tree.namedIn_of_isRefused {tokens : List Token} {t : Tree} (h : t.isRefused = true) :
    t.NamedIn tokens := by
  intro e he
  exact absurd ⟨e, he⟩ (Grammar.not_isAccepted_of_isRefused h)

namespace Grammar

variable {tokens rest : List Token}

def Phrase.NamedIn (tokens : List Token) : Phrase → Prop
  | tree t => t.NamedIn tokens
  | arguments _ args => ∀ arg ∈ args, arg.NamedIn tokens

theorem namedIn_of_derives {phrase : Phrase} (h : Derives tokens phrase rest) :
    phrase.NamedIn tokens := by
  induction h with
  | number =>
    intro e he word inside
    exact absurd inside (name_not_mem_numberOf he)
  | @name t word rest lexeme =>
    intro e he other inside
    cases he
    cases List.mem_singleton.mp inside
    exact ⟨t, List.mem_cons_self, lexeme⟩
  | group _ _ _ ih => exact ih.of_suffix (List.suffix_cons _ _)
  | unary _ _ _ ih =>
    intro e he word inside
    simp only [Tree.expr, knownOperator, bind_eq_ok, pure_eq_ok] at he
    obtain ⟨_, _, operand, hoperand, rfl⟩ := he
    have inside := (List.mem_cons.mp inside).resolve_left Expr.noConfusion
    exact (ih operand hoperand word inside).of_suffix (List.suffix_cons _ _)
  | binary before _ _ _ left right =>
    intro e he word inside
    simp only [Tree.expr, knownOperator, bind_eq_ok, pure_eq_ok] at he
    obtain ⟨_, _, l, hl, r, hr, rfl⟩ := he
    have inside := (List.mem_cons.mp inside).resolve_left Expr.noConfusion
    rcases List.mem_append.mp inside with inside | inside
    · exact left l hl word inside
    · exact (right r hr word inside).of_suffix ((List.suffix_cons _ _).trans before.isSuffix)
  | call before opens _ _ callee args =>
    intro e he word inside
    simp only [Tree.expr, Bool.false_eq_true, if_false, bind_eq_ok, pure_eq_ok] at he
    obtain ⟨c, hc, es, hes, rfl⟩ := he
    have inside := (List.mem_cons.mp inside).resolve_left Expr.noConfusion
    rcases List.mem_append.mp inside with inside | inside
    · exact callee c hc word inside
    · obtain ⟨arg, harg, inside⟩ := exists_of_mem_nodesOfAll inside
      obtain ⟨t, ht, same⟩ := exists_of_mem_exprsOf hes harg
      exact (args t (List.mem_reverse.mp ht) arg same word inside).of_suffix
        ((List.suffix_cons _ _).trans before.isSuffix)
  | refused _ refused => exact Tree.namedIn_of_isRefused refused.1
  | noArgument => exact List.forall_mem_nil _
  | argument before _ args arg =>
    exact List.forall_mem_cons.mpr ⟨Tree.NamedIn.of_suffix arg before.isSuffix, args⟩
  | comma _ _ args => exact args
  | refusedArgument _ refused _ args =>
    exact List.forall_mem_cons.mpr ⟨Tree.namedIn_of_isRefused refused.1, args⟩

theorem namedIn_of_derivesValue {targets : List Tree} {value : Tree}
    (h : DerivesValue tokens targets value rest) :
    value.NamedIn tokens ∧ ∀ target ∈ targets, target.NamedIn tokens := by
  induction h with
  | first value => exact ⟨namedIn_of_derives value, List.forall_mem_nil _⟩
  | further before _ behind ih =>
    have suffix := (List.suffix_cons _ _).trans before.isSuffix
    exact ⟨Tree.NamedIn.of_suffix (namedIn_of_derives behind) suffix,
      List.forall_mem_cons.mpr ⟨ih.1, ih.2⟩⟩

end Grammar

/-- The parts of the expressions of a statement. -/
def Statement.nodes : Statement → List Expr
  | assign _ target value _ => target.nodes ++ value.nodes
  | expression e => e.nodes

theorem Grammar.hasName_of_derivesClause {tokens rest : List Token} {c : Clause}
    (h : DerivesClause tokens c rest)
    {ss : List Statement} (read : c.statements = .ok ss) {s : Statement} (hs : s ∈ ss)
    {word : String}
    (inside : .name word ∈ s.nodes) : HasName tokens word := by
  cases h with
  | assign assigned =>
    obtain ⟨value, targets⟩ := namedIn_of_derivesValue assigned
    simp only [Clause.statements, bind_eq_ok, pure_eq_ok] at read
    obtain ⟨e, he, es, hes, rfl⟩ := read
    obtain ⟨target, htarget, rfl⟩ := List.mem_map.mp hs
    rcases List.mem_append.mp inside with inside | inside
    · obtain ⟨t, ht, same⟩ := exists_of_mem_exprsOf hes htarget
      exact targets t (List.mem_reverse.mp ht) target same word inside
    · exact value e he word inside
  | augment before _ behind =>
    have suffix := (List.suffix_cons _ _).trans before.isSuffix
    simp only [Clause.statements, bind_eq_ok, pure_eq_ok] at read
    obtain ⟨_, _, target, htarget, e, he, rfl⟩ := read
    cases List.mem_singleton.mp hs
    rcases List.mem_append.mp inside with inside | inside
    · exact namedIn_of_derives before target htarget word inside
    · exact (namedIn_of_derives behind e he word inside).of_suffix suffix
  | expression spelled =>
    simp only [Clause.statements, bind_eq_ok, pure_eq_ok] at read
    obtain ⟨e, he, rfl⟩ := read
    cases List.mem_singleton.mp hs
    exact namedIn_of_derives spelled e he word inside
  | pass =>
    cases read
    cases hs
  | foreign => cases read

/-- The names of a script are names among its tokens. -/
theorem hasName_of_statements {script : String} {ss : List Statement}
    (h : statements script = .ok ss) {s : Statement}
    (hs : s ∈ ss) {word : String} (inside : .name word ∈ s.nodes) :
    HasName (scan 1 (withLineEnd (prepared script.toList))).tokens word := by
  simp only [statements, bind_eq_ok] at h
  obtain ⟨clauses, hclauses, h⟩ := h
  obtain ⟨rest, derived, _⟩ := derives_of_readWith hclauses
  obtain ⟨c, hc, own, hown, hs⟩ := exists_of_mem_statementsOf h hs
  obtain ⟨mid, behind, suffix, hc⟩ :=
    Grammar.exists_of_derivesClauses derived (List.mem_reverse.mpr hc)
  exact (Grammar.hasName_of_derivesClause hc hown hs inside).of_suffix suffix

/-- All characters are of ASCII. -/
def IsAscii (cs : List Char) : Prop := ∀ c ∈ cs, c.toNat < 128

theorem IsAscii.of_subset {cs ds : List Char} (h : IsAscii ds) (subset : cs ⊆ ds) : IsAscii cs :=
  fun c hc => h c (subset hc)

theorem all_of_isAscii {cs : List Char} (h : IsAscii cs) : cs.all (·.toNat < 128) = true :=
  List.all_eq_true.mpr fun c hc => decide_eq_true (h c hc)

theorem composed_of_isAscii {word : String} (h : IsAscii word.toList) :
    Text.composed word = word := by
  rw [Text.composed, if_pos (all_of_isAscii h)]

/-- Letters, digits and underscores, a digit not first. -/
def isWord : List Char → Bool
  | [] => false
  | c :: more => isWordStart c && more.all isWordChar

/-- In ASCII every word but the keywords is a name. -/
theorem isName_eq_of_isAscii {word : String} (ascii : IsAscii word.toList) :
    isName word = (isWord word.toList && !keywords.contains word) := by
  cases chars : word.toList with
  | nil => rw [isName, chars, isWord, Bool.false_and]
  | cons c more =>
    rw [chars] at ascii
    have composed : Text.composed word = word := composed_of_isAscii (chars.symm ▸ ascii)
    simp only [isName, chars, isWord, all_of_isAscii ascii, composed, Bool.true_or,
      beq_self_eq_true, Bool.and_true]

theorem isName_of_wordAt? {c : Char} {rest : List Char} {found : Found} {word : String}
    (ascii : IsAscii (c :: rest))
    (starts : isWordStart c = true) (h : wordAt? c rest = some found)
    (name : found.lexeme = .name word) :
    isName word = true ∧ IsAscii word.toList := by
  have taken : rest.take (rest.takeWhile isWordChar).length = rest.takeWhile isWordChar :=
    (List.prefix_iff_eq_take.mp (List.takeWhile_prefix isWordChar)).symm
  have within : IsAscii (String.ofList (c :: rest.takeWhile isWordChar)).toList := by
    rw [String.toList_ofList]
    exact ascii.of_subset (List.cons_subset_cons c (List.takeWhile_subset isWordChar))
  have shape : isWord (c :: rest.takeWhile isWordChar) = true := by
    rw [isWord, starts, Bool.true_and, List.all_eq_true]
    exact fun x hx => List.mem_takeWhile_imp hx
  simp only [wordAt?, taken] at h
  split at h
  · cases h
    cases name
  · next noKeyword =>
    split at h
    · cases h
      cases name
      rw [composed_of_isAscii within]
      refine ⟨?_, within⟩
      rw [isName_eq_of_isAscii within, String.toList_ofList, shape]
      simpa using noKeyword
    · cases h

/-- A name is found where a word starts. -/
theorem wordAt?_of_lexemeAt? {c : Char} {rest : List Char} {found : Found} {word : String}
    (h : lexemeAt? c rest = some found) (name : found.lexeme = .name word) :
    isWordStart c = true ∧ wordAt? c rest = some found := by
  cases finds_of_lexemeAt? h with
  | quotation _ read =>
    have quotation := isQuotation_of_quotationAt? read
    rw [name] at quotation
    cases quotation
  | word starts read => exact ⟨starts, read⟩
  | number => cases name
  | fraction => cases name
  | sign =>
    obtain ⟨text, sign, _⟩ := toList_signAt c rest
    cases sign.symm.trans name

/-- Among the tokens of a text in ASCII, names are words that stay as they are. -/
theorem isName_of_mem_scanFrom (opened : Opened) (fresh : Bool) (place : Place) (cs : List Char)
    (ascii : IsAscii cs)
    {word : String} (h : HasName (scanFrom opened fresh place cs).tokens word) :
    isName word = true ∧ IsAscii word.toList := by
  obtain ⟨t, ht, name⟩ := h
  obtain ⟨c, rest, found, within, read, same⟩ :=
    (comesFrom_of_mem_scanFrom opened fresh place cs ht).exists_found name rfl Lexeme.noConfusion
  obtain ⟨starts, atWord⟩ := wordAt?_of_lexemeAt? read same
  exact isName_of_wordAt? (ascii.of_subset within.subset) starts atWord same

/-- Preparation brings in blanks and line feeds only. -/
theorem mem_withoutComments {cs : List Char} {c : Char} (h : c ∈ withoutComments cs) :
    c ∈ cs ∨ c = ' ' ∨ c = '\n' := by
  fun_induction withoutComments cs with
  | case1 => cases h
  | case2 rest ih =>
    rcases List.mem_cons.mp h with rfl | h
    · exact .inr (.inl rfl)
    · refine (ih h).imp_left fun inside => ?_
      exact List.mem_cons_of_mem _ (List.mem_cons_of_mem _ ((List.dropWhile_sublist _).mem inside))
  | case3 rest n closed ih =>
    rcases List.mem_append.mp h with h | h
    · exact .inr (mem_blankFor h)
    · refine (ih h).imp_left fun inside => ?_
      exact List.mem_cons_of_mem _ (List.mem_cons_of_mem _ (List.mem_of_mem_drop inside))
  | case4 rest unclosed ih =>
    rcases List.mem_cons.mp h with rfl | h
    · exact .inl List.mem_cons_self
    · exact (ih h).imp_left (List.mem_cons_of_mem _)
  | case5 d rest _ _ ih =>
    rcases List.mem_cons.mp h with rfl | h
    · exact .inl List.mem_cons_self
    · exact (ih h).imp_left (List.mem_cons_of_mem _)

theorem mem_of_mem_lines {cs l : List Char} (hl : l ∈ Text.lines cs) {c : Char}
    (hc : c ∈ l) : c ∈ cs := by
  cases ends : Text.isLineEnd c with
  | true => exact absurd hc (not_mem_lines ends cs l hl)
  | false => exact (mem_lines ends cs).mp ⟨l, hl, hc⟩

theorem isAscii_prepared {cs : List Char} (ascii : IsAscii cs) :
    IsAscii (withLineEnd (prepared cs)) := by
  have text : IsAscii (withoutComments cs) := by
    intro c hc
    rcases mem_withoutComments hc with hc | rfl | rfl
    · exact ascii c hc
    · decide
    · decide
  have prepared : IsAscii (prepared cs) := by
    intro c hc
    rcases mem_joinLines hc with rfl | ⟨l, hl, hc⟩
    · decide
    · obtain ⟨line, hline, rfl⟩ := List.mem_map.mp hl
      exact text c (mem_of_mem_lines hline ((List.dropWhile_sublist _).mem hc))
  rw [withLineEnd]
  split
  · exact prepared
  · intro c hc
    rcases List.mem_append.mp hc with hc | hc
    · exact prepared c hc
    · rw [List.mem_singleton.mp hc]
      decide

/-- The names of a script in ASCII are words of their own. -/
theorem isName_of_statements {script : String} (ascii : IsAscii script.toList) {ss : List Statement}
    (h : statements script = .ok ss) {s : Statement} (hs : s ∈ ss) {word : String}
    (inside : .name word ∈ s.nodes) :
    isName word = true ∧ IsAscii word.toList :=
  isName_of_mem_scanFrom _ _ _ _ (isAscii_prepared ascii) (hasName_of_statements h hs inside)

theorem toList_small_of_isAscii {word : String} (ascii : IsAscii word.toList) :
    (Text.small word).toList = word.toList.map Char.toLower := by
  have after : ∀ before cs, IsAscii cs → Text.smallAfter before cs = cs.map Char.toLower := by
    intro before cs ascii
    induction cs generalizing before with
    | nil => rfl
    | cons c rest ih =>
      have first : c.toNat < 128 := ascii c List.mem_cons_self
      have dotted : c ≠ 'İ' := by
        rintro rfl
        exact absurd first (by decide)
      have sigma : c ≠ 'Σ' := by
        rintro rfl
        exact absurd first (by decide)
      rw [Text.smallAfter, if_neg dotted, if_neg sigma, Text.smallLetter, if_pos first,
        ih (c :: before) (ascii.of_subset (List.subset_cons_self _ _))]
      rfl
  rw [Text.small, String.toList_ofList, after [] _ ascii]

/-- Letters stay letters in small form, and all other characters stay as they are. -/
theorem isAlpha_or_toLower_eq (c : Char) :
    c.isAlpha = true ∧ c.toLower.isAlpha = true ∨ c.toLower = c := by
  cases upper : c.isUpper with
  | true =>
    have letter : c.isAlpha = true := Bool.or_eq_true_iff.mpr (.inl upper)
    have small : c.toLower.isLower = true := by
      have range := Text.isUpper_iff.mp upper
      rw [Text.isLower_iff, Text.toNat_toLower, if_pos upper]
      omega
    exact .inl ⟨letter, Bool.or_eq_true_iff.mpr (.inr small)⟩
  | false => exact .inr (Text.toLower_eq_self upper)

theorem isWordStart_toLower (c : Char) : isWordStart c.toLower = isWordStart c := by
  rcases isAlpha_or_toLower_eq c with ⟨letter, small⟩ | same
  · simp only [isWordStart, letter, small, Bool.true_or]
  · rw [same]

theorem isWordChar_toLower (c : Char) : isWordChar c.toLower = isWordChar c := by
  rcases isAlpha_or_toLower_eq c with ⟨letter, small⟩ | same
  · simp only [isWordChar, Char.isAlphanum, letter, small, Bool.true_or]
  · rw [same]

theorem isWord_map_toLower (cs : List Char) : isWord (cs.map Char.toLower) = isWord cs := by
  cases cs with
  | nil => rfl
  | cons c more =>
    have each : isWordChar ∘ Char.toLower = isWordChar := funext isWordChar_toLower
    rw [List.map_cons, isWord, isWord, List.all_map, isWordStart_toLower, each]

theorem isAscii_map_toLower {cs : List Char} (ascii : IsAscii cs) :
    IsAscii (cs.map Char.toLower) := by
  intro d hd
  obtain ⟨c, hc, rfl⟩ := List.mem_map.mp hd
  have small : c.toNat < 128 := ascii c hc
  rw [Text.toNat_toLower]
  split
  · next upper =>
    have range := Text.isUpper_iff.mp upper
    omega
  · exact small

/-- A name in small letters is a name, unless it is a keyword. -/
theorem isName_small {word : String} (name : isName word = true) (ascii : IsAscii word.toList) :
    isName (Text.small word) = true ∨ Text.small word ∈ keywords := by
  have letters := toList_small_of_isAscii ascii
  rw [isName_eq_of_isAscii ascii, Bool.and_eq_true] at name
  have shape : isWord (Text.small word).toList = true := by rw [letters, isWord_map_toLower, name.1]
  rw [isName_eq_of_isAscii (letters ▸ isAscii_map_toLower ascii), shape, Bool.true_and,
    Bool.not_eq_true',
    ← List.contains_iff_mem]
  exact (Bool.eq_false_or_eq_true _).symm

end RateRules.Script
