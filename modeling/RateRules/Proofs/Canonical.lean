import RateRules.Proofs.Lines
import RateRules.Proofs.Literals

/-!
# Tables as scripts

The text of a table is a script of the same definitions, if its names stay as they are when they are
read again and no power is the left operand of another, which loses its parentheses.
-/
namespace RateRules

open Script

theorem isCodeChar_iff {c : Char} :
    isCodeChar c = true ↔ (65 ≤ c.toNat ∧ c.toNat ≤ 90) ∨ (48 ≤ c.toNat ∧ c.toNat ≤ 57) := by
  have ends : 'A'.val.toNat = 65 ∧ 'Z'.val.toNat = 90 ∧ '0'.val.toNat = 48 ∧
    '9'.val.toNat = 57 := by decide
  simp only [isCodeChar, Bool.or_eq_true, Bool.and_eq_true, decide_eq_true_eq, Char.le_def,
    UInt32.le_iff_toNat_le, ends, Char.toNat]

theorem toUpper_of_isCodeChar {c : Char} (h : isCodeChar c = true) : c.toUpper = c := by
  have notSmall : ¬ ('a'.val ≤ c.val ∧ c.val ≤ 'z'.val) := by
    have low : 'a'.val.toNat = 97 := by decide
    rw [isCodeChar_iff, Char.toNat] at h
    rw [UInt32.le_iff_toNat_le, low]
    omega
  exact dif_neg notSmall

theorem capital?_of_isCodeChar {c : Char} (h : isCodeChar c = true) :
    Text.capital? c = some [c] := by
  have ascii : c.toNat < 128 := by
    rw [isCodeChar_iff] at h
    omega
  rw [Text.capital?, if_pos ascii, toUpper_of_isCodeChar h]

theorem capitals?_of_all {cs : List Char} (h : cs.all isCodeChar = true) :
    Text.capitals? cs = some cs := by
  induction cs with
  | nil => rfl
  | cons c more ih =>
    rw [List.all_cons, Bool.and_eq_true] at h
    have rest := ih h.2
    rw [Text.capitals?, Option.map_eq_some_iff] at rest
    obtain ⟨parts, hparts, flat⟩ := rest
    simp only [Text.capitals?, List.mapM_cons, capital?_of_isCodeChar h.1, hparts,
      Option.bind_eq_bind,
      Option.bind_some, Option.pure_def, Option.map_some, List.flatten_cons,
        List.singleton_append, flat]

namespace Code

variable (code : Code)

theorem all_text : code.text.toList.all isCodeChar = true := by
  have valid := code.valid
  rw [isCode, Bool.and_eq_true] at valid
  exact valid.2

theorem ofText?_text : ofText? (String.ofList code.text.toList) = some code := by
  rw [String.ofList_toList, ofText?, dif_pos code.valid]

theorem underscore_not_mem : '_' ∉ code.text.toList := by
  intro inside
  exact absurd (List.all_eq_true.mp code.all_text '_' inside) (by decide)

end Code

namespace Pair

theorem toList_text (p : Pair) :
    p.text.toList = p.left.text.toList ++ '_' :: p.right.text.toList := by
  simp [text]

theorem sides?_append {left right : List Char} (onlyLeft : '_' ∉ left) (onlyRight : '_' ∉ right) :
    sides? (left ++ '_' :: right) = some (left, right) := by
  have before : ∀ c ∈ left, decide (c ≠ '_') = true := by
    intro c hc
    rw [decide_eq_true_eq]
    rintro rfl
    exact onlyLeft hc
  obtain ⟨taken, dropped⟩ :=
    @span_append (fun c => decide (c ≠ '_')) left ('_' :: right) before (by simp)
  have single : right.contains '_' = false := by
    rw [Bool.eq_false_iff, ne_eq, List.contains_iff_mem]
    exact onlyRight
  rw [sides?, dropped, taken]
  simp only [single, Bool.false_eq_true, if_false]

/-- The text of a pair names the pair. -/
theorem ofText?_text (p : Pair) : Pair.ofText? p.text = some p := by
  have sides : sides? p.text.toList = some (p.left.text.toList, p.right.text.toList) := by
    rw [toList_text]
    exact sides?_append p.left.underscore_not_mem p.right.underscore_not_mem
  simp only [ofText?, sides, capitals?_of_all p.left.all_text, capitals?_of_all p.right.all_text,
    Option.bind_eq_bind, Option.bind_some, Code.ofText?_text]
  rfl

end Pair

namespace Expr

mutual

/-- Numbers are not too long, pairs and exchanges are names that stay as they are when they are read
again, and no power is the left operand of a power. -/
def isCanonical : Expr → Bool
  | number d => d.isShort
  | pair p => isName p.text
  | exchange venue => isName venue && Text.small venue == venue && (Pair.ofText? venue).isNone
  | unary _ operand => operand.isCanonical
  | binary op left right => !(op == .pow && left.isPower) && left.isCanonical && right.isCanonical
  | call callee args => callee.isCanonical && allCanonical args
  | parenthesized inner => inner.isCanonical
  | name _ => false

/-- Arguments of a call. -/
def allCanonical : List Expr → Bool
  | [] => true
  | e :: more => e.isCanonical && allCanonical more

end

theorem exchangeName?_of_isCanonical {venue : String}
    (canonical : (exchange venue).isCanonical = true) :
    isName venue = true ∧ exchangeName? (.name venue) = some venue := by
  rw [isCanonical, Bool.and_eq_true, Bool.and_eq_true, beq_iff_eq, Option.isNone_iff_eq_none]
    at canonical
  obtain ⟨⟨isName, small⟩, noPair⟩ := canonical
  refine ⟨isName, ?_⟩
  rw [exchangeName?_name noPair, small]

mutual

/-- A canonical expression of a table is read as an expression that it is the normal form of. -/
theorem normalized_written (inCall : Bool) (e : Expr) (normal : e.isNormal inCall = true)
    (ofScript : e.isOfScript = true) (canonical : e.isCanonical = true) :
    e.isSpellable = true ∧ e.bindsAsShown = true ∧ e.written.normalized inCall = (e, []) := by
  cases e with
  | number d =>
    rw [isOfScript, Bool.and_eq_true, Bool.not_eq_true'] at ofScript
    exact ⟨Decimal.isLiteral_iff.mpr ⟨normal, ofScript.1, ofScript.2, canonical⟩, rfl, rfl⟩
  | pair p =>
    refine ⟨canonical, rfl, ?_⟩
    rw [written, normalized, Pair.ofText?_text]
  | unary op operand =>
    rw [isOfScript, Bool.and_eq_true] at ofScript
    obtain ⟨spellable, binds, back⟩ := normalized_written inCall operand normal ofScript.2 canonical
    rw [isSpellable, ofScript.1, spellable]
    refine ⟨rfl, binds, ?_⟩
    simp only [written, normalized, back]
  | binary op left right =>
    rw [isNormal, Bool.and_eq_true] at normal
    rw [isOfScript, Bool.and_eq_true, Bool.and_eq_true] at ofScript
    rw [isCanonical, Bool.and_eq_true, Bool.and_eq_true] at canonical
    obtain ⟨spellableLeft, bindsLeft, backLeft⟩ :=
      normalized_written inCall left normal.1 ofScript.1.2 canonical.1.2
    obtain ⟨spellableRight, bindsRight, backRight⟩ :=
      normalized_written inCall right normal.2 ofScript.2 canonical.2
    rw [isSpellable, bindsAsShown, ofScript.1.1, spellableLeft, spellableRight,
      canonical.1.1, bindsLeft,
      bindsRight]
    refine ⟨rfl, rfl, ?_⟩
    simp only [written, normalized, backLeft, backRight, List.append_nil]
  | call callee args =>
    obtain ⟨rfl, ⟨venue, rfl⟩, normalArgs⟩ := isNormal_call normal
    rw [isOfScript, Bool.and_eq_true] at ofScript
    rw [isCanonical, Bool.and_eq_true] at canonical
    obtain ⟨spellable, binds, back⟩ := normalizedAll_written args normalArgs ofScript.2 canonical.2
    obtain ⟨venueName, named⟩ := exchangeName?_of_isCanonical canonical.1
    refine ⟨?_, ?_, ?_⟩
    · rw [isSpellable, isSpellable, venueName, spellable]
      rfl
    · rw [bindsAsShown, binds]
      rfl
    · simp only [written, normalized, named, back, Bool.false_eq_true, if_false]
  | name word => cases normal
  | exchange venue => cases normal
  | parenthesized inner => cases normal

theorem normalizedAll_written (es : List Expr) (normal : allNormal es = true)
    (ofScript : allOfScript es = true) (canonical : allCanonical es = true) :
    allSpellable es = true ∧ allBindAsShown es = true ∧
    normalizedAll (allWrittenOf es) = (es, []) := by
  cases es with
  | nil => exact ⟨rfl, rfl, rfl⟩
  | cons e more =>
    rw [allNormal, Bool.and_eq_true] at normal
    rw [allOfScript, Bool.and_eq_true] at ofScript
    rw [allCanonical, Bool.and_eq_true] at canonical
    obtain ⟨spellable, binds, back⟩ := normalized_written true e normal.1 ofScript.1 canonical.1
    obtain ⟨spellableMore, bindsMore, backMore⟩ :=
      normalizedAll_written more normal.2 ofScript.2 canonical.2
    rw [allSpellable, allBindAsShown, spellable, spellableMore, binds, bindsMore]
    refine ⟨rfl, rfl, ?_⟩
    simp only [allWrittenOf, normalizedAll, back, backMore, List.append_nil]

end

end Expr

/-- The line of a definition whose expression is read back is read as the definition. -/
theorem Definition.normalized_statement {d : Definition}
    (back : d.expr.written.normalized false = (d.expr, [])) :
    d.statement.normalized = (.assign none (.pair d.pair) d.expr d.position, []) := by
  simp only [statement, Script.Statement.normalized, Expr.normalized, Pair.ofText?_text, back,
    List.append_nil]

namespace RuleTable

/-- A script can spell the table, with brackets that are at most two hundred deep, and its
expressions are canonical. -/
structure IsCanonical (table : RuleTable) : Prop where
  names : ∀ d ∈ table.definitions, isName d.pair.text = true
  expressions : ∀ d ∈ table.definitions, d.expr.isCanonical = true
  fits : Fits 0 table.text.toList

theorem collect_of_nodup {table : RuleTable} {ds : List Definition}
    (distinct : ((table.definitions ++ ds).map Definition.pair).Nodup) :
    (table.collect ds).2 = [] := by
  induction ds generalizing table with
  | nil => rfl
  | cons d more ih =>
    have fresh : d.pair ∉ table.definitions.map Definition.pair := by
      rw [List.map_append, List.map_cons, List.nodup_append] at distinct
      exact fun inside => distinct.2.2 _ inside _ List.mem_cons_self rfl
    cases hd : table.define? d with
    | none =>
      rw [define?, dif_neg fresh] at hd
      cases hd
    | some defined =>
      rw [collect, hd]
      apply ih
      rwa [definitions_of_define? hd, List.append_assoc, List.singleton_append]

/-- The text of a table tells what its definitions say. -/
theorem text_of_meaning {table table' : RuleTable}
    (same : table'.definitions.map Definition.meaning = table.definitions.map Definition.meaning) :
    table'.text = table.text := by
  have lines : ∀ t : RuleTable, t.text = "\n".intercalate
      ((t.definitions.map Definition.meaning).map fun m =>
          m.1.text ++ " = " ++ m.2.render ++ ";") := by
    intro t
    rw [List.map_map]
    rfl
  rw [lines, lines, same]

end RuleTable

namespace Rulebook

/-- A script whose statements are definitions of different pairs, each of which is read back. -/
theorem tableOf_of_statements {script : String} {ds : List Definition}
    (read : Script.statements script = .ok (ds.map Definition.statement))
    (back : ∀ d ∈ ds, d.expr.written.normalized false = (d.expr, []))
    (distinct : (ds.map Definition.pair).Nodup) :
    ∃ table, tableOf script = .ok table ∧ table.definitions = ds := by
  have normal : Script.normalizedStatements (ds.map Definition.statement) =
      (ds.map fun d => .assign none (.pair d.pair) d.expr d.position, []) := by
    rw [Script.normalizedStatements_eq, List.map_map, List.flatMap_map, Prod.mk.injEq]
    constructor
    · exact List.map_congr_left fun d hd =>
        by rw [Function.comp, Definition.normalized_statement (back d hd)]
    · rw [List.flatMap_eq_nil_iff]
      intro d hd
      rw [Definition.normalized_statement (back d hd)]
  have definitions : (ds.map fun d =>
    Script.Statement.assign none (.pair d.pair) d.expr d.position).filterMap
      RuleTable.definition? = ds := by
    rw [List.filterMap_map]
    exact List.filterMap_some
  have clean : (RuleTable.empty.collect ds).2 = [] := RuleTable.collect_of_nodup distinct
  refine ⟨(RuleTable.empty.collect ds).1, ?_, ?_⟩
  · simp only [tableOf, bind_eq_ok, mapError_eq_ok]
    refine ⟨_, read, ?_⟩
    simp only [normal, RuleTable.ofStatements, definitions, clean, List.isEmpty_nil, Bool.not_true,
      Bool.false_eq_true, if_false]
    rfl
  · rw [RuleTable.definitions_of_collect (Prod.ext rfl clean)]
    rfl

/-- A book of the same multiplier is had from any table. -/
theorem parse_of_tableOf {script text : String} {given : Given} {book : Rulebook}
    {table : RuleTable}
    (accepted : parse script given = .ok book) (read : tableOf text = .ok table) :
    parse text given = .ok ⟨table, book.multiplier, book.positive⟩ := by
  have multiplier : withMultiplier book.table given = .ok book := by
    have own := accepted
    rw [parse, parse_eq_ok accepted] at own
    exact own
  rw [withMultiplier] at multiplier
  rw [parse, read]
  change withMultiplier table given = _
  rw [withMultiplier]
  split at multiplier
  · next d _ =>
    rw [ofTable] at multiplier
    split at multiplier
    · next positive =>
      obtain rfl : d = book.multiplier := congrArg Rulebook.multiplier (Except.ok.inj multiplier)
      simp only [ofTable, dif_pos positive]
    · cases multiplier
  · cases multiplier

/-- The text of a rulebook with a canonical table is a script of the same definitions, in the same
order, and of the same text. -/
theorem text_reads_back (script : String) (given : Given) (book : Rulebook)
    (accepted : parse script given = .ok book) (canonical : book.table.IsCanonical) :
    ∃ again, parse book.table.text given = .ok again ∧ again.multiplier = book.multiplier ∧
      again.table.definitions.map Definition.meaning =
        book.table.definitions.map Definition.meaning ∧
      again.table.text = book.table.text := by
  have table := parse_eq_ok accepted
  have back : ∀ d ∈ book.table.definitions, d.expr.isSpellable = true ∧ d.expr.bindsAsShown = true ∧
      d.expr.written.normalized false = (d.expr, []) := fun d hd =>
    Expr.normalized_written false d.expr (isNormal_of_tableOf table d hd)
      (isOfScript_of_tableOf table d hd)
      (canonical.expressions d hd)
  have readable : ∀ d ∈ book.table.definitions, d.IsReadable := fun d hd =>
    ⟨canonical.names d hd, (back d hd).1, (back d hd).2.1⟩
  have fits : Fits 0 (Definition.lines book.table.definitions) := by
    rw [← book.table.toList_text]
    exact canonical.fits
  obtain ⟨ds, same, read⟩ := Script.statements_lines readable fits book.table.toList_text
  have readBack : ∀ d ∈ ds, d.expr.written.normalized false = (d.expr, []) := by
    intro d hd
    have member : d.meaning ∈ book.table.definitions.map Definition.meaning := by
      rw [← same]
      exact List.mem_map_of_mem hd
    obtain ⟨own, hown, meaning⟩ := List.mem_map.mp member
    obtain ⟨-, hexpr⟩ := Prod.mk.inj meaning
    rw [← hexpr]
    exact (back own hown).2.2
  have pairs : ds.map Definition.pair = book.table.definitions.map Definition.pair := by
    have first := congrArg (List.map Prod.fst) same
    rwa [List.map_map, List.map_map] at first
  obtain ⟨again, hagain, definitions⟩ :=
    tableOf_of_statements read readBack (pairs ▸ book.table.distinct)
  rw [← definitions] at same
  exact ⟨_, parse_of_tableOf accepted hagain, rfl, same, RuleTable.text_of_meaning same⟩

/-- Calls, signs, powers and differences that are written in other ways than they are shown. -/
theorem text_reads_back_of_two_lines :
    ∃ book again : Rulebook,
      parse "btc_usd=KRAKEN(BTC_usd)*1.10_0\nX_EUR=(-(2+.5))**(2**3)-(1-gemini(ETH_EUR,))"
      (.decimal .one)
        = .ok book ∧
      book.table.text =
        "BTC_USD = kraken(BTC_USD) * 1.100;\nX_EUR = (-(2 + 0.5)) ** (2 ** 3) - (1 - gemini(ETH_EUR));" ∧
      parse book.table.text (.decimal .one) = .ok again ∧
      again.table.definitions.map Definition.meaning =
        book.table.definitions.map Definition.meaning := by
  have facts : passes (fun book : Rulebook =>
      book.table.definitions.all (fun d => isName d.pair.text && d.expr.isCanonical) &&
        book.table.text ==
          "BTC_USD = kraken(BTC_USD) * 1.100;\nX_EUR = (-(2 + 0.5)) ** (2 ** 3) - (1 - gemini(ETH_EUR));")
      (parse "btc_usd=KRAKEN(BTC_usd)*1.10_0\nX_EUR=(-(2+.5))**(2**3)-(1-gemini(ETH_EUR,))"
        (.decimal .one))
      = true := by decide +kernel
  obtain ⟨book, accepted, facts⟩ := passes_iff.mp facts
  simp only [Bool.and_eq_true, beq_iff_eq, List.all_eq_true] at facts
  obtain ⟨each, text⟩ := facts
  have fits : Fits 0 book.table.text.toList := by
    rw [text]
    exact fits_of_count_le (by decide +kernel)
  obtain ⟨again, read, -, same, -⟩ := text_reads_back _ _ book accepted
    ⟨fun d hd => (each d hd).1, fun d hd => (each d hd).2, fits⟩
  exact ⟨book, again, accepted, text, read, same⟩

/-- A power of a power is shown without its parentheses, so that its text is another power; the name
of an exchange in small letters may be a word that scripts reserve, so that its text is no
script. -/
theorem text_may_not_read_back :
    (∃ book again : Rulebook,
      parse "BTC_USD = (2 ** 3) ** 4;" (.decimal .one) = .ok book ∧
      book.table.text = "BTC_USD = 2 ** 3 ** 4;" ∧
      parse book.table.text (.decimal .one) = .ok again ∧
      again.table.text = "BTC_USD = 2 ** (3 ** 4);" ∧
      again.table.definitions.map Definition.meaning ≠
        book.table.definitions.map Definition.meaning) ∧
    ∃ book : Rulebook,
      parse "BTC_USD = IF(BTC_USD);" (.decimal .one) = .ok book ∧
      book.table.text = "BTC_USD = if(BTC_USD);" ∧
      ∀ again, parse book.table.text (.decimal .one) ≠ .ok again := by
  constructor
  · have facts : passes (fun book : Rulebook => book.table.text == "BTC_USD = 2 ** 3 ** 4;")
        (parse "BTC_USD = (2 ** 3) ** 4;" (.decimal .one)) = true := by decide +kernel
    have others : passes (fun book : Rulebook => book.table.text == "BTC_USD = 2 ** (3 ** 4);")
        (parse "BTC_USD = 2 ** 3 ** 4;" (.decimal .one)) = true := by decide +kernel
    obtain ⟨book, accepted, text⟩ := passes_iff.mp facts
    obtain ⟨again, read, textAgain⟩ := passes_iff.mp others
    rw [beq_iff_eq] at text textAgain
    refine ⟨book, again, accepted, text, text ▸ read, textAgain, fun same => ?_⟩
    have equal := RuleTable.text_of_meaning same
    rw [text, textAgain] at equal
    exact absurd equal (by decide)
  · have facts : passes (fun book : Rulebook => book.table.text == "BTC_USD = if(BTC_USD);")
        (parse "BTC_USD = IF(BTC_USD);" (.decimal .one)) = true := by decide +kernel
    obtain ⟨book, accepted, text⟩ := passes_iff.mp facts
    rw [beq_iff_eq] at text
    have refused : passes (fun _ => true) (parse "BTC_USD = if(BTC_USD);" (.decimal .one)) =
        false := by
      decide +kernel
    refine ⟨book, accepted, text, fun again read => ?_⟩
    rw [text] at read
    rw [read] at refused
    cases refused

end Rulebook
end RateRules
