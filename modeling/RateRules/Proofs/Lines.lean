import RateRules.Proofs.Readback
import RateRules.Proofs.Steps
import RateRules.RuleTable

/-!
# Reading the lines of a table

The text of a table is a script with a line for each definition. If a script can spell them, its
lines are split into the tokens of the definitions and read as assignments, one after the other.
-/
namespace RateRules

open Script

/-- No pair is the word that a choice among patterns starts with. -/
theorem Pair.text_ne_match (p : Pair) : p.text ≠ "match" := by
  intro same
  have inside : '_' ∈ p.text.toList := by simp [Pair.text]
  rw [same] at inside
  exact absurd inside (by decide)

namespace Definition

/-- The definition as a line of a script. -/
def line (d : Definition) : String := d.pair.text ++ " = " ++ d.expr.render ++ ";"

/-- The tokens of the line. -/
def lexemes (d : Definition) : List Lexeme :=
  .name d.pair.text :: .sign "=" :: (d.expr.lexemes ++ [.sign ";"])

/-- A script can spell the pair and the expression, whose text binds as it does. -/
structure IsReadable (d : Definition) : Prop where
  name : isName d.pair.text = true
  spellable : d.expr.isSpellable = true
  binds : d.expr.bindsAsShown = true

/-- What the definition says, its position aside. -/
def meaning (d : Definition) : Pair × Expr := (d.pair, d.expr)

/-- The statement that the line is read as. -/
def statement (d : Definition) : Statement :=
  .assign none (.name d.pair.text) d.expr.written d.position

variable {d : Definition}

theorem toList_line (d : Definition) :
    d.line.toList = d.pair.text.toList ++ ([' ', '=', ' '] ++ (d.expr.render.toList ++ [';'])) := by
  simp [line]

theorem splits_line (h : d.IsReadable) (rest : List Char) :
    Splits d.line.toList d.lexemes ('\n' :: rest) := by
  have alone : ∀ s ∈ longSigns ++ doubleSigns, s.toList.head? ≠ some ';' := by decide +kernel
  have semicolon : Splits [';'] [.sign ";"] ('\n' :: rest) := by
    refine splits_sign (by decide) (by decide) fun s hs same => alone s hs ?_
    have first := congrArg List.head? same
    rwa [List.head?_take, if_neg (by decide), List.head?_cons] at first
  have value :=
    (Expr.splits_render d.expr h.spellable _ (stops_cons (by decide) _)).append semicolon
  have equals := (splits_blank _).append
    ((@splits_sign_blank '=' (by decide) (by decide) (d.expr.render.toList ++ [';'] ++
      '\n' :: rest)).append
      (splits_blank _))
  rw [toList_line]
  exact (splits_name h.name (stops_cons (by decide) _)).append (equals.append value)

theorem isLine_line (h : d.IsReadable) : IsLine d.line.toList := by
  obtain ⟨c, more, written, letter, _⟩ := exists_of_isName h.name
  have equals : Plain [' ', '=', ' '] := plain_of_all (by decide)
  have semicolon : Plain [';'] := plain_of_all (by decide)
  rw [toList_line]
  refine ⟨(plain_name h.name).append
    (equals.append ((Expr.plain_render d.expr h.spellable).append semicolon)),
    c, _, by rw [written]; rfl, ?_⟩
  rintro rfl
  exact absurd letter (by decide)

theorem line_ne_nil (d : Definition) : d.line.toList ≠ [] := by
  rw [toList_line]
  exact List.append_ne_nil_of_right_ne_nil _ (List.cons_ne_nil _ _)

theorem getLast?_line (d : Definition) : d.line.toList.getLast? = some ';' := by
  have whole : d.line.toList =
      d.pair.text.toList ++ [' ', '=', ' '] ++ d.expr.render.toList ++ [';'] := by
    simp [toList_line]
  rw [whole, List.getLast?_concat]

/-- The lines of some definitions. -/
def lines (ds : List Definition) : List Char := joinLines (ds.map fun d => d.line.toList)

theorem lines_singleton (d : Definition) : lines [d] = d.line.toList := rfl

theorem lines_cons (d next : Definition) (further : List Definition) :
    lines (d :: next :: further) = d.line.toList ++ '\n' :: lines (next :: further) := by
  simp [lines, joinLines]

theorem lines_ne_nil (d : Definition) (more : List Definition) : lines (d :: more) ≠ [] := by
  cases more with
  | nil => exact d.line_ne_nil
  | cons next further =>
    rw [lines_cons]
    exact List.append_ne_nil_of_left_ne_nil d.line_ne_nil _

end Definition

theorem intercalate_eq_joinLines (ls : List (List Char)) :
    ['\n'].intercalate ls = joinLines ls := by
  induction ls with
  | nil => rfl
  | cons line more ih =>
    cases more with
    | nil => simp [joinLines, List.intercalate]
    | cons next further =>
      rw [joinLines, ← ih]
      · simp [List.intercalate]
      · exact List.cons_ne_nil next further

theorem RuleTable.toList_text (table : RuleTable) :
    table.text.toList = Definition.lines table.definitions := by
  have lines : table.text = "\n".intercalate (table.definitions.map Definition.line) := rfl
  rw [lines, String.toList_intercalate, List.map_map]
  exact intercalate_eq_joinLines _

namespace Script

/-- The last line alone gets an end. -/
theorem withLineEnd_append {cs ds : List Char} (h : ds ≠ []) :
    withLineEnd (cs ++ '\n' :: ds) = cs ++ '\n' :: withLineEnd ds := by
  have last : (cs ++ '\n' :: ds).getLast? = ds.getLast? := by
    obtain ⟨c, hc⟩ := Option.isSome_iff_exists.mp (List.getLast?_isSome.mpr h)
    simp [List.getLast?_append, List.getLast?_cons, hc]
  rw [withLineEnd, withLineEnd, last]
  split
  · rfl
  · simp

variable {d : Definition}

theorem scans_line (h : d.IsReadable) (fits : Fits 0 d.line.toList) (place : Place)
    (rest : List Char) :
    ∃ tokens place', tokens.map Token.lexeme = d.lexemes ++ [.lineEnd] ∧
      scanFrom [] true place (d.line.toList ++ '\n' :: rest) =
        (scanFrom [] true place' rest).behind tokens := by
  have splits := Definition.splits_line h rest
  obtain ⟨tokens, place', hlexemes, scanned⟩ := splits.scans [] true place fits
  have notFresh : (true && d.lexemes.isEmpty) = false := rfl
  refine ⟨tokens ++ [⟨.lineEnd, place', 0⟩], place'.after ['\n'], ?_, ?_⟩
  · rw [List.map_append, hlexemes]
    rfl
  · rw [scanned, notFresh, scanFrom_lineFeed, Lexed.behind, Lexed.behind, Lexed.behind,
      List.append_assoc]

/-- The tokens of some lines are those of the definitions, with a line end behind each. -/
theorem scans_lines {ds : List Definition} (h : ∀ d ∈ ds, d.IsReadable)
    (fits : Fits 0 (Definition.lines ds)) (place : Place) :
    ∃ tokens place', tokens.map Token.lexeme = ds.flatMap (fun d => d.lexemes ++ [.lineEnd]) ∧
      scanFrom [] true place (withLineEnd (Definition.lines ds)) =
        (scanFrom [] true place' []).behind tokens := by
  induction ds generalizing place with
  | nil =>
    have ended : scanFrom [] true place ['\n'] = scanFrom [] true (place.after ['\n']) [] := by
      rw [scanFrom.eq_def]
      simp
    exact ⟨[], place.after ['\n'], rfl, ended⟩
  | cons d more ih =>
    have readable := h d List.mem_cons_self
    cases more with
    | nil =>
      obtain ⟨tokens, place', hlexemes, scanned⟩ := scans_line readable fits place []
      have ended : withLineEnd d.line.toList = d.line.toList ++ ['\n'] := by
        rw [withLineEnd, Definition.getLast?_line, if_neg (by decide)]
      refine ⟨tokens, place', by rw [hlexemes]; simp, ?_⟩
      rw [Definition.lines_singleton, ended, scanned]
    | cons next further =>
      rw [Definition.lines_cons] at fits ⊢
      obtain ⟨tokens, mid, hlexemes, scanned⟩ := scans_line readable fits.of_append place
        (withLineEnd (Definition.lines (next :: further)))
      have behind : Fits 0 (Definition.lines (next :: further)) := by
        have balanced := (Definition.splits_line readable []).balanced
        rw [List.append_cons] at fits
        exact fits.behind (by simp [List.count_append, balanced])
      obtain ⟨tokens', place', hlexemes', scanned'⟩ :=
        ih (fun d hd => h d (List.mem_cons_of_mem _ hd)) behind mid
      refine ⟨tokens ++ tokens', place', ?_, ?_⟩
      · rw [List.map_append, hlexemes, hlexemes']
        rfl
      · rw [withLineEnd_append (Definition.lines_ne_nil next further), scanned,
          scanned', Lexed.behind,
          Lexed.behind, Lexed.behind, List.append_assoc]

namespace Grammar

open RateRules.Script.Parser

variable {inner : Inner} {tokens more rest : List Token} {t : Token} {e : Expr}
  {word : String} {depth : Nat}

/-- An expression where several could stand. -/
theorem Operand.expressions (h : Operand (inner .expression) tokens e (t :: more))
    (closes : t.lexeme ∈ closers)
    (noComma : t.is "," = false) : Operand (yieldOrExpressions inner) tokens e (t :: more) := by
  have item : Operand (do if ← sees "*" then starred inner .bitOr else inner .expression) tokens e
      (t :: more) := by
    obtain ⟨⟨tree, hexpr, read⟩, first, tail, rfl, starts⟩ := h
    have noStar : Reads (sees "*") (first :: tail) false (first :: tail) :=
      reads_sees_not (isBroken_of_startsOperand starts) (is_of_startsOperand starts (by decide))
    exact ⟨⟨tree, hexpr, noStar.bind read⟩, first, tail, rfl, starts⟩
  obtain ⟨⟨tree, hexpr, read⟩, first, tail, rfl, starts⟩ :=
    @Operand.tuple tokens more t e _ startsItem item closes noComma
  have noYield : Reads (sees "yield") (first :: tail) false (first :: tail) :=
    reads_sees_not (isBroken_of_startsOperand starts) (is_of_startsOperand starts (by decide))
  exact ⟨⟨tree, hexpr, noYield.bind read⟩, first, tail, rfl, starts⟩

/-- A name can be assigned to. -/
theorem badTarget?_of_expr {tree : Tree} (h : tree.expr = .ok (.name word)) :
    tree.badTarget? = none := by
  cases tree with
  | name place word => rfl
  | number place text =>
    rw [Tree.expr, numberOf] at h
    split at h
    · split at h
      · cases h
      · cases h
    · cases h
  | unary place op operand =>
    simp only [Tree.expr, bind_eq_ok, pure_eq_ok] at h
    obtain ⟨_, _, _, _, same⟩ := h
    cases same
  | binary place op left right =>
    simp only [Tree.expr, bind_eq_ok, pure_eq_ok] at h
    obtain ⟨_, _, _, _, _, _, same⟩ := h
    cases same
  | call place callee args named =>
    rw [Tree.expr] at h
    split at h
    · cases h
    · simp only [bind_eq_ok, pure_eq_ok] at h
      obtain ⟨_, _, _, _, same⟩ := h
      cases same
  | _ => cases h

/-- The step from one equals sign of an assignment to the next. -/
def assignStep (inner : Inner) (read : List Tree × Tree) : Parser (Option (List Tree × Tree)) := do
  if ← sees "=" then
    refuseTarget read.2
    advance
    return some (read.2 :: read.1, ← yieldOrExpressions inner)
  else return none

theorem reads_assignment {equals : Token} {target : Tree} (hequals : equals.lexeme = .sign "=")
    (htarget : target.expr = .ok (.name word))
    (value : Operand (yieldOrExpressions inner) tokens e (t :: more))
    (ends : t.lexeme = .sign ";") :
    ∃ tree, tree.expr = .ok e ∧
      Reads (assignment inner target) (equals :: tokens) (.assign [target] tree) (t :: more) := by
  obtain ⟨⟨tree, hexpr, read⟩, _⟩ := value
  have whole := Token.isBroken_of_sign ends
  have seen : Reads (sees "=") (equals :: tokens) true (equals :: tokens) := by
    have same : equals.is "=" = true := Token.is_of_sign hequals _
    rw [← same]
    exact reads_sees_cons (Token.isBroken_of_sign hequals)
  have accepted : Reads (refuseTarget target) (equals :: tokens) () (equals :: tokens) := by
    rw [refuseTarget, badTarget?_of_expr htarget]
    exact reads_return _ _
  have step : Reads (assignStep inner ([], target)) (equals :: tokens)
      (some ([target], tree)) (t :: more) :=
    seen.bind (accepted.bind (reads_advance_cons.bind (read.bind (reads_return _ _))))
  have last : Reads (assignStep inner ([target], tree)) (t :: more) none (t :: more) :=
    (reads_sees_not whole (Token.is_of_sign ends _)).bind (reads_return _ _)
  have shorter : (t :: more).length < (equals :: tokens).length :=
    Nat.lt_succ_of_le read.isSuffix.length_le
  exact ⟨tree, hexpr, (((Reaches.refl _ _).tail step shorter).reads_iterate last).bind
    (reads_return _ _)⟩

theorem is_of_name (name : t.lexeme = .name word) (other : String) : t.is other = false := by
  rw [Token.is, name]

theorem find?_of_name (name : t.lexeme = .name word) (words : List String) :
    words.find? t.is = none := by
  rw [List.find?_eq_none]
  intro other _
  rw [is_of_name name]
  exact Bool.false_ne_true

variable {name equals semicolon ending : Token}

/-- A name, an equals sign, an expression and a semicolon are an assignment. -/
theorem reads_simpleClause (hname : name.lexeme = .name word) (hequals : equals.lexeme = .sign "=")
    (target : Operand (yieldOrExpressions inner) (name :: equals :: tokens) (.name word)
      (equals :: tokens))
    (value : Operand (yieldOrExpressions inner) tokens e (semicolon :: more))
    (ends : semicolon.lexeme = .sign ";") :
    ∃ c place, Clause.statements c = .ok [.assign none (.name word) e place] ∧
      Reads (simpleClause inner) (name :: equals :: tokens) c (semicolon :: more) := by
  obtain ⟨⟨tree, htree, read⟩, _⟩ := target
  obtain ⟨valueTree, hvalue, assigned⟩ := reads_assignment hequals htree value ends
  have whole : name.isBroken = false := by rw [Token.isBroken, hname]; rfl
  have wholeEquals := Token.isBroken_of_sign hequals
  have noColon := @reads_sees_not tokens equals ":" wholeEquals (Token.is_of_sign hequals _)
  have noSign : augmentation? equals = none := by rw [augmentation?, hequals]; rfl
  have statements : Clause.statements (.assign [tree] valueTree) =
      .ok [.assign none (.name word) e valueTree.place] := by
    simp only [Clause.statements, exprsOf, htree, hvalue]
    rfl
  refine ⟨_, _, statements, (reads_peek_cons whole).bind ?_⟩
  rw [find?_of_name hname]
  refine (reads_peek_cons whole).bind
    (read.bind (noColon.bind ((reads_peek_cons wholeEquals).bind ?_)))
  rw [noSign]
  exact assigned

/-- A line of one statement with a semicolon behind it. -/
theorem reads_simpleClauses {c : Clause}
    (h : Reads (simpleClause inner) tokens c (semicolon :: ending :: more))
    (hsemicolon : semicolon.lexeme = .sign ";") (hending : ending.lexeme = .lineEnd) :
    Reads (simpleClauses inner) tokens [c] more := by
  have whole := Token.isBroken_of_sign hsemicolon
  have wholeEnding : ending.isBroken = false := by rw [Token.isBroken, hending]; rfl
  have isEnd : ending.isLineEnd = true := by rw [Token.isLineEnd, hending]; rfl
  have skipped :=
    @reads_skip_cons (ending :: more) semicolon ";" whole (Token.is_of_sign hsemicolon _)
  have seen := @reads_peek_cons more ending wholeEnding
  refine h.bind (((Reaches.refl [c] _).reads_iterate (skipped.bind (seen.bind ?_))).bind
    (seen.bind ?_))
  · rw [isEnd]
    exact reads_return _ _
  · rw [isEnd]
    exact reads_advance_cons.bind (reads_return _ _)

/-- A line that starts with a name has no block, unless the name could start a choice among
patterns. -/
theorem reads_clauses {cs : List Clause} (hname : name.lexeme = .name word) (other : word ≠ "match")
    (h : Reads (simpleClauses inner) (name :: tokens) cs rest) :
    Reads (clauses inner) (name :: tokens) cs rest := by
  have whole : name.isBroken = false := by rw [Token.isBroken, hname]; rfl
  have noChoice : Reads (refuseChoice inner) (name :: tokens) () (name :: tokens) := by
    refine (reads_peek_cons whole).bind ?_
    rw [Token.name?, hname, if_neg]
    · exact reads_return _ _
    · exact fun same => other (Option.some.inj same)
  refine (reads_peek_cons whole).bind ?_
  rw [is_of_name hname, find?_of_name hname]
  exact noChoice.bind h

/-- The tokens of a line are read as the statement of its definition, at a position of its own. -/
theorem reads_line {d : Definition} (h : d.IsReadable)
    (hlexemes : tokens.map Token.lexeme = d.lexemes ++ [.lineEnd]) (enough : tokens.length ≤ depth)
    (more : List Token) :
    ∃ c place, Clause.statements c = .ok [Definition.statement ⟨d.pair, d.expr, place⟩] ∧
      Reads (clauses (nested (depth + 1))) (tokens ++ more) [c] more := by
  obtain ⟨line, last, rfl, hline, hlast⟩ := List.map_eq_append_iff.mp hlexemes
  obtain ⟨ending, rfl, hending⟩ := List.map_eq_singleton_iff.mp hlast
  obtain ⟨name, line, rfl, hname, hline⟩ := List.map_eq_cons_iff.mp hline
  obtain ⟨equals, line, rfl, hequals, hline⟩ := List.map_eq_cons_iff.mp hline
  obtain ⟨own, last, rfl, hown, hlast⟩ := List.map_eq_append_iff.mp hline
  obtain ⟨semicolon, rfl, hsemicolon⟩ := List.map_eq_singleton_iff.mp hlast
  simp only [List.length_append, List.length_cons, List.length_nil] at enough
  have whole : name :: equals :: (own ++ [semicolon]) ++ [ending] ++ more =
      name :: equals :: (own ++ semicolon :: ending :: more) := by simp
  have target : Operand (nested (depth + 1) .expression)
      (name :: equals :: (own ++ semicolon :: ending :: more)) (.name d.pair.text)
      (equals :: (own ++ semicolon :: ending :: more)) := by
    have written : [name].map Token.lexeme = [.name d.pair.text] := by
      rw [List.map_singleton, hname]
    exact (Wording.name d.pair.text).isRead.expression written
      (by rw [List.length_singleton]; omega)
      (by rw [hequals]; decide)
  have value : Operand (nested (depth + 1) .expression)
    (own ++ semicolon :: ending :: more) d.expr.written
      (semicolon :: ending :: more) :=
    (Expr.wording_lexemes d.expr h.spellable h.binds).isRead.expression hown (by omega)
      (by rw [hsemicolon]; decide)
  obtain ⟨c, place, hstatements, read⟩ := reads_simpleClause hname hequals
    (target.expressions (by rw [hequals]; decide) (Token.is_of_sign hequals _))
    (value.expressions (by rw [hsemicolon]; decide) (Token.is_of_sign hsemicolon _)) hsemicolon
  rw [whole]
  exact ⟨c, place, hstatements,
    reads_clauses hname d.pair.text_ne_match (reads_simpleClauses read hsemicolon hending)⟩

/-- The step from one line of a script to the next. -/
def lineStep (inner : Inner) (read : List (List Clause)) :
    Parser (Option (List (List Clause))) := do
  if (← peek).lexeme = .textEnd then return none
  else return some ((← clauses inner) :: read)

theorem reads_lineStep {cs : List Clause} {read : List (List Clause)}
    (hname : name.lexeme = .name word)
    (h : Reads (clauses inner) (name :: tokens) cs rest) :
    Reads (lineStep inner read) (name :: tokens) (some (cs :: read)) rest := by
  have whole : name.isBroken = false := by rw [Token.isBroken, hname]; rfl
  refine (reads_peek_cons whole).bind ?_
  rw [hname, if_neg Lexeme.noConfusion]
  exact h.bind (reads_return _ _)

/-- The tokens of a line take a level each, but for its end. -/
theorem length_add_le_maxDepth_of_line {d : Definition} (h : d.IsReadable)
    (hlexemes : tokens.map Token.lexeme = d.lexemes ++ [.lineEnd]) (more : List Token) :
    tokens.length + maxDepth more ≤ maxDepth (tokens ++ more) + 1 := by
  obtain ⟨line, last, rfl, hline, hlast⟩ := List.map_eq_append_iff.mp hlexemes
  obtain ⟨ending, rfl, hending⟩ := List.map_eq_singleton_iff.mp hlast
  have inside : ∀ l ∈ line.map Token.lexeme, l ≠ .lineEnd := by
    rw [hline]
    refine List.forall_mem_cons.mpr ⟨Lexeme.noConfusion, List.forall_mem_cons.mpr
      ⟨Lexeme.noConfusion, List.forall_mem_append.mpr
        ⟨(Expr.wording_lexemes d.expr h.spellable h.binds).ne_lineEnd, ?_⟩⟩⟩
    exact List.forall_mem_singleton.mpr Lexeme.noConfusion
  have room := length_add_le_maxDepth inside (ending :: more)
  have none : ending.levels = 0 := by rw [Token.levels, hending]
  have deeper : maxDepth (ending :: more) = ending.levels + maxDepth more := rfl
  rw [deeper, none, Nat.zero_add] at room
  rw [List.append_assoc, List.length_append, List.length_singleton]
  simp only [List.cons_append, List.nil_append]
  omega

/-- The tokens of some lines are read as the statements of their definitions. -/
theorem reaches_lines {ds : List Definition} (h : ∀ d ∈ ds, d.IsReadable)
    (hlexemes : tokens.map Token.lexeme = ds.flatMap fun d => d.lexemes ++ [.lineEnd])
    (enough : maxDepth tokens ≤ depth + 1) (rest : List Token) (read : List (List Clause)) :
    ∃ (cs : List Clause) (ds' : List Definition),
    ds'.map Definition.meaning = ds.map Definition.meaning ∧
      statementsOf cs = .ok (ds'.map Definition.statement) ∧
      Reaches (lineStep (nested (depth + 1))) read (tokens ++ rest)
      ((cs.map fun c => [c]).reverse ++ read) rest := by
  induction ds generalizing tokens read with
  | nil =>
    obtain rfl := List.map_eq_nil_iff.mp hlexemes
    exact ⟨[], [], rfl, rfl, .refl read rest⟩
  | cons d more ih =>
    obtain ⟨own, behind, rfl, hown, hbehind⟩ := List.map_eq_append_iff.mp hlexemes
    have levels := length_add_le_maxDepth_of_line (h d List.mem_cons_self) hown behind
    have least := two_le_maxDepth behind
    have room : own.length ≤ depth := by omega
    have taken : 1 ≤ own.length := by
      obtain ⟨name, tail, rfl, _⟩ := List.map_eq_cons_iff.mp hown
      exact Nat.succ_le_succ (Nat.zero_le _)
    obtain ⟨c, place, hc, line⟩ := reads_line (h d List.mem_cons_self) hown room (behind ++ rest)
    obtain ⟨cs, ds', same, hcs, reached⟩ :=
      ih (fun d hd => h d (List.mem_cons_of_mem _ hd)) hbehind (by omega) ([c] :: read)
    have step : Reads (lineStep (nested (depth + 1)) read) (own ++ (behind ++ rest))
      (some ([c] :: read))
        (behind ++ rest) := by
      obtain ⟨name, tail, rfl, hname, _⟩ := List.map_eq_cons_iff.mp hown
      exact reads_lineStep hname line
    have shorter : (behind ++ rest).length < (own ++ (behind ++ rest)).length := by
      obtain ⟨name, tail, rfl, _⟩ := List.map_eq_cons_iff.mp hown
      simp only [List.length_append, List.length_cons]
      omega
    refine ⟨c :: cs, ⟨d.pair, d.expr, place⟩ :: ds', ?_, ?_, ?_⟩
    · rw [List.map_cons, List.map_cons, same]
      rfl
    · simp only [statementsOf, hc, hcs]
      rfl
    · rw [List.append_assoc, List.map_cons, List.reverse_cons, List.append_assoc]
      exact reached.head step shorter

/-- A script of some lines is read as the statements of their definitions. -/
theorem reads_wholeScript {ds : List Definition} (h : ∀ d ∈ ds, d.IsReadable)
    (hlexemes : tokens.map Token.lexeme = ds.flatMap fun d => d.lexemes ++ [.lineEnd])
    (enough : maxDepth tokens ≤ depth + 1) (ends : t.lexeme = .textEnd) :
    ∃ (cs : List Clause) (ds' : List Definition),
    ds'.map Definition.meaning = ds.map Definition.meaning ∧
      statementsOf cs = .ok (ds'.map Definition.statement) ∧
      Reads (wholeScript (nested (depth + 1))) (tokens ++ [t]) cs [t] := by
  obtain ⟨cs, ds', same, hcs, reached⟩ := reaches_lines h hlexemes enough [t] []
  have whole : t.isBroken = false := by rw [Token.isBroken, ends]; rfl
  have last : ∀ read, Reads (lineStep (nested (depth + 1)) read) [t] none [t] := by
    intro read
    refine (reads_peek_cons whole).bind ?_
    rw [if_pos ends]
    exact reads_return _ _
  have flat : ((cs.map fun c => [c]).reverse ++ []).reverse.flatten = cs := by
    rw [List.append_nil, List.reverse_reverse, ← List.flatMap_def, List.flatMap_singleton']
  refine ⟨cs, ds', same, hcs, (reached.reads_iterate (last _)).bind ?_⟩
  rw [flat]
  exact reads_return _ _

end Grammar

theorem mem_joinLines {ls : List (List Char)} {c : Char} (h : c ∈ joinLines ls) :
    c = '\n' ∨ ∃ l ∈ ls, c ∈ l := by
  induction ls with
  | nil => cases h
  | cons line more ih =>
    cases more with
    | nil => exact Or.inr ⟨line, List.mem_cons_self, h⟩
    | cons next further =>
      rw [joinLines, List.mem_append, List.mem_cons] at h
      · rcases h with h | h | h
        · exact Or.inr ⟨line, List.mem_cons_self, h⟩
        · exact Or.inl h
        · rcases ih h with feed | ⟨l, hl, hc⟩
          · exact Or.inl feed
          · exact Or.inr ⟨l, List.mem_cons_of_mem line hl, hc⟩
      · exact List.cons_ne_nil next further

theorem noNull_lines {ds : List Definition} (h : ∀ d ∈ ds, d.IsReadable) :
    '\x00' ∉ withLineEnd (Definition.lines ds) := by
  have inside : '\x00' ∉ Definition.lines ds := by
    intro hc
    rcases mem_joinLines hc with feed | ⟨l, hl, hc⟩
    · cases feed
    · obtain ⟨d, hd, rfl⟩ := List.mem_map.mp hl
      exact (Definition.isLine_line (h d hd)).plain.noNull hc
  rw [withLineEnd]
  split
  · exact inside
  · intro hc
    rcases List.mem_append.mp hc with hc | hc
    · exact inside hc
    · exact absurd hc (by decide)

/-- The lines of some definitions are a script of their statements, each at a position of its
own. -/
theorem statements_lines {ds : List Definition} (h : ∀ d ∈ ds, d.IsReadable)
    (fits : Fits 0 (Definition.lines ds)) {text : String}
    (written : text.toList = Definition.lines ds) :
    ∃ ds' : List Definition, ds'.map Definition.meaning = ds.map Definition.meaning ∧
      statements text = .ok (ds'.map Definition.statement) := by
  have isPrepared : prepared (Definition.lines ds) = Definition.lines ds := by
    refine prepared_joinLines fun l hl => ?_
    obtain ⟨d, hd, rfl⟩ := List.mem_map.mp hl
    exact Definition.isLine_line (h d hd)
  obtain ⟨tokens, place, hlexemes, scanned⟩ := scans_lines h fits ⟨1, 0⟩
  let last : Token := ⟨.textEnd, ⟨lastLine place, place.column⟩, 0⟩
  have ending : scanFrom [] true place [] = .stop .textEnd last.place [] .complete := by
    rw [scanFrom]
  have all : (scan 1 (withLineEnd (Definition.lines ds))).tokens = tokens ++ [last] := by
    rw [scan, scanned, ending]
    rfl
  have least := two_le_maxDepth (tokens ++ [last])
  obtain ⟨depth, hdepth⟩ : ∃ depth, maxDepth (tokens ++ [last]) = depth + 1 :=
    ⟨_, (Nat.succ_pred (by omega)).symm⟩
  have enough : maxDepth tokens ≤ depth + 1 := by
    rw [← hdepth]
    exact maxDepth_le_append tokens [last]
  obtain ⟨cs, ds', same, hcs, read⟩ :=
    @Grammar.reads_wholeScript tokens last _ ds h hlexemes enough rfl
  rw [← hdepth, ← all] at read
  refine ⟨ds', same, ?_⟩
  rw [statements, written, isPrepared, readWith_eq_ok (noNull_lines h) read]
  exact hcs

end Script
end RateRules
