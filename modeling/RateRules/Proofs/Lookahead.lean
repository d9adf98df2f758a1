import RateRules.Proofs.NumberLengths

/-!
# What the scanner looks at

A token that a text holds to its end is the same token if a stop follows the text. So a scanner that
reaches the end of a text between two tokens reads the same tokens from it before every stop.
-/
namespace RateRules.Script

open Text (isDigit)

variable {cs rest : List Char} {length? : List Char → Option Nat}

theorem takeWhile_append_of_stops {p : Char → Bool} (stop : Stops rest)
    (none : ∀ c ∈ stops, p c = false)
    (cs : List Char) : (cs ++ rest).takeWhile p = cs.takeWhile p := by
  induction cs with
  | nil =>
    cases rest with
    | nil => rfl
    | cons c more => exact List.takeWhile_cons_of_neg (ne_true_of_eq_false (none c (stop c rfl)))
  | cons c more ih =>
    rw [List.cons_append, List.takeWhile_cons, List.takeWhile_cons, ih]

theorem more_le_of_wordAt? {c : Char} {found : Found} (h : wordAt? c cs = some found) :
    found.more ≤ cs.length := by
  have inside := (List.takeWhile_sublist isWordChar (l := cs)).length_le
  simp only [wordAt?] at h
  split at h
  · cases h
    exact inside
  · split at h
    · cases h
      exact inside
    · cases h

theorem wordAt?_append (stop : Stops rest) (c : Char) (cs : List Char) :
    wordAt? c (cs ++ rest) = wordAt? c cs := by
  have same := takeWhile_append_of_stops stop not_isWordChar_of_mem_stops cs
  have inside := (List.takeWhile_sublist isWordChar (l := cs)).length_le
  simp only [wordAt?, same, List.take_append_of_le_length inside]

theorem not_isQuote_of_mem_stops : ∀ c ∈ stops, c ≠ '\'' ∧ c ≠ '"' := forall_mem_of_all (by decide)

theorem prefixLength_append (stop : Stops rest) (c : Char) (cs : List Char) :
    prefixLength (c :: (cs ++ rest)) = prefixLength (c :: cs) := by
  have noQuote : ∀ more, (more ++ rest).head?.any (fun x => x == '\'' || x == '"') =
      more.head?.any (fun x => x == '\'' || x == '"') := by
    intro more
    refine any_head?_append stop (fun x hx => ?_) more
    simp [not_isQuote_of_mem_stops x hx]
  cases cs with
  | nil =>
    cases rest with
    | nil => rfl
    | cons s more =>
      have letters : ∀ x ∈ stops, x.toLower ≠ 'b' ∧ x.toLower ≠ 'r' ∧ x.toLower ≠ 'f' :=
        forall_mem_of_all (by decide)
      have quotes := not_isQuote_of_mem_stops s (stop s rfl)
      simp [prefixLength, quotes, letters s (stop s rfl)]
  | cons r more =>
    have same := noQuote more
    simp only [List.cons_append, prefixLength, same]

theorem exists_quote {n : Nat} (h : prefixLength cs = some n) :
    ∃ quote after, cs.drop n = quote :: after ∧ (quote = '\'' ∨ quote = '"') := by
  have isQuote : ∀ {c : Char}, (c == '\'' || c == '"') = true → c = '\'' ∨ c = '"' := by
    intro c hc
    simpa using hc
  simp only [prefixLength] at h
  split at h
  · next q after =>
    split at h
    · next found =>
      cases h
      exact ⟨q, after, rfl, isQuote found⟩
    · split at h
      · next r more =>
        split at h
        · next found =>
          cases h
          exact ⟨r, more, rfl, isQuote (Bool.and_eq_true .. |>.mp found).1⟩
        · split at h
          · next found =>
            cases h
            obtain ⟨third, htail, quote⟩ :=
              Option.any_eq_true .. |>.mp (Bool.and_eq_true .. |>.mp found).1
            obtain ⟨tail, rfl⟩ := List.head?_eq_some_iff.mp htail
            exact ⟨third, tail, rfl, isQuote quote⟩
          · cases h
      · cases h
  · cases h

/-- A number that a text holds. -/
theorem Told.number (h : Told length?) {n : Nat} (hn : length? cs = some n)
    (stop : Stops rest) (c : Char) :
    ((length? (cs ++ rest)).map fun n =>
      Found.mk (.number (String.ofList (c :: (cs ++ rest).take n))) n) =
      some ⟨.number (String.ofList (c :: cs.take n)), n⟩ := by
  rw [h.append cs rest stop, hn, Option.map_some, List.take_append_of_le_length (h.le cs n hn)]

variable {quote : Char}

theorem ne_of_mem_stops (isQuote : quote = '\'' ∨ quote = '"') : ∀ c ∈ stops, c ≠ quote := by
  intro c hc
  obtain ⟨single, double⟩ := not_isQuote_of_mem_stops c hc
  rcases isQuote with rfl | rfl
  · exact single
  · exact double

/-- Two more quotes stand before a stop or not at all. -/
theorem take_two_append (isQuote : quote = '\'' ∨ quote = '"') (stop : Stops rest)
    (cs : List Char) :
    ((cs ++ rest).take 2 == [quote, quote]) = (cs.take 2 == [quote, quote]) := by
  cases rest with
  | nil => rw [List.append_nil]
  | cons s more =>
    have other := ne_of_mem_stops isQuote s (stop s rfl)
    cases cs with
    | nil => simp [other]
    | cons x tail =>
      cases tail with
      | nil => simp [other]
      | cons y further => rfl

theorem quotedLength?_cons {c : Char} (noEscape : c ≠ '\\') (cs : List Char) :
    quotedLength? quote (c :: cs) =
      if c = quote then some 1
      else if c = '\n' then none
      else (quotedLength? quote cs).map (· + 1) := by
  rw [quotedLength?]
  rintro d more rfl
  exact absurd rfl noEscape

theorem quotedLength?_append (isQuote : quote = '\'' ∨ quote = '"') {n : Nat}
    (h : quotedLength? quote cs = some n) (rest : List Char) :
    quotedLength? quote (cs ++ rest) = some n ∧ n ≤ cs.length := by
  fun_induction quotedLength? quote cs generalizing n with
  | case1 => cases h
  | case2 c more ih =>
    obtain ⟨m, hm, rfl⟩ := Option.map_eq_some_iff.mp h
    obtain ⟨same, inside⟩ := ih hm
    constructor
    · rw [List.cons_append, List.cons_append, quotedLength?, same, Option.map_some]
    · exact Nat.add_le_add_right inside 2
  | case3 more _ =>
    cases h
    have noEscape : quote ≠ '\\' := by
      rcases isQuote with rfl | rfl
      · decide
      · decide
    constructor
    · rw [List.cons_append, quotedLength?_cons noEscape, if_pos rfl]
    · exact Nat.le_add_left 1 _
  | case4 => cases h
  | case5 c more escape other inLine ih =>
    obtain ⟨m, hm, rfl⟩ := Option.map_eq_some_iff.mp h
    obtain ⟨same, inside⟩ := ih hm
    have noEscape : c ≠ '\\' := by
      rintro rfl
      cases more with
      | nil => cases hm
      | cons d tail => exact escape d tail rfl rfl
    constructor
    · rw [List.cons_append, quotedLength?_cons noEscape, if_neg other, if_neg inLine, same,
        Option.map_some]
    · exact Nat.succ_le_succ inside

theorem tripleLength?_cons {c : Char} (noEscape : c ≠ '\\') (cs : List Char) :
    tripleLength? quote (c :: cs) =
      if c = quote && cs.take 2 == [quote, quote] then some 3
      else (tripleLength? quote cs).map (· + 1) := by
  rw [tripleLength?]
  rintro d more rfl
  exact absurd rfl noEscape

theorem tripleLength?_append (isQuote : quote = '\'' ∨ quote = '"') {n : Nat}
    (h : tripleLength? quote cs = some n) (stop : Stops rest) :
    tripleLength? quote (cs ++ rest) = some n ∧ n ≤ cs.length := by
  fun_induction tripleLength? quote cs generalizing n with
  | case1 => cases h
  | case2 c more ih =>
    obtain ⟨m, hm, rfl⟩ := Option.map_eq_some_iff.mp h
    obtain ⟨same, inside⟩ := ih hm
    constructor
    · rw [List.cons_append, List.cons_append, tripleLength?, same, Option.map_some]
    · exact Nat.add_le_add_right inside 2
  | case3 c more escape found =>
    cases h
    rw [Bool.and_eq_true, decide_eq_true_eq] at found
    obtain ⟨rfl, two⟩ := found
    have noEscape : c ≠ '\\' := by
      rcases isQuote with rfl | rfl
      · decide
      · decide
    have inside := List.length_take_le' 2 more
    rw [eq_of_beq two] at inside
    constructor
    · rw [List.cons_append, tripleLength?_cons noEscape, take_two_append isQuote stop, two,
        decide_eq_true rfl]
      rfl
    · exact Nat.succ_le_succ inside
  | case4 c more escape other ih =>
    obtain ⟨m, hm, rfl⟩ := Option.map_eq_some_iff.mp h
    obtain ⟨same, inside⟩ := ih hm
    have noEscape : c ≠ '\\' := by
      rintro rfl
      cases more with
      | nil => cases hm
      | cons d tail => exact escape d tail rfl rfl
    constructor
    · rw [List.cons_append, tripleLength?_cons noEscape, take_two_append isQuote stop,
        if_neg other, same,
        Option.map_some]
    · exact Nat.succ_le_succ inside

theorem quotationAt?_append (isQuote : quote = '\'' ∨ quote = '"') {letters : List Char}
    {found : Found}
    (h : quotationAt? letters quote cs = some found) (stop : Stops rest) :
    quotationAt? letters quote (cs ++ rest) = some found ∧
    found.more ≤ letters.length + cs.length := by
  simp only [quotationAt?, take_two_append isQuote stop] at h ⊢
  by_cases triple : (cs.take 2 == [quote, quote]) = true
  · rw [if_pos triple] at h ⊢
    have two : 2 ≤ cs.length := by
      have inside := List.length_take_le' 2 cs
      rwa [eq_of_beq triple] at inside
    obtain ⟨n, hn, same⟩ := Option.bind_eq_some_iff.mp h
    obtain ⟨counted, inside⟩ := tripleLength?_append isQuote hn stop
    cases same
    constructor
    · rw [List.drop_append_of_le_length two, counted]
      simp only [bind, Option.bind_some]
      rw [List.take_append_of_le_length (Nat.le_trans (Nat.sub_le n 3) inside)]
      rfl
    · rw [List.length_drop] at inside
      simp only
      omega
  · rw [if_neg triple] at h ⊢
    obtain ⟨n, hn, same⟩ := Option.bind_eq_some_iff.mp h
    obtain ⟨counted, inside⟩ := quotedLength?_append isQuote hn rest
    cases same
    constructor
    · rw [counted]
      simp only [bind, Option.bind_some]
      rw [List.take_append_of_le_length (Nat.le_trans (Nat.sub_le n 1) inside)]
      rfl
    · simp only
      omega

/-- No sign has a stop. -/
theorem not_contains_of_stop {s : Char} (hs : s ∈ stops) {signs : List String}
    (known : ∀ sign ∈ signs, sign ∈ longSigns ++ doubleSigns) {cs : List Char} (inside : s ∈ cs) :
    signs.contains (String.ofList cs) = false := by
  have none : ∀ sign ∈ longSigns ++ doubleSigns,
      (sign.toList.all fun c => decide (c ∉ stops)) = true :=
    forall_mem_of_all (by decide +kernel)
  rw [List.contains_eq_mem, decide_eq_false_iff_not]
  intro hmem
  have apart := none _ (known _ hmem)
  rw [String.toList_ofList] at apart
  exact of_decide_eq_true (List.all_eq_true.mp apart s inside) hs

theorem not_contains_of_length {n : Nat} {signs : List String}
    (lengths : ∀ sign ∈ signs, sign.toList.length = n)
    {cs : List Char} (other : cs.length ≠ n) : signs.contains (String.ofList cs) = false := by
  rw [List.contains_eq_mem, decide_eq_false_iff_not]
  intro hmem
  have length := lengths _ hmem
  rw [String.toList_ofList] at length
  exact other length

theorem signAt_append (stop : Stops rest) (c : Char) (cs : List Char) :
    signAt c (cs ++ rest) = signAt c cs := by
  cases rest with
  | nil => rw [List.append_nil]
  | cons s more =>
    have three : ∀ sign ∈ longSigns, sign.toList.length = 3 := by decide +kernel
    have two : ∀ sign ∈ doubleSigns, sign.toList.length = 2 := by decide +kernel
    have long := @not_contains_of_stop s (stop s rfl) longSigns fun _ h => List.mem_append_left _ h
    have double :=
      @not_contains_of_stop s (stop s rfl) doubleSigns fun _ h => List.mem_append_right _ h
    have longer := @not_contains_of_length 3 longSigns three
    have shorter := @not_contains_of_length 2 doubleSigns two
    cases cs with
    | nil =>
      have beyond : s ∈ c :: (s :: more).take 2 := by simp
      have second : s ∈ c :: (s :: more).take 1 := by simp
      have noLong : longSigns.contains (String.ofList [c]) = false := longer (by simp)
      have noDouble : doubleSigns.contains (String.ofList [c]) = false := shorter (by simp)
      simp only [signAt, List.nil_append, long beyond, double second, List.take_nil,
        noLong, noDouble,
        Bool.false_eq_true, if_false]
    | cons x tail =>
      cases tail with
      | nil =>
        have beyond : s ∈ c :: (x :: s :: more).take 2 := by simp
        have noLong : longSigns.contains (String.ofList (c :: [x].take 2)) = false :=
          longer (by simp)
        simp only [signAt, List.cons_append, List.nil_append, long beyond, noLong]
        rfl
      | cons y further => rfl

theorem more_signAt (c : Char) (cs : List Char) : (signAt c cs).more ≤ cs.length := by
  have three : ∀ sign ∈ longSigns, sign.toList.length = 3 := by decide +kernel
  have two : ∀ sign ∈ doubleSigns, sign.toList.length = 2 := by decide +kernel
  have longer := @not_contains_of_length 3 longSigns three
  have shorter := @not_contains_of_length 2 doubleSigns two
  cases cs with
  | nil =>
    have noLong : longSigns.contains (String.ofList [c]) = false := longer (by simp)
    have noDouble : doubleSigns.contains (String.ofList [c]) = false := shorter (by simp)
    simp only [signAt, List.take_nil, noLong, noDouble]
    exact Nat.le_refl 0
  | cons x tail =>
    simp only [signAt]
    split
    · next found =>
      cases tail with
      | nil =>
        have noLong : longSigns.contains (String.ofList (c :: [x].take 2)) = false :=
          longer (by simp)
        rw [noLong] at found
        cases found
      | cons y further => simp
    · split
      · simp
      · exact Nat.zero_le _

/-- A token that a text holds is the same before a stop. -/
theorem lexemeAt?_append {c : Char} {found : Found} (h : lexemeAt? c cs = some found)
    (stop : Stops rest) :
    lexemeAt? c (cs ++ rest) = some found ∧ found.more ≤ cs.length := by
  rw [lexemeAt?, prefixLength_append stop]
  rw [lexemeAt?] at h
  cases hletters : prefixLength (c :: cs) with
  | some n =>
    obtain ⟨quote, after, hafter, isQuote⟩ := exists_quote hletters
    have inside : n < (c :: cs).length := by
      refine Nat.lt_of_not_le fun beyond => ?_
      rw [List.drop_eq_nil_of_le beyond] at hafter
      cases hafter
    rw [hletters] at h
    simp only [hafter] at h
    obtain ⟨same, within⟩ := quotationAt?_append isQuote h stop
    have dropped : (c :: (cs ++ rest)).drop n = quote :: (after ++ rest) := by
      rw [← List.cons_append, List.drop_append_of_le_length (Nat.le_of_lt inside), hafter,
        List.cons_append]
    have taken : (c :: (cs ++ rest)).take n = (c :: cs).take n := by
      rw [← List.cons_append, List.take_append_of_le_length (Nat.le_of_lt inside)]
    constructor
    · simp only [dropped, taken]
      exact same
    · have length := congrArg List.length hafter
      rw [List.length_take] at within
      simp only [List.length_drop, List.length_cons] at length within inside
      omega
  | none =>
    rw [hletters] at h
    simp only at h ⊢
    by_cases word : isWordStart c = true
    · rw [if_pos word] at h ⊢
      rw [wordAt?_append stop]
      exact ⟨h, more_le_of_wordAt? h⟩
    · rw [if_neg word] at h ⊢
      by_cases digit : isDigit c = true
      · rw [if_pos digit] at h ⊢
        obtain ⟨n, hn, rfl⟩ := Option.map_eq_some_iff.mp h
        have told := told_numberLength? c
        exact ⟨told.number hn stop c, told.le cs n hn⟩
      · rw [if_neg digit, any_head?_append stop not_isDigit_of_mem_stops]
        rw [if_neg digit] at h
        split at h
        · next point =>
          rw [if_pos point]
          obtain ⟨n, hn, rfl⟩ := Option.map_eq_some_iff.mp h
          exact ⟨told_fractionLength?.number hn stop c, told_fractionLength?.le cs n hn⟩
        · next noPoint =>
          rw [if_neg noPoint]
          split at h
          · cases h
          · next shown =>
            rw [if_neg shown, signAt_append stop]
            cases h
            exact ⟨rfl, more_signAt c cs⟩

/-- Where the scanner stands: the open brackets, whether the line has no token so far, whether the
last token is a semicolon, and the place. -/
structure Stand where
  opened : Opened
  fresh : Bool
  separated : Bool
  place : Place

/-- Where the scanner stands behind a text, unless it is inside a token or a comment there or right
behind a backslash. -/
def standBehind? (opened : Opened) (fresh separated : Bool) (place : Place) :
    List Char → Option Stand
  | [] => some ⟨opened, fresh, separated, place⟩
  | c :: rest =>
    if c = ' ' || c = '\t' || c = '\x0c' then
      standBehind? opened fresh separated (place.after [c]) rest
    else if c = '#' then
      let n := (rest.takeWhile (· ≠ '\n')).length
      if n < rest.length then
        standBehind? opened fresh separated (place.after (c :: rest.take n)) (rest.drop n)
      else none
    else if c = '\n' then
      let skipped := fresh || !opened.isEmpty
      standBehind? opened (fresh || opened.isEmpty) (skipped && separated) (place.after [c]) rest
    else if c = '\\' then
      match rest with
      | '\n' :: d :: more =>
        standBehind? opened fresh separated (place.after [c, '\n']) (d :: more)
      | _ => none
    else
      match lexemeAt? c rest with
      | none => none
      | some found =>
        match opened.after? place.line found.lexeme with
        | none => none
        | some inner =>
          let t : Token := ⟨found.lexeme, place, inner.length⟩
          standBehind? inner false (t.is ";") (place.after (c :: rest.take found.more))
            (rest.drop found.more)
termination_by cs => cs.length
decreasing_by all_goals (simp only [List.length_cons, List.length_drop]; omega)

theorem takeWhile_append_of_length_lt {p : Char → Bool} (h : (cs.takeWhile p).length < cs.length) :
    (cs ++ rest).takeWhile p = cs.takeWhile p := by
  induction cs with
  | nil => cases h
  | cons c more ih =>
    rw [List.cons_append, List.takeWhile_cons, List.takeWhile_cons]
    split
    · next goes =>
      rw [List.takeWhile_cons, if_pos goes] at h
      rw [ih (Nat.lt_of_succ_lt_succ h)]
    · rfl

/-- The last token is a semicolon, or none was read and one stands before these tokens. -/
def endSeparated (separated : Bool) (tokens : List Token) : Bool :=
  tokens.getLast?.elim separated (·.is ";")

theorem endSeparated_cons (separated : Bool) (t : Token) (tokens : List Token) :
    endSeparated separated (t :: tokens) = endSeparated (t.is ";") tokens := by
  rw [endSeparated, List.getLast?_cons]
  cases last : tokens.getLast? with
  | none => rw [endSeparated, last]; rfl
  | some u => rw [endSeparated, last]; rfl

/-- The scanner reads the same tokens from such a text before every stop and goes on from there. -/
theorem scanFrom_standBehind? {opened : Opened} {fresh separated : Bool} {place : Place}
    {stand : Stand} (h : standBehind? opened fresh separated place cs = some stand) :
    ∃ tokens, endSeparated separated tokens = stand.separated ∧ ∀ rest, Stops rest →
      scanFrom opened fresh place (cs ++ rest) =
        (scanFrom stand.opened stand.fresh stand.place rest).behind tokens := by
  fun_induction standBehind? opened fresh separated place cs with
  | case1 opened fresh separated place =>
    cases h
    exact ⟨[], rfl, fun rest _ => rfl⟩
  | case2 opened fresh separated place c more blank ih =>
    obtain ⟨tokens, last, scanned⟩ := ih h
    refine ⟨tokens, last, fun rest stop => ?_⟩
    rw [← scanned rest stop, List.cons_append, scanFrom.eq_def]
    simp only [blank, if_true]
  | case3 opened fresh separated place more n inside blank ih =>
    obtain ⟨tokens, last, scanned⟩ := ih h
    refine ⟨tokens, last, fun rest stop => ?_⟩
    have same : (more ++ rest).takeWhile (· ≠ '\n') = more.takeWhile (· ≠ '\n') :=
      takeWhile_append_of_length_lt inside
    have few : n ≤ more.length := Nat.le_of_lt inside
    rw [← scanned rest stop, List.cons_append, scanFrom.eq_def]
    simp only [blank, if_false, if_true, same, Bool.false_eq_true]
    rw [List.take_append_of_le_length few, List.drop_append_of_le_length few]
  | case4 => cases h
  | case5 opened fresh separated place more skipped blank comment ih =>
    obtain ⟨tokens, last, scanned⟩ := ih h
    cases fresh with
    | true =>
      refine ⟨tokens, last, fun rest stop => ?_⟩
      rw [← scanned rest stop, List.cons_append, scanFrom.eq_def]
      simp
    | false =>
      cases opened with
      | cons bracket outer =>
        refine ⟨tokens, last, fun rest stop => ?_⟩
        rw [← scanned rest stop, List.cons_append, scanFrom.eq_def]
        simp
      | nil =>
        refine ⟨⟨.lineEnd, place, 0⟩ :: tokens, ?_, fun rest stop => ?_⟩
        · rw [endSeparated_cons]
          exact last
        · have behind : scanFrom [] true (place.after ['\n']) (more ++ rest) = _ :=
            scanned rest stop
          rw [List.cons_append, scanFrom_lineFeed, behind]
          rfl
  | case6 opened fresh separated place d more blank comment ends ih =>
    obtain ⟨tokens, last, scanned⟩ := ih h
    refine ⟨tokens, last, fun rest stop => ?_⟩
    rw [← scanned rest stop, List.cons_append, List.cons_append, List.cons_append]
    exact scanFrom_joined (List.cons_ne_nil d _)
  | case7 => cases h
  | case8 => cases h
  | case9 => cases h
  | case10 opened fresh separated place c more blank comment ends joins found hfound inner hinner t
      ih =>
    obtain ⟨tokens, last, scanned⟩ := ih h
    refine ⟨t :: tokens, ?_, fun rest stop => ?_⟩
    · rw [endSeparated_cons]
      exact last
    · obtain ⟨same, inside⟩ := lexemeAt?_append hfound stop
      rw [List.cons_append, scanFrom.eq_def]
      simp only [blank, comment, ends, joins, if_false, same, hinner, Bool.false_eq_true,
        List.take_append_of_le_length inside, List.drop_append_of_le_length inside,
        scanned rest stop]
      rfl

end RateRules.Script
