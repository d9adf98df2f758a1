import RateRules.Script.Literal

/-! # Templates

A template is a text with fields between braces. A field is an expression, then perhaps an equals
sign, a conversion and a format, which is itself a template. Doubled braces stand for one. Taking
a template apart gives the texts of its expressions and says if the rest of it is sound. -/
namespace RateRules.Script

/-- The text of a field with the number of line feeds before it. -/
structure Field where
  linesBefore : Nat
  text : List Char

/-- The fields up to the first thing that is wrong, and the rest of the text if nothing is. -/
structure Template where
  fields : List Field
  rest? : Option (List Char)

namespace Template

/-- The characters before the next single brace. Inside a format every brace is single. -/
def plain (raw nested : Bool) : List Char → List Char
  | [] => []
  | '\\' :: c :: rest =>
    if raw || c = '\x7b' || c = '\x7d' then '\\' :: plain raw nested (c :: rest)
    else '\\' :: c :: plain raw nested rest
  | c :: rest =>
    if c = '\x7b' || c = '\x7d' then
      match nested, rest with
      | false, d :: more => if c = d then c :: d :: plain raw nested more else []
      | _, _ => []
    else c :: plain raw nested rest

/-- Without the second of two braces. -/
def single : List Char → List Char
  | '\x7b' :: '\x7b' :: rest => '\x7b' :: single rest
  | '\x7d' :: '\x7d' :: rest => '\x7d' :: single rest
  | c :: rest => c :: single rest
  | [] => []

/-- The quote that is open inside a field, and whether it is a triple one. -/
abbrev OpenQuote := Option (Char × Bool)

def maxOpenedInField : Nat := 200

def opens (c : Char) : Bool := c = '(' || c = '[' || c = '\x7b'

def matching (opening : Char) : Char :=
  if opening = '(' then ')' else if opening = '[' then ']' else '\x7d'

/-- The text of a field and what follows it. A field has no backslash and no comment. -/
def field? (opened : List Char) (quote : OpenQuote) : List Char → Option (List Char × List Char)
  | [] => none
  | '\\' :: _ => none
  | c :: rest =>
    let continue? (opened : List Char) (quote : OpenQuote) : Option (List Char × List Char) :=
      (field? opened quote rest).map fun (text, after) => (c :: text, after)
    match quote with
    | some (q, false) => continue? opened (if c = q then none else quote)
    | some (q, true) =>
      match rest with
      | d :: e :: more =>
        if c = q && d = q && e = q then
          (field? opened none more).map fun (text, after) => (c :: d :: e :: text, after)
        else continue? opened quote
      | _ => continue? opened quote
    | none =>
      if c = '\'' || c = '"' then
        match rest with
        | d :: e :: more =>
          if c = d && c = e then
            (field? opened (some (c, true)) more).map fun (text, after) =>
              (c :: d :: e :: text, after)
          else continue? opened (some (c, false))
        | _ => continue? opened (some (c, false))
      else if opens c then
        if maxOpenedInField ≤ opened.length then none else continue? (c :: opened) none
      else if c = '#' then none
      else match opened with
        | [] =>
          if c = ')' || c = ']' then none
          else if ['!', ':', '\x7d', '=', '<', '>'].contains c then
            match rest with
            | '=' :: more =>
              if ['!', '=', '<', '>'].contains c then
                (field? [] none more).map fun (text, after) => (c :: '=' :: text, after)
              else some ([], c :: rest)
            | _ => if c = '<' || c = '>' then continue? [] none else some ([], c :: rest)
          else continue? [] none
        | opening :: outer =>
          if c = ')' || c = ']' || c = '\x7d' then
            if c = matching opening then continue? outer none else none
          else continue? opened none

/-- Skips the equals sign and the conversion of a field. -/
def conversion? (cs : List Char) : Option (List Char) :=
  let rest := match cs with
    | '=' :: more => more.dropWhile fun c => c = ' ' || ('\t' ≤ c && c ≤ '\r')
    | _ => cs
  match rest with
  | '!' :: c :: more => if ['s', 'r', 'a'].contains c then some more else none
  | ['!'] => none
  | _ => some rest

def isEmptyField (text : List Char) : Bool := text.all fun c => [' ', '\t', '\n', '\x0c'].contains c

/-- Formats are nested once at most. -/
def maxLevel : Nat := 2

/-- Takes the rest of a template apart, in a format on a `level` above 0. The whole template has
`lines` line feeds. -/
def takeFrom (raw : Bool) (lines : Nat) : Nat → Nat → List Char → Template
  | 0, _, _ => ⟨[], none⟩
  | fuel + 1, level, cs =>
    let nested := level ≠ 0
    let text := plain raw nested cs
    let rest := cs.drop text.length
    let literal := if nested then text else single text
    if !raw && (Literal.unescaped? false literal).isNone then ⟨[], none⟩
    else match rest with
      | [] => ⟨[], some []⟩
      | '\x7b' :: inner =>
        if maxLevel ≤ level then ⟨[], none⟩
        else match field? [] none inner with
          | none => ⟨[], none⟩
          | some (text, after) =>
            if isEmptyField text then ⟨[], none⟩
            else
              let field : Field := ⟨lines - rest.count '\n', text⟩
              match conversion? after with
              | some (':' :: format) =>
                let formatted := takeFrom raw lines fuel (level + 1) format
                match formatted.rest? with
                | some ('\x7d' :: more) =>
                  let further := takeFrom raw lines fuel level more
                  ⟨field :: formatted.fields ++ further.fields, further.rest?⟩
                | _ => ⟨field :: formatted.fields, none⟩
              | some ('\x7d' :: more) =>
                let further := takeFrom raw lines fuel level more
                ⟨field :: further.fields, further.rest?⟩
              | _ => ⟨[field], none⟩
      | _ :: _ => ⟨[], if nested then some rest else none⟩

def ofQuotation (q : Quotation) : Template :=
  takeFrom q.raw (q.body.count '\n') (q.body.length + 1) 0 q.body

end Template
end RateRules.Script
