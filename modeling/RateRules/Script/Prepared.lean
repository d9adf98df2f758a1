import RateRules.Text.Blank

/-! # Prepared text of a script

Before a script is read its comments are taken out and its lines lose their leading blanks, so
indentation has no meaning. A line comment starts with two slashes and ends before a line feed. A
block comment ends with its first end mark; without one it is no comment. A comment leaves behind
its line feeds, or one blank if it has none. -/
namespace RateRules.Script

/-- How many characters a block comment has behind its start mark, the end mark included. -/
def blockLength? : List Char → Option Nat
  | [] => none
  | '*' :: '/' :: _ => some 2
  | _ :: rest => (blockLength? rest).map (· + 1)

/-- What a comment leaves behind. -/
def blankFor (comment : List Char) : List Char :=
  let ends := comment.count '\n'
  if ends = 0 then [' '] else List.replicate ends '\n'

def withoutComments : List Char → List Char
  | [] => []
  | '/' :: '/' :: rest =>
    ' ' :: withoutComments (rest.dropWhile (· ≠ '\n'))
  | '/' :: '*' :: rest =>
    match blockLength? rest with
    | some n => blankFor (rest.take n) ++ withoutComments (rest.drop n)
    | none => '/' :: withoutComments ('*' :: rest)
  | c :: rest => c :: withoutComments rest
termination_by cs => cs.length
decreasing_by
  · have h := (List.dropWhile_sublist (fun c => decide (c ≠ '\n')) (l := rest)).length_le
    simp only [List.length_cons]
    omega
  · simp only [List.length_drop, List.length_cons]
    omega
  · simp only [List.length_cons]
    omega
  · simp only [List.length_cons]
    omega

/-- The lines joined by line feeds. -/
def joinLines : List (List Char) → List Char
  | [] => []
  | [line] => line
  | line :: more => line ++ '\n' :: joinLines more

def prepared (script : List Char) : List Char :=
  joinLines ((Text.lines (withoutComments script)).map Text.trimLeft)

end RateRules.Script
