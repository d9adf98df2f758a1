import RateRules.Text.ComposedTable
import Std.Data.HashMap

/-! # Composed form of a text

Two identifiers that look alike can be written with different characters. In the composed form
each character is taken apart into plain ones, marks on one letter are put in order of their
class, and then letter and marks are joined again where a joined character exists. Syllables
of the Korean script are taken apart and joined by arithmetic. -/
namespace RateRules.Text

def hexValue (s : String) : Nat :=
  s.toList.foldl (fun n c => 16 * n + (if c ≤ '9' then c.toNat - 48 else c.toNat - 55)) 0

def rows (table : List String) : List (List Nat) :=
  table.flatMap fun line => (line.splitOn " ").map fun row => (row.splitOn "-").map hexValue

def decompositionMap : Std.HashMap Nat (List Nat) :=
  (rows decompositions).foldl
    (fun map row => match row with
      | code :: parts => map.insert code parts
      | [] => map) {}

def compositionMap : Std.HashMap (Nat × Nat) Nat :=
  (rows compositions).foldl
    (fun map row => match row with
      | [code, first, second] => map.insert (first, second) code
      | _ => map) {}

def markClass (code : Nat) : Nat :=
  match markClasses.find? fun (first, last, _) => first ≤ code && code ≤ last with
  | some (_, _, order) => order
  | none => 0

def decompose (code : Nat) : List Nat :=
  if 0xAC00 ≤ code && code ≤ 0xD7A3 then
    let index := code - 0xAC00
    let tail := index % 28
    [0x1100 + index / 588, 0x1161 + index % 588 / 28] ++ (if tail = 0 then [] else [0x11A7 + tail])
  else decompositionMap.getD code [code]

/-- Puts a mark behind the last character that is no mark or whose class is not higher.
`reversed` is the text so far, last character first. -/
def insertMark (code order : Nat) : List Nat → List Nat
  | [] => [code]
  | last :: before =>
    if markClass last > order then last :: insertMark code order before else code :: last :: before

def ordered (codes : List Nat) : List Nat :=
  (codes.foldl
    (fun reversed code =>
      let order := markClass code
      if order = 0 then code :: reversed else insertMark code order reversed) []).reverse

def compose? (first second : Nat) : Option Nat :=
  if 0x1100 ≤ first && first < 0x1113 && 0x1161 ≤ second && second < 0x1176 then
    some (0xAC00 + ((first - 0x1100) * 21 + (second - 0x1161)) * 28)
  else if 0xAC00 ≤ first && first ≤ 0xD7A3 && (first - 0xAC00) % 28 = 0 &&
      0x11A8 ≤ second && second < 0x11C3 then
    some (first + (second - 0x11A7))
  else compositionMap[(first, second)]?

/-- Joins the marks that follow `starter`; `kept` are the marks that stay, last first. -/
def joinFrom (starter : Nat) (kept : List Nat) : List Nat → List Nat
  | [] => starter :: kept.reverse
  | code :: rest =>
    let order := markClass code
    let blocked := match kept with
      | [] => false
      | last :: _ => markClass last == 0 || markClass last ≥ order
    match if blocked then none else compose? starter code with
    | some joined => joinFrom joined kept rest
    | none =>
      if order = 0 then starter :: kept.reverse ++ joinFrom code [] rest
      else joinFrom starter (code :: kept) rest

def joined : List Nat → List Nat
  | [] => []
  | code :: rest => if markClass code = 0 then joinFrom code [] rest else code :: joined rest

def composed (s : String) : String :=
  if s.toList.all (·.toNat < 128) then s
  else
    String.ofList ((joined (ordered (s.toList.flatMap fun c => decompose c.toNat))).map Char.ofNat)

end RateRules.Text
