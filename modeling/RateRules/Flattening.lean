import RateRules.Expr.Render
import RateRules.Fault
import RateRules.Requirement

/-! # Flattening

A flattened expression refers to pairs only as arguments of calls. A reference outside calls is
replaced by the expression that prices it, which is flattened in turn, up to eight references
deep; beyond that there is a fault, and this reference and every later one become markers. The
wildcards of a reference are filled from the pair whose rule it stands in. Every pair inside a
call is a required rate, unless the call is a marker. -/
namespace RateRules

/-- What was found so far: the required rates in the order they were met, and the faults. -/
structure Findings where
  requirements : List Requirement
  faults : List Fault
  deriving DecidableEq

namespace Findings

def empty : Findings := ⟨[], []⟩

def require (found : Findings) (r : Requirement) : Findings :=
  if r ∈ found.requirements then found else ⟨found.requirements ++ [r], found.faults⟩

def fail (found : Findings) (fault : Fault) : Findings :=
  ⟨found.requirements, found.faults ++ [fault]⟩

def isTooDeep (found : Findings) : Bool := found.faults.contains .tooManyNestedCalls

end Findings

namespace Expr

def maxReferences : Nat := 8

def tooDeepMarker (p : Pair) : Expr := marker "TOO_MUCH_NESTED_CALLS" [pair p]

/-- A pair inside a call to `venue`. -/
def argument (venue : String) (p : Pair) (found : Findings) : Expr × Findings :=
  (pair p, if isMarkerName venue then found else found.require ⟨venue, p⟩)

mutual

/-- Flattens an expression of the rule for `context`. References outside calls are left to
`inline`; `venue` is what the nearest call around the expression calls. -/
def flattenWith (inline : Pair → Findings → Expr × Findings) (context : Pair)
    (venue : Option String) :
    Expr → Findings → Expr × Findings
  | pair p, found =>
    let p := p.filledFrom context
    match venue with
    | some venue => argument venue p found
    | none => inline p found
  | call callee args, found =>
    let (args, found) := flattenAllWith inline context callee.render args found
    (call callee args, found)
  | unary op operand, found =>
    let (operand, found) := flattenWith inline context venue operand found
    (unary op operand, found)
  | binary op left right, found =>
    let (left, found) := flattenWith inline context venue left found
    let (right, found) := flattenWith inline context venue right found
    (binary op left right, found)
  | parenthesized inner, found =>
    let (inner, found) := flattenWith inline context venue inner found
    (parenthesized inner, found)
  | number value, found => (number value, found)
  | name word, found => (name word, found)
  | exchange venue, found => (exchange venue, found)

/-- Arguments of a call to `venue`. -/
def flattenAllWith (inline : Pair → Findings → Expr × Findings) (context : Pair) (venue : String) :
    List Expr → Findings → List Expr × Findings
  | [], found => ([], found)
  | e :: more, found =>
    let (e, found) := flattenWith inline context (some venue) e found
    let (rest, found) := flattenAllWith inline context venue more found
    (e :: rest, found)

end

/-- An inlined expression keeps together what belongs together. -/
def enclosed (e : Expr) : Expr := if e.containsBinary then parenthesized e else e

/-- What stands for a reference when there is room for so many references in one another. -/
def inlined (candidate : Pair → Expr) : Nat → Pair → Findings → Expr × Findings
  | 0, p, found => (tooDeepMarker p, found.fail .tooManyNestedCalls)
  | room + 1, p, found =>
    let (e, found) := flattenWith (inlined candidate room) p none (candidate p) found
    if found.isTooDeep then (tooDeepMarker p, found) else (enclosed e, found)

/-- Flattens the expression that prices `context`. -/
def flatten (candidate : Pair → Expr) (context : Pair) (e : Expr) : Expr × Findings :=
  flattenWith (inlined candidate maxReferences) context none e .empty

end Expr
end RateRules
