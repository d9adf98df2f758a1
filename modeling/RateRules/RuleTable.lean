import RateRules.Fault
import RateRules.Script.Statement
import RateRules.Expr.Render

/-! # Rule tables

A table holds one definition for each of its pairs, in the order of the script. Only assignments
without an operator define pairs; the first definition of a pair is kept, and every further one
is a fault. -/
namespace RateRules

structure Definition where
  pair : Pair
  expr : Expr
  position : Script.Place
  deriving Inhabited

structure RuleTable where
  definitions : List Definition
  distinct : (definitions.map Definition.pair).Nodup

namespace RuleTable

def empty : RuleTable := ⟨[], .nil⟩

def find? (table : RuleTable) (pair : Pair) : Option Definition :=
  table.definitions.find? fun d => d.pair == pair

/-- Adds a definition at the end, unless its pair is defined. -/
def define? (table : RuleTable) (d : Definition) : Option RuleTable :=
  if h : d.pair ∈ table.definitions.map Definition.pair then none
  else some ⟨table.definitions ++ [d], by
    rw [List.map_append]
    exact List.nodup_append.2
      ⟨table.distinct, by simp, by
        intro a ha b hb hab
        simp only [List.map_cons, List.map_nil, List.mem_singleton] at hb
        exact h (hb ▸ hab ▸ ha)⟩⟩

/-- The definition that a statement gives. -/
def definition? : Script.Statement → Option Definition
  | .assign none (.pair p) value position => some ⟨p, value, position⟩
  | _ => none

def collect (table : RuleTable) : List Definition → RuleTable × List Fault
  | [] => (table, [])
  | d :: more => match table.define? d with
    | some table => collect table more
    | none =>
      let (table, faults) := collect table more
      (table, .duplicateCurrencyPair :: faults)

/-- The table of a script and the faults of its definitions. -/
def ofStatements (statements : List Script.Statement) : RuleTable × List Fault :=
  collect empty (statements.filterMap definition?)

/-- The table as a script, a definition a line. -/
def text (table : RuleTable) : String :=
  "\n".intercalate (table.definitions.map fun d => d.pair.text ++ " = " ++ d.expr.render ++ ";")

end RuleTable
end RateRules
