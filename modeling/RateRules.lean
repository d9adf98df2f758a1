import RateRules.CommandLine.Report
import RateRules.Main
import RateRules.Proofs.Steps
import RateRules.Proofs.Value
import RateRules.Proofs.Candidate
import RateRules.Proofs.Choice
import RateRules.Proofs.Evaluation
import RateRules.Proofs.Expansion
import RateRules.Proofs.Fetching
import RateRules.Proofs.Finite
import RateRules.Proofs.Pricing
import RateRules.Proofs.References
import RateRules.Proofs.FirstFault
import RateRules.Proofs.Trails
import RateRules.Proofs.Held
import RateRules.Proofs.NumberTokens
import RateRules.Proofs.Operands
import RateRules.Proofs.Preparation
import RateRules.Proofs.Readback
import RateRules.Proofs.Faithful
import RateRules.Proofs.Canonical
import RateRules.Proofs.Outcomes
import RateRules.Proofs.Isolation
import RateRules.Proofs.Wildcards
import RateRules.Proofs.Placeless
import RateRules.Proofs.Lookahead
import RateRules.Proofs.Agreement
import RateRules.Proofs.AlikeScripts
import RateRules.Proofs.RuleTokens
import RateRules.Proofs.ClauseRuns
import RateRules.Proofs.PartedLines
import RateRules.Proofs.Comments
import RateRules.Proofs.PreparedText
import RateRules.Proofs.Transparency
import RateRules.Proofs.Assignments
import RateRules.Proofs.Reported
import RateRules.Proofs.Signals
import RateRules.Proofs.CommandLine
import RateRules.Proofs.Markers
import RateRules.Proofs.Recursion
import RateRules.Proofs.Cascades
import RateRules.Proofs.Endings
import RateRules.Proofs.Multiplier
import RateRules.Proofs.Branches
import RateRules.Proofs.Shape
import RateRules.Proofs.Asking
import RateRules.Proofs.Violations
import RateRules.Proofs.Ensures
import RateRules.Proofs.Derivations
import RateRules.Proofs.ClauseDerivations
import RateRules.Proofs.Ink
import RateRules.Proofs.LineNumbers
import RateRules.Proofs.LineComments
import RateRules.Proofs.Slashes
import RateRules.Proofs.Unclosed
import RateRules.Proofs.Rereading
import RateRules.Proofs.Reciprocals
import RateRules.Proofs.ComputedValues
import RateRules.Proofs.PairText
import RateRules.Proofs.DefaultScript
import RateRules.Proofs.FloorDivision
import RateRules.Proofs.Indentation
