/-! # Faults

The ways in which a rule can fail to be accepted or to give a value. -/
namespace RateRules

inductive Fault where
  | tooManyNestedCalls
  | invalidCurrencyIdentifier
  | nestedInvocation
  | unsupportedOperator
  | missingArgument
  | divideByZero
  | preprocessError
  | rateUnavailable
  | invalidExchangeName
  | duplicateCurrencyPair
  | arithmeticError
  deriving DecidableEq, Repr

def Fault.text : Fault → String
  | tooManyNestedCalls => "TooMuchNestedCalls"
  | invalidCurrencyIdentifier => "InvalidCurrencyIdentifier"
  | nestedInvocation => "NestedInvocation"
  | unsupportedOperator => "UnsupportedOperator"
  | missingArgument => "MissingArgument"
  | divideByZero => "DivideByZero"
  | preprocessError => "PreprocessError"
  | rateUnavailable => "RateUnavailable"
  | invalidExchangeName => "InvalidExchangeName"
  | duplicateCurrencyPair => "DuplicateCurrencyPair"
  | arithmeticError => "ArithmeticError"

end RateRules
