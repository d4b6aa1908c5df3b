import TypedQuery.Operator
import TypedQuery.Template
import TypedQuery.Text.Quoted
import TypedQuery.Value.Text

/-!
# Errors

The causes for which an expression cannot be built or a statement cannot be rendered, and their
messages.
-/

namespace TypedQuery

/-- Statements that only some dialects have. -/
inductive Feature
  | insert
  | merge
deriving DecidableEq, Repr

/-- Arguments that a rendering or a factory cannot use. -/
inductive ArgumentFault
  | anyWithoutOperand
  | castTarget
  | noIdentifier (entity : Value)
  | noLikeForm (regex : String)
  | noAssignments
  | unnamedColumn
  | noRows
  | rowSize (factory : String) (expected found : Nat)
  | noLastValue
deriving Repr

inductive Error
  | missingTemplate (operator : Operator) (dialect : String)
  | unsupported (feature : Feature) (dialect : String)
  | invalidTemplate (pattern : String) (fault : TemplateFault)
  | arity (operator : Operator) (expected : Arity) (found : Nat)
  | missingRoot
  | invalidArgument (fault : ArgumentFault)
  | unboundParam (name : String)
  /-- The refused expression is shown. -/
  | notAPredicate {shown : String}
  /-- The templates that change the case of an argument or join texts expand each other for ever. -/
  | endlessExpansion
deriving Repr

namespace Feature

def text : Feature → String
  | insert => "insert"
  | merge => "merge"

end Feature

namespace ArgumentFault

def text : ArgumentFault → String
  | anyWithoutOperand => "any without operand"
  | castTarget => "numeric cast target must be a type constant"
  | noIdentifier entity => "no identifier for " ++ entity.text
  | noLikeForm regex => "'" ++ regex ++ "' can't be converted to like form"
  | noAssignments => "update without assignments"
  | unnamedColumn => "insert column must be a named property"
  | noRows => "insert without rows"
  | rowSize factory expected found =>
      factory ++ " expects " ++ toString expected ++ " value(s), got " ++ toString found
  | noLastValue => "no last value"

end ArgumentFault

namespace Error

def message : Error → String
  | missingTemplate operator dialect =>
      "no template registered for operator " ++ operator.text ++ " in dialect " ++ dialect
  | unsupported feature dialect => feature.text ++ " is not supported by dialect " ++ dialect
  | invalidTemplate pattern fault =>
      "invalid template " ++ Text.quoted pattern ++ ": " ++ fault.text
  | arity operator expected found =>
      "operator " ++ operator.text ++ " expects " ++ expected.text ++ " argument(s), got " ++
        toString found
  | missingRoot => "query metadata has no root source"
  | invalidArgument fault => "invalid argument: " ++ fault.text
  | unboundParam name => "parameter " ++ name ++ " has not been bound"
  | @notAPredicate shown => "expression cannot be used as a document predicate: " ++ shown
  | endlessExpansion => "templates expand each other without end"

end Error

namespace Template

/-- Reads a pattern; a fault is reported with the pattern. -/
def parse (pattern : String) : Except Error Template :=
  (read pattern).mapError (.invalidTemplate pattern)

end Template

end TypedQuery
