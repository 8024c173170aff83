/-! Reasons why a statement cannot be written. -/

namespace SchemaScript

inductive StatementError where
  /-- The constraint at this place has no kind, and so neither a name nor a clause. -/
  | constraintWithoutKind (index : Nat)
  | computedWithDomain (column domain : String)
  | computedIdentity (column : String)
  | cursorWithoutSelect (cursor : String)
  | domainWithoutName
  | domainWithoutOldName
  | domainWithoutNewName
  deriving DecidableEq, Repr

namespace StatementError

def invalid (object reason : String) : String := "Invalid " ++ object ++ " descriptor: " ++ reason

def message : StatementError → String
  | constraintWithoutKind index =>
    "Constraint #" ++ Nat.repr index ++ " has neither a name nor a kind"
  | computedWithDomain column domain =>
    invalid "column" (column ++ " is computed but also uses domain " ++ domain)
  | computedIdentity column =>
    invalid "column" (column ++ " is computed but also an identity column")
  | cursorWithoutSelect cursor => invalid "cursor" (cursor ++ " has no select statement")
  | domainWithoutName => invalid "domain" "name is empty"
  | domainWithoutOldName => invalid "domain" "original name is empty"
  | domainWithoutNewName => invalid "domain" "new name is empty"

end StatementError

end SchemaScript
