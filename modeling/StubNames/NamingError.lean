import StubNames.Registry

/-!
Why a name cannot be given. Each cause carries what its wording (`NamingError.message`) quotes:
a descriptor or a record token as it was written, the position of a blank descriptor counted
from zero, and names of entities and fields without their markers and blanks. Nothing inside
the quotes is escaped.
-/
namespace StubNames

/-- Why a name cannot be given. -/
inductive NamingError where
  | registry (error : RegistryError)
  | emptySignature
  | blankDescriptor (position : Nat)
  | invalidRecordToken (token reason : String)
  | blankFieldName
  | duplicateField (entity field : String)
  | excludedEntity (name : String)
  deriving DecidableEq, Repr

/-- The wording of a cause. -/
def NamingError.message : NamingError → String
  | registry error => "schema error: " ++ error.message
  | emptySignature => "tuple signature has no fields"
  | blankDescriptor position =>
    "blank descriptor at position " ++ toString position ++ " in tuple signature"
  | invalidRecordToken token reason => "invalid record token '" ++ token ++ "': " ++ reason
  | blankFieldName => "field name is blank"
  | duplicateField entity field =>
    "duplicate field '" ++ field ++ "' in entity '" ++ entity ++ "'"
  | excludedEntity name => "entity '" ++ name ++ "' is excluded from generation"

end StubNames
