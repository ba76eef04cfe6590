import StubNames.Prefixes
import StubNames.Resolution

/-!
The name of a record. A token that begins with the marker `#` denotes a structured record, and
its name is the rest without empty braces; any other token is its own name. Braces are removed
in one pass from the left, so that braces which only meet when others are gone stay
(`dropEmptyBraces`). A token is refused if it is blank or if nothing but blanks is left of it.
-/
namespace StubNames

/-- The name of a record and the class that is generated for it. -/
structure RecordName where
  className : String
  /-- The token without its markers. -/
  name : String
  /-- Whether the token denoted a structured record. -/
  isStruct : Bool
  deriving DecidableEq, Repr

namespace RecordName

/-- The characters without each `{` that is followed at once by its `}`, in one pass from the
    left. -/
def dropEmptyBraces : List Char → List Char
  | '{' :: '}' :: rest => dropEmptyBraces rest
  | c :: rest => c :: dropEmptyBraces rest
  | [] => []

/-- The name that a token denotes, and whether it denotes a structured record. -/
def ofMarked (token : String) : String × Bool :=
  match token.toList with
  | '#' :: rest => (String.ofList (dropEmptyBraces rest), true)
  | _ => (token, false)

/-- The name and the class of the record that a token denotes. -/
def ofToken (prefixes : Prefixes) (token : String) : Resolution RecordName :=
  if Text.isBlank token then Resolution.fail (.invalidRecordToken token "blank token")
  else
    let (name, isStruct) := ofMarked token
    if Text.isBlank name then Resolution.fail (.invalidRecordToken token "empty record name")
    else do
      let className := prefixes.className name
      Resolution.report (.recordResolved token className)
      pure { className, name, isStruct }

end RecordName
end StubNames
