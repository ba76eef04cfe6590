import StubNames.RecordName
import StubNames.Shape
import StubNames.TupleName

/-!
What is generated for a field of an entity: the type that stores it, the function that decodes
it, its printer and its two accessors. The first three come from the shape of the field alone
(`Shape.represent`): a list stores a vector of what its members store and is decoded by their
decoder, and only single types have a printer of their own. A field without a name is refused
before its shape is looked at.
-/
namespace StubNames

/-- How the values of a shape are stored, decoded and printed. -/
structure Representation where
  storage : String
  decoder : String
  printer : Printer
  deriving DecidableEq, Repr

/-- A field as it is declared: a name and a shape. -/
structure Declaration where
  name : String
  shape : Shape
  deriving DecidableEq, Repr

/-- The names and types generated for a field. -/
structure FieldBinding where
  name : String
  storage : String
  decoder : String
  printer : Printer
  getter : String
  setter : String
  isList : Bool
  deriving DecidableEq, Repr

/-- How the values of a shape are stored, decoded and printed under the given prefixes. -/
def Shape.represent (prefixes : Prefixes) : Shape → Resolution Representation
  | scalar descriptor => do
    let entry ← Resolution.ofExcept ((Registry.lookup descriptor).mapError .registry)
    pure ⟨entry.storage, prefixes.decoderName entry.suffix, entry.printer⟩
  | list inner => do
    let member ← inner.represent prefixes
    pure ⟨"std::vector<" ++ member.storage ++ ">", member.decoder, .eterm⟩
  | tuple signature => do
    let tuple ← TupleName.ofSignature prefixes signature
    pure ⟨tuple.structName, prefixes.decoderName ("tuple" ++ tuple.kind), .eterm⟩
  | record token => do
    let record ← RecordName.ofToken prefixes token
    pure ⟨record.className, prefixes.decoderName record.name, .eterm⟩

namespace FieldBinding

/-- The binding of a field, or the first fault of its declaration: a blank name, and then the
    faults of its shape. -/
def ofDeclaration (prefixes : Prefixes) (declaration : Declaration) : Resolution FieldBinding :=
  if Text.isBlank declaration.name then Resolution.fail .blankFieldName
  else do
    let name := Text.trim declaration.name
    let representation ← declaration.shape.represent prefixes
    pure {
      name
      storage := representation.storage
      decoder := representation.decoder
      printer := representation.printer
      getter := "get_" ++ name
      setter := "set_" ++ name
      isList := declaration.shape.isList }

end FieldBinding
end StubNames
