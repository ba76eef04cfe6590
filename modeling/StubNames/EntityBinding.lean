import StubNames.Exclusion
import StubNames.FieldBinding

/-!
What is generated for an entity: its class and header, the decoder of lists of it and the
converter from a single term, the headers of the records that its fields refer to, and its
fields. The token of the entity is resolved first, then excluded names are refused, and then the
fields are bound in order up to the first fault. Two fields of one entity may not have the same
name, blanks around it aside. A field that refers to a record resolves the token of that record
a second time, for the header to include, and reports it a second time.
-/
namespace StubNames

/-- The names and types generated for an entity. -/
structure EntityBinding where
  name : String
  className : String
  header : String
  listDecoder : String
  converter : String
  /-- The headers of the records that fields refer to, in the order of their first use. -/
  includes : List String
  /-- The bindings of the fields, in the order of their declarations. -/
  fields : List FieldBinding
  deriving DecidableEq, Repr

namespace EntityBinding

/-- The part of an entity that follows from the fields bound so far. -/
structure Draft where
  fields : List FieldBinding := []
  includes : List String := []
  /-- The names that are taken, in no particular order. -/
  seen : List String := []
  deriving DecidableEq, Repr

/-- The headers with another one at the end, unless it is among them. -/
def addInclude (includes : List String) (header : String) : List String :=
  if includes.contains header then includes else includes ++ [header]

/-- The headers needed so far and that of the record to which a shape refers, if it does. -/
def includeShape (prefixes : Prefixes) (includes : List String) (shape : Shape) :
    Resolution (List String) :=
  match shape.recordToken? with
  | none => pure includes
  | some token => do
    let record ← RecordName.ofToken prefixes token
    pure (addInclude includes (prefixes.headerName record.name))

/-- The draft with one more field, whose name must be new among the fields of the entity. -/
def addField (prefixes : Prefixes) (entity : String) (draft : Draft)
    (declaration : Declaration) : Resolution Draft := do
  let field ← FieldBinding.ofDeclaration prefixes declaration
  if draft.seen.contains field.name then
    Resolution.fail (.duplicateField entity field.name)
  else
    let includes ← includeShape prefixes draft.includes declaration.shape
    pure { fields := draft.fields ++ [field], includes, seen := field.name :: draft.seen }

/-- The binding of the entity that a token denotes, with the declared fields. -/
def ofDeclarations (prefixes : Prefixes) (token : String) (declarations : List Declaration) :
    Resolution EntityBinding := do
  let record ← RecordName.ofToken prefixes token
  if Exclusion.excludes record.name then Resolution.fail (.excludedEntity record.name)
  else
    let draft ← declarations.foldlM (addField prefixes record.name) {}
    Resolution.report (.entityResolved record.name record.className draft.fields.length)
    pure {
      name := record.name
      className := record.className
      header := prefixes.headerName record.name
      listDecoder := prefixes.decoderName record.name
      converter := prefixes.converterName record.name
      includes := draft.includes
      fields := draft.fields }

/-- The binding of an entity under the default prefixes. -/
def resolve (token : String) (declarations : List Declaration) : Resolution EntityBinding :=
  ofDeclarations .standard token declarations

end EntityBinding
end StubNames
