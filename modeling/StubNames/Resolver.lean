import StubNames.EntityBinding

/-!
Resolvers. A resolver of tuples or of records is set up with prefixes, and a resolver of entities
keeps those it is set up with in three places: for its own names, in its resolver of tuples and in
its resolver of records. Nothing changes one of them later, so that the three agree in every
resolver (`Resolver.tuples_agree`, `Resolver.records_agree`), and it resolves fields and entities as
under these prefixes (`Resolver.field_eq`, `Resolver.entity_eq`).
-/
namespace StubNames

/-- A resolver of the names of tuples. -/
structure TupleResolver where
  prefixes : Prefixes := .standard
  deriving DecidableEq, Repr

/-- A resolver of the names of records. -/
structure RecordResolver where
  prefixes : Prefixes := .standard
  deriving DecidableEq, Repr

/-- Both names of the tuple of a signature. -/
def TupleResolver.resolve (resolver : TupleResolver) (signature : Signature) :
    Resolution TupleName :=
  TupleName.ofSignature resolver.prefixes signature

/-- The name and the class of the record that a token denotes. -/
def RecordResolver.resolve (resolver : RecordResolver) (token : String) : Resolution RecordName :=
  RecordName.ofToken resolver.prefixes token

/-- A resolver of fields and entities, with the resolvers of tuples and records that it uses. -/
structure Resolver where
  prefixes : Prefixes := .standard
  tuples : TupleResolver := {}
  records : RecordResolver := {}
  tuples_agree : tuples.prefixes = prefixes := by rfl
  records_agree : records.prefixes = prefixes := by rfl
  deriving DecidableEq, Repr

namespace Resolver

/-- The resolver that is set up with the prefixes given. -/
def withPrefixes (prefixes : Prefixes) : Resolver where
  prefixes := prefixes
  tuples := ⟨prefixes⟩
  records := ⟨prefixes⟩

variable (resolver : Resolver)

/-- How the values of a shape are stored, decoded and printed. -/
def represent : Shape → Resolution Representation
  | .scalar descriptor => do
    let entry ← Resolution.ofExcept ((Registry.lookup descriptor).mapError .registry)
    pure ⟨entry.storage, resolver.prefixes.decoderName entry.suffix, entry.printer⟩
  | .list inner => do
    let member ← represent inner
    pure ⟨"std::vector<" ++ member.storage ++ ">", member.decoder, .eterm⟩
  | .tuple signature => do
    let tuple ← resolver.tuples.resolve signature
    pure ⟨tuple.structName, resolver.prefixes.decoderName ("tuple" ++ tuple.kind), .eterm⟩
  | .record token => do
    let record ← resolver.records.resolve token
    pure ⟨record.className, resolver.prefixes.decoderName record.name, .eterm⟩

/-- The binding of a field. -/
def field (declaration : Declaration) : Resolution FieldBinding :=
  if Text.isBlank declaration.name then Resolution.fail .blankFieldName
  else do
    let name := Text.trim declaration.name
    let representation ← resolver.represent declaration.shape
    pure {
      name
      storage := representation.storage
      decoder := representation.decoder
      printer := representation.printer
      getter := "get_" ++ name
      setter := "set_" ++ name
      isList := declaration.shape.isList }

/-- The headers needed so far and that of the record to which a shape refers, if it does. -/
def includeShape (includes : List String) (shape : Shape) : Resolution (List String) :=
  match shape.recordToken? with
  | none => pure includes
  | some token => do
    let record ← resolver.records.resolve token
    pure (EntityBinding.addInclude includes (resolver.prefixes.headerName record.name))

/-- The draft with one more field, whose name must be new among the fields of the entity. -/
def addField (entity : String) (draft : EntityBinding.Draft) (declaration : Declaration) :
    Resolution EntityBinding.Draft := do
  let field ← resolver.field declaration
  if draft.seen.contains field.name then
    Resolution.fail (.duplicateField entity field.name)
  else
    let includes ← resolver.includeShape draft.includes declaration.shape
    pure { fields := draft.fields ++ [field], includes, seen := field.name :: draft.seen }

/-- The binding of an entity with all its fields. -/
def entity (token : String) (declarations : List Declaration) : Resolution EntityBinding := do
  let record ← resolver.records.resolve token
  if Exclusion.excludes record.name then Resolution.fail (.excludedEntity record.name)
  else
    let draft ← declarations.foldlM (resolver.addField record.name) {}
    Resolution.report (.entityResolved record.name record.className draft.fields.length)
    pure {
      name := record.name
      className := record.className
      header := resolver.prefixes.headerName record.name
      listDecoder := resolver.prefixes.decoderName record.name
      converter := resolver.prefixes.converterName record.name
      includes := draft.includes
      fields := draft.fields }

/-! ### One set of prefixes -/

/-- A resolver is the one that is set up with its prefixes. -/
theorem eq_withPrefixes : resolver = withPrefixes resolver.prefixes := by
  obtain ⟨prefixes, ⟨tuplePrefixes⟩, ⟨recordPrefixes⟩, tuplesAgree, recordsAgree⟩ := resolver
  cases tuplesAgree
  cases recordsAgree
  rfl

theorem represent_eq (shape : Shape) :
    resolver.represent shape = shape.represent resolver.prefixes := by
  rw [resolver.eq_withPrefixes]
  induction shape with
  | scalar | tuple | record => rfl
  | list inner ih => rw [represent, ih, Shape.represent]

/-- A resolver binds a field as its prefixes do. -/
theorem field_eq (declaration : Declaration) :
    resolver.field declaration = FieldBinding.ofDeclaration resolver.prefixes declaration := by
  rw [field, represent_eq, FieldBinding.ofDeclaration]

theorem includeShape_eq (includes : List String) (shape : Shape) :
    resolver.includeShape includes shape =
      EntityBinding.includeShape resolver.prefixes includes shape := by
  rw [resolver.eq_withPrefixes]
  rfl

theorem addField_eq (entity : String) :
    resolver.addField entity = EntityBinding.addField resolver.prefixes entity := by
  funext draft declaration
  rw [addField, EntityBinding.addField, field_eq]
  simp only [includeShape_eq]

/-- A resolver binds an entity as its prefixes do. -/
theorem entity_eq (token : String) (declarations : List Declaration) :
    resolver.entity token declarations =
      EntityBinding.ofDeclarations resolver.prefixes token declarations := by
  rw [entity, EntityBinding.ofDeclarations]
  simp only [addField_eq]
  rw [resolver.eq_withPrefixes]
  rfl

end Resolver
end StubNames
