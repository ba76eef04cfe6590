import StubNames.Proofs.EntityRun

/-!
What prefixes have a part in. Under any two sets of prefixes an entity is refused with the same
error or is bound under both, and then the two bindings differ in prefixes alone
(`ofDeclarations_agree`): every text is the same under both, or is one text behind the prefix of
its role (`Behind`). The headers to include are equally many, in the same order, and distinct,
whatever the prefix of headers.
-/
namespace StubNames

/-- Two texts are one text behind either prefix. -/
def Behind (leftPrefix rightPrefix left right : String) : Prop :=
  ∃ text, left = leftPrefix ++ text ∧ right = rightPrefix ++ text

variable (left right : Prefixes)

/-- Two storage types of one shape: those of a scalar are the same, those of tuples and records
    stand behind the prefixes of structs and classes, and lists add the same vectors to both. -/
inductive Shape.SameStorage : Shape → String → String → Prop
  | scalar {descriptor storage : String} : SameStorage (.scalar descriptor) storage storage
  | tuple {signature : Signature} {leftStorage rightStorage : String}
      (behind : Behind left.tuple right.tuple leftStorage rightStorage) :
      SameStorage (.tuple signature) leftStorage rightStorage
  | record {token leftStorage rightStorage : String}
      (behind : Behind left.record right.record leftStorage rightStorage) :
      SameStorage (.record token) leftStorage rightStorage
  | list {inner : Shape} {leftStorage rightStorage : String}
      (members : SameStorage inner leftStorage rightStorage) :
      SameStorage (.list inner) ("std::vector<" ++ leftStorage ++ ">")
        ("std::vector<" ++ rightStorage ++ ">")

/-- Two representations of one shape that differ in prefixes alone. -/
structure Representation.Agree (shape : Shape)
    (leftRepresentation rightRepresentation : Representation) : Prop where
  storage : shape.SameStorage left right leftRepresentation.storage rightRepresentation.storage
  decoder : Behind left.decoder right.decoder leftRepresentation.decoder rightRepresentation.decoder
  printer : leftRepresentation.printer = rightRepresentation.printer

/-- Two bindings of one field that differ in prefixes alone. -/
structure FieldBinding.Agree (shape : Shape) (leftField rightField : FieldBinding) : Prop where
  name : leftField.name = rightField.name
  storage : shape.SameStorage left right leftField.storage rightField.storage
  decoder : Behind left.decoder right.decoder leftField.decoder rightField.decoder
  printer : leftField.printer = rightField.printer
  getter : leftField.getter = rightField.getter
  setter : leftField.setter = rightField.setter
  isList : leftField.isList = rightField.isList

/-- Two bindings of one entity that differ in prefixes alone. -/
structure EntityBinding.Agree (declarations : List Declaration)
    (leftBinding rightBinding : EntityBinding) : Prop where
  name : leftBinding.name = rightBinding.name
  className : Behind left.record right.record leftBinding.className rightBinding.className
  header : Behind left.header right.header leftBinding.header rightBinding.header
  listDecoder : Behind left.decoder right.decoder leftBinding.listDecoder rightBinding.listDecoder
  converter : Behind left.converter right.converter leftBinding.converter rightBinding.converter
  includes : ∃ texts : List String, texts.Nodup ∧
    leftBinding.includes = texts.map (left.header ++ ·) ∧
    rightBinding.includes = texts.map (right.header ++ ·)
  leftLength : leftBinding.fields.length = declarations.length
  rightLength : rightBinding.fields.length = declarations.length
  fields : ∀ (position : Nat) (declaration : Declaration) (leftField rightField : FieldBinding),
    declarations[position]? = some declaration → leftBinding.fields[position]? = some leftField →
    rightBinding.fields[position]? = some rightField →
    FieldBinding.Agree left right declaration.shape leftField rightField

variable {left right}

/-! ### Fields -/

/-- A shape is represented alike under all prefixes. -/
theorem Shape.represent_agree {shape : Shape}
    {leftRepresentation rightRepresentation : Representation}
    (represented : (shape.represent left).result = .ok leftRepresentation)
    (representedRight : (shape.represent right).result = .ok rightRepresentation) :
    Representation.Agree left right shape leftRepresentation rightRepresentation := by
  induction shape generalizing leftRepresentation rightRepresentation with
  | scalar descriptor =>
    rw [result_represent_scalar] at represented representedRight
    cases outcome : Registry.find? descriptor with
    | none => rw [outcome] at represented; cases represented
    | some type =>
      rw [outcome] at represented representedRight
      cases represented
      cases representedRight
      exact ⟨.scalar, ⟨_, rfl, rfl⟩, rfl⟩
  | list inner ih =>
    rw [result_represent_list, Resolution.map_eq_ok_iff] at represented representedRight
    obtain ⟨leftMember, leftRepresented, rfl⟩ := represented
    obtain ⟨rightMember, rightRepresented, rfl⟩ := representedRight
    have members := ih leftRepresented rightRepresented
    exact ⟨.list members.storage, members.decoder, rfl⟩
  | tuple signature =>
    rw [result_represent_tuple, TupleName.result_ofSignature] at represented representedRight
    cases outcome : Signature.descriptors signature with
    | error error => rw [outcome] at represented; cases represented
    | ok trimmed =>
      rw [outcome] at represented representedRight
      cases represented
      cases representedRight
      exact ⟨.tuple ⟨_, rfl, rfl⟩, ⟨_, rfl, rfl⟩, rfl⟩
  | record token =>
    rw [result_represent_record, Resolution.map_eq_ok_iff] at represented representedRight
    obtain ⟨leftRecord, leftResolved, rfl⟩ := represented
    obtain ⟨rightRecord, rightResolved, rfl⟩ := representedRight
    obtain ⟨leftDenotes, leftClass, _⟩ := RecordName.ofToken_eq_ok_iff.mp leftResolved
    obtain ⟨rightDenotes, rightClass, _⟩ := RecordName.ofToken_eq_ok_iff.mp rightResolved
    have sameName := leftDenotes.name_unique rightDenotes
    refine ⟨.record ⟨Text.pascalCase leftRecord.name, leftClass, ?_⟩,
      ⟨leftRecord.name, rfl, ?_⟩, rfl⟩
    · rw [rightClass, sameName]
      rfl
    · rw [sameName]
      rfl

theorem FieldBinding.ofDeclaration_agree {declaration : Declaration}
    {leftField rightField : FieldBinding}
    (bound : (ofDeclaration left declaration).result = .ok leftField)
    (boundRight : (ofDeclaration right declaration).result = .ok rightField) :
    Agree left right declaration.shape leftField rightField := by
  obtain ⟨_, leftRepresentation, represented, rfl⟩ := ofDeclaration_eq_ok_iff.mp bound
  obtain ⟨_, rightRepresentation, representedRight, rfl⟩ := ofDeclaration_eq_ok_iff.mp boundRight
  have same := Shape.represent_agree represented representedRight
  exact ⟨rfl, same.storage, same.decoder, same.printer, rfl, rfl, rfl⟩

/-! ### Entities -/

namespace EntityBinding

theorem headers_eq_map (prefixes : Prefixes) (declarations : List Declaration) :
    headers prefixes declarations =
      ((declarations.filterMap (·.shape.recordName?)).eraseDups.map (· ++ ".h")).map
        (prefixes.header ++ ·) := by
  rw [headers, List.map_map]
  refine List.map_congr_left fun name _ => ?_
  exact String.append_assoc

theorem ofDraft_agree {declarations : List Declaration} {leftDraft rightDraft : Draft}
    (bound : Bound left declarations leftDraft) (boundRight : Bound right declarations rightDraft)
    (name : String) :
    Agree left right declarations (ofDraft left name leftDraft) (ofDraft right name rightDraft) where
  name := rfl
  className := ⟨_, rfl, rfl⟩
  header := ⟨name ++ ".h", String.append_assoc, String.append_assoc⟩
  listDecoder := ⟨_, rfl, rfl⟩
  converter := ⟨_, rfl, rfl⟩
  includes := by
    refine ⟨_, ?_, bound.includes.trans (headers_eq_map left declarations),
      boundRight.includes.trans (headers_eq_map right declarations)⟩
    refine (nodup_eraseDups _).map fun one other same => ?_
    exact (String.append_left_inj ".h").mp same
  leftLength := bound.length_fields
  rightLength := boundRight.length_fields
  fields position declaration leftField rightField declared leftThere rightThere :=
    FieldBinding.ofDeclaration_agree (bound.binding_of_getElem? declared leftThere)
      (boundRight.binding_of_getElem? declared rightThere)

/-- Under any two sets of prefixes an entity fails with the same error, or is bound under both,
    and then its bindings differ in prefixes alone. -/
theorem ofDeclarations_agree (left right : Prefixes) (token : String)
    (declarations : List Declaration) :
    (∀ error, (ofDeclarations left token declarations).result = .error error ↔
      (ofDeclarations right token declarations).result = .error error) ∧
    ∀ leftBinding, (ofDeclarations left token declarations).result = .ok leftBinding →
      ∃ rightBinding, (ofDeclarations right token declarations).result = .ok rightBinding ∧
        Agree left right declarations leftBinding rightBinding := by
  rcases refused_or_accepted token declarations with
    ⟨reason, failed⟩ | ⟨name, denotes, kept, accepted⟩
  · rw [failed left, failed right]
    exact ⟨fun _ => Iff.rfl, by rintro leftBinding ⟨⟩⟩
  · obtain ⟨leftDraft, bound, leftResult⟩ := exists_ofDeclarations left denotes kept accepted
    obtain ⟨rightDraft, boundRight, rightResult⟩ :=
      exists_ofDeclarations right denotes kept accepted
    rw [leftResult, rightResult]
    refine ⟨fun error => iff_of_false (by rintro ⟨⟩) (by rintro ⟨⟩), ?_⟩
    rintro leftBinding ⟨⟩
    exact ⟨_, rfl, ofDraft_agree bound boundRight name⟩

end EntityBinding
end StubNames
