import StubNames.Proofs.Includes

/-!
References to records. A record is referred to by a token that may be spelled otherwise than the
token by which its entity is declared. Tokens of one name declare the same entity, and a field
that refers to the record, through any number of lists, is decoded by the list decoder of that
entity, stores vectors of its class, and makes an entity include its header
(`references_agree`).
-/
namespace StubNames.EntityBinding

variable (prefixes : Prefixes) {left right : String} {name : String}

/-- Tokens of one name declare the same entity. -/
theorem result_ofDeclarations_congr (leftDenotes : RecordName.Denotes left name)
    (rightDenotes : RecordName.Denotes right name) (declarations : List Declaration) :
    (ofDeclarations prefixes left declarations).result =
      (ofDeclarations prefixes right declarations).result := by
  by_cases excluded : name ∈ Exclusion.names
  · rw [result_ofDeclarations_of_excluded prefixes leftDenotes excluded,
      result_ofDeclarations_of_excluded prefixes rightDenotes excluded]
  · rw [result_ofDeclarations_of_kept prefixes leftDenotes excluded,
      result_ofDeclarations_of_kept prefixes rightDenotes excluded]

/-- A field that refers to a record through lists stores vectors of its class and is decoded as
    its name says. -/
theorem exists_reference {token : String} (denotes : RecordName.Denotes token name)
    {fieldName : String} (named : Text.trim fieldName ≠ "") (depth : Nat) :
    ∃ field, (FieldBinding.ofDeclaration prefixes
        ⟨fieldName, (Shape.record token).inLists depth⟩).result = .ok field ∧
      field.decoder = prefixes.decoderName name ∧
      field.storage = Shape.vectors depth (prefixes.className name) := by
  have represented : (((Shape.record token).inLists depth).represent prefixes).result =
      .ok (Shape.listedTo depth ⟨prefixes.className name, prefixes.decoderName name, .eterm⟩) := by
    rw [Shape.result_represent_inLists, Shape.result_represent_record,
      RecordName.result_ofToken_of_denotes prefixes denotes]
    rfl
  refine ⟨_, FieldBinding.ofDeclaration_eq_ok_iff.mpr ⟨named, _, represented, rfl⟩, ?_, ?_⟩
  · exact Shape.decoder_listedTo depth _
  · exact Shape.storage_listedTo depth _

/-- An entity with a field that refers to a record includes the header of the record. -/
theorem headerName_mem_includes {token other : String} (denotes : RecordName.Denotes token name)
    {declarations : List Declaration} {binding : EntityBinding}
    (bound : (ofDeclarations prefixes other declarations).result = .ok binding)
    {fieldName : String} {depth : Nat}
    (declared : ⟨fieldName, (Shape.record token).inLists depth⟩ ∈ declarations) :
    prefixes.headerName name ∈ binding.includes := by
  have needs : Declaration.Needs prefixes ⟨fieldName, (Shape.record token).inLists depth⟩
      (prefixes.headerName name) :=
    ⟨_, ⟨token, depth, rfl, RecordName.result_ofToken_of_denotes prefixes denotes⟩, rfl⟩
  exact ((firstUses_includes bound).mem_iff _).mpr ⟨_, declared, needs⟩

/-- Two tokens of one record declare the same entity, with the same errors; and where that entity
    is bound, each field that refers to the record by one of the tokens, inside any number of
    lists, is bound with the list decoder and the class of the entity, and each entity with such a
    field includes its header. -/
theorem references_agree {leftRecord rightRecord : RecordName}
    (leftResolved : (RecordName.ofToken prefixes left).result = .ok leftRecord)
    (rightResolved : (RecordName.ofToken prefixes right).result = .ok rightRecord)
    (same : leftRecord.name = rightRecord.name) (declarations : List Declaration) :
    (ofDeclarations prefixes right declarations).result =
      (ofDeclarations prefixes left declarations).result ∧
    ∀ entity, (ofDeclarations prefixes left declarations).result = .ok entity →
      ∀ (fieldName : String) (depth : Nat), Text.trim fieldName ≠ "" →
        (∃ field, (FieldBinding.ofDeclaration prefixes
            ⟨fieldName, (Shape.record right).inLists depth⟩).result = .ok field ∧
          field.decoder = entity.listDecoder ∧
          field.storage = Shape.vectors depth entity.className) ∧
        ∀ other others binding,
          (ofDeclarations prefixes other others).result = .ok binding →
          ⟨fieldName, (Shape.record right).inLists depth⟩ ∈ others →
          entity.header ∈ binding.includes := by
  obtain ⟨leftDenotes, _⟩ := RecordName.ofToken_eq_ok_iff.mp leftResolved
  obtain ⟨rightDenotes, _⟩ := RecordName.ofToken_eq_ok_iff.mp rightResolved
  rw [← same] at rightDenotes
  refine ⟨result_ofDeclarations_congr prefixes rightDenotes leftDenotes declarations, ?_⟩
  intro entity bound fieldName depth named
  obtain ⟨name, draft, denotes, _, _, rfl⟩ := ofDeclarations_eq_ok bound
  rw [leftDenotes.name_unique denotes] at rightDenotes
  refine ⟨exists_reference prefixes rightDenotes named depth, ?_⟩
  intro other others binding otherBound declared
  exact headerName_mem_includes prefixes rightDenotes otherBound declared

/-- The record of users, by two of its spellings. -/
theorem references_agree_user :
    (ofDeclarations .standard "#{}us{}er" [⟨"id", .scalar "user_id()"⟩]).result =
      (ofDeclarations .standard "user" [⟨"id", .scalar "user_id()"⟩]).result ∧
    ∃ entity field grid,
      (ofDeclarations .standard "user" [⟨"id", .scalar "user_id()"⟩]).result = .ok entity ∧
      (FieldBinding.ofDeclaration .standard
        ⟨" owners", (Shape.record "#{}us{}er").inLists 2⟩).result = .ok field ∧
      field.decoder = entity.listDecoder ∧
      field.storage = Shape.vectors 2 entity.className ∧
      (ofDeclarations .standard "grid"
        [⟨" owners", (Shape.record "#{}us{}er").inLists 2⟩]).result = .ok grid ∧
      entity.header ∈ grid.includes := by
  have resolvedPlain : (RecordName.ofToken .standard "user").result =
      .ok ⟨"SwmUser", "user", false⟩ := by decide +kernel
  have resolvedMarked : (RecordName.ofToken .standard "#{}us{}er").result =
      .ok ⟨"SwmUser", "user", true⟩ := by decide +kernel
  obtain ⟨sameEntity, agree⟩ := references_agree .standard resolvedPlain resolvedMarked rfl
    [⟨"id", .scalar "user_id()"⟩]
  have bound : ∃ entity, (ofDeclarations .standard "user"
      [⟨"id", .scalar "user_id()"⟩]).result = .ok entity := ⟨_, rfl⟩
  have gridBound : ∃ grid, (ofDeclarations .standard "grid"
      [⟨" owners", (Shape.record "#{}us{}er").inLists 2⟩]).result = .ok grid := ⟨_, rfl⟩
  obtain ⟨entity, bound⟩ := bound
  obtain ⟨grid, gridBound⟩ := gridBound
  obtain ⟨⟨field, fieldBound, decoder, storage⟩, included⟩ :=
    agree entity bound " owners" 2 (by decide +kernel)
  exact ⟨sameEntity, entity, field, grid, bound, fieldBound, decoder, storage, gridBound,
    included _ _ grid gridBound List.mem_cons_self⟩

end StubNames.EntityBinding
