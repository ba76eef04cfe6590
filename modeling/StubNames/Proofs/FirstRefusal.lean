import StubNames.Proofs.EntityRun

/-!
The first refusal of an entity. An entity is refused for its token, or else because its name is
excluded, or else for the first of its declarations that offends: for a blank name, or else for
its shape, or else for a name that was declared before (`Refused`). It is refused for no other
reason, and where nothing is refused it is bound (`ofDeclarations_refused_or_bound`).
-/
namespace StubNames.EntityBinding

/-- Why an entity is refused: as its token is, for being excluded, or for its first declaration
    that offends, after those before it. -/
inductive Refused (prefixes : Prefixes) (token : String) (declarations : List Declaration) :
    NamingError → Prop
  | token {error : NamingError}
      (refused : (RecordName.ofToken prefixes token).result = .error error) :
      Refused prefixes token declarations error
  | excluded {record : RecordName}
      (resolved : (RecordName.ofToken prefixes token).result = .ok record)
      (excluded : record.name ∈ Exclusion.names) :
      Refused prefixes token declarations (.excludedEntity record.name)
  | declaration {record : RecordName} {position : Nat} {declaration : Declaration}
      {error : NamingError}
      (resolved : (RecordName.ofToken prefixes token).result = .ok record)
      (kept : record.name ∉ Exclusion.names)
      (first : ∀ earlier < position, ¬ OffendsAt declarations earlier)
      (there : declarations[position]? = some declaration)
      (refused : declaration.RefusedAfter record.name (declarations.take position) error) :
      Refused prefixes token declarations error

variable (prefixes : Prefixes) (token : String) (declarations : List Declaration)

private theorem result_of_refused {error : NamingError}
    (refused : Refused prefixes token declarations error) :
    (ofDeclarations prefixes token declarations).result = .error error := by
  cases refused with
  | token refused => exact Resolution.result_bind_of_error refused _
  | excluded resolved excluded =>
    obtain ⟨denotes, _⟩ := RecordName.ofToken_eq_ok_iff.mp resolved
    exact result_ofDeclarations_of_excluded prefixes denotes excluded declarations
  | declaration resolved kept first there refused =>
    obtain ⟨denotes, _⟩ := RecordName.ofToken_eq_ok_iff.mp resolved
    have accepted := accepted_take_iff.mpr first
    rw [result_ofDeclarations_of_kept prefixes denotes kept,
      foldlM_addField_of_refusedAfter prefixes _ accepted there refused]
    rfl

private theorem refused_of_result {error : NamingError}
    (failed : (ofDeclarations prefixes token declarations).result = .error error) :
    Refused prefixes token declarations error := by
  -- Whatever refuses the entity is answered, so that the reason found is the one answered.
  have only {other : NamingError} (refused : Refused prefixes token declarations other) :
      Refused prefixes token declarations error := by
    have answered := result_of_refused prefixes token declarations refused
    rw [failed] at answered
    cases answered
    exact refused
  cases resolved : (RecordName.ofToken prefixes token).result with
  | error other => exact only (.token resolved)
  | ok record =>
    by_cases excluded : record.name ∈ Exclusion.names
    · exact only (.excluded resolved excluded)
    · rcases accepted_or_offendsAt declarations with
        accepted | ⟨position, accepted, declaration, there, offends⟩
      · obtain ⟨denotes, _⟩ := RecordName.ofToken_eq_ok_iff.mp resolved
        obtain ⟨draft, _, bound⟩ := exists_ofDeclarations prefixes denotes excluded accepted
        rw [failed] at bound
        cases bound
      · obtain ⟨other, refused⟩ := (Declaration.offends_iff record.name).mp offends
        have first := accepted_take_iff.mp accepted
        exact only (.declaration resolved excluded first there refused)

/-- The entities that are refused, each with its one reason. -/
theorem ofDeclarations_eq_error_iff {error : NamingError} :
    (ofDeclarations prefixes token declarations).result = .error error ↔
      Refused prefixes token declarations error :=
  ⟨refused_of_result prefixes token declarations, result_of_refused prefixes token declarations⟩

private theorem exists_binding_iff :
    (∃ binding, (ofDeclarations prefixes token declarations).result = .ok binding) ↔
      ∃ record, (RecordName.ofToken prefixes token).result = .ok record ∧
        record.name ∉ Exclusion.names ∧ ∀ position, ¬ OffendsAt declarations position := by
  constructor
  · rintro ⟨binding, bound⟩
    obtain ⟨name, draft, denotes, kept, invariant, _⟩ := ofDeclarations_eq_ok bound
    exact ⟨_, RecordName.result_ofToken_of_denotes prefixes denotes, kept,
      accepted_iff_forall_not_offendsAt.mp invariant.accepted⟩
  · rintro ⟨record, resolved, kept, fine⟩
    obtain ⟨denotes, _⟩ := RecordName.ofToken_eq_ok_iff.mp resolved
    obtain ⟨draft, _, bound⟩ := exists_ofDeclarations prefixes denotes kept
      (accepted_iff_forall_not_offendsAt.mpr fine)
    exact ⟨_, bound⟩

/-- An entity is answered with an error exactly when it is refused for that reason, and is bound
    exactly when its token denotes a record that is not excluded and none of its declarations
    offends. The errors of shapes are the reasons why they are refused, and resolving the record
    of a shape again for its header adds none. -/
theorem ofDeclarations_refused_or_bound :
    (∀ error, (ofDeclarations prefixes token declarations).result = .error error ↔
      Refused prefixes token declarations error) ∧
    ((∃ binding, (ofDeclarations prefixes token declarations).result = .ok binding) ↔
      ∃ record, (RecordName.ofToken prefixes token).result = .ok record ∧
        record.name ∉ Exclusion.names ∧ ∀ position, ¬ OffendsAt declarations position) ∧
    (∀ (shape : Shape) error,
      (shape.represent prefixes).result = .error error ↔ shape.Refused error) ∧
    (∀ (shape : Shape) representation includes,
      (shape.represent prefixes).result = .ok representation →
        ∃ more, (includeShape prefixes includes shape).result = .ok more) :=
  ⟨fun _ => ⟨refused_of_result prefixes token declarations,
      result_of_refused prefixes token declarations⟩,
    exists_binding_iff prefixes token declarations,
    fun _ _ => Shape.represent_eq_error_iff,
    fun _ _ includes represented => ⟨_, result_includeShape represented includes⟩⟩

example :
    (resolve "grid" [⟨"id", .scalar "atom()"⟩, ⟨" id", .list (.tuple ["any()", " ", ""])⟩,
      ⟨"", .scalar "unknown()"⟩]).result = .error (.blankDescriptor 1) := by decide +kernel

end StubNames.EntityBinding
