import StubNames.Proofs.RecordReference
import StubNames.Proofs.Underscores

/-!
Bare classes. The class of a record is the record prefix and the capitalized words of its name
without their underscores. Casing neither makes nor removes an underscore
(`Text.map_isUnderscore_capitalizeFrom`), so that nothing is left of a name exactly when it
consists of underscores (`Text.pascalCase_eq_empty_iff`). A token is refused for blanks alone, and
a name of underscores is therefore accepted, with the prefix itself as the class of its record, of
the fields that refer to it and of its entity (`className_longer_iff`).
-/
namespace StubNames

namespace Text

/-- Nothing is left of a name exactly when it consists of underscores. -/
theorem pascalCase_eq_empty_iff {s : String} : pascalCase s = "" ↔ ∀ c ∈ s.toList, c = '_' := by
  calc pascalCase s = ""
      ↔ (capitalizeFrom false s.toList).filter (· != '_') = [] := by
        rw [← String.toList_inj, toList_pascalCase]
        rfl
    _ ↔ ∀ mark ∈ (capitalizeFrom false s.toList).map (· = '_'), mark := by
        rw [List.forall_mem_map]
        simp
    _ ↔ ∀ c ∈ s.toList, c = '_' := by
        rw [map_isUnderscore_capitalizeFrom, List.forall_mem_map]

end Text

/-! ### Records, fields and entities -/

namespace Prefixes

/-- A class is longer than its prefix exactly when its name has more than underscores in it. -/
theorem record_length_lt_className_iff (prefixes : Prefixes) (name : String) :
    prefixes.record.length < (prefixes.className name).length ↔ ∃ c ∈ name.toList, c ≠ '_' := by
  have nothing : (Text.pascalCase name).length = 0 ↔ ∀ c ∈ name.toList, c = '_' := by
    rw [← Text.pascalCase_eq_empty_iff, String.length_eq_zero_iff]
  calc prefixes.record.length < (prefixes.className name).length
      ↔ (Text.pascalCase name).length ≠ 0 := by
        rw [className, String.length_append]
        omega
    _ ↔ ¬ ∀ c ∈ name.toList, c = '_' := not_congr nothing
    _ ↔ ∃ c ∈ name.toList, c ≠ '_' := by simp

end Prefixes

namespace RecordName

theorem storage_of_refers {prefixes : Prefixes} {token name : String}
    (denotes : Denotes token name) {fieldName : String} {depth : Nat} {field : FieldBinding}
    (bound : (FieldBinding.ofDeclaration prefixes
      ⟨fieldName, (Shape.record token).inLists depth⟩).result = .ok field) :
    field.storage = Shape.vectors depth (prefixes.className name) := by
  obtain ⟨named, _⟩ := FieldBinding.ofDeclaration_eq_ok_iff.mp bound
  obtain ⟨other, otherBound, _, storage⟩ :=
    EntityBinding.exists_reference prefixes denotes named depth
  rw [bound] at otherBound
  cases otherBound
  exact storage

/-- A token that is refused is refused as a token of no record. The class of a record is longer
    than its prefix exactly when its name has more than underscores in it, and it is the class of
    every field that refers to the record, inside the lists of the field, and of its entity. -/
theorem className_longer_iff (prefixes : Prefixes) (token : String) :
    (∀ error, (ofToken prefixes token).result = .error error →
      ∃ reason, error = .invalidRecordToken token reason) ∧
    ∀ record, (ofToken prefixes token).result = .ok record →
      (prefixes.record.length < record.className.length ↔ ∃ c ∈ record.name.toList, c ≠ '_') ∧
      (∀ fieldName depth field, (FieldBinding.ofDeclaration prefixes
          ⟨fieldName, (Shape.record token).inLists depth⟩).result = .ok field →
        field.storage = Shape.vectors depth record.className) ∧
      ∀ declarations entity,
        (EntityBinding.ofDeclarations prefixes token declarations).result = .ok entity →
          entity.className = record.className := by
  constructor
  · intro error failed
    cases ofToken_eq_error_iff.mp failed with
    | blank => exact ⟨_, rfl⟩
    | nameless => exact ⟨_, rfl⟩
  · intro record resolved
    obtain ⟨denotes, classNamed, _⟩ := ofToken_eq_ok_iff.mp resolved
    rw [classNamed]
    refine ⟨prefixes.record_length_lt_className_iff record.name, ?_, ?_⟩
    · intro fieldName depth field bound
      exact storage_of_refers denotes bound
    · intro declarations entity bound
      obtain ⟨name, draft, named, _, _, rfl⟩ := EntityBinding.ofDeclarations_eq_ok bound
      rw [denotes.name_unique named]
      rfl

/-- Names of underscores are accepted, and their classes are the prefix, even an empty one. -/
theorem underscores_have_bare_class :
    (ofToken .standard "_").result = .ok ⟨"Swm", "_", false⟩ ∧
      (ofToken (Prefixes.standard.set .record "") "#__{}").result = .ok ⟨"", "__", true⟩ ∧
      (EntityBinding.resolve "_" []).result.map EntityBinding.className = .ok "Swm" := by
  decide +kernel

end RecordName
end StubNames
