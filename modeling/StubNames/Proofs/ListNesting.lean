import StubNames.Proofs.FieldBinding

/-!
Lists at every depth. A field of lists is refused as the field of what stands inside them is, and
otherwise differs from it only in what it stores, in its printer and in being a list
(`FieldBinding.Nests`, `FieldBinding.ofDeclaration_inLists`). No type of the registry is stored in
a vector, so the vectors around a storage type can be counted and taken away again
(`Shape.vectors_inj`). From what a field of lists of a registered type stores, its depth and the
storage of the type can therefore be told.
-/
namespace StubNames

namespace Shape

theorem printer_listedTo (depth : Nat) (member : Representation) :
    (listedTo depth member).printer = if depth = 0 then member.printer else .eterm := by
  cases depth <;> rfl

theorem isList_inLists_iff {base : Shape} (single : base.isList = false) (depth : Nat) :
    (base.inLists depth).isList = true ↔ 1 ≤ depth := by
  cases depth with
  | zero => simp [inLists, single]
  | succ depth => simp [inLists, isList]

/-! ### Vectors taken away -/

/-- Whether a storage type begins as a vector does. -/
def isVector (storage : String) : Bool := "std::vector<".toList.isPrefixOf storage.toList

theorem isVector_vectors (depth : Nat) (storage : String) :
    isVector (vectors (depth + 1) storage) = true := by
  rw [isVector, List.isPrefixOf_iff_prefix, vectors, String.append_assoc, String.toList_append]
  exact List.prefix_append _ _

/-- Storage types that are no vectors can be told from any number of vectors of them. -/
theorem vectors_inj {left right : String} (leftPlain : isVector left = false)
    (rightPlain : isVector right = false) {depth other : Nat} :
    vectors depth left = vectors other right ↔ depth = other ∧ left = right := by
  constructor
  · intro same
    induction depth generalizing other with
    | zero =>
      cases other with
      | zero => exact ⟨rfl, same⟩
      | succ other =>
        rw [vectors] at same
        rw [same, isVector_vectors] at leftPlain
        cases leftPlain
    | succ depth ih =>
      cases other with
      | zero =>
        have nested : vectors (depth + 1) left = right := same
        rw [← nested, isVector_vectors] at rightPlain
        cases rightPlain
      | succ other =>
        rw [vectors, vectors, String.append_left_inj, String.append_right_inj] at same
        obtain ⟨rfl, inner⟩ := ih same
        exact ⟨rfl, inner⟩
  · rintro ⟨rfl, rfl⟩
    rfl

end Shape

theorem Descriptor.isVector_storage (type : Descriptor) :
    Shape.isVector type.entry.storage = false := by
  cases type <;> decide

/-- A registered type is found with its entry. -/
theorem Registry.exists_of_lookup {descriptor : String} {entry : Entry}
    (registered : lookup descriptor = .ok entry) :
    ∃ type : Descriptor, find? descriptor = some type ∧ type.entry = entry := by
  rw [lookup] at registered
  cases found : find? descriptor with
  | none => rw [found] at registered; cases registered
  | some type =>
    rw [found] at registered
    cases registered
    exact ⟨type, rfl, rfl⟩

namespace FieldBinding

/-- A field of a number of lists, after the field of what stands inside them. -/
structure Nests (depth : Nat) (inner nested : FieldBinding) : Prop where
  name : nested.name = inner.name
  getter : nested.getter = inner.getter
  setter : nested.setter = inner.setter
  decoder : nested.decoder = inner.decoder
  storage : nested.storage = Shape.vectors depth inner.storage
  printer : nested.printer = if depth = 0 then inner.printer else .eterm
  isList : nested.isList = true ↔ 1 ≤ depth

variable (prefixes : Prefixes)

/-- A field of lists is refused exactly as the field of what stands inside them. -/
theorem ofDeclaration_inLists_eq_error_iff (name : String) (base : Shape) (depth : Nat)
    (error : NamingError) :
    (ofDeclaration prefixes ⟨name, base.inLists depth⟩).result = .error error ↔
      (ofDeclaration prefixes ⟨name, base⟩).result = .error error := by
  have sameName (shape : Shape) : (⟨name, shape⟩ : Declaration).fieldName = Text.trim name := rfl
  by_cases blank : Text.trim name = ""
  · rw [result_ofDeclaration_of_blank prefixes ((sameName _).trans blank),
      result_ofDeclaration_of_blank prefixes ((sameName _).trans blank)]
  · rw [result_ofDeclaration_of_named prefixes (sameName _ ▸ blank),
      result_ofDeclaration_of_named prefixes (sameName _ ▸ blank), Resolution.map_eq_error_iff,
      Resolution.map_eq_error_iff, Shape.result_represent_inLists, Resolution.map_eq_error_iff]

theorem exists_nests {name : String} {base : Shape} (single : base.isList = false) (depth : Nat)
    {inner : FieldBinding} (bound : (ofDeclaration prefixes ⟨name, base⟩).result = .ok inner) :
    ∃ nested, (ofDeclaration prefixes ⟨name, base.inLists depth⟩).result = .ok nested ∧
      Nests depth inner nested := by
  obtain ⟨named, member, represented, rfl⟩ := ofDeclaration_eq_ok_iff.mp bound
  have nestedRepresented : ((base.inLists depth).represent prefixes).result =
      .ok (Shape.listedTo depth member) := by
    rw [Shape.result_represent_inLists, represented]
    rfl
  refine ⟨_, ofDeclaration_eq_ok_iff.mpr ⟨named, _, nestedRepresented, rfl⟩, rfl, rfl, rfl, ?_, ?_,
    ?_, Shape.isList_inLists_iff single depth⟩
  · exact Shape.decoder_listedTo depth member
  · exact Shape.storage_listedTo depth member
  · exact Shape.printer_listedTo depth member

/-- A named field of lists of a registered type is bound, and stores vectors of its storage. -/
theorem exists_storage_of_lookup {name : String} (named : Text.trim name ≠ "")
    {descriptor : String} {entry : Entry} (registered : Registry.lookup descriptor = .ok entry)
    (depth : Nat) :
    ∃ field, (ofDeclaration prefixes ⟨name, (Shape.scalar descriptor).inLists depth⟩).result =
        .ok field ∧ field.storage = Shape.vectors depth entry.storage := by
  obtain ⟨type, found, rfl⟩ := Registry.exists_of_lookup registered
  have represented := Shape.result_represent_of_find? prefixes found
  have bound : (ofDeclaration prefixes ⟨name, .scalar descriptor⟩).result = .ok _ :=
    ofDeclaration_eq_ok_iff.mpr ⟨named, _, represented, rfl⟩
  obtain ⟨nested, nestedBound, nests⟩ := exists_nests prefixes rfl depth bound
  exact ⟨nested, nestedBound, nests.storage⟩

/-- A field of lists, at every depth, is refused exactly as the field of the scalar, the tuple or
    the record inside them is, with the same error, and otherwise has its names and its decoder,
    stores as many vectors, is printed as a term wherever there is a list and is a list exactly
    there. Two fields of lists of registered types store the same exactly when the lists are equally
    deep and the types are stored alike. -/
theorem ofDeclaration_inLists :
    (∀ (name : String) (base : Shape) (depth : Nat), base.isList = false →
      (∀ error, (ofDeclaration prefixes ⟨name, base.inLists depth⟩).result = .error error ↔
        (ofDeclaration prefixes ⟨name, base⟩).result = .error error) ∧
      ∀ inner, (ofDeclaration prefixes ⟨name, base⟩).result = .ok inner →
        ∃ nested, (ofDeclaration prefixes ⟨name, base.inLists depth⟩).result = .ok nested ∧
          Nests depth inner nested) ∧
    ∀ (leftName rightName left right : String) (leftEntry rightEntry : Entry)
      (leftDepth rightDepth : Nat), Text.trim leftName ≠ "" → Text.trim rightName ≠ "" →
      Registry.lookup left = .ok leftEntry → Registry.lookup right = .ok rightEntry →
      ∃ leftField rightField,
        (ofDeclaration prefixes ⟨leftName, (Shape.scalar left).inLists leftDepth⟩).result =
          .ok leftField ∧
        (ofDeclaration prefixes ⟨rightName, (Shape.scalar right).inLists rightDepth⟩).result =
          .ok rightField ∧
        (leftField.storage = rightField.storage ↔
          leftDepth = rightDepth ∧ leftEntry.storage = rightEntry.storage) := by
  constructor
  · intro name base depth single
    exact ⟨ofDeclaration_inLists_eq_error_iff prefixes name base depth,
      fun inner bound => exists_nests prefixes single depth bound⟩
  · intro leftName rightName left right leftEntry rightEntry leftDepth rightDepth leftNamed
      rightNamed leftRegistered rightRegistered
    obtain ⟨leftField, leftBound, leftStorage⟩ :=
      exists_storage_of_lookup prefixes leftNamed leftRegistered leftDepth
    obtain ⟨rightField, rightBound, rightStorage⟩ :=
      exists_storage_of_lookup prefixes rightNamed rightRegistered rightDepth
    refine ⟨leftField, rightField, leftBound, rightBound, ?_⟩
    obtain ⟨leftType, _, rfl⟩ := Registry.exists_of_lookup leftRegistered
    obtain ⟨rightType, _, rfl⟩ := Registry.exists_of_lookup rightRegistered
    rw [leftStorage, rightStorage]
    exact Shape.vectors_inj leftType.isVector_storage rightType.isVector_storage

/-- Three lists of pairs, and lists of two integers that are stored alike but for their names. -/
theorem ofDeclaration_inLists_pairs :
    ∃ pairs ids numbers,
      (ofDeclaration .standard ⟨" pairs", (Shape.tuple ["atom()", "string()"]).inLists 3⟩).result =
        .ok pairs ∧
      pairs.storage = "std::vector<std::vector<std::vector<SwmTupleAtomStr>>>" ∧
      pairs.decoder = "ei_buffer_to_tuple_atom_str" ∧ pairs.isList = true ∧
      (ofDeclaration .standard ⟨"ids", (Shape.scalar "relocation_id()").inLists 2⟩).result =
        .ok ids ∧
      (ofDeclaration .standard ⟨"numbers", (Shape.scalar " pos_integer()").inLists 2⟩).result =
        .ok numbers ∧
      ids.storage ≠ numbers.storage := by
  obtain ⟨nesting, scalars⟩ := ofDeclaration_inLists .standard
  have inner : (ofDeclaration .standard ⟨" pairs", .tuple ["atom()", "string()"]⟩).result =
      .ok ⟨"pairs", "SwmTupleAtomStr", "ei_buffer_to_tuple_atom_str", .eterm, "get_pairs",
        "set_pairs", false⟩ := rfl
  obtain ⟨_, bound⟩ := nesting " pairs" (.tuple ["atom()", "string()"]) 3 rfl
  obtain ⟨pairs, pairsBound, nests⟩ := bound _ inner
  obtain ⟨ids, numbers, idsBound, numbersBound, same⟩ :=
    scalars "ids" "numbers" "relocation_id()" " pos_integer()" _ _ 2 2 (by decide +kernel)
      (by decide +kernel) rfl rfl
  refine ⟨pairs, ids, numbers, pairsBound, nests.storage, nests.decoder,
    nests.isList.mpr (by decide), idsBound, numbersBound, ?_⟩
  rw [Ne, same]
  decide

end FieldBinding
end StubNames
