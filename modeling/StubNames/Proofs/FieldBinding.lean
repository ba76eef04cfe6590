import StubNames.FieldBinding
import StubNames.Proofs.RecordToken
import StubNames.Proofs.Signature

/-!
Which fields are refused, and why. A shape is refused for what stands inside all its lists
(`Shape.Refused`, `Shape.represent_eq_error_iff`), and a field for a blank name or else for its
shape (`Declaration.Refused`, `FieldBinding.ofDeclaration_eq_error_iff`). No prefix has a part in
it. A list changes the storage and the printer of its members and keeps their decoder
(`Shape.result_represent_list`).
-/
namespace StubNames

/-! ### Shapes -/

namespace Shape

/-- Why a shape is refused: the scalar inside its lists denotes no type, or its tuple or its
    record is refused. -/
inductive Refused : Shape → NamingError → Prop
  | scalar {descriptor : String} (unknown : ∀ type : Descriptor, Text.trim descriptor ≠ type.token) :
      Refused (.scalar descriptor) (.registry (.unknownType descriptor))
  | tuple {signature : Signature} {error : NamingError} (refused : signature.Refused error) :
      Refused (.tuple signature) error
  | record {token : String} {error : NamingError} (refused : RecordName.Refused token error) :
      Refused (.record token) error
  | list {inner : Shape} {error : NamingError} (refused : Refused inner error) :
      Refused (.list inner) error

/-- How the values of a list are stored, decoded and printed, after how its members are. -/
def listed (member : Representation) : Representation :=
  ⟨"std::vector<" ++ member.storage ++ ">", member.decoder, .eterm⟩

theorem result_represent_list (prefixes : Prefixes) (inner : Shape) :
    ((Shape.list inner).represent prefixes).result =
      (inner.represent prefixes).result.map listed := by
  rw [represent]
  exact Resolution.result_bind_eq_map fun _ => rfl

/-- A storage type inside a number of vectors. -/
def vectors : Nat → String → String
  | 0, storage => storage
  | depth + 1, storage => "std::vector<" ++ vectors depth storage ++ ">"

/-- How the values of a number of lists are stored, decoded and printed, after how the members of
    the innermost are. -/
def listedTo : Nat → Representation → Representation
  | 0, member => member
  | depth + 1, member => listed (listedTo depth member)

@[simp] theorem storage_listedTo (depth : Nat) (member : Representation) :
    (listedTo depth member).storage = vectors depth member.storage := by
  induction depth with
  | zero => rfl
  | succ depth ih => rw [listedTo, listed, ih, vectors]

@[simp] theorem decoder_listedTo (depth : Nat) (member : Representation) :
    (listedTo depth member).decoder = member.decoder := by
  induction depth with
  | zero => rfl
  | succ depth ih => rw [listedTo, listed, ih]

theorem result_represent_inLists (prefixes : Prefixes) (depth : Nat) (shape : Shape) :
    ((shape.inLists depth).represent prefixes).result =
      (shape.represent prefixes).result.map (listedTo depth) := by
  induction depth with
  | zero =>
    rw [inLists]
    cases (shape.represent prefixes).result <;> rfl
  | succ depth ih =>
    rw [inLists, result_represent_list, ih]
    cases (shape.represent prefixes).result <;> rfl

theorem result_represent_scalar (prefixes : Prefixes) (descriptor : String) :
    ((Shape.scalar descriptor).represent prefixes).result =
      match Registry.find? descriptor with
      | some type => .ok ⟨type.entry.storage, prefixes.decoderName type.entry.suffix,
          type.entry.printer⟩
      | none => .error (.registry (.unknownType descriptor)) := by
  rw [represent, Registry.lookup]
  cases Registry.find? descriptor <;> rfl

/-- A scalar that denotes a type is stored, decoded and printed as the entry of the type says. -/
theorem result_represent_of_find? (prefixes : Prefixes) {descriptor : String} {type : Descriptor}
    (found : Registry.find? descriptor = some type) :
    ((Shape.scalar descriptor).represent prefixes).result =
      .ok ⟨type.entry.storage, prefixes.decoderName type.entry.suffix, type.entry.printer⟩ := by
  rw [result_represent_scalar, found]

theorem result_represent_tuple (prefixes : Prefixes) (signature : Signature) :
    ((Shape.tuple signature).represent prefixes).result =
      (TupleName.ofSignature prefixes signature).result.map fun tuple =>
        ⟨tuple.structName, prefixes.decoderName ("tuple" ++ tuple.kind), .eterm⟩ := by
  rw [represent]
  exact Resolution.result_bind_eq_map fun _ => rfl

theorem result_represent_record (prefixes : Prefixes) (token : String) :
    ((Shape.record token).represent prefixes).result =
      (RecordName.ofToken prefixes token).result.map fun record =>
        ⟨record.className, prefixes.decoderName record.name, .eterm⟩ := by
  rw [represent]
  exact Resolution.result_bind_eq_map fun _ => rfl

/-- The shapes that are refused, each with its one reason, under all prefixes alike. -/
theorem represent_eq_error_iff {prefixes : Prefixes} {shape : Shape} {error : NamingError} :
    (shape.represent prefixes).result = .error error ↔ shape.Refused error := by
  induction shape with
  | scalar descriptor =>
    rw [result_represent_scalar]
    constructor
    · intro failed
      cases outcome : Registry.find? descriptor with
      | some type => rw [outcome] at failed; cases failed
      | none =>
        rw [outcome] at failed
        cases failed
        refine .scalar fun type same => ?_
        rw [Registry.find?_eq_some_iff.mpr same] at outcome
        cases outcome
    · rintro ⟨unknown⟩
      cases outcome : Registry.find? descriptor with
      | some type => exact absurd (Registry.find?_eq_some_iff.mp outcome) (unknown type)
      | none => rfl
  | list inner ih =>
    rw [result_represent_list, Resolution.map_eq_error_iff, ih]
    exact ⟨.list, fun refused => by cases refused with | list refused => exact refused⟩
  | tuple signature =>
    rw [result_represent_tuple, Resolution.map_eq_error_iff, TupleName.ofSignature_eq_error_iff]
    exact ⟨.tuple, fun refused => by cases refused with | tuple refused => exact refused⟩
  | record token =>
    rw [result_represent_record, Resolution.map_eq_error_iff, RecordName.ofToken_eq_error_iff]
    exact ⟨.record, fun refused => by cases refused with | record refused => exact refused⟩

end Shape

/-! ### Declarations -/

namespace Declaration

/-- The name of the field that is declared. -/
def fieldName (declaration : Declaration) : String := Text.trim declaration.name

/-- Why a declaration is refused by itself: its name is blank, or it is not and its shape is
    refused. -/
inductive Refused (declaration : Declaration) : NamingError → Prop
  | blank (blank : declaration.fieldName = "") : Refused declaration .blankFieldName
  | shape {error : NamingError} (named : declaration.fieldName ≠ "")
      (refused : declaration.shape.Refused error) : Refused declaration error

end Declaration

namespace FieldBinding

/-- The binding of a declared field whose shape is represented as given. -/
def ofRepresentation (declaration : Declaration) (representation : Representation) :
    FieldBinding where
  name := declaration.fieldName
  storage := representation.storage
  decoder := representation.decoder
  printer := representation.printer
  getter := "get_" ++ declaration.fieldName
  setter := "set_" ++ declaration.fieldName
  isList := declaration.shape.isList

theorem result_ofDeclaration_of_blank (prefixes : Prefixes) {declaration : Declaration}
    (blank : declaration.fieldName = "") :
    (ofDeclaration prefixes declaration).result = .error .blankFieldName := by
  rw [ofDeclaration, if_pos ((Text.trim_eq_empty_iff _).mp blank)]
  rfl

/-- A field with a name has the outcome of its shape. -/
theorem result_ofDeclaration_of_named (prefixes : Prefixes) {declaration : Declaration}
    (named : declaration.fieldName ≠ "") :
    (ofDeclaration prefixes declaration).result =
      (declaration.shape.represent prefixes).result.map (ofRepresentation declaration) := by
  rw [ofDeclaration, if_neg (mt (Text.trim_eq_empty_iff _).mpr named)]
  exact Resolution.result_bind_eq_map fun _ => rfl

/-- The declarations that are refused, each with its one reason, under all prefixes alike. -/
theorem ofDeclaration_eq_error_iff {prefixes : Prefixes} {declaration : Declaration}
    {error : NamingError} :
    (ofDeclaration prefixes declaration).result = .error error ↔ declaration.Refused error := by
  by_cases blank : declaration.fieldName = ""
  · rw [result_ofDeclaration_of_blank prefixes blank]
    constructor
    · intro failed
      cases failed
      exact .blank blank
    · intro refused
      cases refused with
      | blank => rfl
      | shape named => exact absurd blank named
  · rw [result_ofDeclaration_of_named prefixes blank, Resolution.map_eq_error_iff,
      Shape.represent_eq_error_iff]
    refine ⟨.shape blank, fun refused => ?_⟩
    cases refused with
    | blank none => exact absurd none blank
    | shape _ refused => exact refused

/-- The fields that are bound, each with the representation of its shape. -/
theorem ofDeclaration_eq_ok_iff {prefixes : Prefixes} {declaration : Declaration}
    {field : FieldBinding} :
    (ofDeclaration prefixes declaration).result = .ok field ↔
      declaration.fieldName ≠ "" ∧ ∃ representation,
        (declaration.shape.represent prefixes).result = .ok representation ∧
          field = ofRepresentation declaration representation := by
  by_cases blank : declaration.fieldName = ""
  · simp [result_ofDeclaration_of_blank prefixes blank, blank]
  · rw [result_ofDeclaration_of_named prefixes blank, Resolution.map_eq_ok_iff]
    simp only [ne_eq, blank, not_false_eq_true, true_and, eq_comm]

theorem name_of_ok {prefixes : Prefixes} {declaration : Declaration} {field : FieldBinding}
    (bound : (ofDeclaration prefixes declaration).result = .ok field) :
    field.name = declaration.fieldName := by
  obtain ⟨_, representation, _, rfl⟩ := ofDeclaration_eq_ok_iff.mp bound
  rfl

end FieldBinding
end StubNames
