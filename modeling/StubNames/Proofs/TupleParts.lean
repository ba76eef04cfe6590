import StubNames.Proofs.StructName

/-!
Tuples named part by part. The kind and the struct name of two signatures written one after the
other are those of the first followed by those of the second (`kindText_append`,
`structText_append`), because a component adds the same word wherever it stands. The word is the
capitalized suffix of the component, and the component itself stands for its suffix where it
denotes no type. Casing keeps the number of characters, so a word is left out exactly where the
suffix has a single one (`structPart_eq_empty_iff`), which no type has (`names_part_by_part`).
-/
namespace StubNames

theorem Descriptor.one_lt_length_token (type : Descriptor) : 1 < type.token.length := by
  cases type <;> decide

theorem Descriptor.one_lt_length_suffix (type : Descriptor) : 1 < type.entry.suffix.length := by
  cases type <;> decide

namespace Signature

/-! ### Signatures one after the other -/

theorem kindText_append (left right : List String) :
    kindText (left ++ right) = kindText left ++ kindText right := by
  simp [kindText]

theorem structText_append (left right : List String) :
    structText (left ++ right) = structText left ++ structText right := by
  simp [structText]

/-- A struct name is the words of all components, one after the other. -/
theorem structText_eq_ofList (signature : Signature) :
    structText (signature.map Text.trim) = String.ofList (signature.flatMap structWord) := by
  rw [← String.toList_inj, toList_structText, String.toList_ofList, List.flatMap_def]

/-! ### What one component adds -/

theorem structPart_of_long {suffix : String} (long : 1 < suffix.length) :
    structPart suffix = Text.capitalizeWords suffix := by
  simp [structPart, long]

theorem structPart_eq_empty_iff {suffix : String} : structPart suffix = "" ↔ suffix.length ≤ 1 := by
  by_cases long : 1 < suffix.length
  · have kept : (Text.capitalizeWords suffix).length ≠ 0 := by
      rw [Text.length_capitalizeWords]
      omega
    rw [structPart_of_long long]
    constructor
    · intro empty
      simp [empty] at kept
    · intro short
      omega
  · simp only [structPart, Text.length_capitalizeWords, if_neg long, true_iff]
    omega

section
variable {descriptor : String}

theorem suffixText_trim (descriptor : String) :
    suffixText (Text.trim descriptor) =
      (Registry.suffix? descriptor).getD (Text.trim descriptor) := by
  rw [suffixText, Registry.suffix?_trim]

theorem length_trim_ne_zero (inked : Text.trim descriptor ≠ "") :
    (Text.trim descriptor).length ≠ 0 := by
  simpa using inked

/-- A type adds its capitalized suffix, and its token is longer than one character. -/
theorem structWord_of_registered {suffix : String}
    (registered : Registry.suffix? descriptor = some suffix) :
    structWord descriptor = (Text.capitalizeWords suffix).toList ∧
      (Text.trim descriptor).length ≠ 1 := by
  obtain ⟨type, found, rfl⟩ := Option.map_eq_some_iff.mp registered
  constructor
  · rw [structWord, suffixText_trim, registered, Option.getD_some,
      structPart_of_long type.one_lt_length_suffix]
  · have long := type.one_lt_length_token
    rw [Registry.find?_eq_some_iff.mp found]
    omega

/-- A descriptor that denotes no type is capitalized itself. -/
theorem structWord_of_unknown (inked : Text.trim descriptor ≠ "")
    (unknown : Registry.suffix? descriptor = none) (several : (Text.trim descriptor).length ≠ 1) :
    structWord descriptor = (Text.capitalizeWords (Text.trim descriptor)).toList := by
  have nonzero := length_trim_ne_zero inked
  have long : 1 < (Text.trim descriptor).length := by omega
  rw [structWord, suffixText_trim, unknown, Option.getD_none, structPart_of_long long]

/-- A component adds nothing exactly when it is a single character. -/
theorem structWord_eq_nil_iff (inked : Text.trim descriptor ≠ "") :
    structWord descriptor = [] ↔ (Text.trim descriptor).length = 1 := by
  rw [structWord, String.toList_eq_nil_iff, structPart_eq_empty_iff, suffixText_trim]
  cases registered : Registry.suffix? descriptor with
  | some suffix =>
    obtain ⟨type, found, rfl⟩ := Option.map_eq_some_iff.mp registered
    have longSuffix := type.one_lt_length_suffix
    have longToken := type.one_lt_length_token
    rw [Registry.find?_eq_some_iff.mp found, Option.getD_some]
    omega
  | none =>
    have nonzero := length_trim_ne_zero inked
    rw [Option.getD_none]
    omega

end

/-! ### Names of signatures -/

/-- Two signatures that can be named, written one after the other, have their kinds and their struct
    names one after the other, behind a single prefix. The struct name of a signature is made of
    the words of its components, whatever stands beside them: of the capitalized suffix of a type,
    and of any other descriptor itself in capitalized words. A component adds nothing exactly when
    it is a single character, as no type is. -/
theorem names_part_by_part (prefixes : Prefixes) :
    (∀ left right : Signature, left.Nameable → right.Nameable →
      ∃ leftKind rightKind leftName rightName,
        (kind left).result = .ok leftKind ∧ (kind right).result = .ok rightKind ∧
        (kind (left ++ right)).result = .ok (leftKind ++ rightKind) ∧
        (structName prefixes left).result = .ok (prefixes.tuple ++ leftName) ∧
        (structName prefixes right).result = .ok (prefixes.tuple ++ rightName) ∧
        (structName prefixes (left ++ right)).result =
          .ok (prefixes.tuple ++ leftName ++ rightName)) ∧
    (∀ signature : Signature, signature.Nameable →
      (structName prefixes signature).result =
        .ok (prefixes.tuple ++ String.ofList (signature.flatMap structWord))) ∧
    ∀ descriptor, Text.trim descriptor ≠ "" →
      (∀ suffix, Registry.suffix? descriptor = some suffix →
        structWord descriptor = (Text.capitalizeWords suffix).toList ∧
          (Text.trim descriptor).length ≠ 1) ∧
      (Registry.suffix? descriptor = none → (Text.trim descriptor).length ≠ 1 →
        structWord descriptor = (Text.capitalizeWords (Text.trim descriptor)).toList) ∧
      (structWord descriptor = [] ↔ (Text.trim descriptor).length = 1) := by
  refine ⟨?_, ?_, ?_⟩
  · intro left right leftNameable rightNameable
    have both := leftNameable.append rightNameable
    refine ⟨_, _, _, _, leftNameable.result_kind, rightNameable.result_kind, ?_,
      leftNameable.result_structName prefixes, rightNameable.result_structName prefixes, ?_⟩
    · rw [both.result_kind, List.map_append, kindText_append]
    · rw [both.result_structName prefixes, List.map_append, structText_append, String.append_assoc]
  · intro signature nameable
    rw [nameable.result_structName prefixes, structText_eq_ofList]
  · intro descriptor inked
    exact ⟨fun suffix => structWord_of_registered, structWord_of_unknown inked,
      structWord_eq_nil_iff inked⟩

/-- A letter beyond ASCII adds nothing before an atom, and two letters add theirs before a job. -/
theorem names_part_by_part_letters :
    (∃ leftName rightName,
      (structName .standard ["é", " atom()"]).result = .ok ("SwmTuple" ++ leftName) ∧
      (structName .standard ["éa\n", "job_id()"]).result = .ok ("SwmTuple" ++ rightName) ∧
      (structName .standard ["é", " atom()", "éa\n", "job_id()"]).result =
        .ok ("SwmTuple" ++ leftName ++ rightName)) ∧
    structWord "é" = [] ∧ structWord "éa\n" = "Éa".toList := by
  obtain ⟨together, _, alone⟩ := names_part_by_part .standard
  have left : Nameable ["é", " atom()"] := ⟨by decide, by decide +kernel⟩
  have right : Nameable ["éa\n", "job_id()"] := ⟨by decide, by decide +kernel⟩
  obtain ⟨_, _, leftName, rightName, _, _, _, leftNamed, rightNamed, named⟩ :=
    together _ _ left right
  obtain ⟨_, _, single⟩ := alone "é" (by decide +kernel)
  obtain ⟨_, verbatim, _⟩ := alone "éa\n" (by decide +kernel)
  refine ⟨⟨leftName, rightName, leftNamed, rightNamed, named⟩, single.mpr (by decide +kernel), ?_⟩
  rw [verbatim (by decide +kernel) (by decide +kernel)]
  decide +kernel

end Signature
end StubNames
