import StubNames.Proofs.PrefixCode
import StubNames.Proofs.Signature

/-!
Which tuples share a struct. The name of a struct is a sequence of words without separators, one
for each component (`toList_structText`). The words of the types are a prefix code
(`structWords_prefixCode`) and tell their suffixes apart, so that the suffixes can be read off
the name: two signatures whose descriptors all denote types have the same struct exactly when
their components have the same suffixes, one by one (`structName_eq_iff_suffixes`).
-/
namespace StubNames.Signature

/-- The word that a descriptor adds to struct names. -/
def structWord (descriptor : String) : List Char :=
  (structPart (suffixText (Text.trim descriptor))).toList

theorem toList_structText (signature : Signature) :
    (structText (signature.map Text.trim)).toList = (signature.map structWord).flatten := by
  induction signature with
  | nil => rfl
  | cons descriptor rest ih =>
    simp only [structText, String.toList_join] at ih ⊢
    simp only [List.map_cons, List.flatMap_cons, List.flatten_cons, ih]
    rfl

/-! ### The words of types -/

/-- The words of the suffixes of all types. -/
def structWords : List (List Char) :=
  Descriptor.all.map fun type => (structPart type.entry.suffix).toList

/-- The suffixes of all types, each once. -/
def typeSuffixes : List String := ["atom", "double", "eterm", "int64_t", "str", "uint64_t"]

theorem suffix_mem_typeSuffixes (type : Descriptor) : type.entry.suffix ∈ typeSuffixes := by
  cases type <;> decide

/-- No word of a suffix is empty or begins the word of another, and each has the letters of its
    suffix. -/
private theorem typeSuffixes_table :
    Text.PrefixCode (typeSuffixes.map fun suffix => (structPart suffix).toList) ∧
      ∀ suffix ∈ typeSuffixes,
        (structPart suffix).toList.map Char.toLower = suffix.toList := by decide +kernel

/-- No word of a type is empty or begins the word of another. -/
theorem structWords_prefixCode : Text.PrefixCode structWords := by
  refine typeSuffixes_table.1.of_subset ?_
  rw [structWords, List.forall_mem_map]
  intro type _
  exact List.mem_map_of_mem (suffix_mem_typeSuffixes type)

private theorem suffix_eq_of_word_eq {left right : Descriptor}
    (same : structPart left.entry.suffix = structPart right.entry.suffix) :
    left.entry.suffix = right.entry.suffix := by
  have lowered := typeSuffixes_table.2
  rw [← String.toList_inj, ← lowered _ (suffix_mem_typeSuffixes left), same,
    lowered _ (suffix_mem_typeSuffixes right)]

/-- A descriptor that denotes a type has the suffix of the type and adds the word of it. -/
theorem exists_type_of_contains {descriptor : String}
    (registered : Registry.contains descriptor = true) :
    ∃ type : Descriptor, Registry.suffix? descriptor = some type.entry.suffix ∧
      structWord descriptor = (structPart type.entry.suffix).toList := by
  obtain ⟨type, found⟩ := Option.isSome_iff_exists.mp registered
  have trimmed : Registry.find? (Text.trim descriptor) = some type := by
    rw [Registry.find?_trim, found]
  refine ⟨type, by rw [Registry.suffix?, found]; rfl, ?_⟩
  rw [structWord, suffixText, Registry.suffix?, trimmed]
  rfl

theorem structWord_mem {descriptor : String}
    (registered : Registry.contains descriptor = true) : structWord descriptor ∈ structWords := by
  obtain ⟨type, _, word⟩ := exists_type_of_contains registered
  rw [word]
  exact List.mem_map_of_mem (Descriptor.mem_all type)

/-- Descriptors of types add the same word exactly when they have the same suffix. -/
theorem structWord_eq_iff {left right : String} (leftRegistered : Registry.contains left = true)
    (rightRegistered : Registry.contains right = true) :
    structWord left = structWord right ↔ Registry.suffix? left = Registry.suffix? right := by
  obtain ⟨leftType, leftSuffix, leftWord⟩ := exists_type_of_contains leftRegistered
  obtain ⟨rightType, rightSuffix, rightWord⟩ := exists_type_of_contains rightRegistered
  rw [leftSuffix, rightSuffix, leftWord, rightWord, Option.some.injEq, String.toList_inj]
  exact ⟨suffix_eq_of_word_eq, congrArg structPart⟩

/-! ### Signatures of types -/

theorem structName_of_contains (prefixes : Prefixes) {signature : Signature}
    (nonempty : signature ≠ [])
    (registered : ∀ descriptor ∈ signature, Registry.contains descriptor = true) :
    (structName prefixes signature).result =
      .ok (prefixes.tuple ++ structText (signature.map Text.trim)) := by
  have inked : ∀ descriptor ∈ signature, Text.trim descriptor ≠ "" := by
    intro descriptor member
    obtain ⟨type, found⟩ := Option.isSome_iff_exists.mp (registered descriptor member)
    rw [Registry.find?_eq_some_iff.mp found]
    cases type <;> decide
  exact Nameable.result_structName prefixes ⟨nonempty, inked⟩

/-- Two signatures of types always have struct names, and these are equal exactly when the
    signatures are equally long and their components have the same suffix at every position. -/
theorem structName_eq_iff_suffixes (prefixes : Prefixes) (left right : Signature)
    (leftNonempty : left ≠ []) (rightNonempty : right ≠ [])
    (leftRegistered : ∀ descriptor ∈ left, Registry.contains descriptor = true)
    (rightRegistered : ∀ descriptor ∈ right, Registry.contains descriptor = true) :
    ∃ leftName rightName,
      (structName prefixes left).result = .ok leftName ∧
      (structName prefixes right).result = .ok rightName ∧
      (leftName = rightName ↔ left.length = right.length ∧
        ∀ position (inLeft : position < left.length) (inRight : position < right.length),
          Registry.suffix? left[position] = Registry.suffix? right[position]) := by
  refine ⟨_, _, structName_of_contains prefixes leftNonempty leftRegistered,
    structName_of_contains prefixes rightNonempty rightRegistered, ?_⟩
  have areWords {signature : Signature}
      (registered : ∀ descriptor ∈ signature, Registry.contains descriptor = true) :
      ∀ word ∈ signature.map structWord, word ∈ structWords := by
    intro word member
    obtain ⟨descriptor, inside, rfl⟩ := List.mem_map.mp member
    exact structWord_mem (registered descriptor inside)
  have decoded : (left.map structWord).flatten = (right.map structWord).flatten ↔
      left.map structWord = right.map structWord :=
    ⟨structWords_prefixCode.uniquelyDecodable _ _ (areWords leftRegistered)
      (areWords rightRegistered), congrArg List.flatten⟩
  rw [String.append_right_inj, ← String.toList_inj, toList_structText, toList_structText, decoded,
    List.ext_getElem_iff]
  simp only [List.length_map, List.getElem_map]
  refine and_congr_right fun _ => forall_congr' fun position => forall₂_congr fun inLeft inRight => ?_
  exact structWord_eq_iff (leftRegistered _ (List.getElem_mem inLeft))
    (rightRegistered _ (List.getElem_mem inRight))

/-- An identifier of a relocation and a job have the struct of a positive integer and a text. -/
theorem structName_relocation_job :
    (structName .standard [" relocation_id()", "job_id()"]).result =
      (structName .standard ["pos_integer()", "string()\n"]).result := by
  obtain ⟨leftName, rightName, leftNamed, rightNamed, same⟩ :=
    structName_eq_iff_suffixes .standard [" relocation_id()", "job_id()"]
      ["pos_integer()", "string()\n"] (by decide) (by decide) (by decide +kernel)
      (by decide +kernel)
  rw [leftNamed, rightNamed, same.mpr (by decide +kernel)]

end StubNames.Signature
