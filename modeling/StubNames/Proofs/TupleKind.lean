import StubNames.Proofs.EventLog
import StubNames.Proofs.StructName

/-!
What the kind of a tuple tells. A kind is made of the components that are atoms, strings or
arbitrary terms and of no others, and each adds an underscore and its own suffix
(`kindText_eq_join`). The three fragments are a prefix code (`kindWords_prefixCode`), so that the
components that entered a kind can be read off it, and signatures of no others can be told from
their kinds as well as from their structs (`kind_eq_iff_components`).
-/
namespace StubNames.Signature

/-- The components that enter the kind of a tuple, without the blanks around them. -/
def kindComponents (signature : Signature) : List String :=
  (signature.map Text.trim).filter (· ∈ kindDescriptors)

/-! ### Fragments -/

/-- A descriptor that enters kinds adds an underscore and its suffix. -/
theorem exists_suffix_of_mem {descriptor : String} (enters : descriptor ∈ kindDescriptors) :
    ∃ suffix, Registry.suffix? descriptor = some suffix ∧ fragment descriptor = "_" ++ suffix := by
  rw [kindDescriptors, List.mem_cons, List.mem_cons, List.mem_singleton] at enters
  rcases enters with rfl | rfl | rfl
  · exact ⟨"atom", rfl, rfl⟩
  · exact ⟨"str", rfl, rfl⟩
  · exact ⟨"eterm", rfl, rfl⟩

/-- Any other descriptor adds nothing. -/
theorem fragment_of_not_mem {descriptor : String} (skipped : descriptor ∉ kindDescriptors) :
    fragment descriptor = "" := by
  rw [fragment, kindFragment_eq_none_iff.mpr skipped]
  rfl

/-- A kind is made of the fragments of the descriptors that enter it. -/
theorem kindText_eq_join (descriptors : List String) :
    kindText descriptors =
      String.join ((descriptors.filter (· ∈ kindDescriptors)).map fragment) := by
  rw [kindText]
  induction descriptors with
  | nil => rfl
  | cons descriptor rest ih =>
    rw [List.map_cons, String.join_cons, ih]
    by_cases enters : descriptor ∈ kindDescriptors
    · simp [enters]
    · simp [enters, fragment_of_not_mem enters]

/-- Descriptors that enter kinds have suffixes, and add these behind underscores. -/
theorem exists_suffixes {descriptors : List String}
    (enter : ∀ descriptor ∈ descriptors, descriptor ∈ kindDescriptors) :
    ∃ suffixes : List String, descriptors.map Registry.suffix? = suffixes.map some ∧
      descriptors.map fragment = suffixes.map ("_" ++ ·) := by
  induction descriptors with
  | nil => exact ⟨[], rfl, rfl⟩
  | cons descriptor rest ih =>
    rw [List.forall_mem_cons] at enter
    obtain ⟨suffix, found, added⟩ := exists_suffix_of_mem enter.1
    obtain ⟨suffixes, restFound, restAdded⟩ := ih enter.2
    refine ⟨suffix :: suffixes, ?_, ?_⟩
    · rw [List.map_cons, List.map_cons, found, restFound]
    · rw [List.map_cons, List.map_cons, added, restAdded]

/-! ### Reading kinds and structs -/

/-- The fragments of the descriptors that enter kinds. -/
def kindWords : List (List Char) := kindDescriptors.map fun descriptor => (fragment descriptor).toList

/-- No fragment is empty or begins another. -/
theorem kindWords_prefixCode : Text.PrefixCode kindWords := by
  decide +kernel

/-- The descriptors that entered a kind are read off it. -/
theorem kindText_inj {left right : List String} :
    kindText left = kindText right ↔
      left.filter (· ∈ kindDescriptors) = right.filter (· ∈ kindDescriptors) := by
  have enters {descriptors : List String} :
      ∀ descriptor ∈ descriptors.filter (· ∈ kindDescriptors), descriptor ∈ kindDescriptors := by
    intro descriptor member
    simpa using (List.mem_filter.mp member).2
  have words {descriptors : List String} :
      ∀ descriptor ∈ descriptors.filter (· ∈ kindDescriptors),
        (fragment descriptor).toList ∈ kindWords := by
    intro descriptor member
    exact List.mem_map_of_mem (enters descriptor member)
  have apart : ∀ a ∈ kindDescriptors, ∀ b ∈ kindDescriptors,
      (fragment a).toList = (fragment b).toList → a = b := by decide +kernel
  have spelled (descriptors : List String) : (kindText descriptors).toList =
      ((descriptors.filter (· ∈ kindDescriptors)).map fun d => (fragment d).toList).flatten := by
    rw [kindText_eq_join, String.toList_join, List.flatMap_map, List.flatMap_def]
  rw [← String.toList_inj, spelled, spelled]
  exact kindWords_prefixCode.flatten_map_inj words words fun a inLeft b inRight =>
    apart a (enters a inLeft) b (enters b inRight)

theorem contains_of_mem {descriptor : String} (enters : descriptor ∈ kindDescriptors) :
    Registry.contains descriptor = true := by
  obtain ⟨suffix, found, _⟩ := exists_suffix_of_mem enters
  obtain ⟨type, denoted, _⟩ := Option.map_eq_some_iff.mp found
  rw [Registry.contains, denoted]
  rfl

/-- Components that all enter kinds are read off the struct name too. -/
theorem structText_inj {left right : Signature}
    (leftEnters : ∀ descriptor ∈ left, Text.trim descriptor ∈ kindDescriptors)
    (rightEnters : ∀ descriptor ∈ right, Text.trim descriptor ∈ kindDescriptors) :
    structText (left.map Text.trim) = structText (right.map Text.trim) ↔
      left.map Text.trim = right.map Text.trim := by
  have words {signature : Signature}
      (enter : ∀ descriptor ∈ signature, Text.trim descriptor ∈ kindDescriptors) :
      ∀ descriptor ∈ signature.map Text.trim, structWord descriptor ∈ structWords := by
    rw [List.forall_mem_map]
    exact fun descriptor member => structWord_mem (contains_of_mem (enter descriptor member))
  have apart : ∀ a ∈ kindDescriptors, ∀ b ∈ kindDescriptors,
      structWord a = structWord b → a = b := by decide +kernel
  have trimmed (signature : Signature) :
      signature.map structWord = (signature.map Text.trim).map structWord := by
    rw [List.map_map]
    refine List.map_congr_left fun descriptor _ => ?_
    rw [Function.comp_apply, structWord, structWord, Text.trim_trim]
  rw [← String.toList_inj, toList_structText, toList_structText, trimmed left,
    trimmed right]
  refine structWords_prefixCode.flatten_map_inj (words leftEnters) (words rightEnters) ?_
  rw [List.forall_mem_map]
  intro a inLeft
  rw [List.forall_mem_map]
  intro b inRight
  exact apart _ (leftEnters a inLeft) _ (rightEnters b inRight)

/-! ### Signatures -/

/-- Two signatures that are not refused have kinds and struct names. A kind is made of an underscore
    and the suffix of each component that enters it, and two kinds are equal exactly when the same
    components entered them. Where all components enter, the kinds are equal exactly when the
    signatures are, blanks aside, and so are the struct names. -/
theorem kind_eq_iff_components (prefixes : Prefixes) (left right : Signature)
    (leftNonempty : left ≠ []) (rightNonempty : right ≠ [])
    (leftInked : ∀ descriptor ∈ left, Text.trim descriptor ≠ "")
    (rightInked : ∀ descriptor ∈ right, Text.trim descriptor ≠ "") :
    ∃ leftKind rightKind leftName rightName,
      (kind left).result = .ok leftKind ∧ (kind right).result = .ok rightKind ∧
      (structName prefixes left).result = .ok leftName ∧
      (structName prefixes right).result = .ok rightName ∧
      (∃ suffixes : List String, left.kindComponents.map Registry.suffix? = suffixes.map some ∧
        leftKind = String.join (suffixes.map ("_" ++ ·))) ∧
      (leftKind = rightKind ↔ left.kindComponents = right.kindComponents) ∧
      ((∀ descriptor ∈ left, Text.trim descriptor ∈ kindDescriptors) →
        (∀ descriptor ∈ right, Text.trim descriptor ∈ kindDescriptors) →
        (leftKind = rightKind ↔ left.map Text.trim = right.map Text.trim) ∧
        (leftName = rightName ↔ left.map Text.trim = right.map Text.trim)) := by
  have leftTrimmed := descriptors_eq_ok_iff.mpr ⟨leftNonempty, leftInked, rfl⟩
  have rightTrimmed := descriptors_eq_ok_iff.mpr ⟨rightNonempty, rightInked, rfl⟩
  refine ⟨kindText (left.map Text.trim), kindText (right.map Text.trim), _, _,
    by rw [result_kind, leftTrimmed]; rfl, by rw [result_kind, rightTrimmed]; rfl,
    by rw [result_structName, leftTrimmed]; rfl, by rw [result_structName, rightTrimmed]; rfl,
    ?_, kindText_inj, ?_⟩
  · have enter : ∀ descriptor ∈ left.kindComponents, descriptor ∈ kindDescriptors := by
      intro descriptor member
      simpa using (List.mem_filter.mp member).2
    obtain ⟨suffixes, found, added⟩ := exists_suffixes enter
    exact ⟨suffixes, found, by rw [kindText_eq_join, ← added]; rfl⟩
  · intro leftEnters rightEnters
    have whole {signature : Signature}
        (enter : ∀ descriptor ∈ signature, Text.trim descriptor ∈ kindDescriptors) :
        (signature.map Text.trim).filter (· ∈ kindDescriptors) = signature.map Text.trim := by
      simpa using enter
    refine ⟨?_, ?_⟩
    · rw [kindText_inj, whole leftEnters, whole rightEnters]
    · rw [String.append_right_inj, structText_inj leftEnters rightEnters]

/-- An atom and a term have the kind of that atom and that term among other components, and not the
    struct of a term and an atom. -/
theorem kind_eq_iff_components_atom_any :
    (∃ leftKind rightKind, (kind ["atom()", " any()"]).result = .ok leftKind ∧
      (kind ["job_id()", "atom()\n", "custom", "any()"]).result = .ok rightKind ∧
      leftKind = rightKind) ∧
    ∃ leftName rightName, (structName .standard ["atom()", " any()"]).result = .ok leftName ∧
      (structName .standard ["any()", "atom()"]).result = .ok rightName ∧
      leftName ≠ rightName := by
  constructor
  · obtain ⟨leftKind, rightKind, _, _, left, right, _, _, _, sameKind, _⟩ :=
      kind_eq_iff_components .standard ["atom()", " any()"]
        ["job_id()", "atom()\n", "custom", "any()"] (by decide) (by decide) (by decide +kernel)
        (by decide +kernel)
    exact ⟨leftKind, rightKind, left, right, sameKind.mpr (by decide +kernel)⟩
  · obtain ⟨_, _, leftName, rightName, _, _, left, right, _, _, whole⟩ :=
      kind_eq_iff_components .standard ["atom()", " any()"] ["any()", "atom()"] (by decide)
        (by decide) (by decide +kernel) (by decide +kernel)
    obtain ⟨_, sameName⟩ := whole (by decide +kernel) (by decide +kernel)
    exact ⟨leftName, rightName, left, right, mt sameName.mp (by decide +kernel)⟩

end StubNames.Signature
