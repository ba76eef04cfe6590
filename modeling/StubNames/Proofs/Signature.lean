import StubNames.TupleName

/-!
The names of tuples in closed form. Trimming goes from descriptor to descriptor and stops at the
first blank one (`trimFrom_eq`). A signature is therefore refused for exactly one reason
(`descriptors_eq_error_iff`), and one that is not refused is named component by component: its
kind by the fragments of its descriptors (`result_kind`) and its struct by their capitalized
suffixes (`result_structName`). Prefixes have no part in either text.
-/
namespace StubNames
namespace Signature

/-- Why a signature is refused: it has no components, or its first blank descriptor stands at
    the position given. -/
inductive Refused (signature : Signature) : NamingError → Prop
  | empty (nothing : signature = []) : Refused signature .emptySignature
  | blank {position : Nat} {descriptor : String} (there : signature[position]? = some descriptor)
      (blank : Text.trim descriptor = "")
      (first : ∀ earlier < position, ∀ other, signature[earlier]? = some other →
        Text.trim other ≠ "") :
      Refused signature (.blankDescriptor position)

/-- Trimming stops at the first blank descriptor, with its position, and else trims all of them. -/
theorem trimFrom_eq (position : Nat) (signature : Signature) :
    trimFrom position signature =
      match signature.findIdx? Text.isBlank with
      | some offset => .error (.blankDescriptor (position + offset))
      | none => .ok (signature.map Text.trim) := by
  induction signature generalizing position with
  | nil => rfl
  | cons descriptor rest ih =>
    rw [trimFrom, List.findIdx?_cons]
    by_cases blank : Text.isBlank descriptor = true
    · rw [if_pos blank, if_pos blank]
      rfl
    · rw [if_neg blank, if_neg blank, ih]
      cases rest.findIdx? Text.isBlank with
      | none => rfl
      | some offset =>
        have later : position + 1 + offset = position + (offset + 1) := by omega
        simp only [Except.map, Option.map_some, later]

/-- A signature without components is refused, and else one with a blank descriptor, at the position
    of the first. -/
theorem descriptors_eq (signature : Signature) :
    descriptors signature =
      if signature.isEmpty then .error .emptySignature
      else
        match signature.findIdx? Text.isBlank with
        | some position => .error (.blankDescriptor position)
        | none => .ok (signature.map Text.trim) := by
  rw [descriptors, trimFrom_eq]
  simp only [Nat.zero_add]

private theorem findIdx?_isBlank_iff {signature : Signature} {position : Nat} :
    signature.findIdx? Text.isBlank = some position ↔
      ∃ descriptor, signature[position]? = some descriptor ∧ Text.trim descriptor = "" ∧
        ∀ earlier < position, ∀ other, signature[earlier]? = some other →
          Text.trim other ≠ "" := by
  rw [List.findIdx?_eq_some_iff_getElem]
  constructor
  · rintro ⟨inside, blank, first⟩
    refine ⟨signature[position], List.getElem?_eq_getElem inside,
      (Text.trim_eq_empty_iff _).mpr blank, ?_⟩
    intro earlier before other there none
    obtain ⟨_, rfl⟩ := List.getElem?_eq_some_iff.mp there
    exact first earlier before ((Text.trim_eq_empty_iff _).mp none)
  · rintro ⟨descriptor, there, blank, first⟩
    obtain ⟨inside, rfl⟩ := List.getElem?_eq_some_iff.mp there
    refine ⟨inside, (Text.trim_eq_empty_iff _).mp blank, ?_⟩
    intro earlier before found
    have earlierInside : earlier < signature.length := by omega
    exact first earlier before _ (List.getElem?_eq_getElem earlierInside)
      ((Text.trim_eq_empty_iff _).mpr found)

/-- The signatures that are refused, each with its one reason. -/
theorem descriptors_eq_error_iff {signature : Signature} {error : NamingError} :
    descriptors signature = .error error ↔ Refused signature error := by
  rw [descriptors_eq]
  constructor
  · intro failed
    split at failed
    next nothing =>
      cases failed
      exact .empty (List.isEmpty_iff.mp nothing)
    next =>
      split at failed
      next position found =>
        cases failed
        obtain ⟨descriptor, there, blank, first⟩ := findIdx?_isBlank_iff.mp found
        exact .blank there blank first
      next => cases failed
  · intro refused
    cases refused with
    | empty nothing => rw [nothing]; rfl
    | @blank position descriptor there blank first =>
      have found := findIdx?_isBlank_iff.mpr ⟨descriptor, there, blank, first⟩
      have nonempty : ¬ signature.isEmpty = true := by
        rintro nothing
        rw [List.isEmpty_iff.mp nothing] at there
        cases there
      rw [if_neg nonempty, found]

theorem descriptors_eq_ok_iff {signature : Signature} {trimmed : List String} :
    descriptors signature = .ok trimmed ↔
      signature ≠ [] ∧ (∀ descriptor ∈ signature, Text.trim descriptor ≠ "") ∧
        trimmed = signature.map Text.trim := by
  rw [descriptors_eq]
  have inked : signature.findIdx? Text.isBlank = none ↔
      ∀ descriptor ∈ signature, Text.trim descriptor ≠ "" := by
    simp [List.findIdx?_eq_none_iff, Text.trim_eq_empty_iff]
  rw [← inked]
  split
  next nothing => simp [List.isEmpty_iff.mp nothing]
  next nonempty =>
    rw [List.isEmpty_iff] at nonempty
    cases signature.findIdx? Text.isBlank with
    | some position => simp
    | none => simp [nonempty, eq_comm]

/-- A signature that can be named: it has components, and none of them is blank. -/
structure Nameable (signature : Signature) : Prop where
  nonempty : signature ≠ []
  inked : ∀ descriptor ∈ signature, Text.trim descriptor ≠ ""

theorem Nameable.descriptors_eq {signature : Signature} (nameable : signature.Nameable) :
    descriptors signature = .ok (signature.map Text.trim) :=
  descriptors_eq_ok_iff.mpr ⟨nameable.nonempty, nameable.inked, rfl⟩

theorem nameable_of_descriptors {signature : Signature} {trimmed : List String}
    (outcome : descriptors signature = .ok trimmed) : signature.Nameable := by
  obtain ⟨nonempty, inked, _⟩ := descriptors_eq_ok_iff.mp outcome
  exact ⟨nonempty, inked⟩

theorem Nameable.append {left right : Signature} (leftNameable : left.Nameable)
    (rightNameable : right.Nameable) : (left ++ right).Nameable := by
  refine ⟨by simp [leftNameable.nonempty], ?_⟩
  intro descriptor member
  rcases List.mem_append.mp member with inLeft | inRight
  · exact leftNameable.inked descriptor inLeft
  · exact rightNameable.inked descriptor inRight

/-! ### Names component by component -/

/-- What a descriptor adds to the kind of its tuple. -/
def fragment (descriptor : String) : String :=
  ((Descriptor.ofToken? descriptor).bind kindFragment?).getD ""

/-- The suffix of a descriptor, or the descriptor itself where it denotes no type. -/
def suffixText (descriptor : String) : String := (Registry.suffix? descriptor).getD descriptor

/-- The kind of the tuple with the trimmed descriptors given. -/
def kindText (descriptors : List String) : String := String.join (descriptors.map fragment)

/-- The struct name of the tuple with the trimmed descriptors given, without its prefix. -/
def structText (descriptors : List String) : String :=
  String.join ((descriptors.map suffixText).map structPart)

theorem kindPart_eq (descriptor : String) :
    kindPart descriptor =
      ⟨if (Descriptor.ofToken? descriptor).bind kindFragment? = none
        then [.skippedInKind descriptor] else [], .ok (fragment descriptor)⟩ := by
  unfold kindPart fragment
  cases (Descriptor.ofToken? descriptor).bind kindFragment? <;> simp [Resolution.pure_eq]

theorem suffix_eq (descriptor : String) :
    suffix descriptor =
      ⟨if Registry.suffix? descriptor = none then [.usedVerbatim descriptor] else [],
        .ok (suffixText descriptor)⟩ := by
  unfold suffix suffixText
  cases Registry.suffix? descriptor <;> simp [Resolution.pure_eq]

theorem result_kind (signature : Signature) :
    (kind signature).result = (descriptors signature).map kindText := by
  refine Resolution.result_bind_eq_map fun trimmed => ?_
  rw [Resolution.mapM_eq kindPart_eq]
  rfl

/-- The struct name of a signature is that of its trimmed descriptors, behind the prefix. -/
theorem result_structName (prefixes : Prefixes) (signature : Signature) :
    (structName prefixes signature).result =
      (descriptors signature).map fun trimmed => prefixes.tuple ++ structText trimmed := by
  refine Resolution.result_bind_eq_map fun trimmed => ?_
  rw [Resolution.mapM_eq suffix_eq]
  rfl

theorem Nameable.result_kind {signature : Signature} (nameable : signature.Nameable) :
    (kind signature).result = .ok (kindText (signature.map Text.trim)) := by
  rw [Signature.result_kind, nameable.descriptors_eq]
  rfl

theorem Nameable.result_structName (prefixes : Prefixes) {signature : Signature}
    (nameable : signature.Nameable) :
    (structName prefixes signature).result =
      .ok (prefixes.tuple ++ structText (signature.map Text.trim)) := by
  rw [Signature.result_structName, nameable.descriptors_eq]
  rfl

end Signature

namespace TupleName

/-- Both names of a tuple come from the same trimmed descriptors. -/
theorem result_ofSignature (prefixes : Prefixes) (signature : Signature) :
    (ofSignature prefixes signature).result =
      (Signature.descriptors signature).map fun trimmed =>
        ⟨Signature.kindText trimmed, prefixes.tuple ++ Signature.structText trimmed⟩ := by
  have kindResult := Signature.result_kind signature
  have structResult := Signature.result_structName prefixes signature
  unfold ofSignature
  cases outcome : Signature.descriptors signature with
  | error error =>
    rw [outcome] at kindResult
    exact Resolution.result_bind_of_error kindResult _
  | ok trimmed =>
    rw [outcome] at kindResult structResult
    rw [Resolution.result_bind_of_ok kindResult, Resolution.result_bind_of_ok structResult]
    rfl

theorem ofSignature_eq_error_iff {prefixes : Prefixes} {signature : Signature}
    {error : NamingError} :
    (ofSignature prefixes signature).result = .error error ↔ signature.Refused error := by
  rw [result_ofSignature, Resolution.map_eq_error_iff, Signature.descriptors_eq_error_iff]

end TupleName
end StubNames
