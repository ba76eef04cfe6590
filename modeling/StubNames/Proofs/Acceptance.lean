import Mathlib.Data.List.Induction
import Mathlib.Data.List.Nodup
import StubNames.Proofs.FieldBinding

/-!
Which declarations an entity can have. Declarations are accepted together when none is refused
by itself and no two declare the same field (`Accepted`). Every list that is not accepted has a
first declaration that offends, after others that are accepted (`accepted_or_offendsAt`), and
what offends is refused for one reason (`Declaration.RefusedAfter`, `Declaration.offends_iff`).
-/
namespace StubNames
namespace Declaration

/-- After the declarations before it, a declaration is at fault: its name is blank, its shape is
    refused, or the name is that of a field declared before. -/
def Offends (before : List Declaration) (declaration : Declaration) : Prop :=
  declaration.fieldName = "" ∨ (∃ error, declaration.shape.Refused error) ∨
    ∃ other ∈ before, other.fieldName = declaration.fieldName

/-- Why a declaration of an entity is refused after the declarations before it: by itself, or
    else for the name of a field declared before. -/
inductive RefusedAfter (entity : String) (before : List Declaration)
    (declaration : Declaration) : NamingError → Prop
  | itself {error : NamingError} (refused : declaration.Refused error) :
      RefusedAfter entity before declaration error
  | duplicate {other : Declaration} (sound : ∀ error, ¬ declaration.Refused error)
      (member : other ∈ before) (same : other.fieldName = declaration.fieldName) :
      RefusedAfter entity before declaration (.duplicateField entity declaration.fieldName)

theorem exists_refused_iff {declaration : Declaration} :
    (∃ error, declaration.Refused error) ↔
      declaration.fieldName = "" ∨ ∃ error, declaration.shape.Refused error := by
  constructor
  · rintro ⟨error, blank | ⟨_, refused⟩⟩
    · exact .inl blank
    · exact .inr ⟨error, refused⟩
  · intro fault
    by_cases blank : declaration.fieldName = ""
    · exact ⟨_, .blank blank⟩
    · obtain ⟨error, refused⟩ := fault.resolve_left blank
      exact ⟨error, .shape blank refused⟩

theorem not_offends_iff {before : List Declaration} {declaration : Declaration} :
    ¬ declaration.Offends before ↔ (∀ error, ¬ declaration.Refused error) ∧
      ∀ other ∈ before, other.fieldName ≠ declaration.fieldName := by
  rw [Offends, ← or_assoc, ← exists_refused_iff, not_or, not_exists]
  simp

/-- The declarations at fault are those that are refused, for whatever entity. -/
theorem offends_iff (entity : String) {before : List Declaration} {declaration : Declaration} :
    declaration.Offends before ↔ ∃ error, declaration.RefusedAfter entity before error := by
  unfold Offends
  rw [← or_assoc, ← exists_refused_iff]
  constructor
  · intro fault
    by_cases refused : ∃ error, declaration.Refused error
    · obtain ⟨error, refused⟩ := refused
      exact ⟨error, .itself refused⟩
    · obtain ⟨other, member, same⟩ := fault.resolve_left refused
      exact ⟨_, .duplicate (not_exists.mp refused) member same⟩
  · rintro ⟨error, refused | ⟨_, member, same⟩⟩
    · exact .inl ⟨error, refused⟩
    · exact .inr ⟨_, member, same⟩

end Declaration

namespace EntityBinding

/-- The declaration at a position is at fault after those before it. -/
def OffendsAt (declarations : List Declaration) (position : Nat) : Prop :=
  ∃ declaration, declarations[position]? = some declaration ∧
    declaration.Offends (declarations.take position)

/-- Declarations of which none is refused by itself and no two declare the same field. -/
structure Accepted (declarations : List Declaration) : Prop where
  sound : ∀ declaration ∈ declarations, ∀ error, ¬ declaration.Refused error
  distinct : (declarations.map Declaration.fieldName).Nodup

theorem accepted_append_singleton_iff {before : List Declaration} {declaration : Declaration} :
    Accepted (before ++ [declaration]) ↔ Accepted before ∧ ¬ declaration.Offends before := by
  rw [Declaration.not_offends_iff]
  constructor
  · rintro ⟨sound, distinct⟩
    rw [List.map_append, List.nodup_append] at distinct
    obtain ⟨distinctBefore, _, apart⟩ := distinct
    refine ⟨⟨?_, distinctBefore⟩, sound declaration (by simp), ?_⟩
    · intro other member
      exact sound other (List.mem_append_left _ member)
    · intro other member
      exact apart _ (List.mem_map_of_mem member) _ (by simp)
  · rintro ⟨⟨sound, distinct⟩, itself, fresh⟩
    refine ⟨?_, ?_⟩
    · intro other member
      rcases List.mem_append.mp member with member | member
      · exact sound other member
      · rw [List.mem_singleton.mp member]
        exact itself
    · rw [List.map_append, List.nodup_append]
      refine ⟨distinct, by simp, ?_⟩
      intro name known other isOther
      obtain ⟨earlier, member, rfl⟩ := List.mem_map.mp known
      rw [List.map_singleton, List.mem_singleton] at isOther
      rw [isOther]
      exact fresh earlier member

/-- Declarations are accepted, or a first one offends after others that are accepted. -/
theorem accepted_or_offendsAt (declarations : List Declaration) :
    Accepted declarations ∨
      ∃ position, Accepted (declarations.take position) ∧ OffendsAt declarations position := by
  induction declarations using List.reverseRecOn with
  | nil => exact .inl ⟨by simp, by simp⟩
  | append_singleton before declaration ih =>
    rcases ih with accepted | ⟨position, accepted, offender, there, offends⟩
    · by_cases offends : declaration.Offends before
      · refine .inr ⟨before.length, by simpa using accepted, declaration, by simp, ?_⟩
        simpa using offends
      · exact .inl (accepted_append_singleton_iff.mpr ⟨accepted, offends⟩)
    · have inside : position < before.length := (List.getElem?_eq_some_iff.mp there).1
      have sameTake : (before ++ [declaration]).take position = before.take position :=
        List.take_append_of_le_length (by omega)
      refine .inr ⟨position, by rw [sameTake]; exact accepted, offender, ?_, ?_⟩
      · rw [List.getElem?_append_left inside]
        exact there
      · rw [sameTake]
        exact offends

theorem Accepted.sublist {part whole : List Declaration} (accepted : Accepted whole)
    (among : part.Sublist whole) : Accepted part where
  sound declaration member := accepted.sound declaration (among.subset member)
  distinct := accepted.distinct.sublist (among.map _)

/-- Declarations are accepted exactly when none of them offends. -/
theorem accepted_iff_forall_not_offendsAt {declarations : List Declaration} :
    Accepted declarations ↔ ∀ position, ¬ OffendsAt declarations position := by
  constructor
  · rintro accepted position ⟨declaration, there, offends⟩
    obtain ⟨inside, rfl⟩ := List.getElem?_eq_some_iff.mp there
    have upTo := accepted.sublist (List.take_sublist (position + 1) declarations)
    rw [List.take_succ_eq_append_getElem inside, accepted_append_singleton_iff] at upTo
    exact upTo.2 offends
  · intro fine
    rcases accepted_or_offendsAt declarations with accepted | ⟨position, _, offends⟩
    · exact accepted
    · exact absurd offends (fine position)

theorem offendsAt_take_iff {declarations : List Declaration} {position earlier : Nat} :
    OffendsAt (declarations.take position) earlier ↔
      earlier < position ∧ OffendsAt declarations earlier := by
  unfold OffendsAt
  rw [List.getElem?_take]
  by_cases before : earlier < position
  · rw [if_pos before, List.take_take, Nat.min_eq_left (Nat.le_of_lt before)]
    exact ⟨fun offends => ⟨before, offends⟩, And.right⟩
  · rw [if_neg before]
    simp [before]

theorem accepted_take_iff {declarations : List Declaration} {position : Nat} :
    Accepted (declarations.take position) ↔
      ∀ earlier < position, ¬ OffendsAt declarations earlier := by
  rw [accepted_iff_forall_not_offendsAt]
  exact forall_congr' fun earlier => by rw [offendsAt_take_iff, not_and]

end EntityBinding
end StubNames
