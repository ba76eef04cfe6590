import StubNames.Proofs.FieldBinding

/-!
Which tuples are refused. A tuple is named in four ways: by its kind, by its struct name, by both
and as the field that holds it, in lists or not. Each of them first looks at the descriptors of
the signature as a whole, and nothing that follows can fail, so that all of them are refused for
the same signatures and the same reason, before anything is reported (`Signature.Governs`,
`Signature.refused_alike`). Whether a descriptor denotes a type has no part in it.
-/
namespace StubNames
namespace Signature

section
variable {signature : Signature}

theorem refused_or_nameable (signature : Signature) :
    (∃ error, signature.Refused error) ∨ signature.Nameable := by
  cases outcome : descriptors signature with
  | error error => exact .inl ⟨error, descriptors_eq_error_iff.mp outcome⟩
  | ok trimmed => exact .inr (nameable_of_descriptors outcome)

/-! ### Steps that a signature governs -/

/-- A step that fails exactly where the signature is refused, with the reason why it is, and that
    then has reported nothing; it succeeds wherever the signature can be named. -/
structure Governs {α : Type} (signature : Signature) (step : Resolution α) : Prop where
  error_iff : ∀ error, step.result = .error error ↔ signature.Refused error
  ok_iff : (∃ value, step.result = .ok value) ↔ signature.Nameable
  silent : ∀ error, step.result = .error error → step.events = []

namespace Governs

variable {α β : Type} {step : Resolution α}

/-- A signature governs a step that is refused at once where the signature is, and else succeeds. -/
theorem of_refused_or_nameable
    (refused : ∀ error, signature.Refused error → step = Resolution.fail error)
    (named : signature.Nameable → ∃ value, step.result = .ok value) : signature.Governs step := by
  have reason (error : NamingError) (failed : step.result = .error error) :
      signature.Refused error := by
    rcases refused_or_nameable signature with ⟨other, isRefused⟩ | nameable
    · rw [refused other isRefused] at failed
      cases failed
      exact isRefused
    · obtain ⟨value, done⟩ := named nameable
      rw [done] at failed
      cases failed
  refine ⟨fun error => ⟨reason error, ?_⟩, ⟨?_, named⟩, ?_⟩
  · intro isRefused
    rw [refused error isRefused]
    rfl
  · rintro ⟨value, done⟩
    rcases refused_or_nameable signature with ⟨error, isRefused⟩ | nameable
    · rw [refused error isRefused] at done
      cases done
    · exact nameable
  · intro error failed
    rw [refused error (reason error failed)]
    rfl

theorem eq_fail (governs : signature.Governs step) {error : NamingError}
    (refused : signature.Refused error) : step = Resolution.fail error := by
  have failed := (governs.error_iff error).mpr refused
  have silent := governs.silent error failed
  obtain ⟨events, result⟩ := step
  cases failed
  cases silent
  rfl

/-- What follows a step has no part in the refusal if it succeeds wherever the step does. -/
theorem bind (governs : signature.Governs step) {next : α → Resolution β}
    (succeeds : ∀ value, step.result = .ok value → ∃ after, (next value).result = .ok after) :
    signature.Governs (step >>= next) := by
  apply of_refused_or_nameable
  · intro error refused
    rw [governs.eq_fail refused, Resolution.fail_bind]
  · intro nameable
    obtain ⟨value, done⟩ := governs.ok_iff.mpr nameable
    obtain ⟨after, finished⟩ := succeeds value done
    exact ⟨after, (Resolution.result_bind_of_ok done next).trans finished⟩

theorem bind_pure (governs : signature.Governs step) (f : α → β) :
    signature.Governs (step >>= fun value => pure (f value)) :=
  governs.bind fun value _ => ⟨f value, rfl⟩

end Governs

end

/-! ### The ways to name a tuple -/

variable (prefixes : Prefixes) (signature : Signature)

theorem governs_descriptors :
    signature.Governs (Resolution.ofExcept signature.descriptors) := by
  apply Governs.of_refused_or_nameable
  · intro error refused
    rw [descriptors_eq_error_iff.mpr refused]
    rfl
  · intro nameable
    exact ⟨_, nameable.descriptors_eq⟩

theorem governs_kind : signature.Governs signature.kind := by
  apply signature.governs_descriptors.bind
  intro trimmed _
  rw [Resolution.mapM_eq kindPart_eq]
  exact ⟨_, rfl⟩

theorem governs_structName : signature.Governs (signature.structName prefixes) := by
  apply signature.governs_descriptors.bind
  intro trimmed _
  rw [Resolution.mapM_eq suffix_eq]
  exact ⟨_, rfl⟩

/-- The struct name looks at the descriptors again, and finds them sound wherever the kind does. -/
theorem governs_ofSignature : signature.Governs (TupleName.ofSignature prefixes signature) := by
  apply signature.governs_kind.bind
  intro kind kinded
  have nameable := signature.governs_kind.ok_iff.mp ⟨kind, kinded⟩
  exact ⟨_, Resolution.result_bind_of_ok (nameable.result_structName prefixes) _⟩

theorem governs_represent (depth : Nat) :
    signature.Governs (((Shape.tuple signature).inLists depth).represent prefixes) := by
  induction depth with
  | zero => exact (signature.governs_ofSignature prefixes).bind_pure _
  | succ depth ih => exact ih.bind_pure _

/-- A field with a name is refused for its shape alone. -/
theorem governs_ofDeclaration {name : String} (named : Text.trim name ≠ "") (depth : Nat) :
    signature.Governs
      (FieldBinding.ofDeclaration prefixes ⟨name, (Shape.tuple signature).inLists depth⟩) := by
  rw [FieldBinding.ofDeclaration, if_neg (mt (Text.trim_eq_empty_iff name).mpr named)]
  exact (signature.governs_represent prefixes depth).bind_pure _

/-- Both names of a tuple are the kind and the struct name of its signature. -/
theorem ofSignature_eq_ok_iff (tuple : TupleName) :
    (TupleName.ofSignature prefixes signature).result = .ok tuple ↔
      (kind signature).result = .ok tuple.kind ∧
        (structName prefixes signature).result = .ok tuple.structName := by
  rw [TupleName.result_ofSignature, result_kind, result_structName]
  cases descriptors signature with
  | error error => simp [Except.map]
  | ok trimmed =>
    obtain ⟨kind, structName⟩ := tuple
    simp [Except.map]

/-- A signature governs every way to name its tuple: its kind, its struct name, both together, and
    each field with a name that holds it in any number of lists. They all fail for a signature
    without components or for its first blank descriptor, with the same error and without events,
    and for no other, and both names together are the two names apart. -/
theorem refused_alike :
    signature.Governs signature.kind ∧ signature.Governs (signature.structName prefixes) ∧
      signature.Governs (TupleName.ofSignature prefixes signature) ∧
      (∀ (name : String) (depth : Nat), Text.trim name ≠ "" →
        signature.Governs (FieldBinding.ofDeclaration prefixes
          ⟨name, (Shape.tuple signature).inLists depth⟩)) ∧
      ∀ tuple, (TupleName.ofSignature prefixes signature).result = .ok tuple ↔
        (kind signature).result = .ok tuple.kind ∧
          (structName prefixes signature).result = .ok tuple.structName :=
  ⟨signature.governs_kind, signature.governs_structName prefixes,
    signature.governs_ofSignature prefixes,
    fun _ depth named => signature.governs_ofDeclaration prefixes named depth,
    ofSignature_eq_ok_iff prefixes signature⟩

/-- Of two blank descriptors the first is the fault, in a field of lists as in the kind, and a
    descriptor that denotes no type is none. -/
theorem refused_alike_pairs :
    (FieldBinding.ofDeclaration .standard
        ⟨"pairs", (Shape.tuple ["custom", " \t", "atom()", ""]).inLists 2⟩).result =
      .error (.blankDescriptor 1) ∧
    (kind ["custom", " \t", "atom()", ""]).events = [] ∧
    ∃ tuple, (TupleName.ofSignature .standard ["custom"]).result = .ok tuple := by
  obtain ⟨kinded, _, _, field, _⟩ := refused_alike .standard ["custom", " \t", "atom()", ""]
  obtain ⟨_, _, custom, _, _⟩ := refused_alike .standard ["custom"]
  have refused : Refused ["custom", " \t", "atom()", ""] (.blankDescriptor 1) :=
    descriptors_eq_error_iff.mp rfl
  have nameable : Nameable ["custom"] := ⟨by decide, by decide +kernel⟩
  exact ⟨((field "pairs" 2 (by decide +kernel)).error_iff _).mpr refused,
    kinded.silent _ ((kinded.error_iff _).mpr refused), custom.ok_iff.mpr nameable⟩

end Signature
end StubNames
