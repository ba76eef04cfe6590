import StubNames.Proofs.EventLog

/-!
One notion of a registered type. A text is registered if it is the token of a type, blanks around
it aside (`Registry.Registered`). The registry, the fields of single types and the struct names of
tuples each trim and read the text for themselves; for a registered text all of them answer from
the entry of the same type, and for any other the look-up and the field give the same error while
a tuple is named all the same, with a warning. Since the two cases exclude each other, every path
tells the registered texts (`Registry.registered_on_every_path`).
-/
namespace StubNames
namespace Registry

/-- The text is the token of a type, with or without blanks around it. -/
def Registered (text : String) : Prop := ∃ type ∈ Descriptor.all, Text.trim text = type.token

instance (text : String) : Decidable (Registered text) :=
  inferInstanceAs (Decidable (∃ type ∈ Descriptor.all, Text.trim text = type.token))

variable {text : String} {type : Descriptor}

theorem registered_of_token (same : Text.trim text = type.token) : Registered text :=
  ⟨type, type.mem_all, same⟩

theorem find?_of_unknown (unknown : ¬ Registered text) : find? text = none := by
  cases found : find? text with
  | none => rfl
  | some type => exact absurd (registered_of_token (find?_eq_some_iff.mp found)) unknown

/-- What holds of every token and of no unknown text tells the registered texts. -/
theorem iff_registered {p : Prop}
    (known : ∀ type : Descriptor, Text.trim text = type.token → p)
    (unknown : ¬ Registered text → ¬ p) : p ↔ Registered text := by
  constructor
  · intro holds
    by_contra other
    exact unknown other holds
  · rintro ⟨type, _, same⟩
    exact known type same

/-! ### The registry -/

theorem lookup_of_token (same : Text.trim text = type.token) : lookup text = .ok type.entry := by
  simp [lookup, find?_eq_some_iff.mpr same]

theorem suffix?_of_token (same : Text.trim text = type.token) :
    suffix? text = some type.entry.suffix := by
  simp [suffix?, find?_eq_some_iff.mpr same]

theorem contains_of_token (same : Text.trim text = type.token) : contains text = true := by
  simp [contains, find?_eq_some_iff.mpr same]

theorem lookup_of_unknown (unknown : ¬ Registered text) :
    lookup text = .error (.unknownType text) := by
  simp [lookup, find?_of_unknown unknown]

theorem suffix?_of_unknown (unknown : ¬ Registered text) : suffix? text = none := by
  simp [suffix?, find?_of_unknown unknown]

theorem contains_of_unknown (unknown : ¬ Registered text) : contains text = false := by
  simp [contains, find?_of_unknown unknown]

end Registry

/-! ### Fields and tuples -/

section
variable (prefixes : Prefixes) {name text : String} {type : Descriptor}

/-- A field of a registered type is stored and printed as its entry says, and decoded by its
    suffix. -/
theorem FieldBinding.exists_scalar_of_token (named : Text.trim name ≠ "")
    (same : Text.trim text = type.token) :
    ∃ field, (ofDeclaration prefixes ⟨name, .scalar text⟩).result = .ok field ∧
      field.storage = type.entry.storage ∧ field.printer = type.entry.printer ∧
      field.decoder = prefixes.decoder ++ type.entry.suffix := by
  have found := Registry.find?_eq_some_iff.mpr same
  have represented := Shape.result_represent_of_find? prefixes found
  exact ⟨_, ofDeclaration_eq_ok_iff.mpr ⟨named, _, represented, rfl⟩, rfl, rfl, rfl⟩

theorem FieldBinding.result_scalar_of_unknown (named : Text.trim name ≠ "")
    (unknown : ¬ Registry.Registered text) :
    (ofDeclaration prefixes ⟨name, .scalar text⟩).result =
      .error (.registry (.unknownType text)) := by
  apply ofDeclaration_eq_error_iff.mpr
  refine .shape named (.scalar ?_)
  intro type same
  exact unknown (Registry.registered_of_token same)

theorem Signature.nameable_singleton (inked : Text.trim text ≠ "") : Nameable [text] :=
  ⟨by simp, by simpa using inked⟩

/-- The struct name of a single component reports it exactly if it is not registered. -/
theorem Signature.events_structName_singleton (inked : Text.trim text ≠ "") :
    (structName prefixes [text]).events =
      if Registry.contains text then [] else [.usedVerbatim (Text.trim text)] := by
  rw [structName, (nameable_singleton inked).descriptors_eq, Resolution.ofExcept_ok_bind,
    Resolution.events_bind_pure, events_mapM_suffix]
  by_cases registered : Registry.contains text = true
  · simp [registered]
  · simp [registered]

end

namespace Registry

/-- A text is read as a type exactly if it is the token of that type, and every path that trims its
    text tells the same texts: `contains`, the suffix, the look-up, a field of this single type
    and the warnings of a struct name all say whether the text is registered. If it is, they
    answer from the entry of the type; if not, the look-up and the field quote the text as it was
    given, and a tuple of it is still named unless it is blank. -/
theorem registered_on_every_path (prefixes : Prefixes) (text name : String)
    (named : Text.trim name ≠ "") :
    (∀ type, Descriptor.ofToken? text = some type ↔ text = type.token) ∧
    (contains text = true ↔ Registered text) ∧
    ((∃ suffix, suffix? text = some suffix) ↔ Registered text) ∧
    ((∃ entry, lookup text = .ok entry) ↔ Registered text) ∧
    ((∃ field, (FieldBinding.ofDeclaration prefixes ⟨name, .scalar text⟩).result = .ok field) ↔
      Registered text) ∧
    (Text.trim text ≠ "" →
      ((∀ event ∈ (Signature.structName prefixes [text]).events, event.level ≠ .warn) ↔
        Registered text)) ∧
    (∀ type ∈ Descriptor.all, Text.trim text = type.token →
      lookup text = .ok type.entry ∧ suffix? text = some type.entry.suffix ∧
      ∃ field, (FieldBinding.ofDeclaration prefixes ⟨name, .scalar text⟩).result = .ok field ∧
        field.storage = type.entry.storage ∧ field.printer = type.entry.printer ∧
        field.decoder = prefixes.decoder ++ type.entry.suffix) ∧
    (¬ Registered text →
      lookup text = .error (.unknownType text) ∧
      (FieldBinding.ofDeclaration prefixes ⟨name, .scalar text⟩).result =
        .error (.registry (.unknownType text)) ∧
      (Text.trim text ≠ "" →
        ∃ structName, (Signature.structName prefixes [text]).result = .ok structName)) := by
  refine ⟨fun _ => Descriptor.ofToken?_eq_some_iff, ?_, ?_, ?_, ?_, ?_, ?_, ?_⟩
  · apply iff_registered
    · exact fun _ same => contains_of_token same
    · intro unknown
      simp [contains_of_unknown unknown]
  · apply iff_registered
    · exact fun _ same => ⟨_, suffix?_of_token same⟩
    · intro unknown
      simp [suffix?_of_unknown unknown]
  · apply iff_registered
    · exact fun _ same => ⟨_, lookup_of_token same⟩
    · intro unknown
      simp [lookup_of_unknown unknown]
  · apply iff_registered
    · intro type same
      obtain ⟨field, bound, _⟩ := FieldBinding.exists_scalar_of_token prefixes named same
      exact ⟨field, bound⟩
    · intro unknown
      simp [FieldBinding.result_scalar_of_unknown prefixes named unknown]
  · intro inked
    apply iff_registered
    · intro type same
      simp [Signature.events_structName_singleton prefixes inked, contains_of_token same]
    · intro unknown
      simp [Signature.events_structName_singleton prefixes inked, contains_of_unknown unknown,
        Event.level]
  · intro type _ same
    exact ⟨lookup_of_token same, suffix?_of_token same,
      FieldBinding.exists_scalar_of_token prefixes named same⟩
  · intro unknown
    refine ⟨lookup_of_unknown unknown,
      FieldBinding.result_scalar_of_unknown prefixes named unknown, ?_⟩
    intro inked
    exact ⟨_, (Signature.nameable_singleton inked).result_structName prefixes⟩

/-- A job is registered with blanks around its token, and not without the parentheses. -/
theorem registered_on_every_path_job :
    (∃ field, (FieldBinding.ofDeclaration .standard ⟨"id", .scalar " job_id()\n"⟩).result =
      .ok field ∧ field.storage = "std::string" ∧ field.decoder = "ei_buffer_to_str") ∧
    (FieldBinding.ofDeclaration .standard ⟨"id", .scalar " job_id"⟩).result =
      .error (.registry (.unknownType " job_id")) ∧
    ¬ ∀ event ∈ (Signature.structName .standard [" job_id"]).events, event.level ≠ .warn := by
  obtain ⟨_, _, _, _, _, _, known, _⟩ :=
    registered_on_every_path .standard " job_id()\n" "id" (by decide +kernel)
  obtain ⟨_, _, _, _, _, warned, _, unknown⟩ :=
    registered_on_every_path .standard " job_id" "id" (by decide +kernel)
  have unregistered : ¬ Registered " job_id" := by decide +kernel
  obtain ⟨_, _, field, bound, storage, _, decoder⟩ :=
    known .jobId (by decide) (by decide +kernel)
  obtain ⟨_, failed, _⟩ := unknown unregistered
  exact ⟨⟨field, bound, storage, decoder⟩, failed,
    mt (warned (by decide +kernel)).mp unregistered⟩

end Registry
end StubNames
