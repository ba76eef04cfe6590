import StubNames.Proofs.EntityRun

/-!
Accessors that are told apart. A field that is bound has a trimmed name, which is not empty, and
its getter and its setter are that name behind different words of equal length
(`FieldBinding.Proper`). The names of the fields of an entity are distinct, since the run refuses
a name that the draft holds already (`EntityBinding.Bound.nodup_names`), and distinct names have
distinct getters and setters (`nodup_getters_setters`), also where a field is itself named like an
accessor.
-/
namespace StubNames

/-! ### Getters and setters of names -/

/-- No getter is the setter of whatever name. -/
theorem getter_ne_setter (left right : String) : "get_" ++ left ≠ "set_" ++ right := by
  intro same
  have chars := congrArg String.toList same
  simp at chars

theorem nodup_getters_setters {names : List String} (distinct : names.Nodup) :
    (names.map ("get_" ++ ·) ++ names.map ("set_" ++ ·)).Nodup := by
  have injective (word : String) : Function.Injective (word ++ ·) := by
    intro left right same
    simpa using same
  rw [List.nodup_append]
  refine ⟨distinct.map (injective "get_"), distinct.map (injective "set_"), ?_⟩
  intro getter isGetter setter isSetter same
  obtain ⟨left, _, rfl⟩ := List.mem_map.mp isGetter
  obtain ⟨right, _, rfl⟩ := List.mem_map.mp isSetter
  exact getter_ne_setter left right same

/-! ### Fields -/

namespace FieldBinding

/-- A field with a trimmed name that is not empty, and with the accessors of that name. -/
structure Proper (field : FieldBinding) : Prop where
  named : field.name ≠ ""
  trimmed : Text.trim field.name = field.name
  getter : field.getter = "get_" ++ field.name
  setter : field.setter = "set_" ++ field.name

theorem proper_of_ok {prefixes : Prefixes} {declaration : Declaration} {field : FieldBinding}
    (bound : (ofDeclaration prefixes declaration).result = .ok field) : field.Proper := by
  obtain ⟨named, representation, _, rfl⟩ := ofDeclaration_eq_ok_iff.mp bound
  exact ⟨named, Text.trim_trim declaration.name, rfl, rfl⟩

end FieldBinding

/-! ### Entities -/

namespace EntityBinding

/-- The getters of all fields and then their setters. -/
def accessors (entity : EntityBinding) : List String :=
  entity.fields.map (·.getter) ++ entity.fields.map (·.setter)

section
variable {prefixes : Prefixes} {declarations : List Declaration} {draft : Draft}

theorem Bound.proper (bound : Bound prefixes declarations draft) {field : FieldBinding}
    (member : field ∈ draft.fields) : field.Proper := by
  have among : (.ok field : Except NamingError FieldBinding) ∈ draft.fields.map .ok :=
    List.mem_map_of_mem member
  rw [← bound.bindings] at among
  obtain ⟨declaration, _, outcome⟩ := List.mem_map.mp among
  exact FieldBinding.proper_of_ok outcome

theorem Bound.nodup_names (bound : Bound prefixes declarations draft) :
    (draft.fields.map (·.name)).Nodup := by
  rw [bound.names]
  exact bound.accepted.distinct

/-- The accessors of the fields of a draft are those of their names. -/
theorem Bound.accessors_eq (bound : Bound prefixes declarations draft) (name : String) :
    (ofDraft prefixes name draft).accessors =
      (draft.fields.map (·.name)).map ("get_" ++ ·) ++
        (draft.fields.map (·.name)).map ("set_" ++ ·) := by
  have getters : draft.fields.map (·.getter) = draft.fields.map ("get_" ++ ·.name) :=
    List.map_congr_left fun _ member => (bound.proper member).getter
  have setters : draft.fields.map (·.setter) = draft.fields.map ("set_" ++ ·.name) :=
    List.map_congr_left fun _ member => (bound.proper member).setter
  rw [List.map_map, List.map_map, accessors, ofDraft, getters, setters]
  rfl

end

/-- An entity that is bound has a field for each declaration. All names of fields are trimmed and not
    empty, and the getters and setters of all fields are twice as many texts, of which no two are
    the same. -/
theorem accessors_distinct {prefixes : Prefixes} {token : String}
    {declarations : List Declaration} {entity : EntityBinding}
    (bound : (ofDeclarations prefixes token declarations).result = .ok entity) :
    entity.fields.length = declarations.length ∧
      (∀ field ∈ entity.fields, field.name ≠ "" ∧ Text.trim field.name = field.name) ∧
      entity.accessors.length = 2 * entity.fields.length ∧ entity.accessors.Nodup := by
  obtain ⟨name, draft, _, _, invariant, rfl⟩ := ofDeclarations_eq_ok bound
  refine ⟨invariant.length_fields, ?_, ?_, ?_⟩
  · intro field member
    have proper := invariant.proper member
    exact ⟨proper.named, proper.trimmed⟩
  · simp [accessors]
    omega
  · rw [invariant.accessors_eq]
    exact nodup_getters_setters invariant.nodup_names

/-- Fields that are named like the accessors of another have accessors of their own. -/
theorem accessors_distinct_nested :
    ∃ entity, (ofDeclarations .standard "#queue{}"
      [⟨" x", .scalar "atom()"⟩, ⟨"get_x", .list (.record "#job")⟩, ⟨"set_x ", .tuple ["any()"]⟩,
        ⟨"set_get_x", .scalar "float()"⟩]).result = .ok entity ∧
      entity.accessors = ["get_x", "get_get_x", "get_set_x", "get_set_get_x",
        "set_x", "set_get_x", "set_set_x", "set_set_get_x"] ∧
      entity.accessors.Nodup := by
  have resolved : ∃ entity, (ofDeclarations .standard "#queue{}"
      [⟨" x", .scalar "atom()"⟩, ⟨"get_x", .list (.record "#job")⟩, ⟨"set_x ", .tuple ["any()"]⟩,
        ⟨"set_get_x", .scalar "float()"⟩]).result = .ok entity ∧
      entity.accessors = ["get_x", "get_get_x", "get_set_x", "get_set_get_x",
        "set_x", "set_get_x", "set_set_x", "set_set_get_x"] := ⟨_, rfl, by decide +kernel⟩
  obtain ⟨entity, bound, accessors⟩ := resolved
  obtain ⟨_, _, _, distinct⟩ := accessors_distinct bound
  exact ⟨entity, bound, accessors, distinct⟩

end EntityBinding
end StubNames
