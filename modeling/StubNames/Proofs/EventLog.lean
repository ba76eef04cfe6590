import StubNames.Proofs.FirstRefusal

/-!
The events that resolving an entity reports. A field that is bound reports the events of its shape
(`Shape.events`) and then, if the shape refers to a record, the event of that record once more
(`Declaration.events`); a field that is refused for itself reports nothing (`Resolution.Reports`).
An entity therefore reports its own token, its fields in order and at last itself; one that is
refused reports its own token and the fields before the one that offends, and the shape of that
field only if its name is the fault (`events_ofDeclarations`).
-/
namespace StubNames

/-- The step reports these events if it succeeds, and nothing if it fails. -/
structure Resolution.Reports {α : Type} (step : Resolution α) (events : List Event) : Prop where
  done : ∀ value, step.result = .ok value → step.events = events
  failed : ∀ error, step.result = .error error → step.events = []

namespace Resolution.Reports

variable {α β : Type} {step : Resolution α} {events : List Event}

theorem fail {error : NamingError} : Reports (Resolution.fail error : Resolution α) events :=
  ⟨by rintro value ⟨⟩, fun _ _ => rfl⟩

theorem bind_pure (reports : Reports step events) (f : α → β) :
    Reports (step >>= fun value => pure (f value)) events := by
  have results : (step >>= fun value => pure (f value)).result = step.result.map f :=
    result_bind_eq_map fun _ => rfl
  refine ⟨fun value done => ?_, fun error failed => ?_⟩
  · rw [results, map_eq_ok_iff] at done
    obtain ⟨before, outcome, _⟩ := done
    rw [events_bind_pure, reports.done before outcome]
  · rw [results, map_eq_error_iff] at failed
    rw [events_bind_pure, reports.failed error failed]

end Resolution.Reports

/-! ### Signatures -/

namespace Signature

/-- The descriptors that enter the kind of a tuple. -/
def kindDescriptors : List String := ["atom()", "string()", "any()"]

/-- The events of a signature that is named: first each descriptor that adds nothing to the kind,
    and then each that denotes no type, without the blanks around them. -/
def events (signature : Signature) : List Event :=
  let descriptors := signature.map Text.trim
  (descriptors.filter (· ∉ kindDescriptors)).map .skippedInKind ++
    (descriptors.filter (! Registry.contains ·)).map .usedVerbatim

theorem kindFragment_eq_none_iff {descriptor : String} :
    (Descriptor.ofToken? descriptor).bind kindFragment? = none ↔ descriptor ∉ kindDescriptors := by
  cases found : Descriptor.ofToken? descriptor with
  | none =>
    have unknown (type : Descriptor) : descriptor ≠ type.token := by
      intro same
      rw [Descriptor.ofToken?_eq_some_iff.mpr same] at found
      cases found
    refine iff_of_true rfl ?_
    rw [kindDescriptors, List.mem_cons, List.mem_cons, List.mem_singleton, not_or, not_or]
    exact ⟨unknown .atom, unknown .string, unknown .any⟩
  | some type =>
    rw [Descriptor.ofToken?_eq_some_iff] at found
    subst found
    cases type <;> decide

theorem suffix?_eq_none_iff {descriptor : String} :
    Registry.suffix? descriptor = none ↔ (! Registry.contains descriptor) = true := by
  rw [Registry.suffix?, Registry.contains]
  cases Registry.find? descriptor <;> simp

private theorem flatMap_if {p : String → Bool} {event : String → Event} (members : List String) :
    (members.flatMap fun a => if p a then [event a] else []) = (members.filter p).map event := by
  induction members with
  | nil => rfl
  | cons a members ih => by_cases kept : p a <;> simp [kept, ih]

theorem events_mapM_kindPart (descriptors : List String) :
    (descriptors.mapM kindPart).events =
      (descriptors.filter (· ∉ kindDescriptors)).map .skippedInKind := by
  rw [Resolution.mapM_eq kindPart_eq, ← flatMap_if]
  simp only [kindFragment_eq_none_iff, decide_eq_true_eq]

theorem events_mapM_suffix (descriptors : List String) :
    (descriptors.mapM suffix).events =
      (descriptors.filter (! Registry.contains ·)).map .usedVerbatim := by
  rw [Resolution.mapM_eq suffix_eq, ← flatMap_if]
  simp only [suffix?_eq_none_iff]

/-- A tuple that is named reports the events of its signature, and one that is refused nothing. -/
theorem reports_ofSignature (prefixes : Prefixes) (signature : Signature) :
    (TupleName.ofSignature prefixes signature).Reports signature.events := by
  have kindResult := result_kind signature
  have structResult := result_structName prefixes signature
  cases outcome : descriptors signature with
  | error error =>
    -- The kind is refused before anything is reported, and the struct name is not looked at.
    rw [TupleName.ofSignature, kind, outcome, Resolution.ofExcept_error_bind,
      Resolution.fail_bind]
    exact .fail
  | ok trimmed =>
    rw [outcome] at kindResult structResult
    have kindEvents : (kind signature).events = (trimmed.mapM kindPart).events := by
      rw [kind, outcome, Resolution.ofExcept_ok_bind, Resolution.events_bind_pure]
    have structEvents : (structName prefixes signature).events =
        (trimmed.mapM suffix).events := by
      rw [structName, outcome, Resolution.ofExcept_ok_bind, Resolution.events_bind_pure]
    obtain ⟨_, _, rfl⟩ := descriptors_eq_ok_iff.mp outcome
    refine ⟨fun _ _ => ?_, fun error failed => ?_⟩
    · rw [TupleName.ofSignature, Resolution.events_bind_of_ok kindResult,
        Resolution.events_bind_pure, kindEvents, structEvents, events_mapM_kindPart,
        events_mapM_suffix]
      rfl
    · rw [TupleName.result_ofSignature, outcome] at failed
      cases failed

end Signature

/-! ### Shapes and declarations -/

/-- The event of a record token, if it denotes a record. -/
def RecordName.events (prefixes : Prefixes) (token : String) : List Event :=
  match (ofToken prefixes token).result with
  | .ok record => [.recordResolved token record.className]
  | .error _ => []

theorem RecordName.events_ofToken (prefixes : Prefixes) (token : String) :
    (ofToken prefixes token).events = events prefixes token := by
  rw [events, ofToken]
  split
  · rfl
  · simp only
    split <;> rfl

namespace Shape

/-- The events of a shape that is represented. -/
def events (prefixes : Prefixes) : Shape → List Event
  | scalar _ => []
  | list inner => inner.events prefixes
  | tuple signature => Signature.events signature
  | record token => RecordName.events prefixes token

/-- A shape that is represented reports its events, and one that is refused nothing. -/
theorem reports_represent (prefixes : Prefixes) (shape : Shape) :
    (shape.represent prefixes).Reports (shape.events prefixes) := by
  induction shape with
  | scalar descriptor =>
    rw [represent]
    exact Resolution.Reports.bind_pure ⟨fun _ _ => rfl, fun _ _ => rfl⟩ _
  | list inner ih => exact ih.bind_pure _
  | tuple signature => exact (Signature.reports_ofSignature prefixes signature).bind_pure _
  | record token =>
    refine Resolution.Reports.bind_pure ⟨fun _ _ => ?_, fun error failed => ?_⟩ _
    · exact RecordName.events_ofToken prefixes token
    · rw [RecordName.events_ofToken, RecordName.events, failed]

end Shape

/-- The events of a declaration whose field is bound: those of its shape, and once more that of
    the record to which the shape refers. -/
def Declaration.events (prefixes : Prefixes) (declaration : Declaration) : List Event :=
  declaration.shape.events prefixes ++
    declaration.shape.recordToken?.elim [] (RecordName.events prefixes)

/-- The events of a declaration that is refused for a reason: those of its shape if the name is
    that of another field, since the shape is sound then, and else none. -/
def Declaration.eventsRefused (prefixes : Prefixes) (declaration : Declaration) :
    NamingError → List Event
  | .duplicateField .. => declaration.shape.events prefixes
  | _ => []

/-! No part of an entity reports that an entity is resolved. -/

section
variable {prefixes : Prefixes} {name className : String} {fields : Nat}

theorem RecordName.entityResolved_not_mem_events (token : String) :
    .entityResolved name className fields ∉ events prefixes token := by
  rw [events]
  split <;> simp

theorem Shape.entityResolved_not_mem_events (shape : Shape) :
    .entityResolved name className fields ∉ shape.events prefixes := by
  induction shape with
  | scalar descriptor => simp [events]
  | list inner ih => exact ih
  | tuple signature => simp [events, Signature.events]
  | record token => exact RecordName.entityResolved_not_mem_events token

theorem Declaration.entityResolved_not_mem_events (declaration : Declaration) :
    .entityResolved name className fields ∉ declaration.events prefixes := by
  rw [events, List.mem_append, not_or]
  refine ⟨declaration.shape.entityResolved_not_mem_events, ?_⟩
  cases declaration.shape.recordToken? with
  | none => simp
  | some token => exact RecordName.entityResolved_not_mem_events token

theorem Declaration.entityResolved_not_mem_eventsRefused (declaration : Declaration)
    (error : NamingError) :
    .entityResolved name className fields ∉ declaration.eventsRefused prefixes error := by
  cases error with
  | duplicateField entity field => exact declaration.shape.entityResolved_not_mem_events
  | _ => simp [eventsRefused]

end

theorem Shape.Refused.eventsRefused {shape : Shape} {error : NamingError}
    (refused : shape.Refused error) (prefixes : Prefixes) (declaration : Declaration) :
    declaration.eventsRefused prefixes error = [] := by
  induction refused with
  | scalar unknown => rfl
  | tuple refused => cases refused <;> rfl
  | record refused => cases refused <;> rfl
  | list refused ih => exact ih

theorem Declaration.Refused.eventsRefused {declaration : Declaration} {error : NamingError}
    (refused : declaration.Refused error) (prefixes : Prefixes) :
    declaration.eventsRefused prefixes error = [] := by
  cases refused with
  | blank blank => rfl
  | shape named refused => exact refused.eventsRefused prefixes declaration

theorem FieldBinding.reports_ofDeclaration (prefixes : Prefixes) (declaration : Declaration) :
    (ofDeclaration prefixes declaration).Reports (declaration.shape.events prefixes) := by
  rw [ofDeclaration]
  split
  · exact .fail
  · exact (declaration.shape.reports_represent prefixes).bind_pure _

namespace EntityBinding

/-! ### Steps and runs -/

section
variable (prefixes : Prefixes) (entity : String) {declarations before : List Declaration}
  {declaration : Declaration} {draft : Draft}

theorem events_includeShape (includes : List String) (shape : Shape) :
    (includeShape prefixes includes shape).events =
      shape.recordToken?.elim [] (RecordName.events prefixes) := by
  rw [includeShape]
  cases shape.recordToken? with
  | none => rfl
  | some token => exact (Resolution.events_bind_pure _ _).trans (RecordName.events_ofToken _ _)

/-- A step that binds a field reports the events of its declaration. -/
theorem events_addField_of_ok {next : Draft}
    (stepped : (addField prefixes entity draft declaration).result = .ok next) :
    (addField prefixes entity draft declaration).events = declaration.events prefixes := by
  obtain ⟨field, outcome, rest⟩ := Resolution.result_bind_eq_ok_iff.mp stepped
  rw [addField, Resolution.events_bind_of_ok outcome,
    (FieldBinding.reports_ofDeclaration prefixes declaration).done field outcome]
  by_cases repeated : draft.seen.contains field.name = true
  · rw [if_pos repeated] at rest
    cases rest
  · rw [if_neg repeated, Resolution.events_bind_pure, events_includeShape, Declaration.events]

/-- A step that stops reports what the reason leaves of its declaration. -/
theorem events_addField_of_refusedAfter (bound : Bound prefixes before draft) {error : NamingError}
    (refused : declaration.RefusedAfter entity before error) :
    (addField prefixes entity draft declaration).events =
      declaration.eventsRefused prefixes error := by
  have reports := FieldBinding.reports_ofDeclaration prefixes declaration
  cases refused with
  | itself refused =>
    have outcome : (FieldBinding.ofDeclaration prefixes declaration).result = .error error :=
      FieldBinding.ofDeclaration_eq_error_iff.mpr refused
    rw [addField, Resolution.events_bind_of_error outcome, reports.failed error outcome,
      refused.eventsRefused prefixes]
  | duplicate sound member same =>
    -- The shape is represented before the name is compared, so its events are reported.
    obtain ⟨field, outcome, _, repeated⟩ := bound.exists_repeated sound member same
    rw [addField, Resolution.events_bind_of_ok outcome, if_pos repeated,
      reports.done field outcome]
    exact List.append_nil _

/-- A run that binds declarations reports their events one after the other. -/
theorem events_foldlM_addField_of_ok {first last : Draft}
    (run : (declarations.foldlM (addField prefixes entity) first).result = .ok last) :
    (declarations.foldlM (addField prefixes entity) first).events =
      declarations.flatMap (Declaration.events prefixes) := by
  have each (draft : Draft) (declaration : Declaration) (next : Draft)
      (stepped : (addField prefixes entity draft declaration).result = .ok next) :
      (addField prefixes entity draft declaration).events = declaration.events prefixes :=
    events_addField_of_ok prefixes entity stepped
  exact Resolution.events_foldlM each run

/-- A run that stops reports the events of the declarations before the one that offends, and of
    that one what the reason leaves. -/
theorem events_foldlM_addField_of_refusedAfter {position : Nat} {error : NamingError}
    (accepted : Accepted (declarations.take position))
    (there : declarations[position]? = some declaration)
    (refused : declaration.RefusedAfter entity (declarations.take position) error) :
    (declarations.foldlM (addField prefixes entity) {}).events =
      (declarations.take position).flatMap (Declaration.events prefixes) ++
        declaration.eventsRefused prefixes error := by
  obtain ⟨draft, run, bound, split⟩ :=
    foldlM_addField_eq_bind prefixes entity accepted there refused
  rw [split, Resolution.events_bind_of_ok run, events_foldlM_addField_of_ok prefixes entity run,
    events_addField_of_refusedAfter prefixes entity bound refused]

/-! ### Entities -/

variable {token name : String}

/-- An entity that is bound reports itself after the run over its declarations. -/
theorem events_ofDeclarations_of_run_ok (denotes : RecordName.Denotes token name)
    (kept : name ∉ Exclusion.names)
    (run : (declarations.foldlM (addField prefixes name) {}).result = .ok draft) :
    (ofDeclarations prefixes token declarations).events =
      .recordResolved token (prefixes.className name) ::
        declarations.flatMap (Declaration.events prefixes) ++
          [.entityResolved name (prefixes.className name) draft.fields.length] := by
  rw [ofDeclarations_of_kept prefixes denotes kept, Resolution.report_bind,
    Resolution.events_bind_of_ok run, events_foldlM_addField_of_ok prefixes name run]
  rfl

/-- An entity that is not bound reports nothing after the run over its declarations. -/
theorem events_ofDeclarations_of_run_error (denotes : RecordName.Denotes token name)
    (kept : name ∉ Exclusion.names) {error : NamingError}
    (run : (declarations.foldlM (addField prefixes name) {}).result = .error error) :
    (ofDeclarations prefixes token declarations).events =
      .recordResolved token (prefixes.className name) ::
        (declarations.foldlM (addField prefixes name) {}).events := by
  rw [ofDeclarations_of_kept prefixes denotes kept, Resolution.report_bind,
    Resolution.events_bind_of_error run]

end

/-! ### Everything an entity reports -/

variable (prefixes : Prefixes) (token : String) (declarations : List Declaration)

private theorem events_of_ok {entity : EntityBinding}
    (bound : (ofDeclarations prefixes token declarations).result = .ok entity) :
    (ofDeclarations prefixes token declarations).events =
      .recordResolved token entity.className ::
        declarations.flatMap (Declaration.events prefixes) ++
          [.entityResolved entity.name entity.className declarations.length] := by
  obtain ⟨name, _, denotes, kept, invariant, _⟩ := ofDeclarations_eq_ok bound
  obtain ⟨draft, run, boundDraft⟩ :=
    foldlM_addField_of_accepted prefixes name invariant.accepted
  rw [result_ofDeclarations_of_kept prefixes denotes kept, run] at bound
  cases bound
  rw [events_ofDeclarations_of_run_ok prefixes denotes kept run, boundDraft.length_fields]
  rfl

private theorem events_of_offends {record : RecordName} {position : Nat}
    {declaration : Declaration}
    (resolved : (RecordName.ofToken prefixes token).result = .ok record)
    (kept : record.name ∉ Exclusion.names)
    (first : ∀ earlier < position, ¬ OffendsAt declarations earlier)
    (there : declarations[position]? = some declaration)
    (offends : declaration.Offends (declarations.take position)) :
    ∃ error, (ofDeclarations prefixes token declarations).result = .error error ∧
      (ofDeclarations prefixes token declarations).events =
        .recordResolved token record.className ::
          (declarations.take position).flatMap (Declaration.events prefixes) ++
            declaration.eventsRefused prefixes error := by
  obtain ⟨denotes, classNamed, _⟩ := RecordName.ofToken_eq_ok_iff.mp resolved
  obtain ⟨error, refused⟩ := (Declaration.offends_iff record.name).mp offends
  have accepted := accepted_take_iff.mpr first
  have run := foldlM_addField_of_refusedAfter prefixes record.name accepted there refused
  refine ⟨error, ?_, ?_⟩
  · rw [result_ofDeclarations_of_kept prefixes denotes kept, run]
    rfl
  · rw [events_ofDeclarations_of_run_error prefixes denotes kept run, classNamed,
      events_foldlM_addField_of_refusedAfter prefixes record.name accepted there refused]
    rfl

private theorem entityResolved_not_mem_of_error {error : NamingError}
    (failed : (ofDeclarations prefixes token declarations).result = .error error)
    (name className : String) (fields : Nat) :
    .entityResolved name className fields ∉ (ofDeclarations prefixes token declarations).events := by
  cases (ofDeclarations_eq_error_iff prefixes token declarations).mp failed with
  | token refused =>
    rw [ofDeclarations_of_refused prefixes (RecordName.ofToken_eq_error_iff.mp refused)]
    exact List.not_mem_nil
  | excluded resolved excluded =>
    obtain ⟨denotes, _⟩ := RecordName.ofToken_eq_ok_iff.mp resolved
    rw [ofDeclarations_of_excluded prefixes denotes excluded]
    simp
  | @declaration record position declaration _ resolved kept first there refused =>
    have offends := (Declaration.offends_iff record.name).mpr ⟨_, refused⟩
    obtain ⟨reason, _, events⟩ :=
      events_of_offends prefixes token declarations resolved kept first there offends
    rw [events]
    simp [Declaration.entityResolved_not_mem_events,
      Declaration.entityResolved_not_mem_eventsRefused]

/-- What an entity reports, on success and on every failure. An entity that is bound reports its
    token, the events of its declarations in order, and itself with the number of its fields. A
    token that is refused reports nothing, and an excluded name only the token. Where a declaration
    is the first that offends, the events end with those of the declarations before it and, if
    its name is the fault, those of its shape; and no failure reports that the entity is resolved.
    The parts of tuples are reported at the levels of traces and warnings, and all else is for
    debugging. -/
theorem events_ofDeclarations :
    (∀ entity, (ofDeclarations prefixes token declarations).result = .ok entity →
      (ofDeclarations prefixes token declarations).events =
        .recordResolved token entity.className ::
          declarations.flatMap (Declaration.events prefixes) ++
            [.entityResolved entity.name entity.className declarations.length]) ∧
    (∀ error, (RecordName.ofToken prefixes token).result = .error error →
      (ofDeclarations prefixes token declarations).events = []) ∧
    (∀ record, (RecordName.ofToken prefixes token).result = .ok record →
      record.name ∈ Exclusion.names →
      (ofDeclarations prefixes token declarations).events =
        [.recordResolved token record.className]) ∧
    (∀ record position declaration, (RecordName.ofToken prefixes token).result = .ok record →
      record.name ∉ Exclusion.names →
      (∀ earlier < position, ¬ OffendsAt declarations earlier) →
      declarations[position]? = some declaration →
      declaration.Offends (declarations.take position) →
      ∃ error, (ofDeclarations prefixes token declarations).result = .error error ∧
        (ofDeclarations prefixes token declarations).events =
          .recordResolved token record.className ::
            (declarations.take position).flatMap (Declaration.events prefixes) ++
              declaration.eventsRefused prefixes error) ∧
    (∀ error, (ofDeclarations prefixes token declarations).result = .error error →
      ∀ name className fields, .entityResolved name className fields ∉
        (ofDeclarations prefixes token declarations).events) ∧
    (∀ descriptor, (Event.skippedInKind descriptor).level = .trace ∧
      (Event.usedVerbatim descriptor).level = .warn) ∧
    (∀ token className, (Event.recordResolved token className).level = .debug ∧
      (Event.recordResolved token className).message =
        "Resolved record token " ++ token ++ " as " ++ className) ∧
    (∀ name className fields, (Event.entityResolved name className fields).level = .debug ∧
      (Event.entityResolved name className fields).message =
        "Resolved entity " ++ name ++ " as " ++ className ++ " with " ++ toString fields ++
          " fields") := by
  refine ⟨fun _ => events_of_ok prefixes token declarations, ?_, ?_, ?_,
    fun _ => entityResolved_not_mem_of_error prefixes token declarations,
    fun _ => ⟨rfl, rfl⟩, fun _ _ => ⟨rfl, rfl⟩, fun _ _ _ => ⟨rfl, rfl⟩⟩
  · intro error refused
    rw [ofDeclarations_of_refused prefixes (RecordName.ofToken_eq_error_iff.mp refused)]
    rfl
  · intro record resolved excluded
    obtain ⟨denotes, classNamed, _⟩ := RecordName.ofToken_eq_ok_iff.mp resolved
    rw [ofDeclarations_of_excluded prefixes denotes excluded, classNamed]
  · intro record position declaration resolved kept first there offends
    exact events_of_offends prefixes token declarations resolved kept first there offends

example :
    (resolve "grid" [⟨"owner", .record "#user"⟩, ⟨"pair", .tuple ["atom()", " id "]⟩,
      ⟨" owner", .list (.record "user")⟩]).events =
      [.recordResolved "grid" "SwmGrid",
        .recordResolved "#user" "SwmUser", .recordResolved "#user" "SwmUser",
        .skippedInKind "id", .usedVerbatim "id",
        .recordResolved "user" "SwmUser"] := by decide +kernel

end EntityBinding
end StubNames
