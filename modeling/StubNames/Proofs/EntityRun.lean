import StubNames.EntityBinding
import StubNames.Proofs.Acceptance

/-!
The run over the declarations of an entity. The draft holds the bindings of the declarations so
far, the headers that they need and the names that are taken (`Bound`). A run binds declarations that are accepted
(`foldlM_addField_of_accepted`) and stops with the reason why the first of the others is refused
(`foldlM_addField_of_refusedAfter`). An entity is this run between the reports of its token and of
itself (`ofDeclarations_of_kept`), unless its token is refused or its name excluded. Whether an
entity is bound therefore follows from its token and its declarations alone
(`refused_or_accepted`).
-/
namespace StubNames

/-- The name of the record to which a shape refers, through any number of lists. -/
def Shape.recordName? (shape : Shape) : Option String :=
  shape.recordToken?.map fun token => (RecordName.ofMarked token).1

/-- Where a shape is represented, so is the record to which it refers. -/
theorem Shape.denotes_of_represent {prefixes : Prefixes} {shape : Shape} {token : String}
    {representation : Representation}
    (represented : (shape.represent prefixes).result = .ok representation)
    (refers : shape.recordToken? = some token) :
    RecordName.Denotes token (RecordName.ofMarked token).1 := by
  induction shape generalizing representation with
  | scalar descriptor => cases refers
  | tuple signature => cases refers
  | list inner ih =>
    rw [result_represent_list, Resolution.map_eq_ok_iff] at represented
    obtain ⟨member, innerRepresented, _⟩ := represented
    exact ih innerRepresented refers
  | record other =>
    cases refers
    rcases RecordName.denotes_or_refused token with ⟨name, denotes⟩ | ⟨error, refused⟩
    · exact denotes.unmarked ▸ denotes
    · rw [represent_eq_error_iff.mpr (.record refused)] at represented
      cases represented

namespace EntityBinding

/-! ### The invariant of the run -/

/-- The headers of the records to which declarations refer, each once and in the order of their
    first use. -/
def headers (prefixes : Prefixes) (declarations : List Declaration) : List String :=
  (declarations.filterMap (·.shape.recordName?)).eraseDups.map prefixes.headerName

/-- A draft holds the bindings of declarations that are accepted, the headers they need, and exactly
    the names bound so far as those seen. -/
structure Bound (prefixes : Prefixes) (declarations : List Declaration) (draft : Draft) : Prop where
  accepted : Accepted declarations
  bindings : declarations.map (fun declaration =>
    (FieldBinding.ofDeclaration prefixes declaration).result) = draft.fields.map .ok
  names : draft.fields.map (·.name) = declarations.map Declaration.fieldName
  includes : draft.includes = headers prefixes declarations
  seen : ∀ name, name ∈ draft.seen ↔ name ∈ draft.fields.map (·.name)

theorem bound_nil (prefixes : Prefixes) : Bound prefixes [] {} :=
  ⟨⟨by simp, by simp⟩, rfl, rfl, rfl, fun _ => Iff.rfl⟩

theorem headerName_injective (prefixes : Prefixes) : Function.Injective prefixes.headerName := by
  intro left right same
  rw [Prefixes.headerName, Prefixes.headerName, String.append_left_inj,
    String.append_right_inj] at same
  exact same

private theorem eraseDups_append_singleton (names : List String) (name : String) :
    (names ++ [name]).eraseDups =
      if name ∈ names then names.eraseDups else names.eraseDups ++ [name] := by
  rw [List.eraseDups_append]
  by_cases known : name ∈ names <;> simp [List.removeAll, known, List.eraseDups_cons]

theorem nodup_eraseDups (names : List String) : names.eraseDups.Nodup := by
  induction names using List.reverseRecOn with
  | nil => simp
  | append_singleton names name ih =>
    rw [eraseDups_append_singleton]
    by_cases known : name ∈ names
    · rw [if_pos known]
      exact ih
    · rw [if_neg known, List.nodup_append]
      refine ⟨ih, by simp, ?_⟩
      intro other among last isLast same
      rw [List.mem_singleton] at isLast
      exact known (isLast ▸ same ▸ List.mem_eraseDups.mp among)

theorem headers_append_singleton (prefixes : Prefixes) (before : List Declaration)
    (declaration : Declaration) :
    headers prefixes (before ++ [declaration]) =
      declaration.shape.recordName?.elim (headers prefixes before) fun name =>
        addInclude (headers prefixes before) (prefixes.headerName name) := by
  rw [headers, headers, List.filterMap_append]
  cases refers : declaration.shape.recordName? with
  | none => simp [refers]
  | some name =>
    generalize before.filterMap (·.shape.recordName?) = names
    have among : prefixes.headerName name ∈ names.eraseDups.map prefixes.headerName ↔
        name ∈ names := by
      rw [List.mem_map_of_injective (headerName_injective prefixes), List.mem_eraseDups]
    have single : [declaration].filterMap (·.shape.recordName?) = [name] := by simp [refers]
    rw [single, eraseDups_append_singleton, Option.elim_some, addInclude]
    by_cases known : name ∈ names
    · rw [if_pos known, if_pos (by simpa using among.mpr known)]
    · rw [if_neg known, if_neg (by simpa using mt among.mp known), List.map_append]
      rfl

/-- The header that a represented shape needs is found without another fault. -/
theorem result_includeShape {prefixes : Prefixes} {shape : Shape} {representation : Representation}
    (represented : (shape.represent prefixes).result = .ok representation)
    (includes : List String) :
    (includeShape prefixes includes shape).result =
      .ok (shape.recordName?.elim includes fun name =>
        addInclude includes (prefixes.headerName name)) := by
  rw [includeShape, Shape.recordName?]
  cases refers : shape.recordToken? with
  | none => rfl
  | some token =>
    have denotes := Shape.denotes_of_represent represented refers
    have resolved := RecordName.result_ofToken_of_denotes prefixes denotes
    exact Resolution.result_bind_of_ok resolved _

/-- At every position stands the binding of the declaration at that position. -/
theorem Bound.getElem?_fields {prefixes : Prefixes} {declarations : List Declaration}
    {draft : Draft} (bound : Bound prefixes declarations draft) (position : Nat) :
    declarations[position]?.map (fun declaration =>
      (FieldBinding.ofDeclaration prefixes declaration).result) =
      draft.fields[position]?.map .ok := by
  have atPosition := congrArg (·[position]?) bound.bindings
  simp only [List.getElem?_map] at atPosition
  exact atPosition

theorem Bound.binding_of_getElem? {prefixes : Prefixes} {declarations : List Declaration}
    {draft : Draft} (bound : Bound prefixes declarations draft) {position : Nat}
    {declaration : Declaration} {field : FieldBinding}
    (declared : declarations[position]? = some declaration)
    (there : draft.fields[position]? = some field) :
    (FieldBinding.ofDeclaration prefixes declaration).result = .ok field := by
  have atPosition := bound.getElem?_fields position
  rw [declared, there] at atPosition
  exact Option.some.inj atPosition

/-- The fields of a draft are the bindings of its declarations, one by one. -/
theorem Bound.forall₂ {prefixes : Prefixes} {declarations : List Declaration} {draft : Draft}
    (bound : Bound prefixes declarations draft) :
    List.Forall₂ (fun declaration field =>
      (FieldBinding.ofDeclaration prefixes declaration).result = .ok field)
      declarations draft.fields := by
  have bindings := bound.bindings
  rwa [← List.forall₂_eq_eq_eq, List.forall₂_map_left_iff, List.forall₂_map_right_iff] at bindings

theorem Bound.length_fields {prefixes : Prefixes} {declarations : List Declaration}
    {draft : Draft} (bound : Bound prefixes declarations draft) :
    draft.fields.length = declarations.length := by
  have lengths := congrArg List.length bound.bindings
  rw [List.length_map, List.length_map] at lengths
  exact lengths.symm

/-! ### Steps and runs -/

section
variable (prefixes : Prefixes) (entity : String) {declarations before : List Declaration}
  {declaration : Declaration} {draft : Draft}

variable {prefixes} in
/-- The names seen are those that the declarations so far give to their fields. -/
theorem Bound.contains_seen_iff (bound : Bound prefixes before draft) (name : String) :
    draft.seen.contains name = true ↔ ∃ other ∈ before, other.fieldName = name := by
  rw [List.contains_iff_mem, bound.seen, bound.names, List.mem_map]

variable {prefixes} in
theorem Bound.append_singleton (bound : Bound prefixes before draft)
    (fine : ¬ declaration.Offends before) {field : FieldBinding}
    (outcome : (FieldBinding.ofDeclaration prefixes declaration).result = .ok field) :
    Bound prefixes (before ++ [declaration])
      ⟨draft.fields ++ [field], headers prefixes (before ++ [declaration]),
        field.name :: draft.seen⟩ where
  accepted := accepted_append_singleton_iff.mpr ⟨bound.accepted, fine⟩
  bindings := by
    rw [List.map_append, bound.bindings, List.map_singleton, outcome, List.map_append,
      List.map_singleton]
  names := by
    rw [List.map_append, bound.names, List.map_singleton, FieldBinding.name_of_ok outcome,
      List.map_append, List.map_singleton]
  includes := rfl
  seen := by
    intro name
    rw [List.mem_cons, bound.seen, List.map_append, List.mem_append, List.map_singleton,
      List.mem_singleton, or_comm]

/-- A step binds a declaration that does not offend. -/
theorem addField_of_not_offends (bound : Bound prefixes before draft)
    (fine : ¬ declaration.Offends before) :
    ∃ next, (addField prefixes entity draft declaration).result = .ok next ∧
      Bound prefixes (before ++ [declaration]) next := by
  cases outcome : (FieldBinding.ofDeclaration prefixes declaration).result with
  | error error =>
    have refused := FieldBinding.ofDeclaration_eq_error_iff.mp outcome
    exact absurd ((Declaration.offends_iff entity).mpr ⟨error, .itself refused⟩) fine
  | ok field =>
    obtain ⟨_, representation, represented, _⟩ := FieldBinding.ofDeclaration_eq_ok_iff.mp outcome
    have fresh : ¬ draft.seen.contains field.name = true := by
      rw [bound.contains_seen_iff, FieldBinding.name_of_ok outcome]
      exact fun repeated => fine (.inr (.inr repeated))
    have included := result_includeShape represented draft.includes
    rw [bound.includes, ← headers_append_singleton, ← bound.includes] at included
    refine ⟨_, ?_, bound.append_singleton fine outcome⟩
    rw [addField, Resolution.result_bind_of_ok outcome, if_neg fresh,
      Resolution.result_bind_of_ok included]
    rfl

variable {prefixes} in
/-- A declaration that repeats a name is bound by itself, to the name of a field of the draft. -/
theorem Bound.exists_repeated (bound : Bound prefixes before draft)
    (sound : ∀ error, ¬ declaration.Refused error) {other : Declaration} (member : other ∈ before)
    (same : other.fieldName = declaration.fieldName) :
    ∃ field, (FieldBinding.ofDeclaration prefixes declaration).result = .ok field ∧
      field.name = declaration.fieldName ∧ draft.seen.contains field.name = true := by
  cases outcome : (FieldBinding.ofDeclaration prefixes declaration).result with
  | error error => exact absurd (FieldBinding.ofDeclaration_eq_error_iff.mp outcome) (sound error)
  | ok field =>
    have named := FieldBinding.name_of_ok outcome
    refine ⟨field, rfl, named, ?_⟩
    rw [bound.contains_seen_iff, named]
    exact ⟨other, member, same⟩

/-- A step stops at a declaration that is refused, with the reason why it is. -/
theorem addField_of_refusedAfter (bound : Bound prefixes before draft) {error : NamingError}
    (refused : declaration.RefusedAfter entity before error) :
    (addField prefixes entity draft declaration).result = .error error := by
  cases refused with
  | itself refused =>
    exact Resolution.result_bind_of_error (FieldBinding.ofDeclaration_eq_error_iff.mpr refused) _
  | duplicate sound member same =>
    obtain ⟨field, outcome, named, repeated⟩ := bound.exists_repeated sound member same
    rw [addField, Resolution.result_bind_of_ok outcome, if_pos repeated, named]
    rfl

/-- A run binds declarations that are accepted. -/
theorem foldlM_addField_of_accepted (accepted : Accepted declarations) :
    ∃ draft, (declarations.foldlM (addField prefixes entity) {}).result = .ok draft ∧
      Bound prefixes declarations draft := by
  induction declarations using List.reverseRecOn with
  | nil => exact ⟨{}, rfl, bound_nil prefixes⟩
  | append_singleton before declaration ih =>
    obtain ⟨acceptedBefore, fine⟩ := accepted_append_singleton_iff.mp accepted
    obtain ⟨draft, run, bound⟩ := ih acceptedBefore
    obtain ⟨next, step, boundNext⟩ := addField_of_not_offends prefixes entity bound fine
    refine ⟨next, ?_, boundNext⟩
    rw [List.foldlM_append, Resolution.result_bind_of_ok run, List.foldlM_cons,
      Resolution.result_bind_of_ok step]
    rfl

/-- A run ends at the first declaration that offends: it is the run over the declarations before,
    which binds them, and the step that stops at this one. -/
theorem foldlM_addField_eq_bind {position : Nat} {error : NamingError}
    (accepted : Accepted (declarations.take position))
    (there : declarations[position]? = some declaration)
    (refused : declaration.RefusedAfter entity (declarations.take position) error) :
    ∃ draft,
      ((declarations.take position).foldlM (addField prefixes entity) {}).result = .ok draft ∧
      Bound prefixes (declarations.take position) draft ∧
      declarations.foldlM (addField prefixes entity) {} =
        (declarations.take position).foldlM (addField prefixes entity) {} >>=
          (addField prefixes entity · declaration) := by
  obtain ⟨draft, run, bound⟩ := foldlM_addField_of_accepted prefixes entity accepted
  have stopped := addField_of_refusedAfter prefixes entity bound refused
  exact ⟨draft, run, bound, Resolution.foldlM_eq_bind_of_error there run stopped⟩

/-- A run stops at the first declaration that offends, with the reason why it is refused. -/
theorem foldlM_addField_of_refusedAfter {position : Nat} {error : NamingError}
    (accepted : Accepted (declarations.take position))
    (there : declarations[position]? = some declaration)
    (refused : declaration.RefusedAfter entity (declarations.take position) error) :
    (declarations.foldlM (addField prefixes entity) {}).result = .error error := by
  obtain ⟨draft, run, bound, split⟩ :=
    foldlM_addField_eq_bind prefixes entity accepted there refused
  rw [split, Resolution.result_bind_of_ok run]
  exact addField_of_refusedAfter prefixes entity bound refused

/-! ### Entities -/

/-- The binding of the entity of a name, after its draft. -/
def ofDraft (name : String) (draft : Draft) : EntityBinding where
  name := name
  className := prefixes.className name
  header := prefixes.headerName name
  listDecoder := prefixes.decoderName name
  converter := prefixes.converterName name
  includes := draft.includes
  fields := draft.fields

variable {token name : String}

/-- An entity is refused as its token is, and then nothing is reported. -/
theorem ofDeclarations_of_refused {error : NamingError} (refused : RecordName.Refused token error)
    (declarations : List Declaration) :
    ofDeclarations prefixes token declarations = Resolution.fail error := by
  rw [ofDeclarations, RecordName.ofToken_of_refused prefixes refused]
  rfl

/-- An entity whose name is excluded is refused once its token is reported. -/
theorem ofDeclarations_of_excluded (denotes : RecordName.Denotes token name)
    (excluded : name ∈ Exclusion.names) (declarations : List Declaration) :
    ofDeclarations prefixes token declarations =
      ⟨[.recordResolved token (prefixes.className name)], .error (.excludedEntity name)⟩ := by
  rw [ofDeclarations, RecordName.ofToken_of_denotes prefixes denotes, Resolution.mk_ok_bind,
    if_pos (Exclusion.excludes_iff.mpr excluded)]
  rfl

/-- Any other entity is the run over its declarations, between the reports of its token and of
    itself. -/
theorem ofDeclarations_of_kept (denotes : RecordName.Denotes token name)
    (kept : name ∉ Exclusion.names) (declarations : List Declaration) :
    ofDeclarations prefixes token declarations =
      (do
        Resolution.report (.recordResolved token (prefixes.className name))
        let draft ← declarations.foldlM (addField prefixes name) {}
        Resolution.report
          (.entityResolved name (prefixes.className name) draft.fields.length)
        pure (ofDraft prefixes name draft)) := by
  rw [ofDeclarations, RecordName.ofToken_of_denotes prefixes denotes, Resolution.mk_ok_bind,
    if_neg (mt Exclusion.excludes_iff.mp kept)]
  rfl

theorem result_ofDeclarations_of_excluded (denotes : RecordName.Denotes token name)
    (excluded : name ∈ Exclusion.names) (declarations : List Declaration) :
    (ofDeclarations prefixes token declarations).result = .error (.excludedEntity name) := by
  rw [ofDeclarations_of_excluded prefixes denotes excluded]

/-- An entity that is not excluded has the outcome of the run over its declarations. -/
theorem result_ofDeclarations_of_kept (denotes : RecordName.Denotes token name)
    (kept : name ∉ Exclusion.names) (declarations : List Declaration) :
    (ofDeclarations prefixes token declarations).result =
      (declarations.foldlM (addField prefixes name) {}).result.map (ofDraft prefixes name) := by
  rw [ofDeclarations_of_kept prefixes denotes kept, Resolution.report_bind]
  exact Resolution.result_bind_eq_map fun _ => rfl

/-- An entity is bound if its token denotes a name that is not excluded and its declarations are
    accepted. -/
theorem exists_ofDeclarations (denotes : RecordName.Denotes token name)
    (kept : name ∉ Exclusion.names) (accepted : Accepted declarations) :
    ∃ draft, Bound prefixes declarations draft ∧
      (ofDeclarations prefixes token declarations).result = .ok (ofDraft prefixes name draft) := by
  obtain ⟨draft, run, bound⟩ := foldlM_addField_of_accepted prefixes name accepted
  refine ⟨draft, bound, ?_⟩
  rw [result_ofDeclarations_of_kept prefixes denotes kept, run]
  rfl

/-- Whether an entity is refused, and with which error, does not depend on the prefixes. -/
theorem refused_or_accepted (token : String) (declarations : List Declaration) :
    (∃ error, ∀ prefixes, (ofDeclarations prefixes token declarations).result = .error error) ∨
      ∃ name, RecordName.Denotes token name ∧ name ∉ Exclusion.names ∧ Accepted declarations := by
  rcases RecordName.denotes_or_refused token with ⟨name, denotes⟩ | ⟨error, refused⟩
  · by_cases excluded : name ∈ Exclusion.names
    · exact .inl ⟨_, fun prefixes =>
        result_ofDeclarations_of_excluded prefixes denotes excluded declarations⟩
    · rcases accepted_or_offendsAt declarations with
        accepted | ⟨position, accepted, declaration, there, offends⟩
      · exact .inr ⟨name, denotes, excluded, accepted⟩
      · obtain ⟨error, refused⟩ := (Declaration.offends_iff name).mp offends
        refine .inl ⟨error, fun prefixes => ?_⟩
        rw [result_ofDeclarations_of_kept prefixes denotes excluded,
          foldlM_addField_of_refusedAfter prefixes name accepted there refused]
        rfl
  · refine .inl ⟨error, fun prefixes => ?_⟩
    rw [ofDeclarations_of_refused prefixes refused]
    rfl

variable {prefixes} in
/-- An entity is bound only if its token denotes a name that is not excluded and its declarations
    are accepted. -/
theorem ofDeclarations_eq_ok {binding : EntityBinding}
    (bound : (ofDeclarations prefixes token declarations).result = .ok binding) :
    ∃ name draft, RecordName.Denotes token name ∧ name ∉ Exclusion.names ∧
      Bound prefixes declarations draft ∧ binding = ofDraft prefixes name draft := by
  rcases refused_or_accepted token declarations with
    ⟨error, failed⟩ | ⟨name, denotes, kept, accepted⟩
  · rw [failed prefixes] at bound
    cases bound
  · obtain ⟨draft, invariant, same⟩ := exists_ofDeclarations prefixes denotes kept accepted
    rw [same] at bound
    cases bound
    exact ⟨name, draft, denotes, kept, invariant, rfl⟩

end

end EntityBinding
end StubNames
