import StubNames.Proofs.FirstRefusal

/-!
Blanks around what is written. Blanks on either side of the names of fields, of scalar descriptors
and of the descriptors of tuples change nothing that is generated or reported, and of the errors
only the quote of a descriptor that denotes no type (`padding_ignored`). A run over padded
declarations takes the same steps, since every step looks at the trimmed texts alone.
-/
namespace StubNames

/-- A text with blanks, or nothing, added on either side. -/
def Text.Padded (text padded : String) : Prop :=
  ∃ front back : String, isBlank front ∧ isBlank back ∧ padded = front ++ text ++ back

namespace Text

theorem Padded.trim_eq {text padded : String} (pads : Padded text padded) :
    trim padded = trim text := by
  obtain ⟨front, back, blankFront, blankBack, rfl⟩ := pads
  rw [← String.toList_inj, toList_trim, toList_trim, String.toList_append, String.toList_append]
  exact trimChars_padded blankFront blankBack text.toList

/-- Whether a text is blank can be seen from the trimmed text. -/
theorem isBlank_trim (s : String) : isBlank (trim s) = isBlank s := by
  rw [Bool.eq_iff_iff, ← trim_eq_empty_iff, ← trim_eq_empty_iff, trim_trim]

theorem isBlank_comp_trim : isBlank ∘ trim = isBlank := by
  funext s
  rw [Function.comp_apply, isBlank_trim]

theorem Padded.isBlank_eq {text padded : String} (pads : Padded text padded) :
    isBlank padded = isBlank text := by
  rw [← isBlank_trim, pads.trim_eq, isBlank_trim]

end Text

/-! ### Registry and signatures -/

namespace Registry

variable {text padded : String}

theorem find?_padded (pads : Text.Padded text padded) : find? padded = find? text := by
  rw [find?, pads.trim_eq, find?]

theorem suffix?_padded (pads : Text.Padded text padded) : suffix? padded = suffix? text := by
  rw [suffix?, find?_padded pads, suffix?]

theorem contains_padded (pads : Text.Padded text padded) : contains padded = contains text := by
  rw [contains, find?_padded pads, contains]

/-- A look-up of a padded text finds the same, and where it fails it quotes the padded text. -/
theorem lookup_padded (pads : Text.Padded text padded) :
    lookup padded = (lookup text).mapError fun _ => .unknownType padded := by
  rw [lookup, find?_padded pads, lookup]
  cases find? text <;> rfl

end Registry

namespace Signature

/-- The descriptors of a signature come from the trimmed texts alone. -/
theorem descriptors_congr {left right : Signature}
    (same : left.map Text.trim = right.map Text.trim) : descriptors left = descriptors right := by
  have blanks (signature : Signature) :
      signature.findIdx? Text.isBlank = (signature.map Text.trim).findIdx? Text.isBlank := by
    rw [List.findIdx?_map, Text.isBlank_comp_trim]
  have empty (signature : Signature) :
      signature.isEmpty = (signature.map Text.trim).isEmpty := List.isEmpty_map.symm
  rw [descriptors_eq, descriptors_eq, blanks left, blanks right, empty left, empty right, same]

variable {signature padded : Signature}

theorem descriptors_padded (pads : List.Forall₂ Text.Padded signature padded) :
    descriptors padded = descriptors signature := by
  refine descriptors_congr ?_
  induction pads with
  | nil => rfl
  | cons head _ ih => rw [List.map_cons, List.map_cons, head.trim_eq, ih]

theorem kind_padded (pads : List.Forall₂ Text.Padded signature padded) :
    kind padded = kind signature := by
  rw [kind, descriptors_padded pads, kind]

theorem structName_padded (prefixes : Prefixes)
    (pads : List.Forall₂ Text.Padded signature padded) :
    structName prefixes padded = structName prefixes signature := by
  rw [structName, descriptors_padded pads, structName]

theorem ofSignature_padded (prefixes : Prefixes)
    (pads : List.Forall₂ Text.Padded signature padded) :
    TupleName.ofSignature prefixes padded = TupleName.ofSignature prefixes signature := by
  rw [TupleName.ofSignature, kind_padded pads, structName_padded prefixes pads,
    TupleName.ofSignature]

end Signature

/-! ### Errors that quote a descriptor -/

/-- The error with another descriptor quoted, if there is one and the error quotes the text of an
    unknown type. -/
def NamingError.requote (descriptor : Option String) : NamingError → NamingError
  | .registry (.unknownType text) => .registry (.unknownType (descriptor.getD text))
  | error => error

theorem NamingError.requote_none (error : NamingError) : error.requote none = error := by
  cases error with
  | registry error => cases error <;> rfl
  | _ => rfl

/-- Errors that do not quote the text of an unknown type are not touched. -/
theorem NamingError.requote_eq_iff {descriptor : Option String} {before error : NamingError}
    (other : ∀ text, error ≠ .registry (.unknownType text)) :
    before.requote descriptor = error ↔ before = error := by
  constructor
  · rintro rfl
    cases before with
    | registry reason =>
      cases reason with
      | unknownType text => exact absurd rfl (other _)
      | inconsistent message => rfl
    | _ => rfl
  · rintro rfl
    cases before with
    | registry reason =>
      cases reason with
      | unknownType text => exact absurd rfl (other text)
      | inconsistent message => rfl
    | _ => rfl

namespace Resolution

variable {α β : Type} {change : NamingError → NamingError}

/-- The resolution with its error changed, if it fails. -/
def mapError (change : NamingError → NamingError) (step : Resolution α) : Resolution α :=
  ⟨step.events, step.result.mapError change⟩

/-- A change that leaves the error of a step as it is leaves the step as it is. -/
theorem mapError_eq_self {step : Resolution α}
    (fixed : ∀ error, step.result = .error error → change error = error) :
    step.mapError change = step := by
  obtain ⟨events, error | value⟩ := step
  · rw [mapError, Except.mapError, fixed error rfl]
  · rfl

theorem mapError_of_ok {step : Resolution α} {value : α} (done : step.result = .ok value) :
    step.mapError change = step := by
  refine mapError_eq_self fun error failed => ?_
  rw [done] at failed
  cases failed

theorem mapError_requote_none (step : Resolution α) :
    step.mapError (NamingError.requote none) = step :=
  mapError_eq_self fun error _ => error.requote_none

/-- Where the errors of two steps are changed, so are those of both together. -/
theorem mapError_bind {step : Resolution α} {next other : α → Resolution β}
    (each : ∀ value, step.result = .ok value → other value = (next value).mapError change) :
    step.mapError change >>= other = (step >>= next).mapError change := by
  obtain ⟨events, error | value⟩ := step
  · rfl
  · change (⟨events, .ok value⟩ : Resolution α) >>= other = _
    rw [mk_ok_bind, mk_ok_bind, each value rfl]
    rfl

end Resolution

/-! ### Shapes and declarations -/

namespace Shape

/-- The descriptor of the single type inside all lists of a shape, if there is one. -/
def scalar? : Shape → Option String
  | scalar descriptor => some descriptor
  | list inner => inner.scalar?
  | tuple _ | record _ => none

/-- A shape with blanks added around its descriptors; record tokens stay as they are. -/
inductive Padded : Shape → Shape → Prop
  | scalar {descriptor padded : String} (pads : Text.Padded descriptor padded) :
      Padded (.scalar descriptor) (.scalar padded)
  | list {inner padded : Shape} (pads : Padded inner padded) :
      Padded (.list inner) (.list padded)
  | tuple {signature padded : Signature} (pads : List.Forall₂ Text.Padded signature padded) :
      Padded (.tuple signature) (.tuple padded)
  | record {token : String} : Padded (.record token) (.record token)

variable {shape padded : Shape}

theorem Padded.isList_eq (pads : Padded shape padded) : padded.isList = shape.isList := by
  cases pads <;> rfl

theorem Padded.recordToken?_eq (pads : Padded shape padded) :
    padded.recordToken? = shape.recordToken? := by
  induction pads with
  | list _ ih => exact ih
  | _ => rfl

theorem Padded.exists_scalar? (pads : Padded shape padded) {descriptor : String}
    (single : shape.scalar? = some descriptor) : ∃ other, padded.scalar? = some other := by
  induction pads with
  | @scalar _ padded _ => exact ⟨padded, rfl⟩
  | list _ ih => exact ih single
  | tuple _ => cases single
  | record => cases single

theorem scalar?_of_recordToken? {token : String} (refers : shape.recordToken? = some token) :
    shape.scalar? = none := by
  induction shape with
  | list inner ih => exact ih refers
  | scalar descriptor => cases refers
  | _ => rfl

/-- Only the single type inside the lists of a shape is refused for being unknown. -/
theorem scalar?_of_refused {error : NamingError} (refused : shape.Refused error)
    {descriptor : String} (unknown : error = .registry (.unknownType descriptor)) :
    shape.scalar? = some descriptor := by
  induction refused with
  | scalar => cases unknown; rfl
  | tuple refused => cases refused <;> cases unknown
  | record refused => cases refused <;> cases unknown
  | list _ ih => exact ih unknown

/-- A padded shape is represented alike, or refused alike with its own descriptor quoted. -/
theorem Padded.represent_eq (prefixes : Prefixes) (pads : Padded shape padded) :
    padded.represent prefixes =
      (shape.represent prefixes).mapError (NamingError.requote padded.scalar?) := by
  induction pads with
  | @scalar descriptor padded pads =>
    rw [represent, represent, Registry.lookup_padded pads, Registry.lookup]
    cases Registry.find? descriptor <;> rfl
  | list _ ih =>
    rw [represent, represent, ih]
    exact Resolution.mapError_bind fun _ _ => rfl
  | tuple pads =>
    rw [scalar?, Resolution.mapError_requote_none, represent, represent,
      Signature.ofSignature_padded prefixes pads]
  | record => rw [scalar?, Resolution.mapError_requote_none]

end Shape

/-- A declaration with blanks added around its name and the descriptors of its shape. -/
structure Declaration.Padded (declaration padded : Declaration) : Prop where
  name : Text.Padded declaration.name padded.name
  shape : declaration.shape.Padded padded.shape

section
variable (prefixes : Prefixes) {declaration padded : Declaration}

theorem FieldBinding.ofDeclaration_padded (pads : declaration.Padded padded) :
    ofDeclaration prefixes padded =
      (ofDeclaration prefixes declaration).mapError
        (NamingError.requote padded.shape.scalar?) := by
  rw [ofDeclaration, ofDeclaration, pads.name.isBlank_eq]
  by_cases blank : Text.isBlank declaration.name = true
  · rw [if_pos blank, if_pos blank]
    rfl
  · rw [if_neg blank, if_neg blank, pads.name.trim_eq, pads.shape.represent_eq prefixes,
      pads.shape.isList_eq]
    exact Resolution.mapError_bind fun _ _ => rfl

namespace EntityBinding

variable (entity : String)

theorem includeShape_padded (includes : List String) (pads : declaration.Padded padded) :
    includeShape prefixes includes padded.shape =
      (includeShape prefixes includes declaration.shape).mapError
        (NamingError.requote padded.shape.scalar?) := by
  rw [includeShape, includeShape, pads.shape.recordToken?_eq]
  cases refers : declaration.shape.recordToken? with
  | none => rfl
  | some token =>
    rw [← pads.shape.recordToken?_eq] at refers
    rw [Shape.scalar?_of_recordToken? refers, Resolution.mapError_requote_none]

/-- A step takes a padded declaration as it takes the declaration. -/
theorem addField_padded (draft : Draft) (pads : declaration.Padded padded) :
    addField prefixes entity draft padded =
      (addField prefixes entity draft declaration).mapError
        (NamingError.requote padded.shape.scalar?) := by
  rw [addField, addField, FieldBinding.ofDeclaration_padded prefixes pads]
  refine Resolution.mapError_bind fun field _ => ?_
  by_cases repeated : draft.seen.contains field.name = true
  · rw [if_pos repeated, if_pos repeated]
    rfl
  · rw [if_neg repeated, if_neg repeated, includeShape_padded prefixes draft.includes pads]
    exact Resolution.mapError_bind fun _ _ => rfl

/-! ### Runs -/

variable {declarations paddedDeclarations : List Declaration}

/-- A run that binds declarations is also the run over the padded ones. -/
theorem foldlM_addField_padded_of_ok
    (pads : List.Forall₂ Declaration.Padded declarations paddedDeclarations) {first last : Draft}
    (run : (declarations.foldlM (addField prefixes entity) first).result = .ok last) :
    paddedDeclarations.foldlM (addField prefixes entity) first =
      declarations.foldlM (addField prefixes entity) first := by
  induction pads generalizing first with
  | nil => rfl
  | cons head _ ih =>
    obtain ⟨middle, stepped, rest⟩ := Resolution.result_bind_eq_ok_iff.mp run
    rw [List.foldlM_cons, List.foldlM_cons, addField_padded prefixes entity first head,
      Resolution.mapError_of_ok stepped]
    refine Resolution.bind_congr_of_ok fun other done => ?_
    rw [stepped] at done
    cases done
    exact ih rest

/-- Where a declaration is the first that offends, the run over the padded ones ends at it too, and
    quotes the descriptor of the padded one. -/
theorem foldlM_addField_padded_of_refusedAfter
    (pads : List.Forall₂ Declaration.Padded declarations paddedDeclarations) {position : Nat}
    {error : NamingError} (accepted : Accepted (declarations.take position))
    (there : declarations[position]? = some declaration)
    (refused : declaration.RefusedAfter entity (declarations.take position) error)
    (paddedThere : paddedDeclarations[position]? = some padded) :
    paddedDeclarations.foldlM (addField prefixes entity) {} =
      (declarations.foldlM (addField prefixes entity) {}).mapError
        (NamingError.requote padded.shape.scalar?) := by
  obtain ⟨draft, run, bound, ends⟩ :=
    foldlM_addField_eq_bind prefixes entity accepted there refused
  have head : declaration.Padded padded := by
    obtain ⟨inside, rfl⟩ := List.getElem?_eq_some_iff.mp there
    obtain ⟨paddedInside, rfl⟩ := List.getElem?_eq_some_iff.mp paddedThere
    exact pads.get inside paddedInside
  have paddedRun :=
    foldlM_addField_padded_of_ok prefixes entity (List.forall₂_take position pads) run
  have stopped := addField_of_refusedAfter prefixes entity bound refused
  have paddedStopped : (addField prefixes entity draft padded).result =
      .error (error.requote padded.shape.scalar?) := by
    rw [addField_padded prefixes entity draft head, Resolution.mapError, stopped]
    rfl
  have paddedEnds :=
    Resolution.foldlM_eq_bind_of_error paddedThere (paddedRun ▸ run) paddedStopped
  rw [paddedEnds, paddedRun, ends]
  -- Of the run before the declaration that offends, only that it succeeds matters.
  generalize (declarations.take position).foldlM (addField prefixes entity) {} = before at run ⊢
  calc before >>= (addField prefixes entity · padded)
      = before.mapError (NamingError.requote padded.shape.scalar?) >>=
          (addField prefixes entity · padded) := by rw [Resolution.mapError_of_ok run]
    _ = (before >>= (addField prefixes entity · declaration)).mapError
          (NamingError.requote padded.shape.scalar?) :=
        Resolution.mapError_bind fun middle _ => addField_padded prefixes entity middle head

/-! ### Entities -/

/-- An entity follows the run over its declarations, and its own faults quote no descriptor. -/
theorem ofDeclarations_of_runs (token : String) {descriptor : Option String}
    (runs : ∀ name, paddedDeclarations.foldlM (addField prefixes name) {} =
      (declarations.foldlM (addField prefixes name) {}).mapError
        (NamingError.requote descriptor)) :
    ofDeclarations prefixes token paddedDeclarations =
      (ofDeclarations prefixes token declarations).mapError (NamingError.requote descriptor) := by
  rcases RecordName.denotes_or_refused token with ⟨name, denotes⟩ | ⟨error, refused⟩
  · by_cases excluded : name ∈ Exclusion.names
    · rw [ofDeclarations_of_excluded prefixes denotes excluded,
        ofDeclarations_of_excluded prefixes denotes excluded]
      rfl
    · rw [ofDeclarations_of_kept prefixes denotes excluded,
        ofDeclarations_of_kept prefixes denotes excluded, runs name]
      -- A report never fails, so it may be taken to have its error changed.
      change (Resolution.report _).mapError (NamingError.requote descriptor) >>= _ = _
      refine Resolution.mapError_bind fun _ _ => ?_
      exact Resolution.mapError_bind fun _ _ => rfl
  · rw [ofDeclarations_of_refused prefixes refused, ofDeclarations_of_refused prefixes refused]
    cases refused <;> rfl

theorem ofDeclarations_padded_of_accepted (token : String)
    (pads : List.Forall₂ Declaration.Padded declarations paddedDeclarations)
    (accepted : Accepted declarations) :
    ofDeclarations prefixes token paddedDeclarations =
      ofDeclarations prefixes token declarations := by
  rw [← Resolution.mapError_requote_none (ofDeclarations prefixes token declarations)]
  refine ofDeclarations_of_runs prefixes token fun name => ?_
  obtain ⟨draft, run, _⟩ := foldlM_addField_of_accepted prefixes name accepted
  rw [Resolution.mapError_requote_none, foldlM_addField_padded_of_ok prefixes name pads run]

/-- An entity refused for padded declarations quotes the descriptor of the first that offends. -/
theorem ofDeclarations_padded_of_offends (token : String)
    (pads : List.Forall₂ Declaration.Padded declarations paddedDeclarations) {position : Nat}
    (accepted : Accepted (declarations.take position))
    (there : declarations[position]? = some declaration)
    (offends : declaration.Offends (declarations.take position)) :
    ∃ padded, paddedDeclarations[position]? = some padded ∧ declaration.Padded padded ∧
      ofDeclarations prefixes token paddedDeclarations =
        (ofDeclarations prefixes token declarations).mapError
          (NamingError.requote padded.shape.scalar?) := by
  obtain ⟨inside, rfl⟩ := List.getElem?_eq_some_iff.mp there
  have paddedInside : position < paddedDeclarations.length := pads.length_eq ▸ inside
  have paddedThere := List.getElem?_eq_getElem paddedInside
  refine ⟨_, paddedThere, pads.get inside paddedInside, ?_⟩
  refine ofDeclarations_of_runs prefixes token fun name => ?_
  obtain ⟨error, refused⟩ := (Declaration.offends_iff name).mp offends
  exact foldlM_addField_padded_of_refusedAfter prefixes name pads accepted there refused
    paddedThere

/-- Padding makes no difference but perhaps to the descriptor that an error quotes. -/
theorem exists_requote (token : String)
    (pads : List.Forall₂ Declaration.Padded declarations paddedDeclarations) :
    ∃ descriptor, ofDeclarations prefixes token paddedDeclarations =
      (ofDeclarations prefixes token declarations).mapError (NamingError.requote descriptor) := by
  rcases accepted_or_offendsAt declarations with
    accepted | ⟨position, accepted, declaration, there, offends⟩
  · refine ⟨none, ?_⟩
    rw [Resolution.mapError_requote_none]
    exact ofDeclarations_padded_of_accepted prefixes token pads accepted
  · obtain ⟨padded, _, _, same⟩ :=
      ofDeclarations_padded_of_offends prefixes token pads accepted there offends
    exact ⟨_, same⟩

/-- Where an unknown type is quoted, it is that of the first declaration that offends. -/
theorem exists_unknown {token : String} {descriptor : String}
    (failed : (ofDeclarations prefixes token declarations).result =
      .error (.registry (.unknownType descriptor))) :
    ∃ position declaration, (∀ earlier < position, ¬ OffendsAt declarations earlier) ∧
      declarations[position]? = some declaration ∧
      declaration.Offends (declarations.take position) ∧
      declaration.shape.scalar? = some descriptor := by
  cases (ofDeclarations_eq_error_iff prefixes token declarations).mp failed with
  | token refused => cases RecordName.ofToken_eq_error_iff.mp refused
  | @declaration record position declaration _ resolved kept first there refused =>
    have offends := (Declaration.offends_iff record.name).mpr ⟨_, refused⟩
    refine ⟨position, declaration, first, there, offends, ?_⟩
    cases refused with
    | itself refused =>
      cases refused with
      | shape named refused => exact Shape.scalar?_of_refused refused rfl

/-- Blanks around the names of fields, scalar descriptors and the descriptors of tuples change
    neither what is reported nor what is generated, and of the errors only one that quotes a
    descriptor of no type: it quotes that of the same declaration, the first that offends, with the
    blanks that it has. The registry and the names of tuples ignore such blanks too. -/
theorem padding_ignored (prefixes : Prefixes) (token : String)
    {declarations padded : List Declaration}
    (pads : List.Forall₂ Declaration.Padded declarations padded) :
    (ofDeclarations prefixes token padded).events =
      (ofDeclarations prefixes token declarations).events ∧
    (∀ entity, (ofDeclarations prefixes token padded).result = .ok entity ↔
      (ofDeclarations prefixes token declarations).result = .ok entity) ∧
    (∀ error, (∀ descriptor, error ≠ .registry (.unknownType descriptor)) →
      ((ofDeclarations prefixes token padded).result = .error error ↔
        (ofDeclarations prefixes token declarations).result = .error error)) ∧
    (∀ descriptor, (ofDeclarations prefixes token declarations).result =
        .error (.registry (.unknownType descriptor)) →
      ∃ position declaration paddedDeclaration paddedDescriptor,
        (∀ earlier < position, ¬ OffendsAt declarations earlier) ∧
        declarations[position]? = some declaration ∧
        padded[position]? = some paddedDeclaration ∧
        declaration.shape.scalar? = some descriptor ∧
        paddedDeclaration.shape.scalar? = some paddedDescriptor ∧
        (ofDeclarations prefixes token padded).result =
          .error (.registry (.unknownType paddedDescriptor))) ∧
    (∀ text spaced, Text.Padded text spaced →
      Registry.suffix? spaced = Registry.suffix? text ∧
      Registry.contains spaced = Registry.contains text ∧
      Registry.lookup spaced = (Registry.lookup text).mapError fun _ => .unknownType spaced) ∧
    (∀ signature spaced, List.Forall₂ Text.Padded signature spaced →
      Signature.kind spaced = Signature.kind signature ∧
      Signature.structName prefixes spaced = Signature.structName prefixes signature ∧
      TupleName.ofSignature prefixes spaced = TupleName.ofSignature prefixes signature) := by
  obtain ⟨quoted, same⟩ := exists_requote prefixes token pads
  refine ⟨by rw [same]; rfl, fun entity => ?_, fun error other => ?_, fun descriptor failed => ?_,
    fun text spaced blanks => ?_, fun signature spaced blanks => ?_⟩
  · rw [same, Resolution.mapError]
    cases (ofDeclarations prefixes token declarations).result <;> simp [Except.mapError]
  · rw [same, Resolution.mapError]
    cases (ofDeclarations prefixes token declarations).result <;>
      simp [Except.mapError, NamingError.requote_eq_iff other]
  · obtain ⟨position, declaration, first, there, offends, single⟩ :=
      exists_unknown prefixes failed
    obtain ⟨paddedDeclaration, paddedThere, pad, requoted⟩ :=
      ofDeclarations_padded_of_offends prefixes token pads (accepted_take_iff.mpr first) there
        offends
    obtain ⟨paddedDescriptor, paddedSingle⟩ := pad.shape.exists_scalar? single
    refine ⟨position, declaration, paddedDeclaration, paddedDescriptor, first, there, paddedThere,
      single, paddedSingle, ?_⟩
    rw [requoted, Resolution.mapError, failed, paddedSingle]
    rfl
  · exact ⟨Registry.suffix?_padded blanks, Registry.contains_padded blanks,
      Registry.lookup_padded blanks⟩
  · exact ⟨Signature.kind_padded blanks, Signature.structName_padded prefixes blanks,
      Signature.ofSignature_padded prefixes blanks⟩

/-- Two fields of a grid, with an ideographic space, a tab, a space and a line feed around what is
    written. -/
theorem padding_ignored_grid :
    (ofDeclarations .standard "grid" [⟨"\u3000id", .list (.scalar "string()\t")⟩,
      ⟨"pair", .tuple [" atom()", "size\n"]⟩]).events =
      (ofDeclarations .standard "grid" [⟨"id", .list (.scalar "string()")⟩,
        ⟨"pair", .tuple ["atom()", "size"]⟩]).events ∧
    ∃ entity,
      (ofDeclarations .standard "grid" [⟨"\u3000id", .list (.scalar "string()\t")⟩,
        ⟨"pair", .tuple [" atom()", "size\n"]⟩]).result = .ok entity ∧
      (ofDeclarations .standard "grid" [⟨"id", .list (.scalar "string()")⟩,
        ⟨"pair", .tuple ["atom()", "size"]⟩]).result = .ok entity := by
  have same (text : String) : Text.Padded text text := ⟨"", "", rfl, rfl, by simp⟩
  have pads : List.Forall₂ Declaration.Padded
      [⟨"id", .list (.scalar "string()")⟩, ⟨"pair", .tuple ["atom()", "size"]⟩]
      [⟨"\u3000id", .list (.scalar "string()\t")⟩, ⟨"pair", .tuple [" atom()", "size\n"]⟩] := by
    refine .cons ⟨⟨"\u3000", "", by decide +kernel, rfl, rfl⟩, .list (.scalar ?_)⟩
      (.cons ⟨same "pair", .tuple (.cons ?_ (.cons ?_ .nil))⟩ .nil)
    · exact ⟨"", "\t", rfl, by decide +kernel, rfl⟩
    · exact ⟨" ", "", by decide +kernel, rfl, rfl⟩
    · exact ⟨"", "\n", rfl, by decide +kernel, rfl⟩
  obtain ⟨events, bound, _⟩ := padding_ignored .standard "grid" pads
  exact ⟨events, _, (bound _).mpr rfl, rfl⟩

end EntityBinding
end
end StubNames
