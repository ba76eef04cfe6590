import StubNames.Proofs.EntityRun

/-!
Entities with more fields. A draft only grows: a step puts one field after those bound before,
and perhaps a header after those needed before (`addField_grows`), and a run one field for each of
its declarations (`foldlM_addField_grows`). What is declared after other fields therefore neither
changes how these are bound nor hides why one of them is refused (`ofDeclarations_append`).
-/
namespace StubNames.EntityBinding

/-- A later draft has the fields of an earlier one first, then as many more as are counted, and
    the headers of the earlier one first. -/
structure Draft.Grows (earlier later : Draft) (count : Nat) : Prop where
  fields : earlier.fields <+: later.fields
  length : later.fields.length = earlier.fields.length + count
  includes : earlier.includes <+: later.includes

theorem Draft.Grows.refl (draft : Draft) : draft.Grows draft 0 :=
  ⟨List.prefix_rfl, rfl, List.prefix_rfl⟩

theorem Draft.Grows.trans {first middle last : Draft} {count more : Nat}
    (grows : first.Grows middle count) (further : middle.Grows last more) :
    first.Grows last (count + more) where
  fields := grows.fields.trans further.fields
  length := by rw [further.length, grows.length, Nat.add_assoc]
  includes := grows.includes.trans further.includes

theorem Draft.Grows.take_fields {earlier later : Draft} {count : Nat}
    (grows : earlier.Grows later count) : later.fields.take earlier.fields.length = earlier.fields :=
  (List.prefix_iff_eq_take.mp grows.fields).symm

theorem includes_prefix_addInclude (includes : List String) (header : String) :
    includes <+: addInclude includes header := by
  rw [addInclude]
  split
  · exact List.prefix_rfl
  · exact List.prefix_append includes [header]

/-! ### Steps and runs -/

section
variable (prefixes : Prefixes) (entity : String)

theorem includes_prefix_includeShape {includes more : List String} {shape : Shape}
    (included : (includeShape prefixes includes shape).result = .ok more) : includes <+: more := by
  rw [includeShape] at included
  cases refers : shape.recordToken? with
  | none =>
    rw [refers] at included
    cases included
    exact List.prefix_rfl
  | some token =>
    rw [refers] at included
    obtain ⟨record, _, added⟩ := Resolution.result_bind_eq_ok_iff.mp included
    cases added
    exact includes_prefix_addInclude includes _

/-- A step adds one field. -/
theorem addField_grows {declaration : Declaration} {draft next : Draft}
    (stepped : (addField prefixes entity draft declaration).result = .ok next) :
    draft.Grows next 1 := by
  obtain ⟨field, _, rest⟩ := Resolution.result_bind_eq_ok_iff.mp stepped
  split at rest
  · cases rest
  · obtain ⟨includes, included, assembled⟩ := Resolution.result_bind_eq_ok_iff.mp rest
    cases assembled
    exact ⟨List.prefix_append _ _, List.length_append,
      includes_prefix_includeShape prefixes included⟩

/-- A run adds one field for each declaration. -/
theorem foldlM_addField_grows {declarations : List Declaration} {first last : Draft}
    (run : (declarations.foldlM (addField prefixes entity) first).result = .ok last) :
    first.Grows last declarations.length := by
  induction declarations generalizing first with
  | nil =>
    cases run
    exact .refl _
  | cons declaration rest ih =>
    obtain ⟨middle, stepped, remains⟩ := Resolution.result_bind_eq_ok_iff.mp run
    have grows := (addField_grows prefixes entity stepped).trans (ih remains)
    rwa [Nat.add_comm] at grows

end

/-! ### Entities -/

/-- Fields declared after others leave the entity of these as it is: where all are bound together,
    the first ones are bound alone, to the same names, to the first bindings, one for each of them,
    and to the first headers; and an error of the first ones is the error of all. -/
theorem ofDeclarations_append (prefixes : Prefixes) (token : String)
    (declarations more : List Declaration) :
    (∀ whole, (ofDeclarations prefixes token (declarations ++ more)).result = .ok whole →
      ∃ part, (ofDeclarations prefixes token declarations).result = .ok part ∧
        part.name = whole.name ∧ part.className = whole.className ∧ part.header = whole.header ∧
        part.listDecoder = whole.listDecoder ∧ part.converter = whole.converter ∧
        part.fields.length = declarations.length ∧
        part.fields = whole.fields.take declarations.length ∧
        part.includes <+: whole.includes) ∧
    ∀ error, (ofDeclarations prefixes token declarations).result = .error error →
      (ofDeclarations prefixes token (declarations ++ more)).result = .error error := by
  refine ⟨fun whole bound => ?_, fun error failed => ?_⟩
  · obtain ⟨name, _, denotes, kept, _⟩ := ofDeclarations_eq_ok bound
    rw [result_ofDeclarations_of_kept prefixes denotes kept, List.foldlM_append,
      Resolution.map_eq_ok_iff] at bound
    obtain ⟨last, run, rfl⟩ := bound
    obtain ⟨middle, runPart, runMore⟩ := Resolution.result_bind_eq_ok_iff.mp run
    have grows := foldlM_addField_grows prefixes name runMore
    have counted : middle.fields.length = declarations.length := by
      rw [(foldlM_addField_grows prefixes name runPart).length]
      exact Nat.zero_add _
    refine ⟨ofDraft prefixes name middle, ?_, rfl, rfl, rfl, rfl, rfl, counted, ?_, grows.includes⟩
    · rw [result_ofDeclarations_of_kept prefixes denotes kept, runPart]
      rfl
    · rw [← counted]
      exact grows.take_fields.symm
  · -- The token and the name are judged before any declaration, so only a run can differ.
    rcases RecordName.denotes_or_refused token with ⟨name, denotes⟩ | ⟨reason, refused⟩
    · by_cases excluded : name ∈ Exclusion.names
      · rw [result_ofDeclarations_of_excluded prefixes denotes excluded] at failed ⊢
        exact failed
      · rw [result_ofDeclarations_of_kept prefixes denotes excluded,
          Resolution.map_eq_error_iff] at failed ⊢
        rw [List.foldlM_append]
        exact Resolution.result_bind_of_error failed _
    · rw [ofDeclarations_of_refused prefixes refused] at failed ⊢
      exact failed

end StubNames.EntityBinding
