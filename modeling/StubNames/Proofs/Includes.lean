import Mathlib.Data.List.Perm.Basic
import StubNames.Proofs.EntityRun

/-!
The headers that an entity includes. A declaration needs the header of the record to which it
refers, through any number of lists (`Declaration.RefersTo`, `Declaration.Needs`). The headers of
declarations in the order of their first use (`FirstUses`) are a single list
(`FirstUses.unique`). One more declaration keeps it or puts a header at its end
(`FirstUses.keep`, `FirstUses.extend`), as a run over declarations does, so an entity includes
exactly that list (`ofDeclarations_fields_and_includes`).
-/
namespace StubNames

/-- A shape refers to the record that stands inside all its lists. -/
theorem Shape.recordToken?_eq_some_iff {shape : Shape} {token : String} :
    shape.recordToken? = some token ↔ ∃ depth, shape = (Shape.record token).inLists depth := by
  constructor
  · intro refers
    induction shape with
    | scalar descriptor => cases refers
    | tuple signature => cases refers
    | record other =>
      cases refers
      exact ⟨0, rfl⟩
    | list inner ih =>
      obtain ⟨depth, rfl⟩ := ih refers
      exact ⟨depth + 1, rfl⟩
  · rintro ⟨depth, rfl⟩
    exact recordToken?_inLists depth _

namespace Declaration

variable (prefixes : Prefixes) (declaration : Declaration)

/-- The shape of a declaration is a token of a record, inside any number of lists. -/
def RefersTo (record : RecordName) : Prop :=
  ∃ token depth, declaration.shape = (Shape.record token).inLists depth ∧
    (RecordName.ofToken prefixes token).result = .ok record

/-- A header is that of the record to which a declaration refers. -/
def Needs (header : String) : Prop :=
  ∃ record, declaration.RefersTo prefixes record ∧ header = prefixes.headerName record.name

variable {prefixes declaration}

theorem RefersTo.recordName? {record : RecordName} (refers : declaration.RefersTo prefixes record) :
    declaration.shape.recordName? = some record.name := by
  obtain ⟨token, depth, shape, resolved⟩ := refers
  obtain ⟨denotes, _⟩ := RecordName.ofToken_eq_ok_iff.mp resolved
  rw [Shape.recordName?, Shape.recordToken?_eq_some_iff.mpr ⟨depth, shape⟩, Option.map_some,
    denotes.unmarked]

/-- The records to which a declaration refers have one name. -/
theorem RefersTo.name_unique {record other : RecordName}
    (refers : declaration.RefersTo prefixes record)
    (also : declaration.RefersTo prefixes other) : record.name = other.name :=
  Option.some.inj (refers.recordName?.symm.trans also.recordName?)

theorem Needs.unique {header other : String} (needs : declaration.Needs prefixes header)
    (also : declaration.Needs prefixes other) : header = other := by
  obtain ⟨record, refers, rfl⟩ := needs
  obtain ⟨otherRecord, otherRefers, rfl⟩ := also
  rw [refers.name_unique otherRefers]

variable (prefixes) in
/-- Where a declaration is not refused, the token inside its lists is resolved. -/
theorem exists_record (sound : ∀ error, ¬ declaration.Refused error) {token : String}
    (refers : declaration.shape.recordToken? = some token) :
    ∃ record, (RecordName.ofToken prefixes token).result = .ok record := by
  cases outcome : (declaration.shape.represent prefixes).result with
  | error error =>
    obtain ⟨reason, refused⟩ :=
      exists_refused_iff.mpr (.inr ⟨error, Shape.represent_eq_error_iff.mp outcome⟩)
    exact absurd refused (sound reason)
  | ok representation =>
    have denotes := Shape.denotes_of_represent outcome refers
    exact ⟨_, RecordName.result_ofToken_of_denotes prefixes denotes⟩

/-- A declaration that is not refused needs a header exactly if it is that of its record. -/
theorem needs_iff (sound : ∀ error, ¬ declaration.Refused error) {header : String} :
    declaration.Needs prefixes header ↔
      ∃ name, declaration.shape.recordName? = some name ∧ header = prefixes.headerName name := by
  constructor
  · rintro ⟨record, refers, rfl⟩
    exact ⟨record.name, refers.recordName?, rfl⟩
  · rintro ⟨name, named, rfl⟩
    obtain ⟨token, refers, _⟩ := Option.map_eq_some_iff.mp named
    obtain ⟨depth, shape⟩ := Shape.recordToken?_eq_some_iff.mp refers
    obtain ⟨record, resolved⟩ := exists_record prefixes sound refers
    have refersTo : declaration.RefersTo prefixes record := ⟨token, depth, shape, resolved⟩
    refine ⟨record, refersTo, ?_⟩
    rw [Option.some.inj (named.symm.trans refersTo.recordName?)]

end Declaration

namespace EntityBinding

/-! ### First uses -/

section
variable (prefixes : Prefixes)

/-- A header is needed before another: some declarations at the front need it, and none of them
    needs the other. -/
def NeededBefore (declarations : List Declaration) (header later : String) : Prop :=
  ∃ front, front <+: declarations ∧ (∃ declaration ∈ front, declaration.Needs prefixes header) ∧
    ∀ declaration ∈ front, ¬ declaration.Needs prefixes later

/-- The headers that declarations need, each once and in the order of their first use. -/
structure FirstUses (declarations : List Declaration) (headers : List String) : Prop where
  distinct : headers.Nodup
  mem_iff : ∀ header, header ∈ headers ↔
    ∃ declaration ∈ declarations, declaration.Needs prefixes header
  ordered : headers.Pairwise (NeededBefore prefixes declarations)

end

section
variable {prefixes : Prefixes} {declarations before : List Declaration} {declaration : Declaration}
  {headers others : List String} {header later : String}

/-- Of two fronts one is the front of the other, so two headers are not needed before each other. -/
theorem NeededBefore.asymm (first : NeededBefore prefixes declarations header later)
    (second : NeededBefore prefixes declarations later header) : False := by
  obtain ⟨front, isFront, ⟨user, among, needs⟩, without⟩ := first
  obtain ⟨other, isOther, ⟨otherUser, otherAmong, otherNeeds⟩, otherWithout⟩ := second
  rcases List.prefix_or_prefix_of_prefix isFront isOther with shorter | shorter
  · exact otherWithout user (shorter.subset among) needs
  · exact without otherUser (shorter.subset otherAmong) otherNeeds

theorem NeededBefore.append (first : NeededBefore prefixes before header later)
    (more : List Declaration) : NeededBefore prefixes (before ++ more) header later := by
  obtain ⟨front, isFront, needed, without⟩ := first
  exact ⟨front, isFront.trans (List.prefix_append before more), needed, without⟩

/-- In whatever order the declarations stand, they need the same headers. -/
theorem FirstUses.perm {permuted : List Declaration}
    (uses : FirstUses prefixes declarations headers)
    (also : FirstUses prefixes permuted others) (order : declarations.Perm permuted) :
    headers.Perm others := by
  rw [List.perm_ext_iff_of_nodup uses.distinct also.distinct]
  intro header
  rw [uses.mem_iff, also.mem_iff]
  simp only [order.mem_iff]

/-- There is one list of headers in the order of their first use. -/
theorem FirstUses.unique (uses : FirstUses prefixes declarations headers)
    (also : FirstUses prefixes declarations others) : headers = others :=
  (uses.perm also (.refl declarations)).eq_of_pairwise
    (fun _ _ _ _ first second => (first.asymm second).elim) uses.ordered also.ordered

theorem exists_needs_append_singleton :
    (∃ other ∈ before ++ [declaration], other.Needs prefixes header) ↔
      (∃ other ∈ before, other.Needs prefixes header) ∨ declaration.Needs prefixes header := by
  simp only [List.mem_append, List.mem_singleton, or_and_right, exists_or, exists_eq_left]

/-- A declaration that needs nothing new keeps the list. -/
theorem FirstUses.keep (uses : FirstUses prefixes before headers)
    (known : ∀ header, declaration.Needs prefixes header → header ∈ headers) :
    FirstUses prefixes (before ++ [declaration]) headers where
  distinct := uses.distinct
  mem_iff header := by
    rw [exists_needs_append_singleton, ← uses.mem_iff header]
    exact ⟨.inl, fun needed => needed.elim id (known header)⟩
  ordered := uses.ordered.imp fun first => first.append [declaration]

/-- A declaration that needs a new header puts it at the end. -/
theorem FirstUses.extend (uses : FirstUses prefixes before headers)
    (needs : declaration.Needs prefixes header) (fresh : header ∉ headers) :
    FirstUses prefixes (before ++ [declaration]) (headers ++ [header]) where
  distinct := by
    rw [List.nodup_append]
    refine ⟨uses.distinct, List.nodup_singleton header, ?_⟩
    intro known among last isLast same
    rw [List.mem_singleton] at isLast
    exact fresh (isLast ▸ same ▸ among)
  mem_iff other := by
    rw [exists_needs_append_singleton, List.mem_append, List.mem_singleton, uses.mem_iff other]
    exact or_congr_right ⟨fun same => same ▸ needs, fun also => also.unique needs⟩
  ordered := by
    rw [List.pairwise_append]
    refine ⟨uses.ordered.imp fun first => first.append [declaration],
      List.pairwise_singleton _ header, ?_⟩
    intro known among last isLast
    rw [List.mem_singleton.mp isLast]
    -- The declarations before this one are the front that tells the new header from the known.
    refine ⟨before, List.prefix_append before _, (uses.mem_iff known).mp among, ?_⟩
    intro user member also
    exact fresh ((uses.mem_iff header).mpr ⟨user, member, also⟩)

/-- The headers that a run over accepted declarations gathers are in the order of first use. -/
theorem firstUses_headers (accepted : Accepted declarations) :
    FirstUses prefixes declarations (EntityBinding.headers prefixes declarations) := by
  induction declarations using List.reverseRecOn with
  | nil => exact ⟨List.nodup_nil, by simp [EntityBinding.headers], List.Pairwise.nil⟩
  | append_singleton before declaration ih =>
    obtain ⟨acceptedBefore, fine⟩ := accepted_append_singleton_iff.mp accepted
    obtain ⟨sound, _⟩ := Declaration.not_offends_iff.mp fine
    have uses := ih acceptedBefore
    rw [headers_append_singleton]
    cases named : declaration.shape.recordName? with
    | none =>
      refine uses.keep fun header needs => ?_
      obtain ⟨name, isName, _⟩ := (Declaration.needs_iff sound).mp needs
      rw [named] at isName
      cases isName
    | some name =>
      have needs : declaration.Needs prefixes (prefixes.headerName name) :=
        (Declaration.needs_iff sound).mpr ⟨name, named, rfl⟩
      rw [Option.elim_some, addInclude]
      split
      next known =>
        refine uses.keep fun header also => ?_
        rw [also.unique needs]
        exact List.contains_iff_mem.mp known
      next fresh => exact uses.extend needs (mt List.contains_iff_mem.mpr fresh)

/-! ### Entities -/

variable {token : String} {entity : EntityBinding}

theorem firstUses_includes
    (bound : (ofDeclarations prefixes token declarations).result = .ok entity) :
    FirstUses prefixes declarations entity.includes := by
  obtain ⟨name, draft, _, _, invariant, rfl⟩ := ofDeclarations_eq_ok bound
  rw [ofDraft, invariant.includes]
  exact firstUses_headers invariant.accepted

/-- Two declarations of an entity share a header exactly when their records have one name. -/
theorem exists_shared_header_iff {left right : Declaration} {leftRecord rightRecord : RecordName}
    (uses : FirstUses prefixes declarations headers) (member : left ∈ declarations)
    (leftRefers : left.RefersTo prefixes leftRecord)
    (rightRefers : right.RefersTo prefixes rightRecord) :
    (∃ header ∈ headers, left.Needs prefixes header ∧ right.Needs prefixes header) ↔
      leftRecord.name = rightRecord.name := by
  constructor
  · rintro ⟨header, _, leftNeeds, rightNeeds⟩
    have leftHeader := leftNeeds.unique ⟨leftRecord, leftRefers, rfl⟩
    have rightHeader := rightNeeds.unique ⟨rightRecord, rightRefers, rfl⟩
    exact headerName_injective prefixes (leftHeader.symm.trans rightHeader)
  · intro same
    have needs : left.Needs prefixes (prefixes.headerName leftRecord.name) :=
      ⟨leftRecord, leftRefers, rfl⟩
    refine ⟨_, (uses.mem_iff _).mpr ⟨left, member, needs⟩, needs, rightRecord, rightRefers, ?_⟩
    rw [same]

/-- The fields of an entity are the bindings of its declarations, one by one, and its headers are
    those of the records to which the declarations refer, through any number of lists, each once
    and in the order of their first use. Every declaration of the shape of a record refers to one,
    and two that refer to records share a header exactly when these have the same name. -/
theorem ofDeclarations_fields_and_includes
    (bound : (ofDeclarations prefixes token declarations).result = .ok entity) :
    List.Forall₂ (fun declaration field =>
      (FieldBinding.ofDeclaration prefixes declaration).result = .ok field)
      declarations entity.fields ∧
    (∀ headers, FirstUses prefixes declarations headers ↔ headers = entity.includes) ∧
    (∀ declaration ∈ declarations, ∀ recordToken depth,
      declaration.shape = (Shape.record recordToken).inLists depth →
      ∃ record, (RecordName.ofToken prefixes recordToken).result = .ok record ∧
        prefixes.headerName record.name ∈ entity.includes) ∧
    ∀ left ∈ declarations, ∀ right ∈ declarations, ∀ leftRecord rightRecord,
      left.RefersTo prefixes leftRecord → right.RefersTo prefixes rightRecord →
      ((∃ header ∈ entity.includes, left.Needs prefixes header ∧ right.Needs prefixes header) ↔
        leftRecord.name = rightRecord.name) := by
  have uses := firstUses_includes bound
  obtain ⟨name, draft, _, _, invariant, rfl⟩ := ofDeclarations_eq_ok bound
  refine ⟨invariant.forall₂, ?_, ?_, ?_⟩
  · exact fun headers => ⟨fun also => also.unique uses, fun same => same ▸ uses⟩
  · intro declaration member recordToken depth shape
    obtain ⟨record, resolved⟩ := Declaration.exists_record prefixes
      (invariant.accepted.sound declaration member)
      (Shape.recordToken?_eq_some_iff.mpr ⟨depth, shape⟩)
    have needs : declaration.Needs prefixes (prefixes.headerName record.name) :=
      ⟨record, ⟨recordToken, depth, shape, resolved⟩, rfl⟩
    exact ⟨record, resolved, (uses.mem_iff _).mpr ⟨declaration, member, needs⟩⟩
  · intro left member right _ leftRecord rightRecord leftRefers rightRefers
    exact exists_shared_header_iff uses member leftRefers rightRefers

/-- A grid that refers to its users by two spellings, and to jobs in between. -/
theorem ofDeclarations_fields_and_includes_grid :
    ∃ grid,
      (ofDeclarations .standard "#grid{}" [⟨"owners", .list (.record "#user{}")⟩,
        ⟨"id", .scalar "grid_id()"⟩, ⟨"jobs", .list (.list (.record "job"))⟩,
        ⟨"admin", .record "user"⟩]).result = .ok grid ∧
      grid.fields.length = 4 ∧ grid.includes = ["wm_user.h", "wm_job.h"] ∧
      FirstUses .standard [⟨"owners", .list (.record "#user{}")⟩, ⟨"id", .scalar "grid_id()"⟩,
        ⟨"jobs", .list (.list (.record "job"))⟩, ⟨"admin", .record "user"⟩]
        ["wm_user.h", "wm_job.h"] := by
  have bound : ∃ grid, (ofDeclarations .standard "#grid{}"
      [⟨"owners", .list (.record "#user{}")⟩, ⟨"id", .scalar "grid_id()"⟩,
        ⟨"jobs", .list (.list (.record "job"))⟩, ⟨"admin", .record "user"⟩]).result = .ok grid ∧
      grid.includes = ["wm_user.h", "wm_job.h"] := ⟨_, rfl, by decide +kernel⟩
  obtain ⟨grid, bound, includes⟩ := bound
  obtain ⟨fields, firstUses, _⟩ := ofDeclarations_fields_and_includes bound
  exact ⟨grid, bound, fields.length_eq.symm, includes, (firstUses _).mpr includes.symm⟩

end

end EntityBinding
end StubNames
