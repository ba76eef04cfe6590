import Mathlib.Data.Option.Basic
import StubNames.Proofs.Includes

/-!
The order of declarations. Whether declarations are accepted does not depend on their order
(`Accepted.perm`), so an entity is bound in every order of its declarations or in none. Its names
are the same in all of them, each field is bound at the place of its declaration, and the headers
are the same ones, in the order of their first use (`Reordered`, `ofDeclarations_perm`). Which
error is answered, where there is one, does depend on the order.
-/
namespace StubNames.EntityBinding

/-- Two bindings of one entity with its declarations in two orders. -/
structure Reordered (declarations permuted : List Declaration) (first second : EntityBinding) :
    Prop where
  name : second.name = first.name
  className : second.className = first.className
  header : second.header = first.header
  listDecoder : second.listDecoder = first.listDecoder
  converter : second.converter = first.converter
  fields : second.fields.Perm first.fields
  /-- Where a declaration stands in either order, its binding stands. -/
  places : ∀ position place : Nat, permuted[place]? = declarations[position]? →
    second.fields[place]? = first.fields[position]?
  includes : second.includes.Perm first.includes
  distinct : first.includes.Nodup ∧ second.includes.Nodup

variable {prefixes : Prefixes} {declarations permuted : List Declaration}

theorem Accepted.perm (accepted : Accepted declarations) (order : declarations.Perm permuted) :
    Accepted permuted where
  sound declaration member := accepted.sound declaration (order.mem_iff.mpr member)
  distinct := (order.map Declaration.fieldName).nodup_iff.mp accepted.distinct

private theorem ok_injective :
    Function.Injective (Except.ok : FieldBinding → Except NamingError FieldBinding) :=
  fun _ _ same => Except.ok.inj same

theorem Bound.fields_perm {draft moved : Draft} (bound : Bound prefixes declarations draft)
    (other : Bound prefixes permuted moved) (order : declarations.Perm permuted) :
    moved.fields.Perm draft.fields := by
  have results := order.symm.map fun declaration =>
    (FieldBinding.ofDeclaration prefixes declaration).result
  rw [bound.bindings, other.bindings] at results
  exact (List.map_perm_map_iff ok_injective).mp results

theorem Bound.fields_places {draft moved : Draft} (bound : Bound prefixes declarations draft)
    (other : Bound prefixes permuted moved) {position place : Nat}
    (same : permuted[place]? = declarations[position]?) :
    moved.fields[place]? = draft.fields[position]? := by
  have there := other.getElem?_fields place
  rw [same, bound.getElem?_fields position] at there
  exact (Option.map_injective ok_injective there).symm

theorem reordered_ofDraft {draft moved : Draft} (bound : Bound prefixes declarations draft)
    (other : Bound prefixes permuted moved) (order : declarations.Perm permuted) (name : String) :
    Reordered declarations permuted (ofDraft prefixes name draft) (ofDraft prefixes name moved) := by
  have uses := bound.includes ▸ firstUses_headers bound.accepted
  have movedUses := other.includes ▸ firstUses_headers other.accepted
  exact ⟨rfl, rfl, rfl, rfl, rfl, bound.fields_perm other order,
    fun _ _ => bound.fields_places other, movedUses.perm uses order.symm,
    uses.distinct, movedUses.distinct⟩

/-- An entity that is bound is bound with its declarations in any other order. -/
theorem exists_reordered {token : String} (order : declarations.Perm permuted)
    {first : EntityBinding}
    (bound : (ofDeclarations prefixes token declarations).result = .ok first) :
    ∃ second, (ofDeclarations prefixes token permuted).result = .ok second ∧
      Reordered declarations permuted first second := by
  obtain ⟨name, draft, denotes, kept, invariant, rfl⟩ := ofDeclarations_eq_ok bound
  obtain ⟨moved, movedInvariant, result⟩ :=
    exists_ofDeclarations prefixes denotes kept (invariant.accepted.perm order)
  exact ⟨_, result, reordered_ofDraft invariant movedInvariant order name⟩

/-- Whether an entity is bound does not depend on the order of its declarations, and in two orders
    it has the same names, the same bindings at the places of their declarations, and the same
    headers, each once. -/
theorem ofDeclarations_perm (prefixes : Prefixes) (token : String)
    (order : declarations.Perm permuted) :
    ((∃ first, (ofDeclarations prefixes token declarations).result = .ok first) ↔
      ∃ second, (ofDeclarations prefixes token permuted).result = .ok second) ∧
    ∀ first second, (ofDeclarations prefixes token declarations).result = .ok first →
      (ofDeclarations prefixes token permuted).result = .ok second →
      Reordered declarations permuted first second := by
  refine ⟨⟨?_, ?_⟩, ?_⟩
  · rintro ⟨first, bound⟩
    obtain ⟨second, result, _⟩ := exists_reordered order bound
    exact ⟨second, result⟩
  · rintro ⟨second, bound⟩
    obtain ⟨first, result, _⟩ := exists_reordered order.symm bound
    exact ⟨first, result⟩
  · intro first second bound other
    obtain ⟨again, result, reordered⟩ := exists_reordered order bound
    rw [other] at result
    cases result
    exact reordered

/-- A grid in two orders, with its headers in two orders. -/
theorem ofDeclarations_perm_grid :
    ∃ first second,
      (ofDeclarations .standard "grid" [⟨"owner", .record "#user{}"⟩, ⟨"id", .scalar "grid_id()"⟩,
        ⟨"jobs", .list (.record "job")⟩]).result = .ok first ∧
      (ofDeclarations .standard "grid" [⟨"jobs", .list (.record "job")⟩,
        ⟨"owner", .record "#user{}"⟩, ⟨"id", .scalar "grid_id()"⟩]).result = .ok second ∧
      second.fields[0]? = first.fields[2]? ∧ second.includes.Perm first.includes ∧
      second.includes ≠ first.includes := by
  have order : List.Perm
      [⟨"owner", .record "#user{}"⟩, ⟨"id", .scalar "grid_id()"⟩, ⟨"jobs", .list (.record "job")⟩]
      [⟨"jobs", .list (.record "job")⟩, (⟨"owner", .record "#user{}"⟩ : Declaration),
        ⟨"id", .scalar "grid_id()"⟩] := by decide
  have bound : ∃ first, (ofDeclarations .standard "grid" [⟨"owner", .record "#user{}"⟩,
      ⟨"id", .scalar "grid_id()"⟩, ⟨"jobs", .list (.record "job")⟩]).result = .ok first ∧
      first.includes = ["wm_user.h", "wm_job.h"] := ⟨_, rfl, by decide +kernel⟩
  have moved : ∃ second, (ofDeclarations .standard "grid" [⟨"jobs", .list (.record "job")⟩,
      ⟨"owner", .record "#user{}"⟩, ⟨"id", .scalar "grid_id()"⟩]).result = .ok second ∧
      second.includes = ["wm_job.h", "wm_user.h"] := ⟨_, rfl, by decide +kernel⟩
  obtain ⟨first, bound, includes⟩ := bound
  obtain ⟨second, moved, movedIncludes⟩ := moved
  obtain ⟨_, reordered⟩ := ofDeclarations_perm .standard "grid" order
  have agree := reordered first second bound moved
  refine ⟨first, second, bound, moved, agree.places 2 0 rfl, agree.includes, ?_⟩
  rw [includes, movedIncludes]
  decide

example :
    (resolve "grid" [⟨" ", .scalar "atom()"⟩, ⟨"id", .scalar "id"⟩]).result =
      .error .blankFieldName ∧
    (resolve "grid" [⟨"id", .scalar "id"⟩, ⟨" ", .scalar "atom()"⟩]).result =
      .error (.registry (.unknownType "id")) := by decide +kernel

end StubNames.EntityBinding
