import StubNames.Proofs.EmptyBraces

/-!
Braces inside braces. Empty braces are removed in one pass from the left, and a pair of braces that
has nothing but empty braces in it meets only when these are gone, so that it stays in the name
(`solid_dropEmptyBraces_iff`). Such a name is not what the token made of it denotes: a marked token
has the name of the token made of its name exactly when no empty braces are left in that name
(`ofToken_again_iff`).
-/
namespace StubNames.RecordName

/-- A number of empty pairs of braces side by side. -/
def pairs (count : Nat) : List Char := (List.replicate count ['{', '}']).flatten

/-- A pair of braces around one empty pair and a number of others. -/
def nest (more : Nat) : List Char := '{' :: (pairs (more + 1) ++ ['}'])

/-! ### One pass -/

theorem dropEmptyBraces_pairs (count : Nat) (rest : List Char) :
    dropEmptyBraces (pairs count ++ rest) = dropEmptyBraces rest := by
  induction count with
  | zero => rfl
  | succ count ih => exact ih

/-- The pass can be cut before any brace that is opened. -/
theorem dropEmptyBraces_append (left right : List Char) :
    dropEmptyBraces (left ++ '{' :: right) =
      dropEmptyBraces left ++ dropEmptyBraces ('{' :: right) := by
  fun_induction dropEmptyBraces left with
  | case1 rest ih => exact ih
  | case2 c rest apart ih =>
    have apart : ¬ ['{', '}'] <+: c :: rest := by
      rintro ⟨more, spelled⟩
      rw [List.cons_append, List.cons_append, List.cons.injEq] at spelled
      exact apart more spelled.1.symm spelled.2.symm
    rw [List.cons_append, dropEmptyBraces_cons (apart_append apart right), ih, List.cons_append]
  | case3 => rfl

theorem length_dropEmptyBraces_le (cs : List Char) : (dropEmptyBraces cs).length ≤ cs.length := by
  fun_induction dropEmptyBraces cs with
  | case1 rest ih => simp only [List.length_cons]; omega
  | case2 c rest apart ih => simp only [List.length_cons]; omega
  | case3 => exact Nat.le_refl 0

/-- The pass changes nothing exactly where no empty braces stand. -/
theorem dropEmptyBraces_eq_self_iff {cs : List Char} : dropEmptyBraces cs = cs ↔ Solid cs := by
  constructor
  · rintro same ⟨left, right, rfl⟩
    -- A pair of empty braces goes and nothing comes instead, so that the text gets shorter.
    rw [List.append_assoc, List.cons_append, dropEmptyBraces_append] at same
    have lengths := congrArg List.length same
    have leftShorter := length_dropEmptyBraces_le left
    have rightShorter := length_dropEmptyBraces_le right
    have gone : dropEmptyBraces ('{' :: ['}'] ++ right) = dropEmptyBraces right := rfl
    rw [List.length_append, List.length_append] at lengths
    simp only [List.cons_append, List.nil_append, List.length_cons] at lengths gone
    rw [gone] at lengths
    omega
  · intro solid
    rw [← flatten_segments, segments_of_solid solid, List.flatten_singleton]

/-! ### What the pass leaves behind -/

/-- A brace that closes first after the pass has only empty braces before it. -/
theorem exists_pairs_of_closing {cs more : List Char} (closing : dropEmptyBraces cs = '}' :: more) :
    ∃ count rest, cs = pairs count ++ '}' :: rest := by
  fun_induction dropEmptyBraces cs with
  | case1 rest ih =>
    obtain ⟨count, after, rfl⟩ := ih closing
    exact ⟨count + 1, after, rfl⟩
  | case2 c rest apart ih =>
    cases closing
    exact ⟨0, rest, rfl⟩
  | case3 => cases closing

/-- Braces around empty ones are empty after the pass. -/
theorem not_solid_of_nest {more : Nat} {cs : List Char} (nested : nest more <:+: cs) :
    ¬ Solid (dropEmptyBraces cs) := by
  obtain ⟨left, right, rfl⟩ := nested
  have opened : dropEmptyBraces ('{' :: (pairs (more + 1) ++ '}' :: right)) =
      '{' :: dropEmptyBraces (pairs (more + 1) ++ '}' :: right) :=
    dropEmptyBraces_cons fun empty =>
      absurd (List.cons_prefix_cons.mp (List.cons_prefix_cons.mp empty).2).1 (by decide)
  have closed : dropEmptyBraces ('}' :: right) = '}' :: dropEmptyBraces right :=
    dropEmptyBraces_cons fun empty => absurd (List.cons_prefix_cons.mp empty).1 (by decide)
  have passed : dropEmptyBraces (left ++ nest more ++ right) =
      dropEmptyBraces left ++ ['{', '}'] ++ dropEmptyBraces right := by
    calc dropEmptyBraces (left ++ nest more ++ right)
        = dropEmptyBraces (left ++ '{' :: (pairs (more + 1) ++ '}' :: right)) := by
          simp [nest]
      _ = dropEmptyBraces left ++ '{' :: '}' :: dropEmptyBraces right := by
          rw [dropEmptyBraces_append, opened, dropEmptyBraces_pairs, closed]
      _ = dropEmptyBraces left ++ ['{', '}'] ++ dropEmptyBraces right := by simp
  rw [Solid, not_not, passed]
  exact List.infix_append _ _ _

/-- Braces that are empty after the pass were around empty ones. -/
theorem exists_nest_of_not_solid {cs : List Char} (left : ¬ Solid (dropEmptyBraces cs)) :
    ∃ more, nest more <:+: cs := by
  fun_induction dropEmptyBraces cs with
  | case1 rest ih =>
    obtain ⟨more, nested⟩ := ih left
    exact ⟨more, List.infix_cons (List.infix_cons nested)⟩
  | case2 c rest apart ih =>
    rw [solid_cons_iff, not_and_or, not_not] at left
    rcases left with met | later
    · rw [List.cons_prefix_cons] at met
      obtain ⟨rfl, after, closing⟩ := met
      obtain ⟨count, others, rfl⟩ := exists_pairs_of_closing closing.symm
      -- Without an empty pair between them the two braces would have been removed themselves.
      cases count with
      | zero => exact absurd rfl (apart others rfl)
      | succ more =>
        refine ⟨more, [], others, ?_⟩
        simp [nest]
    · obtain ⟨more, nested⟩ := ih later
      exact ⟨more, List.infix_cons nested⟩
  | case3 => exact absurd solid_nil left

/-- One pass leaves no empty braces exactly where no braces stand around empty ones. -/
theorem solid_dropEmptyBraces_iff {cs : List Char} :
    Solid (dropEmptyBraces cs) ↔ ∀ more, ¬ nest more <:+: cs := by
  constructor
  · intro solid more nested
    exact not_solid_of_nest nested solid
  · intro flat
    by_contra left
    obtain ⟨more, nested⟩ := exists_nest_of_not_solid left
    exact flat more nested

/-! ### Names as tokens -/

/-- A name between marker and braces denotes its own record exactly when no empty braces stand in
    it. -/
theorem ofToken_closed_iff (prefixes : Prefixes) {name : String}
    (inked : Text.isBlank name = false) :
    (ofToken prefixes ("#" ++ name ++ "{}")).result = .ok ⟨prefixes.className name, name, true⟩ ↔
      Solid name.toList := by
  have stripped : dropEmptyBraces (name ++ "{}").toList = dropEmptyBraces name.toList := by
    rw [String.toList_append]
    exact (dropEmptyBraces_append _ _).trans (List.append_nil _)
  rw [String.append_assoc, ofToken_marked, stripped, ← dropEmptyBraces_eq_self_iff]
  simp only
  constructor
  · intro resolved
    split at resolved
    next => cases resolved
    next =>
      have same : String.ofList (dropEmptyBraces name.toList) = name := by
        injection resolved with record
        exact congrArg RecordName.name record
      rw [← String.toList_inj, String.toList_ofList] at same
      exact same
  · intro same
    rw [same, String.ofList_toList, inked]
    rfl

/-- The name of a marked token has no empty braces in it exactly when the token has no braces
    around empty ones; and exactly then the name between marker and braces denotes the same
    record. -/
theorem ofToken_again_iff (prefixes : Prefixes) {text : String} {record : RecordName}
    (resolved : (ofToken prefixes ("#" ++ text)).result = .ok record) :
    (Solid record.name.toList ↔ ∀ more, ¬ nest more <:+: text.toList) ∧
      ((ofToken prefixes ("#" ++ record.name ++ "{}")).result = .ok record ↔
        Solid record.name.toList) := by
  rw [ofToken_marked] at resolved
  simp only at resolved
  split at resolved
  next => cases resolved
  next inked =>
    cases resolved
    refine ⟨?_, ofToken_closed_iff prefixes (Bool.eq_false_iff.mpr inked)⟩
    rw [String.toList_ofList, solid_dropEmptyBraces_iff]

/-- A nest between two letters stays, and the name denotes another record. -/
theorem ofToken_again_grid :
    (ofToken .standard "#gr{{}{}}id{}").result = .ok ⟨"SwmGr{}Id", "gr{}id", true⟩ ∧
      (ofToken .standard "#gr{}id{}").result ≠ .ok ⟨"SwmGr{}Id", "gr{}id", true⟩ := by
  have resolved : (ofToken .standard ("#" ++ "gr{{}{}}id{}")).result =
      .ok ⟨"SwmGr{}Id", "gr{}id", true⟩ := by decide +kernel
  obtain ⟨flat, again⟩ := ofToken_again_iff .standard resolved
  have nested : nest 1 <:+: "gr{{}{}}id{}".toList := by decide
  exact ⟨resolved, mt again.mp fun solid => flat.mp solid 1 nested⟩

/-- Braces that are empty only after the pass are left in the name. -/
theorem braces_left_in_name :
    (ofToken .standard "#job{{}}").result = .ok ⟨"SwmJob{}", "job{}", true⟩ ∧
      ¬ Solid "job{}".toList ∧
      (ofToken .standard "#job{}{}").result = .ok ⟨"SwmJob", "job", true⟩ := by
  decide +kernel

end StubNames.RecordName
