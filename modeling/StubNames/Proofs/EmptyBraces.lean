import Mathlib.Data.List.Infix
import StubNames.Proofs.RecordToken

/-!
What is left of a record token. Empty braces cut the rest of a marked token into segments in one
way only (`segmented_iff`), for two of them never overlap. The pass that removes them
(`dropEmptyBraces`) leaves the segments side by side (`flatten_segments`), so that the name of a
token, or the reason why it has none, can be read off its segments (`ofToken_classified`). A text
without empty braces names the same record behind the marker, between marker and braces, and, if
it does not begin with the marker, by itself.
-/
namespace StubNames.RecordName

/-! ### Segments -/

/-- A text in which no empty braces stand. -/
def Solid (cs : List Char) : Prop := ¬ ['{', '}'] <:+: cs

instance (cs : List Char) : Decidable (Solid cs) := inferInstanceAs (Decidable (¬ _))

/-- The segments into which empty braces cut a text. -/
def segments : List Char → List (List Char)
  | '{' :: '}' :: rest => [] :: segments rest
  | c :: rest => (segments rest).modifyHead (c :: ·)
  | [] => [[]]

/-- Segments in which no empty braces stand and which spell a text with empty braces between
    them. -/
structure Segmented (text : String) (parts : List String) : Prop where
  nonempty : parts ≠ []
  solid : ∀ part ∈ parts, Solid part.toList
  spelled : "{}".intercalate parts = text

theorem solid_nil : Solid [] := by
  decide

theorem solid_cons_iff {c : Char} {cs : List Char} :
    Solid (c :: cs) ↔ ¬ ['{', '}'] <+: c :: cs ∧ Solid cs := by
  rw [Solid, Solid, List.infix_cons_iff, not_or]

/-- Where no empty braces begin, the first character belongs to the first segment. -/
theorem segments_cons {c : Char} {cs : List Char} (apart : ¬ ['{', '}'] <+: c :: cs) :
    segments (c :: cs) = (segments cs).modifyHead (c :: ·) := by
  rw [segments]
  rintro rest rfl rfl
  exact apart ⟨rest, rfl⟩

/-- Where no empty braces begin, the first character stays. -/
theorem dropEmptyBraces_cons {c : Char} {cs : List Char} (apart : ¬ ['{', '}'] <+: c :: cs) :
    dropEmptyBraces (c :: cs) = c :: dropEmptyBraces cs := by
  rw [dropEmptyBraces]
  rintro rest rfl rfl
  exact apart ⟨rest, rfl⟩

/-! ### Cutting and joining -/

theorem segments_ne_nil (cs : List Char) : segments cs ≠ [] := by
  fun_induction segments cs with
  | case1 rest ih => exact List.cons_ne_nil _ _
  | case2 c rest apart ih => rwa [Ne, List.modifyHead_eq_nil_iff]
  | case3 => exact List.cons_ne_nil _ _

/-- Leaving empty braces out leaves the segments. -/
theorem flatten_segments (cs : List Char) : (segments cs).flatten = dropEmptyBraces cs := by
  fun_induction segments cs with
  | case1 rest ih => rw [dropEmptyBraces, List.flatten_cons, ih, List.nil_append]
  | case2 c rest apart ih =>
    obtain ⟨first, others, cut⟩ := List.exists_cons_of_ne_nil (segments_ne_nil rest)
    rw [cut] at ih
    rw [cut, List.modifyHead_cons, dropEmptyBraces, ← ih]
    · rfl
    · exact apart
  | case3 => rfl

/-- The segments spell the text that they were cut from. -/
theorem intercalate_segments (cs : List Char) : ['{', '}'].intercalate (segments cs) = cs := by
  fun_induction segments cs with
  | case1 rest ih =>
    obtain ⟨first, others, cut⟩ := List.exists_cons_of_ne_nil (segments_ne_nil rest)
    rw [cut] at ih
    rw [cut, List.intercalate_cons_cons, ih]
    rfl
  | case2 c rest apart ih =>
    obtain ⟨first, others, cut⟩ := List.exists_cons_of_ne_nil (segments_ne_nil rest)
    rw [cut] at ih
    rw [cut, List.modifyHead_cons]
    cases others with
    | nil =>
      rw [List.intercalate_singleton] at ih ⊢
      rw [ih]
    | cons next others =>
      rw [List.intercalate_cons_cons] at ih ⊢
      rw [← ih]
      rfl
  | case3 => rfl

/-- No empty braces are left in a segment. -/
theorem solid_of_mem_segments {cs : List Char} : ∀ part ∈ segments cs, Solid part := by
  fun_induction segments cs with
  | case1 rest ih => exact List.forall_mem_cons.mpr ⟨solid_nil, ih⟩
  | case2 c rest apart ih =>
    have spelled := intercalate_segments rest
    obtain ⟨first, others, cut⟩ := List.exists_cons_of_ne_nil (segments_ne_nil rest)
    rw [cut] at ih spelled
    rw [List.forall_mem_cons] at ih
    rw [cut, List.modifyHead_cons, List.forall_mem_cons]
    refine ⟨solid_cons_iff.mpr ⟨?_, ih.1⟩, ih.2⟩
    -- A brace that closes at the head of the first segment would close in the text.
    rw [List.cons_prefix_cons]
    rintro ⟨rfl, tail, rfl⟩
    cases others with
    | nil => exact apart _ rfl spelled.symm
    | cons next others => exact apart _ rfl spelled.symm
  | case3 => exact List.forall_mem_singleton.mpr solid_nil

/-- A text without empty braces is its only segment. -/
theorem segments_of_solid {cs : List Char} (solid : Solid cs) : segments cs = [cs] := by
  induction cs with
  | nil => rfl
  | cons c cs ih =>
    obtain ⟨apart, solid⟩ := solid_cons_iff.mp solid
    rw [segments_cons apart, ih solid, List.modifyHead_cons]

/-- Where no empty braces begin, none begin because a brace is opened later. -/
theorem apart_append {c : Char} {cs : List Char} (apart : ¬ ['{', '}'] <+: c :: cs)
    (rest : List Char) : ¬ ['{', '}'] <+: c :: (cs ++ '{' :: rest) := by
  rw [List.cons_prefix_cons] at apart ⊢
  rintro ⟨rfl, closing⟩
  cases cs with
  | nil => exact absurd (List.cons_prefix_cons.mp closing).1 (by decide)
  | cons d cs =>
    have closes : '}' = d := (List.cons_prefix_cons.mp closing).1
    exact apart ⟨rfl, closes ▸ List.cons_prefix_cons.mpr ⟨rfl, List.nil_prefix⟩⟩

/-- A first segment ends at the empty braces that follow it. -/
theorem segments_append {cs : List Char} (solid : Solid cs) (rest : List Char) :
    segments (cs ++ '{' :: '}' :: rest) = cs :: segments rest := by
  induction cs with
  | nil => rfl
  | cons c cs ih =>
    obtain ⟨apart, solid⟩ := solid_cons_iff.mp solid
    rw [List.cons_append, segments_cons (apart_append apart _), ih solid, List.modifyHead_cons]

/-- Segments are read back from the text that they spell. -/
theorem segments_intercalate {parts : List (List Char)} (nonempty : parts ≠ [])
    (solid : ∀ part ∈ parts, Solid part) : segments (['{', '}'].intercalate parts) = parts := by
  induction parts with
  | nil => exact absurd rfl nonempty
  | cons part parts ih =>
    rw [List.forall_mem_cons] at solid
    cases parts with
    | nil => rw [List.intercalate_singleton, segments_of_solid solid.1]
    | cons next parts =>
      have rest := ih (List.cons_ne_nil next parts) solid.2
      rw [List.intercalate_cons_cons, List.append_assoc]
      exact (segments_append solid.1 _).trans (congrArg (part :: ·) rest)

/-- A text is spelled by its segments and by no others. -/
theorem segmented_iff {text : String} {parts : List String} :
    Segmented text parts ↔ parts = (segments text.toList).map String.ofList := by
  constructor
  · rintro ⟨nonempty, solid, rfl⟩
    have read : segments (['{', '}'].intercalate (parts.map String.toList)) =
        parts.map String.toList :=
      segments_intercalate (by simpa using nonempty) (by simpa using solid)
    rw [String.toList_intercalate]
    change parts = List.map String.ofList (segments (['{', '}'].intercalate _))
    rw [read, List.map_map]
    simp
  · rintro rfl
    refine ⟨by simpa using segments_ne_nil text.toList, ?_, ?_⟩
    · intro part member
      obtain ⟨cs, inside, rfl⟩ := List.mem_map.mp member
      rw [String.toList_ofList]
      exact solid_of_mem_segments cs inside
    · rw [← String.toList_inj, String.toList_intercalate, List.map_map]
      have same : String.toList ∘ String.ofList = id := funext fun cs => String.toList_ofList
      rw [same, List.map_id]
      exact intercalate_segments text.toList

/-! ### Tokens with and without the marker -/

theorem isBlank_marked (text : String) : Text.isBlank ("#" ++ text) = false := by
  rw [Text.isBlank, String.toList_append, List.all_append, Bool.and_eq_false_iff]
  exact .inl (by decide)

theorem ofMarked_marked (text : String) :
    ofMarked ("#" ++ text) = (String.ofList (dropEmptyBraces text.toList), true) := by
  rw [ofMarked, String.toList_append]
  rfl

theorem ofMarked_plain {token : String} (plain : ∀ text, token ≠ "#" ++ text) :
    ofMarked token = (token, false) := by
  rw [ofMarked]
  split
  next rest marked =>
    refine absurd ?_ (plain (String.ofList rest))
    rw [← String.toList_inj, marked]
    simp
  next => rfl

/-- A marked token denotes what is left of it, unless that is blank. -/
theorem ofToken_marked (prefixes : Prefixes) (text : String) :
    (ofToken prefixes ("#" ++ text)).result =
      let name := String.ofList (dropEmptyBraces text.toList)
      if Text.isBlank name then .error (.invalidRecordToken ("#" ++ text) "empty record name")
      else .ok ⟨prefixes.className name, name, true⟩ := by
  rw [ofToken, isBlank_marked, ofMarked_marked]
  simp only [Bool.false_eq_true, if_false]
  split <;> rfl

/-- A token without the marker denotes itself, unless it is blank. -/
theorem ofToken_plain (prefixes : Prefixes) {token : String} (plain : ∀ text, token ≠ "#" ++ text) :
    (ofToken prefixes token).result =
      if Text.isBlank token then .error (.invalidRecordToken token "blank token")
      else .ok ⟨prefixes.className token, token, false⟩ := by
  rw [ofToken, ofMarked_plain plain]
  split
  · rfl
  · simp only
    split
    next ink blank => exact absurd blank ink
    next => rfl

/-- The name of a marked token is made of its segments. -/
theorem Segmented.join_eq {text : String} {parts : List String} (segmented : Segmented text parts) :
    String.join parts = String.ofList (dropEmptyBraces text.toList) := by
  rw [← String.toList_inj, String.toList_ofList, segmented_iff.mp segmented, String.toList_join,
    ← flatten_segments, List.flatMap_map]
  simp [List.flatMap_id']

/-- Every token is blank and refused, or denotes itself, or is marked; and then what follows the
    marker is cut by empty braces into segments, in one way, and the token denotes the segments
    side by side unless these are blank. A text without empty braces that is not blank therefore
    denotes itself, and so it does behind the marker, with empty braces after it or not. -/
theorem ofToken_classified (prefixes : Prefixes) (token : String) :
    (Text.isBlank token = true →
      (ofToken prefixes token).result = .error (.invalidRecordToken token "blank token")) ∧
    (Text.isBlank token = false → (∀ text, token ≠ "#" ++ text) →
      (ofToken prefixes token).result =
        .ok ⟨prefixes.record ++ Text.pascalCase token, token, false⟩) ∧
    (∀ text, token = "#" ++ text → ∃ parts, Segmented text parts ∧
      (∀ others, Segmented text others → others = parts) ∧
      (Text.isBlank (String.join parts) = false → (ofToken prefixes token).result =
        .ok ⟨prefixes.record ++ Text.pascalCase (String.join parts), String.join parts, true⟩) ∧
      (Text.isBlank (String.join parts) = true → (ofToken prefixes token).result =
        .error (.invalidRecordToken token "empty record name"))) ∧
    (∀ name, Text.isBlank name = false → Solid name.toList →
      (ofToken prefixes ("#" ++ name)).result = .ok ⟨prefixes.className name, name, true⟩ ∧
      (ofToken prefixes ("#" ++ name ++ "{}")).result = .ok ⟨prefixes.className name, name, true⟩ ∧
      ((∀ text, name ≠ "#" ++ text) →
        (ofToken prefixes name).result = .ok ⟨prefixes.className name, name, false⟩)) := by
  refine ⟨?_, ?_, ?_, ?_⟩
  · intro blank
    rw [ofToken, if_pos blank]
    rfl
  · intro inked plain
    rw [ofToken_plain prefixes plain, inked]
    rfl
  · rintro text rfl
    have segmented : Segmented text _ := segmented_iff.mpr rfl
    refine ⟨_, segmented, fun others other => segmented_iff.mp other, ?_, ?_⟩
    · intro inked
      rw [ofToken_marked, ← segmented.join_eq]
      simp only [inked]
      rfl
    · intro blank
      rw [ofToken_marked, ← segmented.join_eq]
      simp only [blank]
      rfl
  · intro name inked solid
    have whole : Segmented name [name] := ⟨by simp, by simpa using solid, by simp⟩
    have closed : Segmented (name ++ "{}") [name, ""] :=
      ⟨by simp, by simpa using ⟨solid, solid_nil⟩, by simp⟩
    refine ⟨?_, ?_, ?_⟩
    · rw [ofToken_marked, ← whole.join_eq]
      simp [inked]
    · rw [String.append_assoc, ofToken_marked, ← closed.join_eq]
      simp [inked]
    · intro plain
      rw [ofToken_plain prefixes plain, inked]
      rfl

end StubNames.RecordName
