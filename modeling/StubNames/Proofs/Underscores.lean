import Mathlib.Logic.Relation
import StubNames.Proofs.Capitals
import StubNames.Proofs.WordPosition

/-!
Underscores in names. An underscore is no letter, so casing begins anew behind it and neither makes
nor removes one (`map_isUnderscore_capitalizeFrom`). Class names may therefore be spelled segment by
segment: what stands between the underscores is capitalized by itself (`pascalCase_segments`). The
underscores only part the segments, and further ones beside them or at the ends of a text leave its
class name as it is.
-/
namespace StubNames.Text

/-- What stands between the underscores of a text, with the empty segments. -/
def underscoreSegments (s : String) : List String := (s.split '_').toList.map String.Slice.copy

/-- The second text has one underscore more, at either end or beside another. -/
inductive Underscored : String → String → Prop
  | front (s : String) : Underscored s ("_" ++ s)
  | back (s : String) : Underscored s (s ++ "_")
  | beside (left right : String) :
      Underscored (left ++ "_" ++ right) (left ++ "_" ++ "_" ++ right)

/-! ### Casing and underscores -/

/-- Casing keeps underscores where they are and makes no others. -/
theorem map_isUnderscore_capitalizeFrom (inWord : Bool) (cs : List Char) :
    (capitalizeFrom inWord cs).map (· = '_') = cs.map (· = '_') := by
  induction cs generalizing inWord with
  | nil => rfl
  | cons c cs ih =>
    rw [capitalizeFrom_cons, List.map_cons, List.map_cons, ih,
      propext (cased_eq_iff_of_not isAlphabetic_underscore)]

/-- A segment without underscores is kept whole. -/
theorem filter_capitalizeFrom_of_not_mem {segment : List Char} (solid : '_' ∉ segment)
    (inWord : Bool) : (capitalizeFrom inWord segment).filter (· != '_') =
      capitalizeFrom inWord segment := by
  have none : ∀ mark ∈ (capitalizeFrom inWord segment).map (· = '_'), ¬ mark := by
    rw [map_isUnderscore_capitalizeFrom, List.forall_mem_map]
    rintro c member rfl
    exact solid member
  rw [List.forall_mem_map] at none
  simpa using none

/-- An underscore parts what stands before it from what stands behind it, and is dropped. -/
theorem filter_capitalizeFrom_append (left right : List Char) :
    (capitalizeFrom false (left ++ '_' :: right)).filter (· != '_') =
      (capitalizeFrom false left).filter (· != '_') ++
        (capitalizeFrom false right).filter (· != '_') := by
  rw [capitalizeFrom_append, capitalizeFrom_cons_of_not isAlphabetic_underscore,
    List.filter_append, List.filter_cons_of_neg (by simp)]

/-- What is left without underscores are the segments, capitalized one by one. -/
theorem filter_capitalizeFrom_eq_flatMap (cs : List Char) :
    (capitalizeFrom false cs).filter (· != '_') =
      (cs.splitOn '_').flatMap (capitalizeFrom false) := by
  by_cases parted : '_' ∈ cs
  · obtain ⟨segment, rest, rfl, solid⟩ := List.eq_append_cons_of_mem parted
    rw [filter_capitalizeFrom_append, filter_capitalizeFrom_of_not_mem solid,
      filter_capitalizeFrom_eq_flatMap rest, List.splitOn_append_cons_self_of_not_mem solid,
      List.flatMap_cons]
  · rw [filter_capitalizeFrom_of_not_mem parted, List.splitOn_eq_singleton parted,
      List.flatMap_singleton]
termination_by cs.length
decreasing_by simp_all; omega

/-! ### Class names -/

theorem pascalCase_append_underscore (left right : String) :
    pascalCase (left ++ "_" ++ right) = pascalCase left ++ pascalCase right := by
  have chars : (left ++ "_" ++ right).toList = left.toList ++ '_' :: right.toList := by simp
  rw [← String.toList_inj, toList_pascalCase, chars, filter_capitalizeFrom_append,
    String.toList_append, toList_pascalCase, toList_pascalCase]

theorem pascalCase_underscore_append (s : String) : pascalCase ("_" ++ s) = pascalCase s := by
  have nothing : pascalCase "" = "" := rfl
  have parted := pascalCase_append_underscore "" s
  rwa [String.empty_append, nothing, String.empty_append] at parted

theorem pascalCase_append_back (s : String) : pascalCase (s ++ "_") = pascalCase s := by
  have nothing : pascalCase "" = "" := rfl
  have parted := pascalCase_append_underscore s ""
  rwa [String.append_empty, nothing, String.append_empty] at parted

/-- One underscore more leaves the class name as it is. -/
theorem Underscored.pascalCase_eq {s t : String} (more : Underscored s t) :
    pascalCase t = pascalCase s := by
  cases more with
  | front => exact pascalCase_underscore_append s
  | back => exact pascalCase_append_back s
  | beside left right =>
    rw [pascalCase_append_underscore, pascalCase_append_back, pascalCase_append_underscore]

/-- The class name of a text is made of its segments between underscores, each with capitalized
    words of its own. There is no underscore in it, and it is also the class name of every text with
    further underscores beside those of this text or at its ends. -/
theorem pascalCase_segments (s : String) :
    pascalCase s = String.join ((underscoreSegments s).map capitalizeWords) ∧
    '_' ∉ (pascalCase s).toList ∧
    ∀ t, Relation.ReflTransGen Underscored s t → pascalCase t = pascalCase s := by
  refine ⟨?_, ?_, ?_⟩
  · rw [← String.toList_inj, toList_pascalCase, filter_capitalizeFrom_eq_flatMap,
      String.toList_join, underscoreSegments, String.toList_split_char, List.map_map,
      List.flatMap_map]
    simp
  · simp
  · intro t more
    induction more with
    | refl => rfl
    | tail _ step ih => rw [step.pascalCase_eq, ih]

/-- The segments beyond the underscores at the ends are empty. -/
example : underscoreSegments "_a_" = ["", "a", ""] := by cbv

/-- Records of jobs, with further underscores in front and in the middle. -/
theorem pascalCase_segments_job :
    Relation.ReflTransGen Underscored "job_record" "_job__record" ∧
      pascalCase "_job__record" = pascalCase "job_record" ∧
      pascalCase "job_record" = "JobRecord" := by
  have middle : Underscored "job_record" "job__record" := .beside "job" "record"
  have front : Underscored "job__record" "_job__record" := .front "job__record"
  have more : Relation.ReflTransGen Underscored "job_record" "_job__record" :=
    (Relation.ReflTransGen.single middle).tail front
  obtain ⟨_, _, same⟩ := pascalCase_segments "job_record"
  exact ⟨more, same _ more, by decide +kernel⟩

end StubNames.Text
