import Mathlib.InformationTheory.Coding.UniquelyDecodable

/-!
Prefix codes. Names are made of code words that stand side by side without separators. Where no
word is empty and none begins another (`PrefixCode`), the words can be told apart again, so that
sequences of words which spell the same text are the same (`PrefixCode.uniquelyDecodable`).
-/
namespace StubNames.Text
open InformationTheory

/-- Words of which none is empty and none is the beginning of another. -/
structure PrefixCode (words : List (List Char)) : Prop where
  nonempty : [] ∉ words
  free : ∀ left ∈ words, ∀ right ∈ words, left <+: right → left = right

instance (words : List (List Char)) : Decidable (PrefixCode words) :=
  decidable_of_iff ([] ∉ words ∧ ∀ left ∈ words, ∀ right ∈ words, left <+: right → left = right)
    ⟨fun ⟨nonempty, free⟩ => ⟨nonempty, free⟩, fun code => ⟨code.nonempty, code.free⟩⟩

theorem PrefixCode.of_subset {words others : List (List Char)} (code : PrefixCode words)
    (among : ∀ word ∈ others, word ∈ words) : PrefixCode others :=
  ⟨fun empty => code.nonempty (among _ empty), fun left inLeft right inRight =>
    code.free left (among left inLeft) right (among right inRight)⟩

theorem PrefixCode.append_inj {words : List (List Char)} (code : PrefixCode words)
    {left right : List Char} (leftWord : left ∈ words) (rightWord : right ∈ words)
    {leftRest rightRest : List Char} (same : left ++ leftRest = right ++ rightRest) :
    left = right ∧ leftRest = rightRest := by
  have beginsLeft : left <+: right ++ rightRest := ⟨leftRest, same⟩
  have beginsRight : right <+: right ++ rightRest := List.prefix_append right rightRest
  have equal : left = right := by
    rcases List.prefix_or_prefix_of_prefix beginsLeft beginsRight with shorter | shorter
    · exact code.free left leftWord right rightWord shorter
    · exact (code.free right rightWord left leftWord shorter).symm
  subst equal
  exact ⟨rfl, List.append_cancel_left same⟩

/-- Sequences of words of a prefix code that spell the same text are the same. -/
theorem PrefixCode.uniquelyDecodable {words : List (List Char)} (code : PrefixCode words) :
    UniquelyDecodable {word | word ∈ words} := by
  intro left
  induction left with
  | nil =>
    intro right _ rightWords same
    cases right with
    | nil => rfl
    | cons word rest =>
      have empty : word = [] := by
        rw [List.flatten_nil, List.flatten_cons] at same
        exact (List.append_eq_nil_iff.mp same.symm).1
      exact absurd (empty ▸ rightWords word List.mem_cons_self) code.nonempty
  | cons word rest ih =>
    intro right leftWords rightWords same
    have isWord : word ∈ words := leftWords word List.mem_cons_self
    cases right with
    | nil =>
      have empty : word = [] := by
        rw [List.flatten_nil, List.flatten_cons] at same
        exact (List.append_eq_nil_iff.mp same).1
      exact absurd (empty ▸ isWord) code.nonempty
    | cons other others =>
      rw [List.flatten_cons, List.flatten_cons] at same
      obtain ⟨rfl, restSame⟩ :=
        code.append_inj isWord (rightWords other List.mem_cons_self) same
      have tail := ih others (fun w member => leftWords w (List.mem_cons_of_mem _ member))
        (fun w member => rightWords w (List.mem_cons_of_mem _ member)) restSame
      rw [tail]

/-- Members that spell words of a prefix code, each its own, are told from the text that they spell
    side by side. -/
theorem PrefixCode.flatten_map_inj {α : Type} {words : List (List Char)} (code : PrefixCode words)
    {spell : α → List Char} {left right : List α} (leftWords : ∀ a ∈ left, spell a ∈ words)
    (rightWords : ∀ b ∈ right, spell b ∈ words)
    (apart : ∀ a ∈ left, ∀ b ∈ right, spell a = spell b → a = b) :
    (left.map spell).flatten = (right.map spell).flatten ↔ left = right := by
  refine ⟨fun same => ?_, fun same => by rw [same]⟩
  have sameWords : left.map spell = right.map spell :=
    code.uniquelyDecodable _ _ (by simpa using leftWords) (by simpa using rightWords) same
  have lengths : left.length = right.length := by simpa using congrArg List.length sameWords
  refine List.ext_getElem lengths fun position inLeft inRight => ?_
  refine apart _ (List.getElem_mem inLeft) _ (List.getElem_mem inRight) ?_
  simpa [inLeft, inRight] using congrArg (·[position]?) sameWords

end StubNames.Text
