import StubNames.Text.Casing

/-!
Capitals of capitals. At the beginning of a word a letter stays, or a capital of the table stands
for it (`wordInitial_eq_self_or_mem`). The table leads from letters to letters, and no capital of
it has another capital (`capitalPoints_alphabetic`, `capitalPoints_final`). Both are read off the
table at once, with a set of code points as the number that has their bits (`pointBits`,
`rangeBits`). Casing therefore finds the words of a cased text where they were
(`isAlphabetic_cased`) and leaves each of its characters (`cased_cased`), so that a text with
capitalized words stays as it is (`capitalizeWords_idempotent`).
-/
namespace StubNames.Text

/-! ### Sets of code points as numbers -/

/-- The number whose bits are set at the points of a list. -/
def pointBits (points : List Nat) : Nat := points.foldr (fun point bits => 1 <<< point ||| bits) 0

/-- The number whose bits are set at the points that a table of ranges encloses. -/
def rangeBits : List (Nat × Nat) → Nat
  | [] => 0
  | (first, last) :: rest => (1 <<< (last + 1 - first) - 1) <<< first ||| rangeBits rest

theorem testBit_pointBits {points : List Nat} {point : Nat} :
    (pointBits points).testBit point = true ↔ point ∈ points := by
  induction points with
  | nil => simp [pointBits]
  | cons head rest ih =>
    have bits : pointBits (head :: rest) = 1 <<< head ||| pointBits rest := rfl
    rw [bits, Nat.testBit_or, Bool.or_eq_true, ih, Nat.one_shiftLeft, Nat.testBit_two_pow,
      decide_eq_true_eq, List.mem_cons, eq_comm]

theorem testBit_rangeBits {ranges : List (Nat × Nat)} {point : Nat} :
    (rangeBits ranges).testBit point = true ↔
      ∃ range ∈ ranges, range.1 ≤ point ∧ point ≤ range.2 := by
  induction ranges with
  | nil => simp [rangeBits]
  | cons head rest ih =>
    have inside : ((1 <<< (head.2 + 1 - head.1) - 1) <<< head.1).testBit point = true ↔
        head.1 ≤ point ∧ point ≤ head.2 := by
      rw [Nat.testBit_shiftLeft, Nat.one_shiftLeft, Nat.testBit_two_pow_sub_one, Bool.and_eq_true,
        decide_eq_true_eq, decide_eq_true_eq]
      omega
    rw [rangeBits, Nat.testBit_or, Bool.or_eq_true, inside, ih]
    simp

/-! ### The table of capitals -/

namespace CaseRun

/-- How many code points the run covers. -/
def count (run : CaseRun) : Nat := (run.last - run.first) / run.step + 1

/-- The code points that the run covers. -/
def points (run : CaseRun) : List Nat := List.range' run.first run.count run.step

/-- The code points of their capitals. -/
def targets (run : CaseRun) : List Nat := List.range' run.upper run.count run.step

variable {run : CaseRun} {point : Nat}

theorem mem_points (covered : run.covers point = true) :
    point ∈ run.points ∧ run.target point ∈ run.targets := by
  simp only [covers, Bool.and_eq_true, decide_eq_true_eq, beq_iff_eq] at covered
  obtain ⟨⟨low, high⟩, whole⟩ := covered
  have steps : run.step * ((point - run.first) / run.step) = point - run.first :=
    Nat.mul_div_cancel' (Nat.dvd_of_mod_eq_zero whole)
  have inside : (point - run.first) / run.step < run.count :=
    Nat.lt_succ_of_le (Nat.div_le_div_right (by omega))
  rw [points, targets, List.mem_range', List.mem_range', target]
  exact ⟨⟨_, inside, by omega⟩, ⟨_, inside, by omega⟩⟩

end CaseRun

/-- The code points that have a capital of their own. -/
def smallPoints : List Nat := caseRuns.flatMap CaseRun.points

/-- The code points of the capitals. -/
def capitalPoints : List Nat := caseRuns.flatMap CaseRun.targets

-- Two operations on numbers stand for a search of both tables for each of the capitals.
private theorem capitalPoints_table :
    pointBits capitalPoints &&& rangeBits alphabeticRanges = pointBits capitalPoints ∧
      pointBits capitalPoints &&& pointBits smallPoints = 0 := by decide +kernel

/-- Capitals are alphabetic. -/
theorem capitalPoints_alphabetic {point : Nat} (capital : point ∈ capitalPoints) :
    inRanges alphabeticRanges point = true := by
  rw [← testBit_pointBits, ← capitalPoints_table.1, Nat.testBit_and, Bool.and_eq_true,
    testBit_rangeBits] at capital
  exact (inRanges_iff alphabeticRanges_ascending).mpr capital.2

/-- Capitals have no other capital. -/
theorem capitalPoints_final {point : Nat} (capital : point ∈ capitalPoints) :
    point ∉ smallPoints := by
  intro small
  have both : (pointBits capitalPoints &&& pointBits smallPoints).testBit point = true := by
    rw [Nat.testBit_and, testBit_pointBits.mpr capital, testBit_pointBits.mpr small]
    rfl
  rw [capitalPoints_table.2, Nat.zero_testBit] at both
  cases both

/-- The alphabetic code points are characters. -/
theorem isValidChar_of_inRanges {point : Nat} (letter : inRanges alphabeticRanges point = true) :
    point.isValidChar := by
  have table : ∀ range ∈ alphabeticRanges,
      range.2 < 0xD800 ∨ 0xDFFF < range.1 ∧ range.2 < 0x110000 := by decide +kernel
  obtain ⟨range, member, low, high⟩ := (inRanges_iff alphabeticRanges_ascending).mp letter
  have bounds := table range member
  rw [Nat.isValidChar]
  omega

theorem mem_of_findRun? {point : Nat} {run : CaseRun} (found : findRun? caseRuns point = some run) :
    point ∈ smallPoints ∧ run.target point ∈ capitalPoints := by
  obtain ⟨member, covered⟩ := findRun?_eq_some found
  obtain ⟨small, capital⟩ := CaseRun.mem_points covered
  exact ⟨List.mem_flatMap.mpr ⟨run, member, small⟩, List.mem_flatMap.mpr ⟨run, member, capital⟩⟩

/-- Without a run in the table a letter stays at the beginning of a word, be it that it has no
    other capital or that its capital takes several characters. -/
theorem wordInitial_of_findRun?_eq_none {c : Char} (none : findRun? caseRuns c.toNat = none) :
    wordInitial c = c := by
  cases found : expansions.lookup c.toNat with
  | none => exact wordInitial_of_single (by rw [toUppercase, none, found])
  | some points =>
    refine wordInitial_of_several ?_
    rw [toUppercase, none, found, List.length_map]
    exact (length_expansion found).1

/-- A letter stays at the beginning of a word, or what stands for it is one of the capitals. -/
theorem wordInitial_eq_self_or_mem (c : Char) :
    wordInitial c = c ∨ (wordInitial c).toNat ∈ capitalPoints := by
  cases found : findRun? caseRuns c.toNat with
  | none => exact .inl (wordInitial_of_findRun?_eq_none found)
  | some run =>
    obtain ⟨_, capital⟩ := mem_of_findRun? found
    have single : toUppercase c = [Char.ofNat (run.target c.toNat)] := by rw [toUppercase, found]
    right
    rw [wordInitial_of_single single, Char.ofNat,
      dif_pos (isValidChar_of_inRanges (capitalPoints_alphabetic capital))]
    exact capital

theorem isAlphabetic_wordInitial {c : Char} (letter : isAlphabetic c = true) :
    isAlphabetic (wordInitial c) = true := by
  rcases wordInitial_eq_self_or_mem c with same | capital
  · rwa [same]
  · exact capitalPoints_alphabetic capital

/-- What stands for a letter at the beginning of a word stands there for itself. -/
theorem wordInitial_wordInitial (c : Char) : wordInitial (wordInitial c) = wordInitial c := by
  rcases wordInitial_eq_self_or_mem c with same | capital
  · rw [same, same]
  · refine wordInitial_of_findRun?_eq_none ?_
    rw [Option.eq_none_iff_forall_ne_some]
    intro run found
    exact capitalPoints_final capital (mem_of_findRun? found).1

/-! ### Casing twice -/

theorem toLower_toLower (c : Char) : c.toLower.toLower = c.toLower :=
  apply_toLower (by decide) c

theorem isAlphabetic_toLower (c : Char) : isAlphabetic c.toLower = isAlphabetic c :=
  apply_toLower (by decide +kernel) c

/-- Casing makes a letter of a letter and of no other character. -/
theorem isAlphabetic_cased (inWord : Bool) (c : Char) :
    isAlphabetic (cased inWord c) = isAlphabetic c := by
  cases letter : isAlphabetic c with
  | false => rw [cased_of_not letter, letter]
  | true =>
    cases inWord with
    | false => rw [cased_first letter, isAlphabetic_wordInitial letter]
    | true => rw [cased_later letter, isAlphabetic_toLower, letter]

/-- Casing leaves a character that was cased at the same place of a word. -/
theorem cased_cased (inWord : Bool) (c : Char) :
    cased inWord (cased inWord c) = cased inWord c := by
  cases letter : isAlphabetic c with
  | false => rw [cased_of_not letter, cased_of_not letter]
  | true =>
    have still : isAlphabetic (cased inWord c) = true := by rw [isAlphabetic_cased, letter]
    cases inWord with
    | false => rw [cased_first still, cased_first letter, wordInitial_wordInitial]
    | true => rw [cased_later still, cased_later letter, toLower_toLower]

/-- Casing makes a character outside words of itself alone. -/
theorem cased_eq_iff_of_not {d : Char} (outside : isAlphabetic d = false) {inWord : Bool}
    {c : Char} : cased inWord c = d ↔ c = d := by
  constructor
  · rintro rfl
    rw [isAlphabetic_cased] at outside
    exact (cased_of_not outside inWord).symm
  · rintro rfl
    exact cased_of_not outside inWord

theorem capitalizeFrom_capitalizeFrom (inWord : Bool) (cs : List Char) :
    capitalizeFrom inWord (capitalizeFrom inWord cs) = capitalizeFrom inWord cs := by
  induction cs generalizing inWord with
  | nil => rfl
  | cons c cs ih =>
    rw [capitalizeFrom_cons, capitalizeFrom_cons, cased_cased, isAlphabetic_cased, ih]

/-- A text with capitalized words stays as it is when its words are capitalized. -/
theorem capitalizeWords_idempotent (s : String) :
    capitalizeWords (capitalizeWords s) = capitalizeWords s := by
  rw [← String.toList_inj, toList_capitalizeWords, toList_capitalizeWords,
    capitalizeFrom_capitalizeFrom]

/-- Words that begin with a letter whose uppercase takes two characters, with a titlecase letter,
    with one whose uppercase belongs to ASCII, and with a mark that counts as a letter. -/
example : capitalizeWords "ßtate ǅem ıd \u0345x" = "ßtate Ǆem Id \u0399x" := by decide +kernel

end StubNames.Text
