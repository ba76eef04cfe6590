/-!
Sets of characters given as ranges of code points. A table of ranges is a list of pairs of a
first and a last code point in ascending order (`Ascending`), which lets the search `inRanges`
stop at the first range that begins above the point sought. In such a table a point is found
exactly when some range encloses it (`inRanges_iff`).
-/
namespace StubNames.Text

/-- Whether a code point lies in one of the ranges, whose two ends belong to them. -/
def inRanges : List (Nat × Nat) → Nat → Bool
  | [], _ => false
  | (first, last) :: rest, point => first ≤ point && (point ≤ last || inRanges rest point)

/-- Ranges that begin no lower than a bound, hold a point each and follow one another. -/
def ascendingFrom : Nat → List (Nat × Nat) → Bool
  | _, [] => true
  | bound, (first, last) :: rest => bound ≤ first && first ≤ last && ascendingFrom (last + 1) rest

/-- A table of ranges in ascending order, without overlaps and without empty ranges. -/
def Ascending (ranges : List (Nat × Nat)) : Prop := ascendingFrom 0 ranges = true

instance (ranges : List (Nat × Nat)) : Decidable (Ascending ranges) :=
  inferInstanceAs (Decidable (_ = true))

private theorem bound_le_of_mem {bound : Nat} {ranges : List (Nat × Nat)}
    (ascending : ascendingFrom bound ranges = true) {range : Nat × Nat} (member : range ∈ ranges) :
    bound ≤ range.1 := by
  induction ranges generalizing bound with
  | nil => simp at member
  | cons head rest ih =>
    simp only [ascendingFrom, Bool.and_eq_true, decide_eq_true_eq] at ascending
    rcases List.mem_cons.mp member with rfl | member
    · exact ascending.1.1
    · have := ih ascending.2 member
      omega

/-- The search finds a point exactly when some range of the table encloses it. -/
theorem inRanges_iff {ranges : List (Nat × Nat)} (ascending : Ascending ranges) {point : Nat} :
    inRanges ranges point = true ↔ ∃ range ∈ ranges, range.1 ≤ point ∧ point ≤ range.2 := by
  unfold Ascending at ascending
  generalize 0 = bound at ascending
  induction ranges generalizing bound with
  | nil => simp [inRanges]
  | cons head rest ih =>
    simp only [ascendingFrom, Bool.and_eq_true, decide_eq_true_eq] at ascending
    have tail := ih (head.2 + 1) ascending.2
    simp only [inRanges, Bool.and_eq_true, Bool.or_eq_true, decide_eq_true_eq, tail,
      List.mem_cons, or_and_right, exists_or, exists_eq_left]
    constructor
    · rintro ⟨low, high | found⟩
      · exact .inl ⟨low, high⟩
      · exact .inr found
    · rintro (⟨low, high⟩ | ⟨range, member, low, high⟩)
      · exact ⟨low, .inl high⟩
      · have := bound_le_of_mem ascending.2 member
        exact ⟨by omega, .inr ⟨range, member, low, high⟩⟩

/-- A table of the characters of ASCII shows what holds of each of them. -/
theorem forall_ascii {p : Char → Prop} (table : ∀ point < 128, p (Char.ofNat point)) {c : Char}
    (ascii : c.toNat < 128) : p c := by
  have here := table c.toNat ascii
  rwa [Char.ofNat_toNat] at here

end StubNames.Text
