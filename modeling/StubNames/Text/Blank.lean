import StubNames.Text.Ranges

/-!
White space. The blank characters are the 25 with the `White_Space` property: tab to carriage
return, the space, the next line, and the spaces and separators beyond ASCII. The information
separators from U+001C to U+001F, the zero width space and the byte order mark are not blank.
`trim` removes the blanks on both sides of a text, and only there: blanks around a text do not
change what is left of it (`trimChars_padded`), and nothing is left exactly of the blank texts
(`trim_eq_empty_iff`).
-/
namespace StubNames.Text

/-- The code points of the characters with the `White_Space` property. -/
def blankRanges : List (Nat × Nat) :=
  [(0x0009, 0x000D), (0x0020, 0x0020), (0x0085, 0x0085), (0x00A0, 0x00A0), (0x1680, 0x1680),
   (0x2000, 0x200A), (0x2028, 0x2029), (0x202F, 0x202F), (0x205F, 0x205F), (0x3000, 0x3000)]

/-- Whether a character has the `White_Space` property. -/
def isBlankChar (c : Char) : Bool := inRanges blankRanges c.toNat

/-- Whether a text consists of blanks alone; the empty text does. -/
def isBlank (s : String) : Bool := s.toList.all isBlankChar

/-- The characters without the blanks at the front and at the end. -/
def trimChars (cs : List Char) : List Char :=
  ((cs.dropWhile isBlankChar).reverse.dropWhile isBlankChar).reverse

/-- The text without the blanks on either side. -/
def trim (s : String) : String := String.ofList (trimChars s.toList)

@[simp] theorem toList_trim (s : String) : (trim s).toList = trimChars s.toList := by
  simp [trim]

/-! ### What is left -/

private theorem dropWhile_append_of_all {p : Char → Bool} {pad : List Char} (blank : pad.all p)
    (rest : List Char) : (pad ++ rest).dropWhile p = rest.dropWhile p := by
  induction pad with
  | nil => rfl
  | cons c pad ih =>
    simp only [List.all_cons, Bool.and_eq_true] at blank
    simp [blank.1, ih blank.2]

private theorem dropWhile_append_of_not_all {p : Char → Bool} {cs : List Char}
    (ink : cs.all p = false) (pad : List Char) :
    (cs ++ pad).dropWhile p = cs.dropWhile p ++ pad := by
  induction cs with
  | nil => simp at ink
  | cons c cs ih =>
    by_cases hc : p c
    · have rest : cs.all p = false := by simpa [hc] using ink
      simp [hc, ih rest]
    · simp [hc]

private theorem dropWhile_eq_nil {p : Char → Bool} {cs : List Char} :
    cs.dropWhile p = [] ↔ cs.all p := by
  induction cs with
  | nil => simp
  | cons c cs ih => by_cases hc : p c <;> simp [hc, ih]

theorem trimChars_of_blank {cs : List Char} (blank : cs.all isBlankChar) : trimChars cs = [] := by
  simp [trimChars, dropWhile_eq_nil.mpr blank]

/-- Blanks before and after a text are exactly what trimming ignores. -/
theorem trimChars_padded {front back : List Char} (hf : front.all isBlankChar)
    (hb : back.all isBlankChar) (cs : List Char) :
    trimChars (front ++ cs ++ back) = trimChars cs := by
  rw [trimChars, List.append_assoc, dropWhile_append_of_all hf]
  cases ink : cs.all isBlankChar with
  | true =>
    rw [trimChars_of_blank ink, dropWhile_append_of_all ink, dropWhile_eq_nil.mpr hb]
    rfl
  | false =>
    have hb' : back.reverse.all isBlankChar = true := by rw [List.all_reverse]; exact hb
    rw [dropWhile_append_of_not_all ink, List.reverse_append, dropWhile_append_of_all hb']
    rfl

theorem trimChars_eq_nil_iff {cs : List Char} : trimChars cs = [] ↔ cs.all isBlankChar := by
  refine ⟨fun nothing => ?_, trimChars_of_blank⟩
  rw [trimChars, List.reverse_eq_nil_iff, dropWhile_eq_nil, List.all_reverse] at nothing
  rw [← List.takeWhile_append_dropWhile (p := isBlankChar) (l := cs), List.all_append, nothing,
    List.all_takeWhile]
  rfl

/-- A text is what trimming leaves of it, with blanks on either side. -/
theorem exists_padding (cs : List Char) :
    ∃ front back : List Char, front.all isBlankChar ∧ back.all isBlankChar ∧
      cs = front ++ trimChars cs ++ back := by
  refine ⟨cs.takeWhile isBlankChar,
    ((cs.dropWhile isBlankChar).reverse.takeWhile isBlankChar).reverse, List.all_takeWhile, ?_, ?_⟩
  · rw [List.all_reverse]
    exact List.all_takeWhile
  · rw [trimChars, List.append_assoc, ← List.reverse_append, List.takeWhile_append_dropWhile,
      List.reverse_reverse, List.takeWhile_append_dropWhile]

/-- Trimming leaves nothing to trim. -/
@[simp] theorem trim_trim (s : String) : trim (trim s) = trim s := by
  obtain ⟨front, back, blankFront, blankBack, padded⟩ := exists_padding s.toList
  have same : trimChars s.toList = trimChars (trimChars s.toList) := by
    conv => lhs; rw [padded]
    exact trimChars_padded blankFront blankBack _
  rw [← String.toList_inj, toList_trim, toList_trim]
  exact same.symm

/-- A text is blank exactly when trimming leaves nothing of it. -/
theorem trim_eq_empty_iff (s : String) : trim s = "" ↔ isBlank s := by
  rw [← String.toList_inj, toList_trim]
  exact trimChars_eq_nil_iff

end StubNames.Text
