import StubNames.Text.Casing

/-!
Capitals by position. Casing remembers of a character only whether it is alphabetic, so what it
makes of the next one can be said of these two alone (`capitalizeFrom_eq_zipWith`). A text with
capitalized words is thereby known at every position (`CasedAt`), and a text can be cut wherever no
word is cut (`capitalizeWords_by_position`).
-/
namespace StubNames.Text

/-- The character before a position of a text is alphabetic. -/
def FollowsLetter (text : List Char) (position : Nat) : Prop :=
  ∃ before b, position = before + 1 ∧ text[before]? = some b ∧ isAlphabetic b = true

/-- What stands at a position of a text once its words are capitalized: a character outside words as
    it was, a later letter of a word lowered if it belongs to ASCII, and the first letter of a word
    as its uppercase where that is one character, and as it was where that is several. -/
inductive CasedAt (text : List Char) (position : Nat) : Char → Prop
  | outside {c : Char} (there : text[position]? = some c) (separates : isAlphabetic c = false) :
      CasedAt text position c
  | later {c : Char} (there : text[position]? = some c) (letter : isAlphabetic c = true)
      (follows : FollowsLetter text position) : CasedAt text position c.toLower
  | first {c upper : Char} (there : text[position]? = some c) (letter : isAlphabetic c = true)
      (begins : ¬ FollowsLetter text position) (single : toUppercase c = [upper]) :
      CasedAt text position upper
  | kept {c : Char} (there : text[position]? = some c) (letter : isAlphabetic c = true)
      (begins : ¬ FollowsLetter text position) (several : 1 < (toUppercase c).length) :
      CasedAt text position c

/-! ### What casing remembers -/

/-- Casing takes each character with whether the one before it is alphabetic. -/
theorem capitalizeFrom_eq_zipWith (inWord : Bool) (cs : List Char) :
    capitalizeFrom inWord cs = List.zipWith cased (inWord :: cs.map isAlphabetic) cs := by
  induction cs generalizing inWord with
  | nil => rfl
  | cons c cs ih => rw [capitalizeFrom_cons, ih, List.map_cons, List.zipWith_cons_cons]

section
variable {text : List Char} {position : Nat} {inWord : Bool}

theorem followsLetter_iff (remembered : (false :: text.map isAlphabetic)[position]? = some inWord) :
    inWord = true ↔ FollowsLetter text position := by
  cases position with
  | zero =>
    rw [List.getElem?_cons_zero, Option.some.injEq] at remembered
    simp [FollowsLetter, ← remembered]
  | succ before =>
    rw [List.getElem?_cons_succ, List.getElem?_map, Option.map_eq_some_iff] at remembered
    obtain ⟨b, there, rfl⟩ := remembered
    simp [FollowsLetter, there]

theorem casedAt_iff {c d : Char} (there : text[position]? = some c)
    (remembered : (false :: text.map isAlphabetic)[position]? = some inWord) :
    CasedAt text position d ↔ cased inWord c = d := by
  have follows := followsLetter_iff remembered
  constructor
  · intro stands
    cases stands with
    | outside other separates =>
      cases there.symm.trans other
      exact cased_of_not separates inWord
    | later other letter before =>
      cases there.symm.trans other
      rw [follows.mpr before, cased_later letter]
    | first other letter begins single =>
      cases there.symm.trans other
      rw [Bool.eq_false_iff.mpr (mt follows.mp begins), cased_first letter,
        wordInitial_of_single single]
    | kept other letter begins several =>
      cases there.symm.trans other
      rw [Bool.eq_false_iff.mpr (mt follows.mp begins), cased_first letter,
        wordInitial_of_several several]
  · rintro rfl
    cases letter : isAlphabetic c with
    | false =>
      rw [cased_of_not letter]
      exact .outside there letter
    | true =>
      cases inWord with
      | false =>
        have begins := mt follows.mpr Bool.false_ne_true
        rw [cased_first letter]
        rcases single_or_several c with ⟨upper, single, stands⟩ | ⟨several, stays⟩
        · rw [stands]
          exact .first there letter begins single
        · rw [stays]
          exact .kept there letter begins several
      | true =>
        rw [cased_later letter]
        exact .later there letter (follows.mp rfl)

/-- What casing leaves at a position is said by the text around that position. -/
theorem getElem?_capitalizeFrom_iff {d : Char} :
    (capitalizeFrom false text)[position]? = some d ↔ CasedAt text position d := by
  by_cases inside : position < text.length
  · have there := List.getElem?_eq_getElem inside
    have known : position < (false :: text.map isAlphabetic).length := by
      rw [List.length_cons, List.length_map]
      omega
    have remembered := List.getElem?_eq_getElem known
    rw [casedAt_iff there remembered, capitalizeFrom_eq_zipWith, List.getElem?_zipWith, there,
      remembered]
    exact Option.some_inj
  · have past : text[position]? = none := List.getElem?_eq_none (by omega)
    rw [List.getElem?_eq_none (by rw [length_capitalizeFrom]; omega)]
    constructor
    · intro nothing
      cases nothing
    · rintro (⟨there, _⟩ | ⟨there, _, _⟩ | ⟨there, _, _⟩ | ⟨there, _, _⟩) <;> simp [past] at there

end

/-! ### Texts one after the other -/

/-- Casing goes on after a text with what its last character tells. -/
theorem capitalizeFrom_append (inWord : Bool) (left right : List Char) :
    capitalizeFrom inWord (left ++ right) =
      capitalizeFrom inWord left ++
        capitalizeFrom ((left.getLast?.map isAlphabetic).getD inWord) right := by
  induction left generalizing inWord with
  | nil => rfl
  | cons c left ih =>
    rw [List.cons_append, capitalizeFrom_cons, ih, capitalizeFrom_cons, List.getLast?_cons]
    cases left.getLast? <;> rfl

/-- Casing begins anew at a character outside words. -/
theorem capitalizeFrom_of_head? {cs : List Char}
    (outside : ∀ c, cs.head? = some c → isAlphabetic c = false) (inWord : Bool) :
    capitalizeFrom inWord cs = capitalizeFrom false cs := by
  cases cs with
  | nil => rfl
  | cons c cs =>
    rw [capitalizeFrom_cons_of_not (outside c rfl), capitalizeFrom_cons_of_not (outside c rfl)]

/-- A text with capitalized words is as long as the text, and each of its characters is said by the
    character of the text at the same position and the one before it. Two texts can be capitalized
    apart where the first does not end with a letter or the second does not begin with one. -/
theorem capitalizeWords_by_position (s : String) :
    (capitalizeWords s).length = s.length ∧
    (∀ position d, (capitalizeWords s).toList[position]? = some d ↔ CasedAt s.toList position d) ∧
    ∀ t : String,
      ((∀ c, s.toList.getLast? = some c → isAlphabetic c = false) ∨
        (∀ c, t.toList.head? = some c → isAlphabetic c = false)) →
      capitalizeWords (s ++ t) = capitalizeWords s ++ capitalizeWords t := by
  refine ⟨length_capitalizeWords s, ?_, ?_⟩
  · intro position d
    rw [toList_capitalizeWords, getElem?_capitalizeFrom_iff]
  · intro t apart
    rw [← String.toList_inj, toList_capitalizeWords, String.toList_append, String.toList_append,
      toList_capitalizeWords, toList_capitalizeWords, capitalizeFrom_append]
    congr 1
    rcases apart with ends | begins
    · cases last : s.toList.getLast? with
      | none => rfl
      | some c => rw [Option.map_some, Option.getD_some, ends c last]
    · exact capitalizeFrom_of_head? begins _

/-- A word that ends with a digit before one whose first letter is beyond ASCII, and one whose first
    letter has an uppercase of two characters. -/
theorem capitalizeWords_by_position_etat :
    capitalizeWords ("node2" ++ "éTAT") = capitalizeWords "node2" ++ capitalizeWords "éTAT" ∧
      CasedAt "éTAT".toList 0 'É' ∧ CasedAt "éTAT".toList 1 't' ∧ CasedAt "ßTAT".toList 0 'ß' := by
  obtain ⟨_, _, apart⟩ := capitalizeWords_by_position "node2"
  obtain ⟨_, stands, _⟩ := capitalizeWords_by_position "éTAT"
  obtain ⟨_, kept, _⟩ := capitalizeWords_by_position "ßTAT"
  have ends : ∀ c, "node2".toList.getLast? = some c → isAlphabetic c = false := by
    rintro c last
    cases last
    decide +kernel
  exact ⟨apart _ (.inl ends), (stands 0 _).mp (by decide +kernel),
    (stands 1 _).mp (by decide +kernel), (kept 0 _).mp (by decide +kernel)⟩

end StubNames.Text
