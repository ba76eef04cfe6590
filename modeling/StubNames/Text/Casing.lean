import StubNames.Text.Alphabetic
import StubNames.Text.Uppercase

/-!
The casing of generated names. A word is a maximal run of alphabetic characters.
`capitalizeWords` gives every word a capital: its first letter takes its uppercase where that is
one character, its later letters are lowered if they are ASCII, and every character outside a
word stays. Casing therefore keeps the number of characters (`length_capitalizeFrom`), and a
text can be cut before any character that is not alphabetic (`capitalizeFrom_cons_of_not`).
`pascalCase` drops the underscores of the capitalized text, which is how the names of classes
are spelled.
-/
namespace StubNames.Text

/-- The characters with every word capitalized, when the character before them is inside a word
    or not. -/
def capitalizeFrom : Bool → List Char → List Char
  | _, [] => []
  | inWord, c :: cs =>
    if isAlphabetic c then
      (if inWord then c.toLower else wordInitial c) :: capitalizeFrom true cs
    else c :: capitalizeFrom false cs

/-- What casing makes of one character, when the character before it is inside a word or not. -/
def cased (inWord : Bool) (c : Char) : Char :=
  if isAlphabetic c then (if inWord then c.toLower else wordInitial c) else c

/-- The text with every word capitalized. -/
def capitalizeWords (s : String) : String := String.ofList (capitalizeFrom false s.toList)

/-- The capitalized words of a text, joined by leaving out the underscores. -/
def pascalCase (s : String) : String :=
  String.ofList ((capitalizeWords s).toList.filter (· != '_'))

@[simp] theorem toList_capitalizeWords (s : String) :
    (capitalizeWords s).toList = capitalizeFrom false s.toList := by
  simp [capitalizeWords]

@[simp] theorem toList_pascalCase (s : String) :
    (pascalCase s).toList = (capitalizeFrom false s.toList).filter (· != '_') := by
  simp [pascalCase]

theorem cased_of_not {c : Char} (outside : isAlphabetic c = false) (inWord : Bool) :
    cased inWord c = c := by
  simp [cased, outside]

theorem cased_first {c : Char} (letter : isAlphabetic c = true) :
    cased false c = wordInitial c := by
  simp [cased, letter]

theorem cased_later {c : Char} (letter : isAlphabetic c = true) : cased true c = c.toLower := by
  simp [cased, letter]

/-- On ASCII casing lowers or raises, since no characters but letters have a case there. -/
theorem cased_ascii {c : Char} (ascii : c.toNat < 128) (inWord : Bool) :
    cased inWord c = if inWord then c.toLower else c.toUpper := by
  rw [cased, isAlphabetic_ascii ascii, wordInitial_ascii ascii]
  refine forall_ascii (p := fun c => (if c.isAlpha then (if inWord then c.toLower else c.toUpper)
    else c) = if inWord then c.toLower else c.toUpper) ?_ ascii
  cases inWord <;> decide

/-- Casing goes from character to character and remembers of each whether it is alphabetic. -/
theorem capitalizeFrom_cons (inWord : Bool) (c : Char) (cs : List Char) :
    capitalizeFrom inWord (c :: cs) = cased inWord c :: capitalizeFrom (isAlphabetic c) cs := by
  by_cases letter : isAlphabetic c <;> simp [capitalizeFrom, cased, letter]

/-- Casing replaces characters one for one. -/
theorem length_capitalizeFrom (inWord : Bool) (cs : List Char) :
    (capitalizeFrom inWord cs).length = cs.length := by
  induction cs generalizing inWord with
  | nil => rfl
  | cons c cs ih => by_cases letter : isAlphabetic c <;> simp [capitalizeFrom, letter, ih]

@[simp] theorem length_capitalizeWords (s : String) : (capitalizeWords s).length = s.length := by
  rw [← String.length_toList, toList_capitalizeWords, length_capitalizeFrom, String.length_toList]

/-- Lowering changes letters of ASCII alone. -/
theorem toLower_of_not_ascii {c : Char} (beyond : ¬ c.toNat < 128) : c.toLower = c := by
  have small : ¬ (c.val ≥ 'A'.val ∧ c.val ≤ 'Z'.val) := by
    intro capital
    have upTo : c.toNat ≤ 90 := UInt32.le_iff_toNat_le.mp capital.2
    omega
  exact dif_neg small

/-- What takes the small letters of ASCII like the capitals cannot tell that a character was
    lowered. -/
theorem apply_toLower {α : Type} {f : Char → α}
    (table : ∀ point < 128, f (Char.ofNat point).toLower = f (Char.ofNat point)) (c : Char) :
    f c.toLower = f c := by
  by_cases ascii : c.toNat < 128
  · exact forall_ascii (p := fun c => f c.toLower = f c) table ascii
  · rw [toLower_of_not_ascii ascii]

/-- A character outside words stays, and what follows it begins anew. -/
theorem capitalizeFrom_cons_of_not {c : Char} (outside : isAlphabetic c = false) (inWord : Bool)
    (cs : List Char) : capitalizeFrom inWord (c :: cs) = c :: capitalizeFrom false cs := by
  simp [capitalizeFrom, outside]

end StubNames.Text
