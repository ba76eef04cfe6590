import StubNames.Proofs.Capitals
import StubNames.Proofs.EmptyBraces
import StubNames.Proofs.TupleParts

/-!
Names that differ in the case of letters. Casing gives a letter the same form whether it was a
capital of ASCII or a small letter (`capitalizeFrom_toLower`), and lowering a cased text of ASCII
gives the lowered text back (`map_toLower_capitalizeFrom`). On ASCII capitalized words are therefore
the same exactly where the texts are but for the case of their letters. Tuples of unknown
descriptors and records whose texts agree in that way share their structs and classes
(`letter_case_forgotten`).
-/
namespace StubNames

namespace Text

/-- A text of characters of ASCII alone. -/
def IsAscii (s : String) : Prop := ∀ c ∈ s.toList, c.toNat < 128

/-- The texts are the same but for the case of letters of ASCII. -/
def SameLetters (s t : String) : Prop := s.toList.map Char.toLower = t.toList.map Char.toLower

instance (s : String) : Decidable (IsAscii s) := List.decidableBAll _ s.toList

instance (s t : String) : Decidable (SameLetters s t) :=
  inferInstanceAs (Decidable (s.toList.map Char.toLower = t.toList.map Char.toLower))

theorem SameLetters.eq_empty_iff {s t : String} (same : SameLetters s t) : s = "" ↔ t = "" := by
  have lengths := congrArg List.length same
  rw [List.length_map, List.length_map, String.length_toList, String.length_toList] at lengths
  rw [← String.length_eq_zero_iff, ← String.length_eq_zero_iff, lengths]

/-! ### Casing and lowering -/

theorem cased_toLower (inWord : Bool) (c : Char) : cased inWord c.toLower = cased inWord c := by
  by_cases ascii : c.toNat < 128
  · have still := forall_ascii (p := fun c => c.toLower.toNat < 128) (by decide) ascii
    have upper := forall_ascii (p := fun c => c.toLower.toUpper = c.toUpper) (by decide) ascii
    rw [cased_ascii still, cased_ascii ascii, toLower_toLower, upper]
  · rw [toLower_of_not_ascii ascii]

theorem toLower_cased {c : Char} (ascii : c.toNat < 128) (inWord : Bool) :
    (cased inWord c).toLower = c.toLower := by
  rw [cased_ascii ascii]
  cases inWord with
  | false => exact forall_ascii (p := fun c => c.toUpper.toLower = c.toLower) (by decide) ascii
  | true => exact toLower_toLower c

/-- Casing does not see whether a text was lowered before. -/
theorem capitalizeFrom_toLower (inWord : Bool) (cs : List Char) :
    capitalizeFrom inWord (cs.map Char.toLower) = capitalizeFrom inWord cs := by
  induction cs generalizing inWord with
  | nil => rfl
  | cons c cs ih =>
    rw [List.map_cons, capitalizeFrom_cons, capitalizeFrom_cons, cased_toLower,
      isAlphabetic_toLower, ih]

/-- On ASCII lowering undoes what casing did. -/
theorem map_toLower_capitalizeFrom {cs : List Char} (ascii : ∀ c ∈ cs, c.toNat < 128)
    (inWord : Bool) : (capitalizeFrom inWord cs).map Char.toLower = cs.map Char.toLower := by
  induction cs generalizing inWord with
  | nil => rfl
  | cons c cs ih =>
    rw [List.forall_mem_cons] at ascii
    rw [capitalizeFrom_cons, List.map_cons, List.map_cons, toLower_cased ascii.1, ih ascii.2]

/-- Texts with the same letters have the same capitalized words. -/
theorem SameLetters.capitalizeWords_eq {s t : String} (same : SameLetters s t) :
    capitalizeWords s = capitalizeWords t := by
  rw [capitalizeWords, ← capitalizeFrom_toLower, same, capitalizeFrom_toLower, capitalizeWords]

/-- On ASCII only such texts have the same capitalized words. -/
theorem IsAscii.capitalizeWords_eq_iff {s t : String} (sAscii : IsAscii s) (tAscii : IsAscii t) :
    capitalizeWords s = capitalizeWords t ↔ SameLetters s t := by
  refine ⟨fun same => ?_, SameLetters.capitalizeWords_eq⟩
  have chars : capitalizeFrom false s.toList = capitalizeFrom false t.toList := by
    rw [← toList_capitalizeWords, same, toList_capitalizeWords]
  rw [SameLetters, ← map_toLower_capitalizeFrom sAscii false, chars,
    map_toLower_capitalizeFrom tAscii]

end Text

/-! ### Tuples and records -/

namespace Signature

/-- Two descriptors that denote no type and have the same letters, blanks around them aside. -/
structure Alike (left right : String) : Prop where
  leftUnknown : Registry.contains left = false
  rightUnknown : Registry.contains right = false
  letters : Text.SameLetters (Text.trim left) (Text.trim right)

/-- A descriptor that denotes no type enters the struct name itself. -/
theorem structWord_of_not_contains {descriptor : String}
    (unknown : Registry.contains descriptor = false) :
    structWord descriptor = (structPart (Text.trim descriptor)).toList := by
  have verbatim : Registry.suffix? descriptor = none := by
    rw [Registry.contains, Option.isSome_eq_false_iff, Option.isNone_iff_eq_none] at unknown
    rw [Registry.suffix?, unknown]
    rfl
  rw [structWord, suffixText_trim, verbatim, Option.getD_none]

variable {left right : String}

theorem Alike.structWord_eq (alike : Alike left right) : structWord left = structWord right := by
  rw [structWord_of_not_contains alike.leftUnknown, structWord_of_not_contains alike.rightUnknown,
    structPart, structPart, alike.letters.capitalizeWords_eq]

theorem Alike.isBlank_eq (alike : Alike left right) : Text.isBlank left = Text.isBlank right := by
  rw [Bool.eq_iff_iff, ← Text.trim_eq_empty_iff, ← Text.trim_eq_empty_iff]
  exact alike.letters.eq_empty_iff

theorem map_eq_of_alike {α : Type} {f : String → α} (same : ∀ {l r}, Alike l r → f l = f r)
    {left right : Signature} (alike : List.Forall₂ Alike left right) :
    left.map f = right.map f := by
  induction alike with
  | nil => rfl
  | cons head _ ih => rw [List.map_cons, List.map_cons, same head, ih]

/-- What is made of the descriptors of two signatures agrees where the same of them are blank. -/
theorem map_descriptors_congr {α : Type} {f : List String → α} {left right : Signature}
    (blanks : left.map Text.isBlank = right.map Text.isBlank)
    (texts : f (left.map Text.trim) = f (right.map Text.trim)) :
    (descriptors left).map f = (descriptors right).map f := by
  have first (signature : Signature) :
      signature.findIdx? Text.isBlank = (signature.map Text.isBlank).findIdx? id := by
    rw [List.findIdx?_map]
    rfl
  have empty (signature : Signature) :
      signature.isEmpty = (signature.map Text.isBlank).isEmpty := List.isEmpty_map.symm
  rw [descriptors_eq, descriptors_eq, first left, first right, empty left, empty right, blanks]
  split
  · rfl
  · split
    · rfl
    · exact congrArg Except.ok texts

/-- Signatures of such descriptors are refused alike and have the same struct. -/
theorem result_structName_of_alike (prefixes : Prefixes) {left right : Signature}
    (alike : List.Forall₂ Alike left right) :
    (structName prefixes left).result = (structName prefixes right).result := by
  have words : left.map structWord = right.map structWord :=
    map_eq_of_alike Alike.structWord_eq alike
  have texts : structText (left.map Text.trim) = structText (right.map Text.trim) := by
    rw [← String.toList_inj, toList_structText, toList_structText, words]
  rw [result_structName, result_structName]
  exact map_descriptors_congr (map_eq_of_alike Alike.isBlank_eq alike) (by rw [texts])

end Signature

/-- A token without a marker is the name of its record. -/
theorem RecordName.denotes_self {token : String} (plain : token.toList.head? ≠ some '#')
    (inked : Text.trim token ≠ "") : Denotes token token := by
  have unmarked : ∀ text, token ≠ "#" ++ text := by
    rintro text rfl
    exact plain (by simp)
  exact ⟨inked, by rw [ofMarked_plain unmarked], inked⟩

theorem Prefixes.className_of_sameLetters (prefixes : Prefixes) {left right : String}
    (letters : Text.SameLetters left right) :
    prefixes.className left = prefixes.className right := by
  rw [className, className, Text.pascalCase, Text.pascalCase, letters.capitalizeWords_eq]

/-- On ASCII two texts have the same capitalized words exactly when they are the same but for the
    case of letters. Whatever else there is in them, signatures of unknown descriptors which agree
    in that way one by one, blanks aside, have the same struct or are refused alike, and tokens
    without a marker which agree in that way denote records of the same class. -/
theorem letter_case_forgotten :
    (∀ s t : String, Text.IsAscii s → Text.IsAscii t →
      (Text.capitalizeWords s = Text.capitalizeWords t ↔ Text.SameLetters s t)) ∧
    ∀ prefixes : Prefixes,
      (∀ left right : Signature, List.Forall₂ Signature.Alike left right →
        (left.structName prefixes).result = (right.structName prefixes).result ∧
          (left.Nameable → ∃ name, (right.structName prefixes).result = .ok name)) ∧
      ∀ left right : String, Text.SameLetters left right →
        left.toList.head? ≠ some '#' → right.toList.head? ≠ some '#' →
        Text.trim left ≠ "" → Text.trim right ≠ "" →
        ∃ leftRecord rightRecord,
          (RecordName.ofToken prefixes left).result = .ok leftRecord ∧ leftRecord.name = left ∧
          (RecordName.ofToken prefixes right).result = .ok rightRecord ∧ rightRecord.name = right ∧
          leftRecord.className = rightRecord.className := by
  refine ⟨fun s t => Text.IsAscii.capitalizeWords_eq_iff, fun prefixes => ⟨?_, ?_⟩⟩
  · intro left right alike
    have same := Signature.result_structName_of_alike prefixes alike
    refine ⟨same, fun nameable => ?_⟩
    rw [← same]
    exact ⟨_, nameable.result_structName prefixes⟩
  · intro left right letters leftPlain rightPlain leftInked rightInked
    have leftDenotes := RecordName.denotes_self leftPlain leftInked
    have rightDenotes := RecordName.denotes_self rightPlain rightInked
    exact ⟨_, _, RecordName.result_ofToken_of_denotes prefixes leftDenotes, rfl,
      RecordName.result_ofToken_of_denotes prefixes rightDenotes, rfl,
      prefixes.className_of_sameLetters letters⟩

/-- Jobs spelled in two ways, as words, in tuples and as records. -/
theorem letter_case_forgotten_jobs :
    Text.capitalizeWords "jobRECORD_2x" = Text.capitalizeWords "JOBrecord_2X" ∧
    (∃ name, (Signature.structName .standard ["Job()", " é"]).result = .ok name ∧
      (Signature.structName .standard [" jOB()", "é"]).result = .ok name) ∧
    ∃ left right, (RecordName.ofToken .standard "job_record").result = .ok left ∧
      (RecordName.ofToken .standard "JOB_Record").result = .ok right ∧
      left.className = right.className := by
  obtain ⟨words, names⟩ := letter_case_forgotten
  obtain ⟨structs, classes⟩ := names .standard
  have alike : List.Forall₂ Signature.Alike ["Job()", " é"] [" jOB()", "é"] :=
    .cons ⟨by decide +kernel, by decide +kernel, by decide +kernel⟩
      (.cons ⟨by decide +kernel, by decide +kernel, by decide +kernel⟩ .nil)
  obtain ⟨same, named⟩ := structs _ _ alike
  obtain ⟨name, rightNamed⟩ := named ⟨by decide, by decide +kernel⟩
  obtain ⟨left, right, leftResolved, _, rightResolved, _, sameClass⟩ :=
    classes "job_record" "JOB_Record" (by decide) (by decide) (by decide) (by decide +kernel)
      (by decide +kernel)
  refine ⟨(words _ _ (by decide) (by decide)).mpr (by decide), ⟨name, ?_, rightNamed⟩,
    left, right, leftResolved, rightResolved, sameClass⟩
  rw [same, rightNamed]

end StubNames
