import StubNames.RecordName

/-!
What a record token denotes. A token is refused for exactly one reason
(`ofToken_eq_error_iff`), and one that is not refused denotes a name (`Denotes`), from which the
class follows (`ofToken_eq_ok_iff`). Neither the reason nor the name depends on the prefixes.
-/
namespace StubNames.RecordName

/-- Why a token is refused: it is blank, or it is not and nothing but blanks is left of it
    without its markers. -/
inductive Refused (token : String) : NamingError → Prop
  | blank (blank : Text.trim token = "") : Refused token (.invalidRecordToken token "blank token")
  | nameless (inked : Text.trim token ≠ "") (blank : Text.trim (ofMarked token).1 = "") :
      Refused token (.invalidRecordToken token "empty record name")

/-- The token denotes a record of this name. -/
structure Denotes (token name : String) : Prop where
  inked : Text.trim token ≠ ""
  unmarked : (ofMarked token).1 = name
  named : Text.trim name ≠ ""

theorem denotes_or_refused (token : String) :
    (∃ name, Denotes token name) ∨ ∃ error, Refused token error := by
  by_cases blank : Text.trim token = ""
  · exact .inr ⟨_, .blank blank⟩
  · by_cases nameless : Text.trim (ofMarked token).1 = ""
    · exact .inr ⟨_, .nameless blank nameless⟩
    · exact .inl ⟨_, blank, rfl, nameless⟩

theorem Denotes.name_unique {token name other : String} (left : Denotes token name)
    (right : Denotes token other) : name = other :=
  left.unmarked.symm.trans right.unmarked

/-- A token that denotes a record is resolved and reported. -/
theorem ofToken_of_denotes (prefixes : Prefixes) {token name : String}
    (denotes : Denotes token name) :
    ofToken prefixes token = ⟨[.recordResolved token (prefixes.className name)],
      .ok ⟨prefixes.className name, name, (ofMarked token).2⟩⟩ := by
  have inked := mt (Text.trim_eq_empty_iff token).mpr denotes.inked
  have named := mt (Text.trim_eq_empty_iff name).mpr denotes.named
  rw [← denotes.unmarked] at named ⊢
  rw [ofToken, if_neg inked]
  simp only
  rw [if_neg named]
  rfl

/-- A token that is refused is not reported. -/
theorem ofToken_of_refused (prefixes : Prefixes) {token : String} {error : NamingError}
    (refused : Refused token error) : ofToken prefixes token = Resolution.fail error := by
  cases refused with
  | blank blank => rw [ofToken, if_pos ((Text.trim_eq_empty_iff token).mp blank)]
  | nameless inked blank =>
    rw [ofToken, if_neg (mt (Text.trim_eq_empty_iff token).mpr inked)]
    simp only
    rw [if_pos ((Text.trim_eq_empty_iff _).mp blank)]

theorem result_ofToken_of_denotes (prefixes : Prefixes) {token name : String}
    (denotes : Denotes token name) :
    (ofToken prefixes token).result =
      .ok ⟨prefixes.className name, name, (ofMarked token).2⟩ := by
  rw [ofToken_of_denotes prefixes denotes]

theorem result_ofToken_of_refused (prefixes : Prefixes) {token : String} {error : NamingError}
    (refused : Refused token error) : (ofToken prefixes token).result = .error error := by
  rw [ofToken_of_refused prefixes refused]
  rfl

/-- The tokens that are refused, each with its one reason. -/
theorem ofToken_eq_error_iff {prefixes : Prefixes} {token : String} {error : NamingError} :
    (ofToken prefixes token).result = .error error ↔ Refused token error := by
  refine ⟨fun failed => ?_, result_ofToken_of_refused prefixes⟩
  rcases denotes_or_refused token with ⟨name, denotes⟩ | ⟨other, refused⟩
  · rw [result_ofToken_of_denotes prefixes denotes] at failed
    cases failed
  · rw [result_ofToken_of_refused prefixes refused] at failed
    cases failed
    exact refused

/-- The tokens that denote a record, each with its name and class. -/
theorem ofToken_eq_ok_iff {prefixes : Prefixes} {token : String} {record : RecordName} :
    (ofToken prefixes token).result = .ok record ↔
      Denotes token record.name ∧ record.className = prefixes.className record.name ∧
        record.isStruct = (ofMarked token).2 := by
  constructor
  · intro resolved
    rcases denotes_or_refused token with ⟨name, denotes⟩ | ⟨error, refused⟩
    · rw [result_ofToken_of_denotes prefixes denotes] at resolved
      cases resolved
      exact ⟨denotes, rfl, rfl⟩
    · rw [result_ofToken_of_refused prefixes refused] at resolved
      cases resolved
  · rintro ⟨denotes, classNamed, structured⟩
    rw [result_ofToken_of_denotes prefixes denotes, ← classNamed, ← structured]

end StubNames.RecordName
