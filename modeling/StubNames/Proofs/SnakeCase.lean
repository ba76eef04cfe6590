import StubNames.Proofs.Identifier

/-!
Class names of names in snake case. A name in snake case is made of words of small letters and
digits, with single underscores between them (`Text.SnakeCase`). Its class name drops the
underscores but begins each word with a capital, and there is no other capital in it. The name can
therefore be read off it again: every capital is an underscore and a small letter
(`Text.snakeChars_capitalizeFrom`). Two such names have the same class only if they are the same,
and so do their entities (`className_eq_iff_of_snakeCase`).
-/
namespace StubNames

namespace Text

/-- A word of a name in snake case: letters from `a` to `z`, at least one, and then digits, if
    any. -/
def SnakeWord (word : String) : Prop :=
  ∃ letters digits : List Char, letters ≠ [] ∧ letters.all Char.isLower = true ∧
    digits.all Char.isDigit = true ∧ word.toList = letters ++ digits

/-- A name in snake case: one or more words with single underscores between them. -/
def SnakeCase (name : String) : Prop :=
  ∃ words : List String, words ≠ [] ∧ (∀ word ∈ words, SnakeWord word) ∧
    name = "_".intercalate words

/-! ### Reading a name off its class name -/

/-- A character of a class name as snake case spells it: a capital is an underscore and its small
    letter. -/
def snakeChar (c : Char) : List Char := if c.isUpper then ['_', c.toLower] else [c]

/-- The characters of a capitalized name as snake case spells them, with an underscore before every
    word and no other. -/
def snakeChars (cs : List Char) : List Char := (cs.filter (· != '_')).flatMap snakeChar

theorem snakeChars_append (left right : List Char) :
    snakeChars (left ++ right) = snakeChars left ++ snakeChars right := by
  rw [snakeChars, List.filter_append, List.flatMap_append, snakeChars, snakeChars]

theorem isWordChar_of_isLower {c : Char} (lower : c.isLower = true) : isWordChar c = true := by
  change ((c.isUpper || c.isLower) || c.isDigit || c == '_') = true
  simp [lower]

theorem isWordChar_of_isDigit {c : Char} (digit : c.isDigit = true) : isWordChar c = true := by
  change (c.isAlpha || c.isDigit || c == '_') = true
  simp [digit]

theorem isBlankChar_of_isWordChar {c : Char} (word : isWordChar c = true) :
    isBlankChar c = false :=
  forall_isWordChar (p := fun c => isBlankChar c = false) (by decide +kernel) word

/-- A small letter stays inside a word, and its capital is read as the beginning of one. -/
theorem casing_of_isLower {c : Char} (lower : c.isLower = true) :
    isAlphabetic c = true ∧ c.toLower = c ∧ snakeChars [c] = [c] ∧
      snakeChars [wordInitial c] = ['_', c] :=
  forall_isWordChar
    (p := fun c => c.isLower = true → isAlphabetic c = true ∧ c.toLower = c ∧
      snakeChars [c] = [c] ∧ snakeChars [wordInitial c] = ['_', c])
    (by decide +kernel) (isWordChar_of_isLower lower) lower

/-- A digit stands outside words and stays. -/
theorem casing_of_isDigit {c : Char} (digit : c.isDigit = true) :
    isAlphabetic c = false ∧ snakeChars [c] = [c] :=
  forall_isWordChar
    (p := fun c => c.isDigit = true → isAlphabetic c = false ∧ snakeChars [c] = [c])
    (by decide +kernel) (isWordChar_of_isDigit digit) digit

/-- Inside a word, small letters stay. -/
theorem capitalizeFrom_letters {letters : List Char} (lower : letters.all Char.isLower = true)
    (rest : List Char) :
    capitalizeFrom true (letters ++ rest) = letters ++ capitalizeFrom true rest := by
  induction letters with
  | nil => rfl
  | cons c letters ih =>
    rw [List.all_cons, Bool.and_eq_true] at lower
    obtain ⟨letter, same, _⟩ := casing_of_isLower lower.1
    simp [capitalizeFrom, letter, same, ih lower.2]

/-- Digits stay, and what follows them begins anew if it begins outside words. -/
theorem capitalizeFrom_digits {digits : List Char} (each : digits.all Char.isDigit = true)
    {rest : List Char} (outside : rest = [] ∨ ∃ more, rest = '_' :: more) (inWord : Bool) :
    capitalizeFrom inWord (digits ++ rest) = digits ++ capitalizeFrom false rest := by
  induction digits generalizing inWord with
  | nil =>
    rcases outside with rfl | ⟨more, rfl⟩
    · rfl
    · exact capitalizeFrom_cons_of_not isAlphabetic_underscore inWord more
  | cons c digits ih =>
    rw [List.all_cons, Bool.and_eq_true] at each
    obtain ⟨outsideWords, _⟩ := casing_of_isDigit each.1
    rw [List.cons_append, capitalizeFrom_cons_of_not outsideWords, ih each.2, List.cons_append]

theorem snakeChars_of_forall {cs : List Char} (each : ∀ c ∈ cs, snakeChars [c] = [c]) :
    snakeChars cs = cs := by
  induction cs with
  | nil => rfl
  | cons c cs ih =>
    rw [List.forall_mem_cons] at each
    rw [← List.singleton_append, snakeChars_append, each.1, ih each.2]

/-- The capital of a word is read as an underscore, and the word as it was. -/
theorem snakeChars_word {word : String} (isWord : SnakeWord word) {rest : List Char}
    (outside : rest = [] ∨ ∃ more, rest = '_' :: more) :
    snakeChars (capitalizeFrom false (word.toList ++ rest)) =
      '_' :: word.toList ++ snakeChars (capitalizeFrom false rest) := by
  obtain ⟨letters, digits, nonempty, lower, each, spelled⟩ := isWord
  obtain ⟨first, letters, rfl⟩ := List.exists_cons_of_ne_nil nonempty
  rw [List.all_cons, Bool.and_eq_true] at lower
  obtain ⟨letter, _, _, capital⟩ := casing_of_isLower lower.1
  have cased : capitalizeFrom false (first :: (letters ++ (digits ++ rest))) =
      [wordInitial first] ++ (letters ++ (digits ++ capitalizeFrom false rest)) := by
    rw [capitalizeFrom, if_pos letter, capitalizeFrom_letters lower.2,
      capitalizeFrom_digits each outside]
    rfl
  have keptLetters : snakeChars letters = letters :=
    snakeChars_of_forall fun c member =>
      (casing_of_isLower (List.all_eq_true.mp lower.2 c member)).2.2.1
  have keptDigits : snakeChars digits = digits :=
    snakeChars_of_forall fun c member =>
      (casing_of_isDigit (List.all_eq_true.mp each c member)).2
  calc snakeChars (capitalizeFrom false (word.toList ++ rest))
      = snakeChars
          ([wordInitial first] ++ (letters ++ (digits ++ capitalizeFrom false rest))) := by
        rw [spelled, List.append_assoc, List.cons_append, cased]
    _ = ['_', first] ++ (letters ++ (digits ++ snakeChars (capitalizeFrom false rest))) := by
        rw [snakeChars_append, snakeChars_append, snakeChars_append, capital, keptLetters,
          keptDigits]
    _ = '_' :: word.toList ++ snakeChars (capitalizeFrom false rest) := by simp [spelled]

/-- A name in snake case is read off its capitalized words, behind an underscore. -/
theorem snakeChars_capitalizeFrom {words : List String} (nonempty : words ≠ [])
    (each : ∀ word ∈ words, SnakeWord word) :
    snakeChars (capitalizeFrom false ("_".intercalate words).toList) =
      '_' :: ("_".intercalate words).toList := by
  induction words with
  | nil => exact absurd rfl nonempty
  | cons word words ih =>
    rw [List.forall_mem_cons] at each
    cases words with
    | nil =>
      have read := snakeChars_word each.1 (.inl rfl)
      rw [List.append_nil] at read
      rw [String.intercalate_singleton, read]
      exact List.append_nil _
    | cons next words =>
      have rest := ih (List.cons_ne_nil next words) each.2
      have spelled : ("_".intercalate (word :: next :: words)).toList =
          word.toList ++ '_' :: ("_".intercalate (next :: words)).toList := by
        rw [String.intercalate_cons_cons, String.toList_append, String.toList_append,
          List.append_assoc]
        rfl
      rw [spelled]
      -- The underscore is dropped from the class name, and the next capital brings it back.
      generalize ("_".intercalate (next :: words)).toList = more at rest
      calc snakeChars (capitalizeFrom false (word.toList ++ '_' :: more))
          = '_' :: word.toList ++ snakeChars (capitalizeFrom false ('_' :: more)) :=
            snakeChars_word each.1 (.inr ⟨more, rfl⟩)
        _ = '_' :: word.toList ++ snakeChars (capitalizeFrom false more) := by
            rw [capitalizeFrom_cons_of_not isAlphabetic_underscore]
            rfl
        _ = '_' :: (word.toList ++ '_' :: more) := by
            rw [rest]
            rfl

/-- A name in snake case can be read off its class name. -/
theorem SnakeCase.flatMap_pascalCase {name : String} (snake : SnakeCase name) :
    (pascalCase name).toList.flatMap snakeChar = '_' :: name.toList := by
  obtain ⟨words, nonempty, each, rfl⟩ := snake
  rw [toList_pascalCase]
  exact snakeChars_capitalizeFrom nonempty each

/-- Names in snake case with one class name are the same. -/
theorem SnakeCase.pascalCase_inj {left right : String} (leftSnake : SnakeCase left)
    (rightSnake : SnakeCase right) : pascalCase left = pascalCase right ↔ left = right := by
  refine ⟨fun same => ?_, congrArg pascalCase⟩
  have read := leftSnake.flatMap_pascalCase
  rw [same, rightSnake.flatMap_pascalCase, List.cons.injEq, String.toList_inj] at read
  exact read.2.symm

/-- A name in snake case begins with a small letter. -/
theorem SnakeCase.exists_first {name : String} (snake : SnakeCase name) :
    ∃ first rest, name.toList = first :: rest ∧ first.isLower = true := by
  obtain ⟨words, nonempty, each, rfl⟩ := snake
  obtain ⟨word, words, rfl⟩ := List.exists_cons_of_ne_nil nonempty
  obtain ⟨letters, digits, filled, lower, _, spelled⟩ := each word List.mem_cons_self
  obtain ⟨first, letters, rfl⟩ := List.exists_cons_of_ne_nil filled
  have small := List.all_eq_true.mp lower first List.mem_cons_self
  cases words with
  | nil =>
    refine ⟨first, letters ++ digits, ?_, small⟩
    rw [String.intercalate_singleton, spelled]
    rfl
  | cons next words =>
    refine ⟨first, letters ++ digits ++ '_' :: ("_".intercalate (next :: words)).toList, ?_, small⟩
    rw [String.intercalate_cons_cons, String.toList_append, String.toList_append, spelled]
    simp

end Text

/-! ### Records and entities -/

/-- A name in snake case is a token of the record of that name. -/
theorem RecordName.denotes_of_snakeCase {name : String} (snake : Text.SnakeCase name) :
    Denotes name name := by
  obtain ⟨first, rest, spelled, lower⟩ := snake.exists_first
  have inked : Text.trim name ≠ "" := by
    intro nothing
    have blank := (Text.trim_eq_empty_iff name).mp nothing
    rw [Text.isBlank, spelled, List.all_cons,
      Text.isBlankChar_of_isWordChar (Text.isWordChar_of_isLower lower)] at blank
    cases blank
  refine ⟨inked, ?_, inked⟩
  rw [ofMarked, spelled]
  split
  next marked =>
    cases marked
    cases lower
  next => rfl

namespace EntityBinding

/-- The class of an entity and its other names follow from its name. -/
theorem names_of_ok {prefixes : Prefixes} {token : String} {declarations : List Declaration}
    {entity : EntityBinding}
    (bound : (ofDeclarations prefixes token declarations).result = .ok entity) :
    entity.className = prefixes.className entity.name ∧
      entity.header = prefixes.headerName entity.name ∧
      entity.listDecoder = prefixes.decoderName entity.name ∧
      entity.converter = prefixes.converterName entity.name := by
  obtain ⟨name, draft, _, _, _, rfl⟩ := ofDeclarations_eq_ok bound
  exact ⟨rfl, rfl, rfl, rfl⟩

/-- Names in snake case have one class name only if they are the same. Each is a token of its own
    record, and two such records have one class exactly when the names are the same. Two entities
    with such names, whatever their tokens and fields, have one class exactly when they have the
    same name, header, list decoder and converter. -/
theorem className_eq_iff_of_snakeCase (prefixes : Prefixes) {left right : String}
    (leftSnake : Text.SnakeCase left) (rightSnake : Text.SnakeCase right) :
    (Text.pascalCase left = Text.pascalCase right ↔ left = right) ∧
    (∃ leftRecord rightRecord, (RecordName.ofToken prefixes left).result = .ok leftRecord ∧
      (RecordName.ofToken prefixes right).result = .ok rightRecord ∧
      (leftRecord.className = rightRecord.className ↔ left = right)) ∧
    ∀ leftToken rightToken leftDeclarations rightDeclarations leftEntity rightEntity,
      (ofDeclarations prefixes leftToken leftDeclarations).result = .ok leftEntity →
      (ofDeclarations prefixes rightToken rightDeclarations).result = .ok rightEntity →
      leftEntity.name = left → rightEntity.name = right →
      (leftEntity.className = rightEntity.className ↔
        leftEntity.name = rightEntity.name ∧ leftEntity.header = rightEntity.header ∧
          leftEntity.listDecoder = rightEntity.listDecoder ∧
          leftEntity.converter = rightEntity.converter) := by
  have classes : prefixes.className left = prefixes.className right ↔ left = right := by
    rw [Prefixes.className, Prefixes.className, String.append_right_inj]
    exact leftSnake.pascalCase_inj rightSnake
  refine ⟨leftSnake.pascalCase_inj rightSnake, ?_, ?_⟩
  · have leftDenotes := RecordName.denotes_of_snakeCase leftSnake
    have rightDenotes := RecordName.denotes_of_snakeCase rightSnake
    exact ⟨_, _, RecordName.result_ofToken_of_denotes prefixes leftDenotes,
      RecordName.result_ofToken_of_denotes prefixes rightDenotes, classes⟩
  · rintro leftToken rightToken leftDeclarations rightDeclarations leftEntity rightEntity leftBound
      rightBound rfl rfl
    obtain ⟨leftClass, leftHeader, leftDecoder, leftConverter⟩ := names_of_ok leftBound
    obtain ⟨rightClass, rightHeader, rightDecoder, rightConverter⟩ := names_of_ok rightBound
    rw [leftClass, rightClass, classes, leftHeader, rightHeader, leftDecoder, rightDecoder,
      leftConverter, rightConverter]
    exact ⟨fun same => ⟨same, same ▸ rfl, same ▸ rfl, same ▸ rfl⟩, And.left⟩

/-- Two kinds of jobs, of which one has a digit where the other has none. -/
theorem className_eq_iff_of_snakeCase_jobs :
    Text.SnakeCase "job_record" ∧ Text.SnakeCase "job2_record" ∧
      Text.pascalCase "job_record" ≠ Text.pascalCase "job2_record" ∧
      ∃ job other, (ofDeclarations .standard "#job_record{}" []).result = .ok job ∧
        (ofDeclarations .standard "job2_record" [⟨"id", .scalar "job_id()"⟩]).result = .ok other ∧
        job.className ≠ other.className := by
  have record : Text.SnakeWord "record" :=
    ⟨"record".toList, [], by decide, by decide, by decide, rfl⟩
  have left : Text.SnakeCase "job_record" := by
    refine ⟨["job", "record"], by decide, ?_, rfl⟩
    rw [List.forall_mem_cons, List.forall_mem_singleton]
    exact ⟨⟨"job".toList, [], by decide, by decide, by decide, rfl⟩, record⟩
  have right : Text.SnakeCase "job2_record" := by
    refine ⟨["job2", "record"], by decide, ?_, rfl⟩
    rw [List.forall_mem_cons, List.forall_mem_singleton]
    exact ⟨⟨"job".toList, ['2'], by decide, by decide, by decide, rfl⟩, record⟩
  have job : ∃ job, (ofDeclarations .standard "#job_record{}" []).result = .ok job ∧
      job.name = "job_record" := ⟨_, rfl, rfl⟩
  have other : ∃ other, (ofDeclarations .standard "job2_record"
      [⟨"id", .scalar "job_id()"⟩]).result = .ok other ∧ other.name = "job2_record" :=
    ⟨_, rfl, rfl⟩
  obtain ⟨job, jobBound, jobName⟩ := job
  obtain ⟨other, otherBound, otherName⟩ := other
  obtain ⟨classNames, _, entities⟩ := className_eq_iff_of_snakeCase .standard left right
  refine ⟨left, right, mt classNames.mp (by decide), job, other, jobBound, otherBound, ?_⟩
  rw [Ne, entities _ _ _ _ job other jobBound otherBound jobName otherName, jobName, otherName]
  exact fun ⟨same, _⟩ => absurd same (by decide)

/-- A letter after a digit begins a word, with or without an underscore. -/
example : Text.pascalCase "a1b" = Text.pascalCase "a1_b" := by decide +kernel

end EntityBinding
end StubNames
