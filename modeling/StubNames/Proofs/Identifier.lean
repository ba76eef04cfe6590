import StubNames.Proofs.EntityRun

/-!
Names that are identifiers. Every generated name but those of headers and of the storage of single
types is a prefix and a rest, so it is an identifier where the prefix is one and the rest consists
of letters, digits and underscores of ASCII (`Text.isIdentifier_append`). Casing keeps to these
characters (`Text.isWord_capitalizeWords`), and the suffixes of all types consist of them. An entity
whose own name, records and fields are so named therefore has only identifiers
(`names_are_identifiers`).
-/
namespace StubNames

/-! ### Words and identifiers -/

namespace Text

/-- The letters, the digits and the underscore of ASCII. -/
def isWordChar (c : Char) : Bool := c.isAlphanum || c == '_'

/-- Whether a text consists of letters, digits and underscores of ASCII; the empty text does. -/
def isWord (s : String) : Bool := s.toList.all isWordChar

/-- Whether a text is an identifier: such a text that begins with a letter or an underscore. -/
def isIdentifier (s : String) : Bool :=
  match s.toList with
  | [] => false
  | first :: rest => (first.isAlpha || first == '_') && rest.all isWordChar

@[simp] theorem isWord_append (s t : String) : isWord (s ++ t) = (isWord s && isWord t) := by
  simp [isWord]

/-- What follows an identifier may also begin with a digit. -/
theorem isIdentifier_append {s t : String} (identifier : isIdentifier s = true)
    (word : isWord t = true) : isIdentifier (s ++ t) = true := by
  rw [isIdentifier] at identifier ⊢
  rw [String.toList_append]
  cases chars : s.toList with
  | nil =>
    rw [chars] at identifier
    cases identifier
  | cons first rest =>
    rw [chars] at identifier
    rw [isWord] at word
    simp only [Bool.and_eq_true] at identifier
    simp [identifier.1, identifier.2, word]

theorem isWord_join {parts : List String} (words : ∀ part ∈ parts, isWord part = true) :
    isWord (String.join parts) = true := by
  induction parts with
  | nil => rfl
  | cons part rest ih =>
    rw [List.forall_mem_cons] at words
    rw [String.join_cons, isWord_append, words.1, ih words.2]
    rfl

theorem toNat_lt_of_isWordChar {c : Char} (word : isWordChar c = true) : c.toNat < 128 := by
  rw [isWordChar, Bool.or_eq_true, beq_iff_eq] at word
  rcases word with alphanumeric | rfl
  · -- Three ranges of code points, each of which ends below 128.
    change ((decide ('A'.val ≤ c.val ∧ c.val ≤ 'Z'.val) ||
      (decide ('a'.val ≤ c.val) && decide (c.val ≤ 'z'.val))) ||
        (decide ('0'.val ≤ c.val) && decide (c.val ≤ '9'.val))) = true at alphanumeric
    simp only [Bool.or_eq_true, Bool.and_eq_true, decide_eq_true_eq, UInt32.le_iff_toNat_le]
      at alphanumeric
    have bounds : 'Z'.val.toNat = 90 ∧ 'z'.val.toNat = 122 ∧ '9'.val.toNat = 57 := by decide
    have point : c.toNat = c.val.toNat := rfl
    omega
  · decide

/-- What a table of the characters of ASCII shows of each that words are made of. -/
theorem forall_isWordChar {p : Char → Prop}
    (table : ∀ point < 128, isWordChar (Char.ofNat point) = true → p (Char.ofNat point)) {c : Char}
    (word : isWordChar c = true) : p c :=
  forall_ascii (p := fun c => isWordChar c = true → p c) table (toNat_lt_of_isWordChar word) word

/-- Casing replaces the characters of words by such characters. -/
theorem isWordChar_casing {c : Char} (word : isWordChar c = true) :
    isWordChar c.toLower = true ∧ isWordChar (wordInitial c) = true := by
  rw [wordInitial_ascii (toNat_lt_of_isWordChar word)]
  exact forall_isWordChar
    (p := fun c => isWordChar c.toLower = true ∧ isWordChar c.toUpper = true) (by decide) word

theorem all_isWordChar_capitalizeFrom (inWord : Bool) {cs : List Char}
    (word : cs.all isWordChar = true) : (capitalizeFrom inWord cs).all isWordChar = true := by
  induction cs generalizing inWord with
  | nil => rfl
  | cons c cs ih =>
    rw [List.all_cons, Bool.and_eq_true] at word
    obtain ⟨lower, upper⟩ := isWordChar_casing word.1
    by_cases letter : isAlphabetic c = true
    · cases inWord <;> simp [capitalizeFrom, letter, lower, upper, ih true word.2]
    · simp [capitalizeFrom, letter, word.1, ih false word.2]

theorem isWord_capitalizeWords {s : String} (word : isWord s = true) :
    isWord (capitalizeWords s) = true := by
  rw [isWord, toList_capitalizeWords]
  exact all_isWordChar_capitalizeFrom false word

theorem isWord_pascalCase {s : String} (word : isWord s = true) : isWord (pascalCase s) = true := by
  have capitalized := all_isWordChar_capitalizeFrom false word
  rw [isWord, toList_pascalCase, List.all_eq_true]
  intro c member
  exact List.all_eq_true.mp capitalized c (List.mem_filter.mp member).1

end Text

/-! ### Prefixes, suffixes and the parts of tuples -/

/-- Prefixes of classes, structs, decoders and converters that are identifiers. -/
structure Prefixes.AreIdentifiers (prefixes : Prefixes) : Prop where
  record : Text.isIdentifier prefixes.record = true
  tuple : Text.isIdentifier prefixes.tuple = true
  decoder : Text.isIdentifier prefixes.decoder = true
  converter : Text.isIdentifier prefixes.converter = true

theorem Prefixes.standard_areIdentifiers : standard.AreIdentifiers := by
  constructor <;> decide

theorem Descriptor.isWord_suffix (type : Descriptor) : Text.isWord type.entry.suffix = true := by
  cases type <;> decide

namespace Signature

theorem isWord_fragment (descriptor : String) : Text.isWord (fragment descriptor) = true := by
  rw [fragment]
  cases Descriptor.ofToken? descriptor with
  | none => rfl
  | some type => cases type <;> decide

theorem isWord_kindText (descriptors : List String) : Text.isWord (kindText descriptors) = true := by
  refine Text.isWord_join fun part member => ?_
  obtain ⟨descriptor, _, rfl⟩ := List.mem_map.mp member
  exact isWord_fragment descriptor

theorem isWord_structPart {suffix : String} (word : Text.isWord suffix = true) :
    Text.isWord (structPart suffix) = true := by
  rw [structPart]
  split
  · exact Text.isWord_capitalizeWords word
  · rfl

theorem isWord_suffixText {descriptor : String} (registered : Registry.contains descriptor = true) :
    Text.isWord (suffixText descriptor) = true := by
  obtain ⟨type, found⟩ := Option.isSome_iff_exists.mp registered
  rw [suffixText, Registry.suffix?, found]
  exact type.isWord_suffix

/-- The struct of a tuple of types is named by words. -/
theorem isWord_structText {signature : Signature}
    (registered : ∀ descriptor ∈ signature, Registry.contains descriptor = true) :
    Text.isWord (structText (signature.map Text.trim)) = true := by
  refine Text.isWord_join fun part member => ?_
  obtain ⟨suffix, suffixed, rfl⟩ := List.mem_map.mp member
  obtain ⟨trimmed, inside, rfl⟩ := List.mem_map.mp suffixed
  obtain ⟨descriptor, inSignature, rfl⟩ := List.mem_map.mp inside
  have known : Registry.contains (Text.trim descriptor) = true := by
    rw [Registry.contains_trim]
    exact registered descriptor inSignature
  exact isWord_structPart (isWord_suffixText known)

end Signature

/-! ### Shapes and fields -/

namespace Shape

/-- Shapes whose tuples are of types, and whose records have names of letters, digits and
    underscores. -/
def WellNamed (prefixes : Prefixes) : Shape → Prop
  | scalar _ => True
  | list inner => inner.WellNamed prefixes
  | tuple signature => ∀ descriptor ∈ signature, Registry.contains descriptor = true
  | record token => ∀ record, (RecordName.ofToken prefixes token).result = .ok record →
      Text.isWord record.name = true

/-- Tuples and records, which are stored in a struct or a class of their own. -/
def isCompound : Shape → Bool
  | tuple _ | record _ => true
  | scalar _ | list _ => false

variable {prefixes : Prefixes} {shape : Shape} {representation : Representation}

theorem wellNamed_inLists_iff (depth : Nat) :
    (shape.inLists depth).WellNamed prefixes ↔ shape.WellNamed prefixes := by
  induction depth with
  | zero => rfl
  | succ depth ih => exact ih

/-- The decoder of a well-named shape is an identifier. -/
theorem isIdentifier_decoder (sound : prefixes.AreIdentifiers) (named : shape.WellNamed prefixes)
    (represented : (shape.represent prefixes).result = .ok representation) :
    Text.isIdentifier representation.decoder = true := by
  induction shape generalizing representation with
  | scalar descriptor =>
    rw [result_represent_scalar] at represented
    cases found : Registry.find? descriptor with
    | none => rw [found] at represented; cases represented
    | some type =>
      rw [found] at represented
      cases represented
      exact Text.isIdentifier_append sound.decoder type.isWord_suffix
  | list inner ih =>
    rw [result_represent_list, Resolution.map_eq_ok_iff] at represented
    obtain ⟨member, memberRepresented, rfl⟩ := represented
    have decoder := ih named memberRepresented
    exact decoder
  | tuple signature =>
    rw [result_represent_tuple, TupleName.result_ofSignature, Resolution.map_eq_ok_iff]
      at represented
    obtain ⟨tuple, resolved, rfl⟩ := represented
    obtain ⟨trimmed, _, rfl⟩ := Resolution.map_eq_ok_iff.mp resolved
    refine Text.isIdentifier_append sound.decoder ?_
    rw [Text.isWord_append, Signature.isWord_kindText]
    decide
  | record token =>
    rw [result_represent_record, Resolution.map_eq_ok_iff] at represented
    obtain ⟨record, resolved, rfl⟩ := represented
    exact Text.isIdentifier_append sound.decoder (named record resolved)

/-- The struct or the class that stores a well-named tuple or record is an identifier. -/
theorem isIdentifier_storage (sound : prefixes.AreIdentifiers) (named : shape.WellNamed prefixes)
    (compound : shape.isCompound = true)
    (represented : (shape.represent prefixes).result = .ok representation) :
    Text.isIdentifier representation.storage = true := by
  cases shape with
  | scalar descriptor => cases compound
  | list inner => cases compound
  | tuple signature =>
    rw [result_represent_tuple, TupleName.result_ofSignature, Resolution.map_eq_ok_iff]
      at represented
    obtain ⟨tuple, resolved, rfl⟩ := represented
    obtain ⟨trimmed, outcome, rfl⟩ := Resolution.map_eq_ok_iff.mp resolved
    obtain ⟨_, _, rfl⟩ := Signature.descriptors_eq_ok_iff.mp outcome
    exact Text.isIdentifier_append sound.tuple (Signature.isWord_structText named)
  | record token =>
    rw [result_represent_record, Resolution.map_eq_ok_iff] at represented
    obtain ⟨record, resolved, rfl⟩ := represented
    obtain ⟨_, classNamed, _⟩ := RecordName.ofToken_eq_ok_iff.mp resolved
    rw [classNamed]
    exact Text.isIdentifier_append sound.record (Text.isWord_pascalCase (named record resolved))

end Shape

/-- A declaration whose field and whose shape are well named. -/
structure Declaration.WellNamed (prefixes : Prefixes) (declaration : Declaration) : Prop where
  name : Text.isWord declaration.fieldName = true
  shape : declaration.shape.WellNamed prefixes

/-- The names of a field are identifiers, and so is what its vectors hold at last if that is a
    tuple or a record. -/
structure FieldBinding.Identifiers (declaration : Declaration) (field : FieldBinding) : Prop where
  decoder : Text.isIdentifier field.decoder = true
  getter : Text.isIdentifier field.getter = true
  setter : Text.isIdentifier field.setter = true
  storage : ∀ (depth : Nat) (base : Shape), declaration.shape = base.inLists depth →
    base.isCompound = true → ∃ inner, field.storage = Shape.vectors depth inner ∧ Text.isIdentifier inner = true

theorem FieldBinding.identifiers_of_wellNamed {prefixes : Prefixes}
    (sound : prefixes.AreIdentifiers) {declaration : Declaration}
    (named : declaration.WellNamed prefixes) {field : FieldBinding}
    (bound : (ofDeclaration prefixes declaration).result = .ok field) :
    Identifiers declaration field := by
  obtain ⟨_, representation, represented, rfl⟩ := ofDeclaration_eq_ok_iff.mp bound
  refine ⟨Shape.isIdentifier_decoder sound named.shape represented,
    Text.isIdentifier_append (by decide) named.name,
    Text.isIdentifier_append (by decide) named.name, ?_⟩
  intro depth base nested compound
  have baseNamed := named.shape
  rw [nested, Shape.result_represent_inLists, Resolution.map_eq_ok_iff] at represented
  rw [nested, Shape.wellNamed_inLists_iff] at baseNamed
  obtain ⟨member, memberRepresented, rfl⟩ := represented
  exact ⟨member.storage, Shape.storage_listedTo depth member,
    Shape.isIdentifier_storage sound baseNamed compound memberRepresented⟩

/-! ### Entities -/

namespace EntityBinding

/-- An entity whose own name, records and fields are named by letters, digits and underscores, and
    whose tuples are of types, is bound to identifiers under prefixes that are identifiers. -/
theorem names_are_identifiers {prefixes : Prefixes} (sound : prefixes.AreIdentifiers)
    {token : String} {declarations : List Declaration} {entity : EntityBinding}
    (bound : (ofDeclarations prefixes token declarations).result = .ok entity)
    (named : Text.isWord entity.name = true)
    (fieldsNamed : ∀ declaration ∈ declarations, declaration.WellNamed prefixes) :
    Text.isIdentifier entity.className = true ∧ Text.isIdentifier entity.listDecoder = true ∧
      Text.isIdentifier entity.converter = true ∧
      List.Forall₂ FieldBinding.Identifiers declarations entity.fields := by
  obtain ⟨name, draft, _, _, invariant, rfl⟩ := ofDeclarations_eq_ok bound
  refine ⟨Text.isIdentifier_append sound.record (Text.isWord_pascalCase named),
    Text.isIdentifier_append sound.decoder named,
    Text.isIdentifier_append sound.converter named, ?_⟩
  have fields := (List.forall₂_and_left _ _).mpr ⟨fieldsNamed, invariant.forall₂⟩
  exact fields.imp fun declaration field ⟨wellNamed, bound⟩ =>
    FieldBinding.identifiers_of_wellNamed sound wellNamed bound

/-- A grid of jobs, with a field that begins with a digit. -/
theorem names_are_identifiers_grid :
    ∃ entity,
      (ofDeclarations .standard "#grid{}" [⟨" 2nd_pair", .list (.tuple ["atom()", "job_id()"])⟩,
        ⟨"owner", .list (.list (.record "#user{}"))⟩]).result = .ok entity ∧
      Text.isIdentifier entity.className = true ∧ Text.isIdentifier entity.listDecoder = true ∧
      Text.isIdentifier entity.converter = true ∧
      List.Forall₂ FieldBinding.Identifiers
        [⟨" 2nd_pair", .list (.tuple ["atom()", "job_id()"])⟩,
          ⟨"owner", .list (.list (.record "#user{}"))⟩] entity.fields := by
  have bound : ∃ entity, (ofDeclarations .standard "#grid{}"
      [⟨" 2nd_pair", .list (.tuple ["atom()", "job_id()"])⟩,
        ⟨"owner", .list (.list (.record "#user{}"))⟩]).result = .ok entity ∧
      Text.isWord entity.name = true := ⟨_, rfl, by decide +kernel⟩
  obtain ⟨entity, bound, named⟩ := bound
  refine ⟨entity, bound,
    names_are_identifiers Prefixes.standard_areIdentifiers bound named ?_⟩
  rw [List.forall_mem_cons, List.forall_mem_singleton]
  have types : ∀ descriptor ∈ ["atom()", "job_id()"], Registry.contains descriptor = true := by
    decide +kernel
  refine ⟨⟨by decide +kernel, types⟩, ⟨by decide +kernel, ?_⟩⟩
  intro record outcome
  have resolved : (RecordName.ofToken .standard "#user{}").result =
      .ok ⟨"SwmUser", "user", true⟩ := by decide +kernel
  rw [resolved] at outcome
  cases outcome
  decide

end EntityBinding
end StubNames
