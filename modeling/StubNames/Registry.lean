import StubNames.Descriptor
import StubNames.Text.Blank

/-!
What the generated code does with a value of each type: the C++ type that stores it, the suffix
that names it and selects its decoder, and how it is printed. `Registry.lookup` finds the entry
of a type by its token and ignores blanks around the token; where it fails, the error keeps the
text as it was given. `suffix?` and `contains` draw the same line, since all of them go through
`Registry.find?`.
-/
namespace StubNames

/-- How a value is printed: with a conversion such as `%ld`, or as an opaque external term that
    has none. -/
inductive Printer where
  | conversion (spec : String)
  | eterm
  deriving DecidableEq, Repr

namespace Printer

/-- The text that stands for the printer in generated code. -/
def text : Printer → String
  | conversion spec => spec
  | eterm => "eterm"

/-- Whether values are printed as opaque terms. -/
def isEterm : Printer → Bool
  | conversion _ => false
  | eterm => true

end Printer

/-- The storage type, suffix and printer of the values of a type. -/
structure Entry where
  storage : String
  suffix : String
  printer : Printer
  deriving DecidableEq, Repr

namespace Entry

/-- Texts, kept in a standard string under the suffix given. -/
def text (suffix : String) : Entry := ⟨"std::string", suffix, .conversion "%s"⟩

/-- Opaque external terms. -/
def term : Entry := ⟨"ETERM*", "eterm", .eterm⟩

end Entry

/-- The entry of each type. -/
def Descriptor.entry : Descriptor → Entry
  | .atom => .text "atom"
  | .any | .map | .binary => .term
  | .integer => ⟨"int64_t", "int64_t", .conversion "%ld"⟩
  | .posInteger => ⟨"uint64_t", "uint64_t", .conversion "%ld"⟩
  | .float => ⟨"double", "double", .conversion "%f"⟩
  | .relocationId => ⟨"std::uint64_t", "uint64_t", .conversion "%ld"⟩
  | .string | .credentialId | .remoteId | .accountId | .sessionId | .userId | .gridId
  | .clusterId | .partitionId | .nodeId | .jobId | .imageId | .hookId => .text "str"

/-- Why the registry refuses: a text that denotes no type, or a table that is inconsistent. -/
inductive RegistryError where
  | unknownType (descriptor : String)
  | inconsistent (message : String)
  deriving DecidableEq, Repr

/-- The wording of a refusal. -/
def RegistryError.message : RegistryError → String
  | unknownType descriptor => "unknown type descriptor '" ++ descriptor ++ "'"
  | inconsistent message => "validation error: " ++ message

namespace Registry

/-- The type that a text denotes when the blanks around it are ignored. -/
def find? (text : String) : Option Descriptor := Descriptor.ofToken? (Text.trim text)

/-- The entry of the type that a text denotes; the error quotes the text with its blanks. -/
def lookup (text : String) : Except RegistryError Entry :=
  match find? text with
  | some descriptor => .ok descriptor.entry
  | none => .error (.unknownType text)

/-- The suffix of the type that a text denotes. -/
def suffix? (text : String) : Option String := (find? text).map (·.entry.suffix)

/-- Whether a text denotes a type. -/
def contains (text : String) : Bool := (find? text).isSome

/-- A text denotes a type exactly when the token of the type is what trimming leaves. -/
theorem find?_eq_some_iff {text : String} {descriptor : Descriptor} :
    find? text = some descriptor ↔ Text.trim text = descriptor.token :=
  Descriptor.ofToken?_eq_some_iff

@[simp] theorem find?_trim (text : String) : find? (Text.trim text) = find? text := by
  rw [find?, Text.trim_trim, find?]

@[simp] theorem suffix?_trim (text : String) : suffix? (Text.trim text) = suffix? text := by
  rw [suffix?, find?_trim, suffix?]

@[simp] theorem contains_trim (text : String) : contains (Text.trim text) = contains text := by
  rw [contains, find?_trim, contains]

end Registry
end StubNames
