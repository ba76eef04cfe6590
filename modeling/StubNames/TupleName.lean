import StubNames.Prefixes
import StubNames.Resolution

/-!
The two names of a tuple. A signature lists the descriptors of the components of a tuple. Its
kind (`Signature.kind`) selects the decoder of the tuple and is made of the components that are
atoms, strings or arbitrary terms; its struct name (`Signature.structName`) is made of all
components. Both are derived component by component from the trimmed descriptors, and both
refuse a signature without components or with a blank one before they report anything
(`Signature.descriptors`).
-/
namespace StubNames

/-- The descriptors of the components of a tuple, as they were written. -/
abbrev Signature := List String

/-- The names derived from a signature. -/
structure TupleName where
  /-- The fragment that selects the decoder; it may be empty. -/
  kind : String
  /-- The struct that holds such a tuple. -/
  structName : String
  deriving DecidableEq, Repr

namespace Signature

/-- The descriptors from a position on without the blanks around them, up to the first that is
    blank. -/
def trimFrom (position : Nat) : List String → Except NamingError (List String)
  | [] => .ok []
  | descriptor :: rest =>
    if Text.isBlank descriptor then .error (.blankDescriptor position)
    else (trimFrom (position + 1) rest).map (Text.trim descriptor :: ·)

/-- The descriptors without the blanks around them, unless there is none or one is blank. -/
def descriptors (signature : Signature) : Except NamingError (List String) :=
  if signature.isEmpty then .error .emptySignature else trimFrom 0 signature

/-- What a type adds to a kind, if it adds anything. -/
def kindFragment? : Descriptor → Option String
  | .atom => some "_atom"
  | .string => some "_str"
  | .any => some "_eterm"
  | _ => none

/-- What a component adds to a kind. -/
def kindPart (descriptor : String) : Resolution String :=
  match (Descriptor.ofToken? descriptor).bind kindFragment? with
  | some fragment => pure fragment
  | none => do
    Resolution.report (.skippedInKind descriptor)
    pure ""

/-- The suffix of a component; one that denotes no type stands for itself. -/
def suffix (descriptor : String) : Resolution String :=
  match Registry.suffix? descriptor with
  | some suffix => pure suffix
  | none => do
    Resolution.report (.usedVerbatim descriptor)
    pure descriptor

/-- The capitalized words of a suffix, or nothing for a suffix of one character. -/
def structPart (suffix : String) : String :=
  let capitalized := Text.capitalizeWords suffix
  if 1 < capitalized.length then capitalized else ""

/-- The fragment that selects the decoder of a tuple. -/
def kind (signature : Signature) : Resolution String := do
  let descriptors ← Resolution.ofExcept signature.descriptors
  let parts ← descriptors.mapM kindPart
  pure (String.join parts)

/-- The struct that holds a tuple. -/
def structName (prefixes : Prefixes) (signature : Signature) : Resolution String := do
  let descriptors ← Resolution.ofExcept signature.descriptors
  let suffixes ← descriptors.mapM suffix
  pure (prefixes.tuple ++ String.join (suffixes.map structPart))

end Signature

/-- Both names of a tuple, the kind first. -/
def TupleName.ofSignature (prefixes : Prefixes) (signature : Signature) :
    Resolution TupleName := do
  let kind ← signature.kind
  let structName ← signature.structName prefixes
  pure { kind, structName }

end StubNames
