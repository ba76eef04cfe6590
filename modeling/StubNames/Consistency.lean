import StubNames.Exclusion
import StubNames.Registry

/-!
The consistency of the tables, checked before anything is generated: tokens are distinct and
read back, every entry has a storage type, a suffix that can stand inside an identifier and a
printer that is a conversion or the opaque term, and the excluded names are distinct and not
empty. `Registry.check` reports the first inconsistency, and the tables have none
(`Registry.check_eq_ok`).
-/
namespace StubNames.Registry

/-- Checks that descriptors have tokens that differ from each other and from those seen before,
    and that each token reads back as its descriptor. -/
def checkTokens (seen : List String) : List Descriptor → Except RegistryError Unit
  | [] => .ok ()
  | descriptor :: rest =>
    if seen.contains descriptor.token then
      .error (.inconsistent ("Duplicate descriptor '" ++ descriptor.token ++ "'"))
    else if Descriptor.ofToken? descriptor.token != some descriptor then
      .error (.inconsistent
        ("Descriptor '" ++ descriptor.token ++ "' does not parse back to " ++ descriptor.name))
    else checkTokens (descriptor.token :: seen) rest

/-- Whether a suffix can stand inside an identifier: ASCII letters, digits and underscores, and
    at least one of them. -/
def isSuffix (suffix : String) : Bool :=
  !suffix.isEmpty && suffix.toList.all fun c => c.isAlphanum || c == '_'

/-- Whether a printer is the opaque term or a conversion that begins with its marker. -/
def isPrinter (printer : Printer) : Bool :=
  printer.isEterm || printer.text.toList.head? == some '%'

/-- Checks the entry of one descriptor. -/
def checkEntry (descriptor : Descriptor) : Except RegistryError Unit :=
  let entry := descriptor.entry
  if entry.storage.isEmpty then
    .error (.inconsistent ("Empty storage type for '" ++ descriptor.token ++ "'"))
  else if !isSuffix entry.suffix then
    .error (.inconsistent
      ("Invalid suffix '" ++ entry.suffix ++ "' for '" ++ descriptor.token ++ "'"))
  else if !isPrinter entry.printer then
    .error (.inconsistent
      ("Invalid printer '" ++ entry.printer.text ++ "' for '" ++ descriptor.token ++ "'"))
  else .ok ()

/-- Checks that names are not empty and differ from each other and from those seen before. -/
def checkExclusions (seen : List String) : List String → Except RegistryError Unit
  | [] => .ok ()
  | name :: rest =>
    if name.isEmpty || seen.contains name then
      .error (.inconsistent ("Invalid or duplicate excluded entity '" ++ name ++ "'"))
    else checkExclusions (name :: seen) rest

/-- Checks the table of types, then its entries, then the excluded names, and reports the first
    inconsistency. -/
def check : Except RegistryError Unit := do
  checkTokens [] Descriptor.all
  Descriptor.all.forM checkEntry
  checkExclusions [] Exclusion.names

/-- The tables are consistent. -/
theorem check_eq_ok : check = .ok () := rfl

end StubNames.Registry
