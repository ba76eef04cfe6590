/-!
What resolving a name reports, and how it is worded. An event quotes descriptors without the
blanks around them, record tokens as they were written, and the names that came out.
-/
namespace StubNames

/-- What resolving a name reports. -/
inductive Event where
  /-- A descriptor adds nothing to the kind of its tuple. -/
  | skippedInKind (descriptor : String)
  /-- A descriptor has no suffix and enters a struct name as it is. -/
  | usedVerbatim (descriptor : String)
  /-- A record token got a class. -/
  | recordResolved (token className : String)
  /-- An entity got a class and all its fields. -/
  | entityResolved (name className : String) (fields : Nat)
  deriving DecidableEq, Repr

/-- How much attention an event asks for. -/
inductive Level where
  | trace | debug | warn
  deriving DecidableEq, Repr

namespace Event

/-- The level at which an event is reported. -/
def level : Event → Level
  | skippedInKind _ => .trace
  | usedVerbatim _ => .warn
  | recordResolved .. | entityResolved .. => .debug

/-- The wording of an event. -/
def message : Event → String
  | skippedInKind descriptor =>
    "Descriptor " ++ descriptor ++ " does not contribute to tuple kind"
  | usedVerbatim descriptor =>
    "No suffix registered for " ++ descriptor ++ ", using it verbatim"
  | recordResolved token className => "Resolved record token " ++ token ++ " as " ++ className
  | entityResolved name className fields =>
    "Resolved entity " ++ name ++ " as " ++ className ++ " with " ++ toString fields ++ " fields"

end Event

end StubNames
