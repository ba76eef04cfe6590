import StubNames.Text.Casing

/-!
The prefixes of generated names. Every generated name is a prefix and a rest that does not
depend on the prefixes: classes of records and entities, structs of tuples, decoders, converters
from a single term and headers have one prefix each. A prefix is read and changed by its role
(`Prefixes.get`, `Prefixes.set`), and a change is seen in that role alone (`get_set`).
-/
namespace StubNames

/-- The prefixes in use, with those of the workload manager as defaults. -/
structure Prefixes where
  record : String := "Swm"
  tuple : String := "SwmTuple"
  decoder : String := "ei_buffer_to_"
  converter : String := "eterm_to_"
  header : String := "wm_"
  deriving DecidableEq, Repr

namespace Prefixes

/-- The kinds of generated names that have a prefix. -/
inductive Role where
  | record | tuple | decoder | converter | header
  deriving DecidableEq, Repr

/-- The default prefixes. -/
def standard : Prefixes := {}

/-- The prefix of a role. -/
def get (prefixes : Prefixes) : Role → String
  | .record => prefixes.record
  | .tuple => prefixes.tuple
  | .decoder => prefixes.decoder
  | .converter => prefixes.converter
  | .header => prefixes.header

/-- The prefixes with that of one role replaced. -/
def set (prefixes : Prefixes) (role : Role) (text : String) : Prefixes :=
  match role with
  | .record => { prefixes with record := text }
  | .tuple => { prefixes with tuple := text }
  | .decoder => { prefixes with decoder := text }
  | .converter => { prefixes with converter := text }
  | .header => { prefixes with header := text }

theorem get_set (prefixes : Prefixes) (role other : Role) (text : String) :
    (prefixes.set role text).get other = if other = role then text else prefixes.get other := by
  cases role <;> cases other <;> rfl

/-! ### Names behind a prefix -/

/-- The class of a record or an entity. -/
def className (prefixes : Prefixes) (name : String) : String :=
  prefixes.record ++ Text.pascalCase name

/-- The function that decodes what a suffix selects. -/
def decoderName (prefixes : Prefixes) (suffix : String) : String := prefixes.decoder ++ suffix

/-- The function that converts a single term to an entity. -/
def converterName (prefixes : Prefixes) (name : String) : String := prefixes.converter ++ name

/-- The file that declares the class of a record or an entity. -/
def headerName (prefixes : Prefixes) (name : String) : String := prefixes.header ++ name ++ ".h"

end Prefixes
end StubNames
