/-!
The entities for which nothing is generated: five names, compared as they stand, so that neither
blanks nor the case of a letter let a name in or out.
-/
namespace StubNames.Exclusion

/-- The names of the excluded entities, in the order of the table. -/
def names : List String := ["malfunction", "table", "service", "subscriber", "test"]

/-- Whether an entity of this name is excluded from generation. -/
def excludes (name : String) : Bool := names.contains name

theorem excludes_iff {name : String} : excludes name = true ↔ name ∈ names := by
  simp [excludes]

end StubNames.Exclusion
