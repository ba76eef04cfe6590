/-!
The shapes of fields: a single type, a list of another shape, a tuple given by its signature, or
a reference to a record. Lists nest to any depth, and a shape refers to a record exactly when
the shape inside all its lists is one (`recordToken?_inLists`).
-/
namespace StubNames

/-- What a field holds, with descriptors and record tokens as they were written. -/
inductive Shape where
  | scalar (descriptor : String)
  | list (inner : Shape)
  | tuple (signature : List String)
  | record (token : String)
  deriving DecidableEq, Repr

namespace Shape

/-- A shape inside a number of lists. -/
def inLists : Nat → Shape → Shape
  | 0, shape => shape
  | depth + 1, shape => .list (inLists depth shape)

/-- Whether a field of this shape holds a list. -/
def isList : Shape → Bool
  | list _ => true
  | _ => false

/-- The token of the record that a shape refers to, through any number of lists. -/
def recordToken? : Shape → Option String
  | record token => some token
  | list inner => inner.recordToken?
  | scalar _ | tuple _ => none

theorem recordToken?_inLists (depth : Nat) (shape : Shape) :
    (shape.inLists depth).recordToken? = shape.recordToken? := by
  induction depth with
  | zero => rfl
  | succ depth ih => exact ih

end Shape
end StubNames
