import TypedQuery.Expr.Basic
import TypedQuery.Metamodel

/-!
# Keys of documents

A path names a place in a document by its steps below the root variable, with dots between them.
What lies below some element of a collection is named from that element on.
-/

namespace TypedQuery

/-- What document queries depend on: mapped columns, the escape character of LIKE patterns, and how
an expression that is refused is shown. -/
structure DocumentStore where
  metamodel : Metamodel := {}
  escape : Char := '\\'
  shown : Expr → String := fun _ ↦ ""

namespace DocumentStore

/-- The error for an expression that has no place in a document. -/
def refusal (d : DocumentStore) (e : Expr) : Error := @Error.notAPredicate (d.shown e)

/-- The steps of a path below its root. A step to some element has no name, and a step by an
expression cannot be named: the path up to the last one is refused. -/
def keyParts (d : DocumentStore) : Path → Except Error (List String)
  | .root .. => .ok []
  | .property _ parent name =>
      (d.keyParts parent).map (· ++ [(d.metamodel.column? parent.type name).getD name])
  | .listIndex _ parent index => (d.keyParts parent).map (· ++ [toString index.toNat])
  | .mapKey _ parent key => (d.keyParts parent).map (· ++ [key.text])
  | .collectionAny _ parent => d.keyParts parent
  | .listValue type parent index => .error (d.refusal (.path (.listValue type parent index)))
  | .mapValue type parent key => .error (d.refusal (.path (.mapValue type parent key)))

def key (d : DocumentStore) (p : Path) : Except Error String :=
  (d.keyParts p).map ".".intercalate

end DocumentStore

namespace Path

/-- Splits a path at its last step to some element, into the path of the collection and the rest of
the path below a variable for the element. Steps by an expression are left out of the rest. -/
def splitAtElement? : Path → Option (Path × Path)
  | root .. => none
  | collectionAny type parent => some (parent, root type "elem")
  | property type parent name =>
      parent.splitAtElement?.map fun (above, below) ↦ (above, property type below name)
  | listIndex type parent index =>
      parent.splitAtElement?.map fun (above, below) ↦ (above, listIndex type below index)
  | mapKey type parent key =>
      parent.splitAtElement?.map fun (above, below) ↦ (above, mapKey type below key)
  | listValue _ parent _ | mapValue _ parent _ => parent.splitAtElement?

/-- The split of a path that goes on below some element. -/
def belowElement? : Path → Option (Path × Path)
  | collectionAny .. => none
  | p => p.splitAtElement?

end Path

end TypedQuery
