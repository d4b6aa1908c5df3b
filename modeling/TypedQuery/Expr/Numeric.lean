import TypedQuery.Expr.Basic

/-!
# Numeric operands

The constants of a numeric operation take the type of its first operand that is no constant, so that
they are bound at the width of what they are compared or computed with.
-/

namespace TypedQuery

namespace Constant

/-- A numeric constant cast to a numeric type; a constant that cannot be cast is left as it is. -/
def normalized (target : ValueType) (c : Constant) : Constant :=
  if c.type.isNumeric && c.type != target then
    match c.value.castNumeric target with
    | some v => ⟨target, v⟩
    | none => c
  else c

end Constant

namespace Expr

def normalizedTo (target : ValueType) : Expr → Expr
  | constant c => constant (c.normalized target)
  | e => e

/-- The type of the first numeric operand that is no constant. -/
def numericTarget (args : List Expr) : Option ValueType :=
  (args.find? fun e ↦ !e.isConstant && e.type.isNumeric).map type

/-- Changes that keep constants apart from all others, and the types of these, keep the target. -/
theorem numericTarget_map {f : Expr → Expr} (hconstant : ∀ e, (f e).isConstant = e.isConstant)
    (htype : ∀ e, e.isConstant = false → (f e).type = e.type) (args : List Expr) :
    numericTarget (args.map f) = numericTarget args := by
  have hsearched : (fun e ↦ !e.isConstant && e.type.isNumeric) ∘ f =
      fun e ↦ !e.isConstant && e.type.isNumeric := by
    funext e
    cases h : e.isConstant with
    | true => simp [hconstant, h]
    | false => simp [hconstant, htype e h, h]
  rw [numericTarget, numericTarget, List.find?_map, hsearched, Option.map_map]
  refine Option.map_congr fun e he ↦ htype e ?_
  have hfound := List.find?_some he
  rw [Bool.and_eq_true, Bool.not_eq_true'] at hfound
  exact hfound.1

/-- The operands of a numeric operation with their constants at the type of the others. -/
def normalizeNumbers (args : List Expr) : List Expr :=
  match numericTarget args with
  | some target => args.map (normalizedTo target)
  | none => args

end Expr

end TypedQuery
