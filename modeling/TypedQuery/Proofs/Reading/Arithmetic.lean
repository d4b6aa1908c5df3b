import Mathlib.Algebra.Field.Rat
import Mathlib.Tactic.Ring
import TypedQuery.Proofs.Reading.Comments
import TypedQuery.Proofs.Reading.Rendered

/-!
# Arithmetic expressions

Arithmetic expressions are made of sums, differences, products, quotients and negations over
properties. Their texts have words of symbols besides those of names. A division by zero has no
value.
-/

namespace TypedQuery

namespace Reading

inductive ArithOp
  | add
  | sub
  | mult
  | div

namespace ArithOp

def word : ArithOp → String
  | add => "+"
  | sub => "-"
  | mult => "*"
  | div => "/"

def op : ArithOp → Op
  | add => .add
  | sub => .sub
  | mult => .mult
  | div => .div

def pattern : ArithOp → String
  | add => "{0} + {1}"
  | sub => "{0} - {1}"
  | mult => "{0} * {1}"
  | div => "{0} / {1}"

/-- Whether an operator binds tighter than sums and differences. -/
def isTight : ArithOp → Bool
  | add | sub => false
  | mult | div => true

def ofWord? (s : String) : Option ArithOp :=
  if s = "+" then some add
  else if s = "-" then some sub
  else if s = "*" then some mult
  else if s = "/" then some div
  else none

def result : ArithOp → ℚ → ℚ → Option ℚ
  | add, x, y => some (x + y)
  | sub, x, y => some (x - y)
  | mult, x, y => some (x * y)
  | div, x, y => if y = 0 then none else some (x / y)

/-- The value of an operation whose operands may have none. -/
def value (op : ArithOp) (x y : Option ℚ) : Option ℚ := x.bind fun x ↦ y.bind (op.result x)

/-- Whether the operator may take over the first operand of an operation on its level. -/
def isAssociative : ArithOp → Bool
  | add | mult => true
  | sub | div => false

@[simp] theorem value_none_right (op : ArithOp) (x : Option ℚ) : op.value x none = none := by
  cases x <;> rfl

@[simp] theorem value_some (op : ArithOp) (x y : ℚ) : op.value (some x) (some y) = op.result x y :=
  rfl

theorem result_assoc {op o : ArithOp} (hop : op.isAssociative = true)
    (hlevel : o.isTight = op.isTight) (x y z : ℚ) :
    o.value (op.result x y) (some z) = op.value (some x) (o.result y z) := by
  match op, o with
  | add, add => simp [result, add_assoc]
  | add, sub => simp [result, add_sub_assoc]
  | mult, mult => simp [result, mul_assoc]
  | mult, div => by_cases hz : z = 0 <;> simp [result, hz, mul_div_assoc]
  | add, mult | add, div | mult, add | mult, sub => exact absurd hlevel (by decide)
  | sub, _ | div, _ => exact absurd hop (by decide)

theorem value_assoc (op o : ArithOp) (hop : op.isAssociative = true)
    (hlevel : o.isTight = op.isTight) (x y z : Option ℚ) :
    o.value (op.value x y) z = op.value x (o.value y z) := by
  cases x with
  | none => rfl
  | some x =>
      cases y with
      | none => rfl
      | some y =>
          cases z with
          | none => simp
          | some z => exact result_assoc hop hlevel x y z

end ArithOp

/-- The arithmetic operators, with the dash in front for negations. -/
def arithmetic : Fragment ArithOp where
  word := ArithOp.word
  tight := ArithOp.isTight
  unaryWord := "-"
  operator? := ArithOp.ofWord?
  operator?_word := by rintro (_ | _ | _ | _) <;> rfl
  unaryText := "-"
  op := ArithOp.op
  unaryOp := .negate
  pattern := ArithOp.pattern
  unaryPattern := "-{0}"
  mem_baseOps := by
    rintro (_ | _ | _ | _) <;> simp [ArithOp.op, ArithOp.pattern, Registry.baseOps]
  unary_mem_baseOps := by simp [Registry.baseOps]
  isShared := by rintro (_ | _ | _ | _) <;> decide
  unary_isShared := by decide
  parse_pattern := by rintro (_ | _ | _ | _) <;> rfl
  parse_unaryPattern := rfl
  unary_nonneg := by decide
  unary_lt := by rintro (_ | _ | _ | _) <;> decide
  lt_iff := by rintro (_ | _ | _ | _) (_ | _ | _ | _) <;> decide
  unchanged := by
    rintro s (_ | _ | _ | _) args <;> simp only [Setup.operationRendering, ArithOp.op] <;>
      cases s.profile.family <;> rfl
  unary_unchanged := by
    intro s args
    simp only [Setup.operationRendering]
    cases s.profile.family <;> rfl

/-- Words are set apart by the symbols of operators too, and names may stand between quotes. -/
def symbolWords (quote : Option Char) : Lexicon := ⟨quote, ['+', '-', '*', '/']⟩

theorem isLegible_arithmetic (quote : Option Char) : arithmetic.IsLegible (symbolWords quote) where
  binary := by
    rintro (_ | _ | _ | _) rest <;>
      simp [arithmetic, ArithOp.word, symbolWords, Lexicon.tokens, Lexicon.emit] <;> rfl
  unary rest hrest := by
    have hhead : rest.head? ≠ some '-' := hrest (by simp [symbolWords])
    simp [arithmetic, symbolWords, Lexicon.tokens, Lexicon.emit, hhead]

theorem isAtom_of_isWord {quote : Option Char} {text : String}
    (h : (symbolWords quote).isWord text = true) : arithmetic.IsAtom text := by
  have hne : ∀ symbol ∈ ["+", "-", "*", "/"], text ≠ symbol := by
    rintro symbol hsymbol rfl
    simp only [List.mem_cons, List.not_mem_nil, or_false] at hsymbol
    rcases hsymbol with rfl | rfl | rfl | rfl <;>
      simp [Lexicon.isWord, Lexicon.isSpelled, symbolWords] at h
  refine ⟨?_, hne "-" (by simp)⟩
  simp [arithmetic, ArithOp.ofWord?, hne]

/-! ## Values -/

/-- The value of a tree under an assignment of its atoms, if it divides nothing by zero. -/
def OpTree.value {α : Type} (assignment : α → ℚ) (t : OpTree ArithOp α) : Option ℚ :=
  t.fold (fun a ↦ some (assignment a)) (Option.map Neg.neg) ArithOp.value

/-- Whether the text of a tree is read with the value of the tree: no dash stands behind another
one, and only sums and products have a right operand on their own level. -/
structure OpTree.IsFaithful {α : Type} (t : OpTree ArithOp α) : Prop where
  single : t.doublesUnary = false
  free : arithmetic.groupsFreely ArithOp.isAssociative t = true

theorem isFaithful_map {α β : Type} (f : α → β) {t : OpTree ArithOp α} :
    (t.map f).IsFaithful ↔ t.IsFaithful := by
  constructor <;> rintro ⟨hsingle, hfree⟩ <;> exact ⟨by simpa using hsingle, by simpa using hfree⟩

theorem value_regroup {t : OpTree ArithOp String}
    (h : arithmetic.groupsFreely ArithOp.isAssociative t = true) (assignment : String → ℚ) :
    (arithmetic.regroup t).value assignment = t.value assignment :=
  (Grammar.fold_regroup ArithOp.value_assoc h).1

end Reading

end TypedQuery
