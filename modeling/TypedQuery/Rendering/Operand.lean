import TypedQuery.Dialect.Basic
import TypedQuery.Expr.Build
import TypedQuery.Metamodel
import TypedQuery.Rendering.Basic
import TypedQuery.Text.Casing
import TypedQuery.Text.Like

/-!
# Operands and templates

An operand is an expression together with its rendering. Operators are rendered by applying their
templates to operands, and rewritten by looking at the shapes of these: no rendering of an operator
needs to go into its arguments again.
-/

namespace TypedQuery

/-- All that a rendering depends on besides the expression and its scope. -/
structure Setup where
  profile : Profile
  metamodel : Metamodel := {}
  /-- How identifiers are read from entity values, if they are. -/
  identify : Option (Value → Option Value) := none

inductive Operand
  /-- An expression whose parts matter to no operator around it. -/
  | leaf (expr : Expr) (render : Rendering)
  | operation (expr : Expr) (operator : Operator) (args : List Operand) (render : Rendering)
  /-- A sub-query, which can be rendered with another projection. -/
  | subQuery (expr : Expr) (select : Option String → Rendering)

namespace Operand

def expr : Operand → Expr
  | leaf e _ | operation e _ _ _ | subQuery e _ => e

def render : Operand → Rendering
  | leaf _ r | operation _ _ _ r => r
  | subQuery _ select => (select none).parenthesized

def operator? : Operand → Option Operator
  | operation _ o _ _ => some o
  | _ => none

def value? (a : Operand) : Option Value := a.expr.value?

def path? (a : Operand) : Option Path := a.expr.path?

def type (a : Operand) : ValueType := a.expr.type

/-- The text of a constant string. -/
def string? (a : Operand) : Option String := a.value?.bind Value.string?

instance : BEq Operand := ⟨fun a b ↦ a.expr == b.expr⟩

end Operand

namespace Rendering

/-- A value bound at its own type. -/
def bound (v : Value) : Rendering := placeholder v.valueType (.value v)

/-- A constant list is bound in the list style, any other constant by one placeholder. -/
def constant (style : ListStyle) (c : Constant) : Rendering :=
  let whole := placeholder c.type (.value c.value)
  match c.value, style with
  | .list _, .wrapped => whole.parenthesized
  | .list items, .expanded => (commas (items.map bound)).parenthesized
  | _, _ => whole

end Rendering

namespace Setup

def constant (s : Setup) (c : Constant) : Operand :=
  .leaf (.constant c) (.constant s.profile.listStyle c)

def value (s : Setup) (v : Value) : Operand := s.constant (.ofValue v)

def string (s : Setup) (text : String) : Operand := s.value (.string text)

/-- A constant count, cut off at the largest number of eight bytes with a sign. -/
def count (s : Setup) (n : UInt64) : Operand :=
  s.value (.i64 (.ofNat (min n.toNat (UInt64.size / 2 - 1))))

/-- Whether an operand is an operation that binds looser than a precedence. -/
def bindsLooser (s : Setup) (precedence : Int) (a : Operand) : Bool :=
  match a.operator? with
  | some operator => decide (precedence < s.profile.registry.precedence operator)
  | none => false

/-- An argument, in parentheses when it binds looser than the template around it. -/
def argument (s : Setup) (precedence : Int) (a : Operand) : Rendering :=
  if decide (0 ≤ precedence) && s.bindsLooser precedence a then a.render.parenthesized
  else a.render

/-- A constant text as a LIKE pattern for texts that it starts, ends or is part of. -/
def likePattern (s : Setup) (text : String) (leading trailing lower : Bool) : String :=
  let literal := String.ofList (Text.Like.literal s.profile.escape text.toList)
  (if leading then "%" else "") ++ (if lower then Text.lower literal else literal) ++
    (if trailing then "%" else "")

/-- Any other text operand with percent signs joined to it. -/
def likeOperand (s : Setup) (operation : Op → List Operand → Operand) (a : Operand)
    (leading trailing lower : Bool) : Operand :=
  let a := if lower then operation .lower [a] else a
  let a := if leading then operation .concat [s.string "%", a] else a
  if trailing then operation .concat [a, s.string "%"] else a

/-- One element of a template. `operation` makes the operands for slots that change the case of an
argument or join percent signs to it. -/
def element (s : Setup) (operation : Op → List Operand → Operand) (pattern : String)
    (precedence : Int) (args : List Operand) : Element → Rendering
  | .text text => .text text
  | .arg index => withArg index (s.argument precedence)
  | .inlined index =>
      withArg index fun a ↦
        match a.value? with
        | some v => .text v.text
        | none => s.argument precedence a
  | .cased index letterCase =>
      withArg index fun a ↦
        match a.string?, letterCase with
        | some text, .lower => .bound (.string (Text.lower text))
        | some text, .upper => .bound (.string (Text.upper text))
        | none, .lower => s.argument precedence (operation .lower [a])
        | none, .upper => s.argument precedence (operation .upper [a])
  | .like index leading trailing lower =>
      withArg index fun a ↦
        match a.string? with
        | some text => .bound (.string (s.likePattern text leading trailing lower))
        | none => s.argument precedence (s.likeOperand operation a leading trailing lower)
  | .all => .commas (args.map (s.argument precedence))
where
  withArg (index : Nat) (f : Operand → Rendering) : Rendering :=
    match args[index]? with
    | some a => f a
    | none => .fail (.invalidTemplate pattern .outOfRange)

/-- The template of an operator applied to arguments. -/
def entry (s : Setup) (operation : Op → List Operand → Operand) (operator : Operator)
    (args : List Operand) : Rendering :=
  match s.profile.registry.get? operator with
  | none => .fail (.missingTemplate operator s.profile.name)
  | some e =>
      match e.arity with
      | some arity =>
          if arity.accepts args.length then apply e
          else .fail (.arity operator arity args.length)
      | none => apply e
where
  apply (e : TemplateEntry) : Rendering :=
    .concat (e.template.elements.map
      (s.element operation e.template.pattern e.precedence args))

/-- The scope of the arguments of a built-in operator. -/
def inside (s : Setup) (op : Op) (r : Rendering) : Rendering :=
  r.within fun scope ↦ { scope with wrapElements := s.profile.wrapsElements op }

/-- A text operation that a slot makes of its argument. Templates that need more than `depth`
operations inside each other are refused. -/
def textOperation (s : Setup) : Nat → Op → List Operand → Operand
  | 0, op, args => ofRender op args (.fail .endlessExpansion)
  | depth + 1, op, args =>
      ofRender op args (s.inside op (s.entry (s.textOperation depth) (.op op) args))
where
  ofRender (op : Op) (args : List Operand) (r : Rendering) : Operand :=
    .operation (.operation .string (.op op) (args.map Operand.expr)) (.op op) args r

/-- Slots make lower case, upper case, and a text joined on the left or on the right. A chain of
more than these four repeats one of them, and then never ends. -/
def expansionDepth : Nat := 4

/-- A template applied to arguments. -/
def apply (s : Setup) (t : Template) (precedence : Int) (args : List Operand) : Rendering :=
  .concat (t.elements.map
    (s.element (s.textOperation expansionDepth) t.pattern precedence args))

/-- An operator rendered with its own template. -/
def plain (s : Setup) (operator : Operator) (args : List Operand) : Rendering :=
  s.entry (s.textOperation expansionDepth) operator args

end Setup

end TypedQuery
