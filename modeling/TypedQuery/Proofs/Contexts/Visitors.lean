import TypedQuery.Proofs.Contexts.Writers
import TypedQuery.Rendering.Operation

/-!
# Operations in one pass

A visitor writes operands one behind the other into one context. It rewrites an operation as its
rendering is rewritten, and then runs the writers of the operands that are left. Over operands whose
writers put their renderings into the context as a whole, the writer of an operation does so, too.
-/

namespace TypedQuery

/-! ## Drafts -/

/-- What is written of an operand in one pass: its expression and the writer for it. -/
inductive Draft
  | leaf (expr : Expr) (write : Writer)
  | operation (expr : Expr) (operator : Operator) (args : List Draft) (write : Writer)
  | subQuery (expr : Expr) (select : Option String → Writer)

namespace Draft

def expr : Draft → Expr
  | leaf e _ | operation e _ _ _ | subQuery e _ => e

def write : Draft → Writer
  | leaf _ w | operation _ _ _ w => w
  | subQuery _ select => (select none).parenthesized

def operator? : Draft → Option Operator
  | operation _ o _ _ => some o
  | _ => none

def value? (a : Draft) : Option Value := a.expr.value?

def path? (a : Draft) : Option Path := a.expr.path?

def string? (a : Draft) : Option String := a.value?.bind Value.string?

instance : BEq Draft := ⟨fun a b ↦ a.expr == b.expr⟩

end Draft

namespace Operand

variable (style : PlaceholderStyle)

mutual

/-- The draft that puts the rendering of an operand into a context as a whole. -/
def draft (style : PlaceholderStyle) : Operand → Draft
  | leaf e r => .leaf e (r.writer style)
  | operation e o args r => .operation e o (drafts style args) (r.writer style)
  | subQuery e select => .subQuery e fun projection ↦ (select projection).writer style

def drafts (style : PlaceholderStyle) : List Operand → List Draft
  | [] => []
  | a :: args => a.draft style :: drafts style args

end

@[simp] theorem drafts_eq_map (args : List Operand) :
    drafts style args = args.map (draft style) := by
  induction args with
  | nil => rfl
  | cons a args ih => simp [drafts, ih]

variable (a : Operand)

@[simp] theorem expr_draft : (a.draft style).expr = a.expr := by
  cases a <;> rfl

@[simp] theorem operator?_draft : (a.draft style).operator? = a.operator? := by
  cases a <;> rfl

@[simp] theorem value?_draft : (a.draft style).value? = a.value? :=
  congrArg Expr.value? (a.expr_draft style)

@[simp] theorem path?_draft : (a.draft style).path? = a.path? :=
  congrArg Expr.path? (a.expr_draft style)

@[simp] theorem string?_draft : (a.draft style).string? = a.string? :=
  congrArg (Option.bind · Value.string?) (a.value?_draft style)

/-- The writer of a draft puts the rendering of its operand into a context. -/
@[simp] theorem write_draft : (a.draft style).write = a.render.writer style := by
  cases a with
  | leaf | operation => rfl
  | subQuery e select => exact (Rendering.writer_parenthesized (select none)).symm

@[simp] theorem map_expr_draft (args : List Operand) :
    (args.map (draft style)).map Draft.expr = args.map expr := by
  simp [Function.comp_def]

end Operand

/-- What one pass depends on: a setup, and how placeholders are written. -/
structure Visitor extends Setup where
  placeholders : PlaceholderStyle

namespace Visitor

/-! ## Constants -/

def placeholder (v : Visitor) (type : ValueType) (b : Binding) : Writer :=
  fun c ↦ .ok (c.bind v.placeholders type b)

def bound (v : Visitor) (value : Value) : Writer := v.placeholder value.valueType (.value value)

def constant (v : Visitor) (c : Constant) : Draft :=
  let whole := v.placeholder c.type (.value c.value)
  .leaf (.constant c) (match c.value, v.profile.listStyle with
    | .list _, .wrapped => whole.parenthesized
    | .list items, .expanded => (Writer.commas (items.map v.bound)).parenthesized
    | _, _ => whole)

def value (v : Visitor) (value : Value) : Draft := v.constant (.ofValue value)

def string (v : Visitor) (text : String) : Draft := v.value (.string text)

def count (v : Visitor) (n : UInt64) : Draft :=
  v.value (.i64 (.ofNat (min n.toNat (UInt64.size / 2 - 1))))

/-! ## Templates -/

def bindsLooser (v : Visitor) (precedence : Int) (a : Draft) : Bool :=
  match a.operator? with
  | some operator => decide (precedence < v.profile.registry.precedence operator)
  | none => false

def argument (v : Visitor) (precedence : Int) (a : Draft) : Writer :=
  if decide (0 ≤ precedence) && v.bindsLooser precedence a then a.write.parenthesized else a.write

def likeOperand (v : Visitor) (operation : Op → List Draft → Draft) (a : Draft)
    (leading trailing lower : Bool) : Draft :=
  let a := if lower then operation .lower [a] else a
  let a := if leading then operation .concat [v.string "%", a] else a
  if trailing then operation .concat [a, v.string "%"] else a

def element (v : Visitor) (operation : Op → List Draft → Draft) (pattern : String)
    (precedence : Int) (args : List Draft) : Element → Writer
  | .text text => .text text
  | .arg index => withArg index (v.argument precedence)
  | .inlined index =>
      withArg index fun a ↦
        match a.value? with
        | some value => .text value.text
        | none => v.argument precedence a
  | .cased index letterCase =>
      withArg index fun a ↦
        match a.string?, letterCase with
        | some text, .lower => v.bound (.string (Text.lower text))
        | some text, .upper => v.bound (.string (Text.upper text))
        | none, .lower => v.argument precedence (operation .lower [a])
        | none, .upper => v.argument precedence (operation .upper [a])
  | .like index leading trailing lower =>
      withArg index fun a ↦
        match a.string? with
        | some text => v.bound (.string (v.likePattern text leading trailing lower))
        | none => v.argument precedence (v.likeOperand operation a leading trailing lower)
  | .all => .commas (args.map (v.argument precedence))
where
  withArg (index : Nat) (f : Draft → Writer) : Writer :=
    match args[index]? with
    | some a => f a
    | none => .fail (.invalidTemplate pattern .outOfRange)

def entry (v : Visitor) (operation : Op → List Draft → Draft) (operator : Operator)
    (args : List Draft) : Writer :=
  match v.profile.registry.get? operator with
  | none => .fail (.missingTemplate operator v.profile.name)
  | some e =>
      match e.arity with
      | some arity =>
          if arity.accepts args.length then apply e else .fail (.arity operator arity args.length)
      | none => apply e
where
  apply (e : TemplateEntry) : Writer :=
    .concat (e.template.elements.map (v.element operation e.template.pattern e.precedence args))

def inside (v : Visitor) (op : Op) (w : Writer) : Writer := w.inside (v.profile.wrapsElements op)

def textOperation (v : Visitor) : Nat → Op → List Draft → Draft
  | 0, op, args => ofWriter op args (.fail .endlessExpansion)
  | depth + 1, op, args =>
      ofWriter op args (v.inside op (v.entry (v.textOperation depth) (.op op) args))
where
  ofWriter (op : Op) (args : List Draft) (w : Writer) : Draft :=
    .operation (.operation .string (.op op) (args.map Draft.expr)) (.op op) args w

def apply (v : Visitor) (t : Template) (precedence : Int) (args : List Draft) : Writer :=
  .concat (t.elements.map
    (v.element (v.textOperation Setup.expansionDepth) t.pattern precedence args))

def plain (v : Visitor) (operator : Operator) (args : List Draft) : Writer :=
  v.entry (v.textOperation Setup.expansionDepth) operator args

/-! ## Paths -/

def step (v : Visitor) (p : Path) (args : List Draft) : Draft :=
  .leaf (.path p) (match v.profile.registry.get? (.path p.kind) with
    | none => .fail (.missingTemplate (.path p.kind) v.profile.name)
    | some e =>
        (v.apply e.template e.precedence args).step
          (p.kind == .property && p.type.isCollectionLike))

def rootStep (v : Visitor) (type : ValueType) (name : String) : Draft :=
  v.step (.root type name) [v.string (v.profile.quoteIdent name)]

def propertyStep (v : Visitor) (type : ValueType) (owner : Path) (parent : Draft) (name : String) :
    Draft :=
  v.step (.property type owner name)
    [parent, v.string (v.profile.quoteIdent (v.columnName owner.type name))]

/-! ## Rewritings -/

def normalizeNumbers (v : Visitor) (args : List Draft) : List Draft :=
  match Expr.numericTarget (args.map Draft.expr) with
  | none => args
  | some target => args.map fun a ↦
      match a.expr with
      | .constant c => v.constant (c.normalized target)
      | _ => a

def unchanged (v : Visitor) (op : Op) (args : List Draft) : Writer :=
  v.plain (.op op) (if op.isNumeric then v.normalizeNumbers args else args)

def encoded (v : Visitor) (collection : Path) (a : Draft) : Draft :=
  if v.profile.capabilities.enumInPath then a
  else
    match a.value? with
    | some (.enum _ name ordinal) =>
        match v.encodingOf collection with
        | .ordinal => v.value (.i32 (.ofNat (min ordinal.toNat (UInt32.size / 2 - 1))))
        | .name => v.string name
    | _ => a

def entityIn (v : Visitor) (op : Op) (p : Path) (c : Constant) (x y : Draft) : Writer :=
  match v.identify, (v.metamodel.entity? p.type).bind EntityInfo.id with
  | some identify, some (name, type) =>
      if v.profile.capabilities.pathInEntities || !p.type.isEntity then v.plain (.op op) [x, y]
      else
        match Setup.identifiers identify (c.value.list?.getD [c.value]) with
        | .ok ids => v.plain (.op op) [v.propertyStep type p x name, v.value (.list ids)]
        | .error e => .fail e
  | _, _ => v.plain (.op op) [x, y]

def membership (v : Visitor) (op member : Op) (x y : Draft) : Writer :=
  match x.expr, y.expr with
  | _, .path collection => v.plain (.op member) [v.encoded collection x, y]
  | .path p, .constant c => v.entityIn op p c x y
  | _, _ => v.plain (.op op) [x, y]

def quantified (v : Visitor) (op member : Op) (x : Draft) (values : List Draft) : Writer :=
  match values with
  | [] => .fail (.invalidArgument .anyWithoutOperand)
  | y :: _ => v.inside op (v.membership op member x y)

def instanceTest (v : Visitor) (x y : Draft) : Writer :=
  match v.profile.capabilities.typeAsString, y.value? with
  | true, some (.typeRef t) =>
      let name := ((v.metamodel.entity? t).bind EntityInfo.discriminator).getD t.simpleName
      v.plain (.op .instanceOf) [x, v.string name]
  | _, _ => v.plain (.op .instanceOf) [x, y]

def numericCast (v : Visitor) (x target : Draft) : Writer :=
  match target.value? with
  | some (.typeRef t) =>
      let name := match v.profile.family with
        | .jpql => t.simpleName
        | .sql => v.profile.typeName t
      v.plain (.op .cast) [x, v.string name]
  | _ => .fail (.invalidArgument .castTarget)

def likeTest (v : Visitor) (x pattern : Draft) : Writer :=
  match pattern.string? with
  | some text =>
      let kept := String.ofList (Text.Like.wildcardsKept v.profile.escape text.toList)
      v.plain (.op .like) [x, v.string kept]
  | none => v.plain (.op .like) [x, pattern]

def lowered (v : Visitor) (a : Draft) : Draft :=
  match a.string? with
  | some text => v.string (Text.lower text)
  | none => v.textOperation (Setup.expansionDepth + 1) .lower [a]

def regexAsLike (v : Visitor) (pattern : Draft) : Except Error Draft :=
  match pattern.string? with
  | none => .ok pattern
  | some regex =>
      match Text.Like.ofRegex? v.profile.escape regex.toList with
      | some like => .ok (v.string (.ofList like))
      | none => .error (.invalidArgument (.noLikeForm regex))

def regexTest (v : Visitor) (op : Op) (x pattern : Draft) : Writer :=
  if v.profile.registry.contains (.op op) then v.plain (.op op) [x, pattern]
  else
    match v.regexAsLike pattern with
    | .error e => .fail e
    | .ok like =>
        if op = .matchesRegexIc then
          v.plain (.op .like)
            [v.textOperation (Setup.expansionDepth + 1) .lower [x], v.lowered like]
        else v.plain (.op .like) [x, like]

def jpqlOperation (v : Visitor) (op : Op) (args : List Draft) : Writer :=
  match op, args with
  | .eq, [x, .operation _ (.op .any) values _] => v.quantified .isIn .memberOf x values
  | .ne, [x, .operation _ (.op .any) values _] => v.quantified .notIn .notMemberOf x values
  | .isIn, [x, y] => v.membership .isIn .memberOf x y
  | .notIn, [x, y] => v.membership .notIn .notMemberOf x y
  | .instanceOf, [x, y] => v.instanceTest x y
  | .numCast, [x, target] => v.numericCast x target
  | .existsRow, [.subQuery _ select] =>
      (select v.profile.existsProjection).between "exists (" ")"
  | .matchesRegex, [x, pattern] => v.regexTest .matchesRegex x pattern
  | .matchesRegexIc, [x, pattern] => v.regexTest .matchesRegexIc x pattern
  | .like, [x, pattern] => v.likeTest x pattern
  | _, _ => v.unchanged op args

def listTest (v : Visitor) (op : Op) (decided : String) (x y : Draft) : Writer :=
  match y.value? with
  | some (.list []) => .text decided
  | _ => v.plain (.op op) [x, y]

def sqlOperation (v : Visitor) (op : Op) (args : List Draft) : Writer :=
  match op, args with
  | .isIn, [x, y] => v.listTest .isIn "1 = 2" x y
  | .notIn, [x, y] => v.listTest .notIn "1 = 1" x y
  | .numCast, [x, target] => v.numericCast x target
  | .like, [x, pattern] => v.likeTest x pattern
  | _, _ => v.unchanged op args

/-- A built-in operation sets the flag for its arguments, and sets it back behind itself. -/
def operationWriter (v : Visitor) (operator : Operator) (args : List Draft) : Writer :=
  match operator with
  | .op op =>
      v.inside op (match v.profile.family with
        | .jpql => v.jpqlOperation op args
        | .sql => v.sqlOperation op args)
  | _ => v.plain operator args

def operation (v : Visitor) (type : ValueType) (operator : Operator) (args : List Draft) : Draft :=
  .operation (.operation type operator (args.map Draft.expr)) operator args
    (v.operationWriter operator args)

def template (v : Visitor) (type : ValueType) (t : Template) (args : List Draft) : Draft :=
  .leaf (.template type t (args.map Draft.expr)) (v.apply t (-1) args)

def factory (type : ValueType) (maker : Factory) (args : List Draft) : Draft :=
  .leaf (.factory type maker (args.map Draft.expr)) (Writer.commas (args.map Draft.write)).row

def param (v : Visitor) (p : Param) : Draft :=
  .leaf (.param p) (v.placeholder p.type (.param p))

end Visitor

end TypedQuery
