import TypedQuery.Expr.Numeric
import TypedQuery.Rendering.Operand

/-!
# Operations and paths

An operation is rendered with the template of its operator, after the rewritings of the dialect's
family: memberships in collections, comparisons with some element, tests of entities by identifier,
regular expressions as LIKE patterns, casts to type names, and constants at the width of the other
operands.
-/

namespace TypedQuery

namespace Setup

/-! ## Paths -/

/-- The name that a property is written under: its column in SQL, its own name otherwise. -/
def columnName (s : Setup) (owner : ValueType) (name : String) : String :=
  match s.profile.family with
  | .sql => (s.metamodel.column? owner name).getD name
  | .jpql => name

/-- A path from the operands of its parent and its last step. Inside an operator that works on the
elements of collections, a collection property is written as its elements. -/
def step (s : Setup) (p : Path) (args : List Operand) : Operand :=
  .leaf (.path p) (match s.profile.registry.get? (.path p.kind) with
    | none => .fail (.missingTemplate (.path p.kind) s.profile.name)
    | some e => fun scope ↦
        let body := (s.apply e.template e.precedence args).within
          ({ · with wrapElements := false })
        if scope.wrapElements && p.kind == .property && p.type.isCollectionLike then
          body.between "elements(" ")" scope
        else body scope)

def rootStep (s : Setup) (type : ValueType) (name : String) : Operand :=
  s.step (.root type name) [s.string (s.profile.quoteIdent name)]

/-- The property of a path whose operand is given. -/
def propertyStep (s : Setup) (type : ValueType) (owner : Path) (parent : Operand)
    (name : String) : Operand :=
  s.step (.property type owner name)
    [parent, s.string (s.profile.quoteIdent (s.columnName owner.type name))]

/-! ## Rewritings -/

/-- Operands of a numeric operation with their constants at the type of the others. -/
def normalizeNumbers (s : Setup) (args : List Operand) : List Operand :=
  match Expr.numericTarget (args.map Operand.expr) with
  | none => args
  | some target => args.map fun a ↦
      match a.expr with
      | .constant c => s.constant (c.normalized target)
      | _ => a

/-- An operator that nothing is rewritten for. -/
def unchanged (s : Setup) (op : Op) (args : List Operand) : Rendering :=
  s.plain (.op op) (if op.isNumeric then s.normalizeNumbers args else args)

/-- How the enumeration constants of a collection property are stored. -/
def encodingOf (s : Setup) : Path → EnumEncoding
  | .property _ owner name =>
      ((s.metamodel.property? owner.type name).bind PropertyInfo.encoding).getD .ordinal
  | _ => .ordinal

/-- An enumeration constant as it is stored in a collection, anything else as it is. -/
def encoded (s : Setup) (collection : Path) (a : Operand) : Operand :=
  if s.profile.capabilities.enumInPath then a
  else
    match a.value? with
    | some (.enum _ name ordinal) =>
        match s.encodingOf collection with
        | .ordinal => s.value (.i32 (.ofNat (min ordinal.toNat (UInt32.size / 2 - 1))))
        | .name => s.string name
    | _ => a

/-- Values without those that are identical to an earlier one. A hash set keeps them. For values
that equal each other without being identical, and whose hashes therefore differ, that it keeps both
is only its likely outcome: by chance it may compare them all the same and keep the earlier one. -/
def distinctValues (vs : List Value) : List Value :=
  vs.foldl (fun acc v ↦ if acc.any (·.identical v) then acc else acc ++ [v]) []

/-- The identifiers of entities, each once. -/
def identifiers (identify : Value → Option Value) (entities : List Value) :
    Except Error (List Value) :=
  distinctValues <$> entities.mapM fun entity ↦
    match identify entity with
    | some v => .ok v
    | none => .error (.invalidArgument (.noIdentifier entity))

/-- An entity path tested against constant entities: by identifier when the dialect does not compare
entities and the identifiers are known. -/
def entityIn (s : Setup) (op : Op) (p : Path) (c : Constant) (x y : Operand) : Rendering :=
  match s.identify, (s.metamodel.entity? p.type).bind EntityInfo.id with
  | some identify, some (name, type) =>
      if s.profile.capabilities.pathInEntities || !p.type.isEntity then s.plain (.op op) [x, y]
      else
        match identifiers identify (c.value.list?.getD [c.value]) with
        | .ok ids => s.plain (.op op) [s.propertyStep type p x name, s.value (.list ids)]
        | .error e => .fail e
  | _, _ => s.plain (.op op) [x, y]

/-- A membership test, in a collection path by the operator `member`. -/
def membership (s : Setup) (op member : Op) (x y : Operand) : Rendering :=
  match x.expr, y.expr with
  | _, .path collection => s.plain (.op member) [s.encoded collection x, y]
  | .path p, .constant c => s.entityIn op p c x y
  | _, _ => s.plain (.op op) [x, y]

/-- A comparison with some element as a membership test. -/
def quantified (s : Setup) (op member : Op) (x : Operand) (values : List Operand) : Rendering :=
  match values with
  | [] => .fail (.invalidArgument .anyWithoutOperand)
  | y :: _ => s.inside op (s.membership op member x y)

/-- A type test, against the name of the type where the dialect compares names. -/
def instanceTest (s : Setup) (x y : Operand) : Rendering :=
  match s.profile.capabilities.typeAsString, y.value? with
  | true, some (.typeRef t) =>
      let name := ((s.metamodel.entity? t).bind EntityInfo.discriminator).getD t.simpleName
      s.plain (.op .instanceOf) [x, s.string name]
  | _, _ => s.plain (.op .instanceOf) [x, y]

/-- A numeric cast to the name that the dialect has for the type. -/
def numericCast (s : Setup) (x target : Operand) : Rendering :=
  match target.value? with
  | some (.typeRef t) =>
      let name := match s.profile.family with
        | .jpql => t.simpleName
        | .sql => s.profile.typeName t
      s.plain (.op .cast) [x, s.string name]
  | _ => .fail (.invalidArgument .castTarget)

/-- A LIKE test. A constant pattern keeps its wildcards, and its escape characters are literal. -/
def likeTest (s : Setup) (x pattern : Operand) : Rendering :=
  match pattern.string? with
  | some text =>
      let kept := String.ofList (Text.Like.wildcardsKept s.profile.escape text.toList)
      s.plain (.op .like) [x, s.string kept]
  | none => s.plain (.op .like) [x, pattern]

def lowered (s : Setup) (a : Operand) : Operand :=
  match a.string? with
  | some text => s.string (Text.lower text)
  | none => s.textOperation (expansionDepth + 1) .lower [a]

/-- A regular expression as a LIKE pattern. What is no constant text is taken to be one. -/
def regexAsLike (s : Setup) (pattern : Operand) : Except Error Operand :=
  match pattern.string? with
  | none => .ok pattern
  | some regex =>
      match Text.Like.ofRegex? s.profile.escape regex.toList with
      | some like => .ok (s.string (.ofList like))
      | none => .error (.invalidArgument (.noLikeForm regex))

/-- A test against a regular expression, by LIKE in dialects without such a test. -/
def regexTest (s : Setup) (op : Op) (x pattern : Operand) : Rendering :=
  if s.profile.registry.contains (.op op) then s.plain (.op op) [x, pattern]
  else
    match s.regexAsLike pattern with
    | .error e => .fail e
    | .ok like =>
        if op = .matchesRegexIc then
          s.plain (.op .like) [s.textOperation (expansionDepth + 1) .lower [x], s.lowered like]
        else s.plain (.op .like) [x, like]

/-- The operations of the object query languages. -/
def jpqlOperation (s : Setup) (op : Op) (args : List Operand) : Rendering :=
  match op, args with
  | .eq, [x, .operation _ (.op .any) values _] => s.quantified .isIn .memberOf x values
  | .ne, [x, .operation _ (.op .any) values _] => s.quantified .notIn .notMemberOf x values
  | .isIn, [x, y] => s.membership .isIn .memberOf x y
  | .notIn, [x, y] => s.membership .notIn .notMemberOf x y
  | .instanceOf, [x, y] => s.instanceTest x y
  | .numCast, [x, target] => s.numericCast x target
  | .existsRow, [.subQuery _ select] =>
      (select s.profile.existsProjection).between "exists (" ")"
  | .matchesRegex, [x, pattern] => s.regexTest .matchesRegex x pattern
  | .matchesRegexIc, [x, pattern] => s.regexTest .matchesRegexIc x pattern
  | .like, [x, pattern] => s.likeTest x pattern
  | _, _ => s.unchanged op args

/-- Whether an operand is a constant list without items. -/
def isEmptyList (a : Operand) : Bool :=
  match a.value? with
  | some (.list []) => true
  | _ => false

/-- A membership test, decided beforehand when the list is empty. -/
def listTest (s : Setup) (op : Op) (decided : String) (x y : Operand) : Rendering :=
  if isEmptyList y then .text decided else s.plain (.op op) [x, y]

/-- The operations of SQL. Nothing is in an empty list. -/
def sqlOperation (s : Setup) (op : Op) (args : List Operand) : Rendering :=
  match op, args with
  | .isIn, [x, y] => s.listTest .isIn "1 = 2" x y
  | .notIn, [x, y] => s.listTest .notIn "1 = 1" x y
  | .numCast, [x, target] => s.numericCast x target
  | .like, [x, pattern] => s.likeTest x pattern
  | _, _ => s.unchanged op args

def operationRendering (s : Setup) (operator : Operator) (args : List Operand) : Rendering :=
  match operator with
  | .op op =>
      s.inside op (match s.profile.family with
        | .jpql => s.jpqlOperation op args
        | .sql => s.sqlOperation op args)
  | _ => s.plain operator args

def operation (s : Setup) (type : ValueType) (operator : Operator) (args : List Operand) :
    Operand :=
  .operation (.operation type operator (args.map Operand.expr)) operator args
    (s.operationRendering operator args)

/-! ## Templates and rows -/

def template (s : Setup) (type : ValueType) (t : Template) (args : List Operand) : Operand :=
  .leaf (.template type t (args.map Operand.expr)) (s.apply t (-1) args)

/-- The items of a row, in parentheses unless they are a projection. -/
def factory (type : ValueType) (maker : Factory) (args : List Operand) : Operand :=
  let items := Rendering.commas (args.map Operand.render)
  .leaf (.factory type maker (args.map Operand.expr)) fun scope ↦
    if scope.inProjection then items scope else items.parenthesized scope

def param (p : Param) : Operand := .leaf (.param p) (.placeholder p.type (.param p))

end Setup

end TypedQuery
