import TypedQuery.Document.Key
import TypedQuery.Text.Like
import TypedQuery.Value.Text

/-!
# Filter documents

A predicate becomes a document whose members are conditions that all must hold. Conditions on
different keys of a conjunction share one document, conditions on one element of a collection one
`$elemMatch`; whatever cannot be merged is listed under `$and`.
-/

namespace TypedQuery

abbrev Document := List (String × Json)

namespace Document

/-- The document with one member. -/
def single (key : String) (value : Json) : Document := [(key, value)]

def operator (name : String) (value : Json) : Json := .object [(name, value)]

/-- The conditions on one element that a condition consists of, if it is one. -/
def elementMatch? : Json → Option Document
  | .object members =>
      match members.lookup "$elemMatch" with
      | some (.object conditions) => some conditions
      | _ => none
  | _ => none

def insertAll (target extra : Document) : Document :=
  extra.foldl (fun acc m ↦ Json.insertMember m.1 m.2 acc) target

/-- A condition on one element with those of another one added to it. -/
def addElementMatch (existing value : Json) : Json :=
  match existing, elementMatch? existing, elementMatch? value with
  | .object members, some target, some extra =>
      .object (Json.insertMember "$elemMatch" (.object (insertAll target extra)) members)
  | _, _, _ => existing

/-- Whether a member can join a document: under a new key that is no operator, or when it and the
old member are both conditions on one element. -/
def canJoin (left : Document) (m : String × Json) : Bool :=
  match left.lookup m.1 with
  | none => !m.1.startsWith "$"
  | some existing => (elementMatch? existing).isSome && (elementMatch? m.2).isSome

def join (left : Document) (m : String × Json) : Document :=
  match left.lookup m.1 with
  | none => Json.insertMember m.1 m.2 left
  | some existing => Json.insertMember m.1 (addElementMatch existing m.2) left

/-- The branches that a document stands for under a listing operator: its own ones if it consists of
such a list alone, else the document itself. -/
def branches (name : String) (doc : Document) : List Json :=
  match doc with
  | [(key, value)] =>
      if key = name then
        match value with
        | .array nested => nested
        | _ => []
      else [.object doc]
  | _ => [.object doc]

/-- A list of the branches of two documents. -/
def listed (name : String) (left right : Document) : Document :=
  single name (.array (branches name left ++ branches name right))

/-- The conjunction of two documents, in one document where their keys allow it. -/
def and (left right : Document) : Document :=
  if right.all (canJoin left) then right.foldl join left else listed "$and" left right

def or (left right : Document) : Document := listed "$or" left right

/-- A condition that a text matches a regular expression. -/
def regex (pattern : List Char) (ignoreCase : Bool) : Json :=
  let members := [("$regex", Json.string (.ofList pattern))]
  .object (if ignoreCase then members ++ [("$options", .string "i")] else members)

def existence (present : Bool) : Json := operator "$exists" (.bool present)

end Document

namespace DocumentStore

open Document

def pathKey (d : DocumentStore) : Expr → Except Error String
  | .path p => d.key p
  | e => .error (d.refusal e)

def constantJson (d : DocumentStore) : Expr → Except Error Json
  | .constant c => .ok c.value.toJson
  | e => .error (d.refusal e)

def constantChars (d : DocumentStore) : Expr → Except Error (List Char)
  | .constant ⟨_, .string text⟩ => .ok text.toList
  | e => .error (d.refusal e)

/-- A comparison operator between a path and a constant. -/
def compare (d : DocumentStore) (name : String) (path value : Expr) : Except Error Document := do
  let key ← d.pathKey path
  let value ← d.constantJson value
  pure (single key (operator name value))

def compareEqual (d : DocumentStore) (path value : Expr) : Except Error Document := do
  let key ← d.pathKey path
  let value ← d.constantJson value
  pure (single key value)

/-- A membership operator between a path and a constant; what is no list is a list of one. -/
def compareList (d : DocumentStore) (name : String) (path values : Expr) :
    Except Error Document := do
  let key ← d.pathKey path
  let items := match ← d.constantJson values with
    | .array items => items
    | value => [value]
  pure (single key (operator name (.array items)))

/-- A test that a collection holds a value, or all items of a constant list. -/
def holds (d : DocumentStore) (path value : Expr) : Except Error Document := do
  let value ← d.constantJson value
  let key ← d.pathKey path
  match value with
  | .array items => pure (single key (operator "$all" (.array items)))
  | value => pure (single key value)

/-- A test of a path against a regular expression made from a constant text. -/
def matchText (d : DocumentStore) (path value : Expr) (pattern : List Char → List Char)
    (ignoreCase : Bool) : Except Error Document := do
  let key ← d.pathKey path
  let text ← d.constantChars value
  pure (single key (regex (pattern text) ignoreCase))

def exists? (d : DocumentStore) (path : Expr) (present : Bool) : Except Error Document := do
  let key ← d.pathKey path
  pure (single key (existence present))

open Text.Like in
/-- The condition of an operation that is no connective. -/
def condition (d : DocumentStore) (type : ValueType) (op : Op) (args : List Expr) :
    Except Error Document :=
  match op, args with
  | .eq, [.operation _ (.op .colSize) (path :: _), count] => do
      let key ← d.pathKey path
      let count ← d.constantJson count
      pure (single key (operator "$size" count))
  | .eq, [.operation _ (.op .colSize) [], _] =>
      .error (d.refusal (.operation type (.op op) args))
  | .eq, [path, value] => d.compareEqual path value
  | .ne, [path, value] => d.compare "$ne" path value
  | .lt, [path, value] => d.compare "$lt" path value
  | .loe, [path, value] => d.compare "$lte" path value
  | .gt, [path, value] => d.compare "$gt" path value
  | .goe, [path, value] => d.compare "$gte" path value
  | .between, [path, low, high] => do
      let key ← d.pathKey path
      let low ← d.constantJson low
      let high ← d.constantJson high
      pure (single key (.object [("$gte", low), ("$lte", high)]))
  | .isIn, [path, values] => d.compareList "$in" path values
  | .notIn, [path, values] => d.compareList "$nin" path values
  | .isNull, [path] => d.exists? path false
  | .isNotNull, [path] => d.exists? path true
  | .eqIgnoreCase, [path, value] =>
      d.matchText path value (fun cs ↦ '^' :: regexQuote cs ++ ['$']) true
  | .startsWith, [path, value] => d.matchText path value (fun cs ↦ '^' :: regexQuote cs) false
  | .startsWithIc, [path, value] => d.matchText path value (fun cs ↦ '^' :: regexQuote cs) true
  | .endsWith, [path, value] => d.matchText path value (fun cs ↦ regexQuote cs ++ ['$']) false
  | .endsWithIc, [path, value] => d.matchText path value (fun cs ↦ regexQuote cs ++ ['$']) true
  | .stringContains, [path, value] => d.matchText path value containing false
  | .stringContainsIc, [path, value] => d.matchText path value containing true
  | .matchesRegex, [path, value] => d.matchText path value (·) false
  | .matchesRegexIc, [path, value] => d.matchText path value (·) true
  | .like, [path, value] => d.matchText path value (toRegex d.escape) false
  | .stringIsEmpty, [path] => do
      let key ← d.pathKey path
      pure (single key (.string ""))
  | .colIsEmpty, [path] => do
      let key ← d.pathKey path
      pure (single "$or" (.array
        [.object (single key (existence false)),
          .object (single key (operator "$size" (.ofInt 0)))]))
  | .containsKey, [path, .constant c] => do
      let key ← d.pathKey path
      pure (single (key ++ "." ++ c.value.text) (existence true))
  | .containsValue, [path, value] => d.holds path value
  | .memberOf, [value, path] => d.holds path value
  | _, _ => .error (d.refusal (.operation type (.op op) args))
where
  containing (cs : List Char) : List Char := '.' :: '*' :: regexQuote cs ++ ['.', '*']

/-- The condition of an operation. When its first argument goes on below some element of a
collection, it is a condition on one element. -/
def elementCondition (d : DocumentStore) (type : ValueType) (op : Op) (args : List Expr) :
    Except Error Document :=
  match args with
  | .path p :: others =>
      match p.belowElement? with
      | some (collection, inner) => do
          let key ← d.key collection
          let conditions ← d.condition type op (.path inner :: others)
          pure (single key (operator "$elemMatch" (.object conditions)))
      | none => d.condition type op args
  | _ => d.condition type op args

/-- The negation of a predicate whose filter is given. Tests for equality and for presence have a
negation of their own. -/
def negation (d : DocumentStore) (inner : Expr) (filter : Except Error Document) :
    Except Error Document :=
  match inner with
  | .operation _ (.op .eq) [.path p, value] => d.compare "$ne" (.path p) value
  | .operation _ (.op .ne) [.path p, value] => d.compareEqual (.path p) value
  | .operation _ (.op .isNull) [path] => d.exists? path true
  | .operation _ (.op .isNotNull) [path] => d.exists? path false
  | _ => filter.map fun doc ↦ single "$nor" (.array [.object doc])

/-- The filter of a predicate. -/
def filter (d : DocumentStore) : Expr → Except Error Document
  | .path p =>
      if p.type = .bool then (d.key p).map fun key ↦ single key (.bool true)
      else .error (d.refusal (.path p))
  | .operation _ (.op .and) [lhs, rhs] => do
      let left ← d.filter lhs
      let right ← d.filter rhs
      pure (Document.and left right)
  | .operation _ (.op .or) [lhs, rhs] => do
      let left ← d.filter lhs
      let right ← d.filter rhs
      pure (Document.or left right)
  | .operation _ (.op .not) [inner] => d.negation inner (d.filter inner)
  | .operation type (.op op) args =>
      match op with
      | .and | .or | .not => .error (d.refusal (.operation type (.op op) args))
      | op => d.elementCondition type op args
  | e => .error (d.refusal e)

end DocumentStore

end TypedQuery
