import TypedQuery.Registry

/-!
# Dialects

A dialect is a profile, which decides every word of a statement, and a style of placeholders, which
decides only how the bound values are referred to.
-/

namespace TypedQuery

/-- The family decides the grammar of clauses and how operations are rewritten. -/
inductive Family
  | jpql
  | sql
deriving DecidableEq, Repr

/-- Numbered placeholders share a label between equal bindings; anonymous ones stand for one
binding each. -/
inductive PlaceholderStyle
  | numbered (mark : Char)
  | anonymous
deriving DecidableEq, Repr

/-- How a constant list is bound: as one placeholder, as one in parentheses, or item by item. -/
inductive ListStyle
  | bare
  | wrapped
  | expanded
deriving DecidableEq, Repr

/-- What is written for a limit, for an offset, and for both. -/
structure LimitForms (τ : Type) where
  limit : τ
  offset : τ
  both : τ
deriving DecidableEq, Repr

/-- How limits are written, over patterns or over the templates read from them. -/
inductive Pagination (τ : Type)
  /-- Not at all: whoever runs the statement applies them. -/
  | external
  | limitOffset (forms : LimitForms τ)
  | fetchFirst (forms : LimitForms τ)
  /-- A word after `select` for a limit alone, numbered rows for an offset. -/
  | topRowNumber (top : τ) (filter : LimitForms τ)
deriving DecidableEq, Repr

structure Capabilities where
  /-- Type tests compare a name instead of a type. -/
  typeAsString : Bool := false
  /-- Join conditions follow `with` instead of `on`. -/
  withForOn : Bool := false
  /-- Entities are compared with entities, not by their identifiers. -/
  pathInEntities : Bool := true
  /-- Enumeration constants are compared with collections as they are. -/
  enumInPath : Bool := true
  nullsOrdering : Bool := true
  nativeMerge : Bool := false
deriving DecidableEq, Repr

structure JoinKeywords where
  listed : String
  inner : String
  left : String
  right : String
  full : String
deriving DecidableEq, Repr

namespace JoinKeywords

def indented : JoinKeywords :=
  ⟨", ", "\n  inner join ", "\n  left join ", "\n  right join ", "\n  full join "⟩

def flat : JoinKeywords :=
  ⟨", ", "\ninner join ", "\nleft join ", "\nright join ", "\nfull join "⟩

end JoinKeywords

/-- All of a dialect but its placeholders. -/
structure Profile where
  name : String
  family : Family
  registry : Registry
  quote : Option Char
  /-- The escape character of LIKE patterns. -/
  escape : Char
  listStyle : ListStyle
  pagination : Pagination Template
  capabilities : Capabilities
  /-- The projection of queries that are only tested for rows. -/
  existsProjection : Option String
  /-- The operators in which a collection path is written as its elements. -/
  wrapElements : List Op
  typeNames : List (ValueType × String)
  joinKeywords : JoinKeywords

structure Dialect extends Profile where
  placeholders : PlaceholderStyle

namespace Profile

def wrapsElements (p : Profile) (op : Op) : Bool := p.wrapElements.contains op

/-- The name of a type as the target of a cast. -/
def typeName (p : Profile) (t : ValueType) : String := (p.typeNames.lookup t).getD t.simpleName

/-- An identifier between quotes, with quotes inside doubled; the star is no identifier. -/
def quoteIdent (p : Profile) (part : String) : String :=
  match p.quote with
  | none => part
  | some q =>
      if part = "*" then part
      else .ofList (q :: part.toList.flatMap (fun c ↦ if c = q then [q, q] else [c]) ++ [q])

/-- A table name, whose parts are quoted one by one. -/
def quoteTable (p : Profile) (name : String) : String :=
  ".".intercalate ((name.splitOn ".").map p.quoteIdent)

end Profile

end TypedQuery
