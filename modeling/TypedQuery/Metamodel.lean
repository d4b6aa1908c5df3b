import TypedQuery.Value.Basic

/-!
# The mapped domain model

A metamodel says how entity types and their properties are called outside of expressions: entity and
table names, columns, identifiers, discriminators, and how enumerations are stored. Collections and
maps are looked up by the type of their elements.
-/

namespace TypedQuery

inductive EnumEncoding
  | ordinal
  | name
deriving DecidableEq, Repr

structure EntityInfo where
  name : Option String := none
  table : Option String := none
  /-- The identifying property and its type. -/
  id : Option (String × ValueType) := none
  /-- What the discriminator column holds for the type. -/
  discriminator : Option String := none
deriving DecidableEq, Repr

structure PropertyInfo where
  column : Option String := none
  encoding : Option EnumEncoding := none
deriving DecidableEq, Repr

structure Metamodel where
  entity? : ValueType → Option EntityInfo := fun _ ↦ none
  /-- What is known about a property of an owning type, by its name. -/
  property? : ValueType → String → Option PropertyInfo := fun _ _ ↦ none

/-- The type name under which a type is looked up. -/
def ValueType.mappedName : ValueType → Option String
  | .entity name | .enum name => some name
  | .collection item => item.mappedName
  | .map _ value => value.mappedName
  | _ => none

namespace Metamodel

/-- Changes what is known about the types of a name. -/
def updateEntity (m : Metamodel) (type : String) (change : EntityInfo → EntityInfo) : Metamodel :=
  { m with
    entity? t :=
      if t.mappedName = some type then some (change ((m.entity? t).getD {})) else m.entity? t }

/-- Changes what is known about a property of the types of a name. -/
def updateProperty (m : Metamodel) (type property : String)
    (change : PropertyInfo → PropertyInfo) : Metamodel :=
  { m with
    property? owner name :=
      if owner.mappedName = some type ∧ name = property then
        some (change ((m.property? owner name).getD {}))
      else m.property? owner name }

def entityName (m : Metamodel) (type name : String) : Metamodel :=
  m.updateEntity type ({ · with name := some name })

def table (m : Metamodel) (type table : String) : Metamodel :=
  m.updateEntity type ({ · with table := some table })

def id (m : Metamodel) (type property : String) (idType : ValueType) : Metamodel :=
  m.updateEntity type ({ · with id := some (property, idType) })

def discriminator (m : Metamodel) (type value : String) : Metamodel :=
  m.updateEntity type ({ · with discriminator := some value })

def column (m : Metamodel) (type property column : String) : Metamodel :=
  m.updateProperty type property ({ · with column := some column })

def encoding (m : Metamodel) (type property : String) (encoding : EnumEncoding) : Metamodel :=
  m.updateProperty type property ({ · with encoding := some encoding })

/-- The column of a property, if one is mapped. -/
def column? (m : Metamodel) (owner : ValueType) (name : String) : Option String :=
  (m.property? owner name).bind PropertyInfo.column

/-- The identifier of an entity value: the field that its type is identified by. -/
def identifier? (m : Metamodel) (v : Value) : Option Value :=
  match v with
  | .entity type _ => do
      let info ← m.entity? (.entity type)
      let (property, _) ← info.id
      v.field? property
  | _ => none

end Metamodel

end TypedQuery
