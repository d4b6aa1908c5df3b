import TypedQuery.Value.Basic

/-!
# Values as text and as JSON

`text` is the raw text that an inlined constant shows, `toJson` the form that document filters
embed.
-/

namespace TypedQuery

namespace Value

mutual

/-- Numbers in plain digits, enumeration constants by name, entities by type, and the items of lists
and tuples with commas between them. -/
def text : Value → String
  | null => "null"
  | bool b => if b then "true" else "false"
  | i8 n => .ofList (Number.ofInt n.toInt)
  | i16 n => .ofList (Number.ofInt n.toInt)
  | i32 n => .ofList (Number.ofInt n.toInt)
  | i64 n => .ofList (Number.ofInt n.toInt)
  | f32 x => x.text
  | f64 x => x.text
  | string s => s
  | date d => d.text
  | time t => t.text
  | timestamp t => t.text
  | uuid u => u.text
  | json j => j.text
  | enum _ name _ => name
  | entity typeName _ => typeName
  | list items => itemsText items
  | tuple items => itemsText items
  | typeRef t => t.simpleName

def itemsText : List Value → String
  | [] => ""
  | [v] => text v
  | v :: vs => text v ++ ", " ++ itemsText vs

end

mutual

/-- Numbers stay numbers, entities become objects, lists and tuples arrays, and all else its text. A
field name that is repeated keeps its first place and takes its last value. -/
def toJson : Value → Json
  | null => .null
  | bool b => .bool b
  | i8 n => .ofInt n.toInt
  | i16 n => .ofInt n.toInt
  | i32 n => .ofInt n.toInt
  | i64 n => .ofInt n.toInt
  | f32 x => .ofBinary64 x.widen
  | f64 x => .ofBinary64 x
  | string s => .string s
  | date d => .string d.text
  | time t => .string t.text
  | timestamp t => .string t.text
  | uuid u => .string u.text
  | json j => j
  | enum _ name _ => .string name
  | entity _ fields => .object (Json.ofMembers (fieldsToJson fields))
  | list items => .array (itemsToJson items)
  | tuple items => .array (itemsToJson items)
  | typeRef t => .string t.simpleName

def itemsToJson : List Value → List Json
  | [] => []
  | v :: vs => toJson v :: itemsToJson vs

def fieldsToJson : List (String × Value) → List (String × Json)
  | [] => []
  | (key, v) :: fields => (key, toJson v) :: fieldsToJson fields

end

end Value

end TypedQuery
