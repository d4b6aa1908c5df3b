import TypedQuery.Calendar
import TypedQuery.Json
import TypedQuery.Value.ValueType

/-!
# Values

The data that constants hold and rows deliver. Floating-point values are equal when their bits are.
JSON values are equal up to the order of members; `identical` tells also that order apart.
-/

namespace TypedQuery

open Number (Binary32 Binary64)

inductive Value
  | null
  | bool (b : Bool)
  | i8 (n : Int8)
  | i16 (n : Int16)
  | i32 (n : Int32)
  | i64 (n : Int64)
  | f32 (x : Binary32)
  | f64 (x : Binary64)
  | string (s : String)
  | date (d : Date)
  | time (t : TimeOfDay)
  | timestamp (t : Timestamp)
  | uuid (u : Uuid)
  | json (j : Json)
  | enum (typeName name : String) (ordinal : UInt32)
  | entity (typeName : String) (fields : List (String × Value))
  | list (items : List Value)
  | tuple (items : List Value)
  | typeRef (t : ValueType)
deriving Repr, Inhabited

namespace Value

/-- The type of a value; a list has the type of its first item. -/
def valueType : Value → ValueType
  | null => .object
  | bool _ => .bool
  | i8 _ => .i8
  | i16 _ => .i16
  | i32 _ => .i32
  | i64 _ => .i64
  | f32 _ => .f32
  | f64 _ => .f64
  | string _ => .string
  | date _ => .date
  | time _ => .time
  | timestamp _ => .timestamp
  | uuid _ => .uuid
  | json _ => .json
  | enum typeName _ _ => .enum typeName
  | entity typeName _ => .entity typeName
  | list [] => .collection .object
  | list (item :: _) => .collection item.valueType
  | tuple _ => .object
  | typeRef _ => .typeRef

def isNull : Value → Bool
  | null => true
  | _ => false

def string? : Value → Option String
  | string s => some s
  | _ => none

def list? : Value → Option (List Value)
  | list items => some items
  | _ => none

/-- The field of an entity with a name, the first one where the name is repeated. -/
def field? (name : String) : Value → Option Value
  | entity _ fields => fields.lookup name
  | _ => none

mutual

/-- Equality of values for a given equality of JSON trees. -/
def eqvBy (json : Json → Json → Bool) : Value → Value → Bool
  | null, null => true
  | bool a, bool b => a == b
  | i8 a, i8 b => a == b
  | i16 a, i16 b => a == b
  | i32 a, i32 b => a == b
  | i64 a, i64 b => a == b
  | f32 a, f32 b => a == b
  | f64 a, f64 b => a == b
  | string a, string b => a == b
  | date a, date b => a == b
  | time a, time b => a == b
  | timestamp a, timestamp b => a == b
  | uuid a, uuid b => a == b
  | .json a, .json b => json a b
  | enum t n o, enum t' n' o' => t == t' && n == n' && o == o'
  | entity t fs, entity t' fs' => t == t' && fieldsEqvBy json fs fs'
  | list as, list bs => itemsEqvBy json as bs
  | tuple as, tuple bs => itemsEqvBy json as bs
  | typeRef a, typeRef b => a == b
  | _, _ => false

def itemsEqvBy (json : Json → Json → Bool) : List Value → List Value → Bool
  | [], [] => true
  | a :: as, b :: bs => eqvBy json a b && itemsEqvBy json as bs
  | _, _ => false

def fieldsEqvBy (json : Json → Json → Bool) :
    List (String × Value) → List (String × Value) → Bool
  | [], [] => true
  | (k, a) :: as, (l, b) :: bs => k == l && eqvBy json a b && fieldsEqvBy json as bs
  | _, _ => false

end

mutual

theorem eqvBy_refl {json : Json → Json → Bool} (hjson : ∀ j, json j j = true) :
    (v : Value) → eqvBy json v v = true
  | null | bool _ | i8 _ | i16 _ | i32 _ | i64 _ | f32 _ | f64 _ | string _ | date _ | time _
  | timestamp _ | uuid _ | enum _ _ _ | typeRef _ => by simp [eqvBy]
  | .json j => by simpa only [eqvBy] using hjson j
  | entity _ fields => by simp [eqvBy, fieldsEqvBy_refl hjson fields]
  | list items | tuple items => by simpa only [eqvBy] using itemsEqvBy_refl hjson items

theorem itemsEqvBy_refl {json : Json → Json → Bool} (hjson : ∀ j, json j j = true) :
    (vs : List Value) → itemsEqvBy json vs vs = true
  | [] => rfl
  | v :: vs => by simp [itemsEqvBy, eqvBy_refl hjson v, itemsEqvBy_refl hjson vs]

theorem fieldsEqvBy_refl {json : Json → Json → Bool} (hjson : ∀ j, json j j = true) :
    (fields : List (String × Value)) → fieldsEqvBy json fields fields = true
  | [] => rfl
  | (key, v) :: fields => by
      simp [fieldsEqvBy, eqvBy_refl hjson v, fieldsEqvBy_refl hjson fields]

end

/-- A finer equality of JSON trees gives a finer equality of values. -/
theorem eqvBy_mono {fine coarse : Json → Json → Bool}
    (hjson : ∀ a b, fine a b = true → coarse a b = true) :
    ∀ v w : Value, eqvBy fine v w = true → eqvBy coarse v w = true := by
  apply eqvBy.induct (fun v w ↦ eqvBy fine v w = true → eqvBy coarse v w = true)
    (fun vs ws ↦ itemsEqvBy fine vs ws = true → itemsEqvBy coarse vs ws = true)
    (fun fs gs ↦ fieldsEqvBy fine fs gs = true → fieldsEqvBy coarse fs gs = true)
  all_goals simp_all [eqvBy, itemsEqvBy, fieldsEqvBy]

instance : BEq Value := ⟨eqvBy Json.equivalent⟩

@[simp] theorem beq_self (v : Value) : (v == v) = true := eqvBy_refl Json.equivalent_refl v

/-- Equality that tells JSON values with reordered members apart. -/
def identical (a b : Value) : Bool := eqvBy Json.identical a b

theorem beq_of_identical {a b : Value} (h : a.identical b = true) : (a == b) = true :=
  eqvBy_mono (fun _ _ ↦ Json.equivalent_of_identical) a b h

end Value

end TypedQuery
