import Mathlib.Data.List.Basic
import TypedQuery.Document.Filter

/-!
# What filters mean

A filter is satisfied when all of its members are. The members under `$and`, `$or` and `$nor` list
further filters, a member under another key is a condition on what the data holds there. How data
answers such conditions is left open, but for the two tests that are the opposite of another one.
-/

namespace TypedQuery

open Document

def Json.isObject : Json → Bool
  | .object _ => true
  | _ => false

/-- How data documents answer conditions. -/
structure DataModel (δ : Type) where
  /-- Whether what a document holds under a key meets a condition. -/
  meets : δ → String → Json → Bool
  /-- The elements of the array under a key. -/
  elements : δ → String → List δ
  meets_ne (x : δ) (key : String) (v : Json) (hv : v.isObject = false) :
    meets x key (operator "$ne" v) = !meets x key v
  meets_absent (x : δ) (key : String) :
    meets x key (existence false) = !meets x key (existence true)

namespace DataModel

variable {δ : Type}

mutual

/-- Whether a document satisfies all members of a filter. -/
def satisfies (m : DataModel δ) : δ → Document → Bool
  | _, [] => true
  | x, (key, value) :: rest => m.satisfiesMember x key value && m.satisfies x rest

def satisfiesMember (m : DataModel δ) : δ → String → Json → Bool
  | x, key, .array items =>
      if key = "$and" then m.satisfiesAll x items
      else if key = "$or" then m.satisfiesSome x items
      else if key = "$nor" then !m.satisfiesSome x items
      else m.meets x key (.array items)
  | x, key, .object [(name, .object conditions)] =>
      if name = "$elemMatch" then (m.elements x key).any fun y ↦ m.satisfies y conditions
      else m.meets x key (operator name (.object conditions))
  | x, key, value => m.meets x key value

/-- Whether a document satisfies a branch of a list, which is a filter. -/
def satisfiesBranch (m : DataModel δ) : δ → Json → Bool
  | x, .object members => m.satisfies x members
  | _, _ => false

def satisfiesAll (m : DataModel δ) : δ → List Json → Bool
  | _, [] => true
  | x, branch :: branches => m.satisfiesBranch x branch && m.satisfiesAll x branches

def satisfiesSome (m : DataModel δ) : δ → List Json → Bool
  | _, [] => false
  | x, branch :: branches => m.satisfiesBranch x branch || m.satisfiesSome x branches

end

variable (m : DataModel δ) (x : δ)

@[simp] theorem satisfies_nil : m.satisfies x [] = true := by
  rw [satisfies]

@[simp] theorem satisfies_cons (key : String) (value : Json) (rest : Document) :
    m.satisfies x ((key, value) :: rest) =
      (m.satisfiesMember x key value && m.satisfies x rest) := by
  rw [satisfies]

@[simp] theorem satisfies_single (key : String) (value : Json) :
    m.satisfies x (single key value) = m.satisfiesMember x key value := by
  simp [single]

@[simp] theorem satisfiesBranch_object (doc : Document) :
    m.satisfiesBranch x (.object doc) = m.satisfies x doc := by
  rw [satisfiesBranch]

@[simp] theorem satisfiesAll_append (branches others : List Json) :
    m.satisfiesAll x (branches ++ others) =
      (m.satisfiesAll x branches && m.satisfiesAll x others) := by
  induction branches with
  | nil => simp [satisfiesAll]
  | cons branch branches ih => simp [satisfiesAll, ih, Bool.and_assoc]

@[simp] theorem satisfiesSome_append (branches others : List Json) :
    m.satisfiesSome x (branches ++ others) =
      (m.satisfiesSome x branches || m.satisfiesSome x others) := by
  induction branches with
  | nil => simp [satisfiesSome]
  | cons branch branches ih => simp [satisfiesSome, ih, Bool.or_assoc]

theorem satisfiesMember_and (items : List Json) :
    m.satisfiesMember x "$and" (.array items) = m.satisfiesAll x items := by
  rw [satisfiesMember]
  rfl

theorem satisfiesMember_or (items : List Json) :
    m.satisfiesMember x "$or" (.array items) = m.satisfiesSome x items := by
  rw [satisfiesMember]
  rfl

theorem satisfiesMember_nor (items : List Json) :
    m.satisfiesMember x "$nor" (.array items) = !m.satisfiesSome x items := by
  rw [satisfiesMember]
  rfl

@[simp] theorem satisfiesMember_elementMatch (key : String) (conditions : Document) :
    m.satisfiesMember x key (operator "$elemMatch" (.object conditions)) =
      (m.elements x key).any fun y ↦ m.satisfies y conditions := by
  rw [operator, satisfiesMember]
  rfl

/-- A condition that is neither a list nor about one element is left to the data, under any key. -/
theorem satisfiesMember_eq_meets_of_ne_array (key : String) {v : Json}
    (harray : ∀ items, v ≠ .array items) (hv : elementMatch? v = none) :
    m.satisfiesMember x key v = m.meets x key v := by
  unfold satisfiesMember
  split
  · exact absurd rfl (harray _)
  · rename_i name conditions
    have hname : name ≠ "$elemMatch" := by
      rintro rfl
      simp [elementMatch?] at hv
    simp [hname, operator]
  · rfl

/-- What is neither a list of filters nor a condition on one element is left to the data. -/
theorem satisfiesMember_eq_meets {key : String} (hkey : key ∉ ["$and", "$or", "$nor"]) {v : Json}
    (hv : elementMatch? v = none) : m.satisfiesMember x key v = m.meets x key v := by
  simp only [List.mem_cons, List.not_mem_nil, or_false, not_or] at hkey
  cases v with
  | array items => simp [satisfiesMember, hkey]
  | _ => exact m.satisfiesMember_eq_meets_of_ne_array x key (by simp) hv

end DataModel

/-! ## JSON data -/

namespace Json

/-- What stands under a key, whose steps are separated by dots. -/
def under? (data : Json) (key : String) : Option Json :=
  (key.toList.splitOn '.').foldlM step? data
where
  step? : Json → List Char → Option Json
    | .object members, name => members.lookup (String.ofList name)
    | .array items, name => (String.ofList name).toNat?.bind (items[·]?)
    | _, _ => none

/-- What a condition on a key is about: the value there and, for an array, its items. -/
def candidates (data : Json) (key : String) : List Json :=
  match data.under? key with
  | none => []
  | some (.array items) => .array items :: items
  | some v => [v]

def elementsUnder (data : Json) (key : String) : List Json :=
  match data.under? key with
  | some (.array items) => items
  | _ => []

/-- Whether a value passes a comparison with another one. -/
def passes (name : String) (bound v : Json) : Bool :=
  match bound, v with
  | .number (.whole b), .number (.whole n) =>
      match name with
      | "$lt" => n < b
      | "$lte" => n ≤ b
      | "$gt" => b < n
      | "$gte" => b ≤ n
      | _ => false
  | _, _ => false

end Json

/-- Documents in JSON, with tests for equality and presence and comparisons of whole numbers. -/
def DataModel.json : DataModel Json where
  meets data key condition :=
    match condition with
    | .object [("$ne", v)] => !(data.candidates key).any (·.equivalent v)
    | .object [("$exists", .bool present)] => (data.under? key).isSome == present
    | .object members => members.all fun m ↦ (data.candidates key).any (Json.passes m.1 m.2)
    | v => (data.candidates key).any (·.equivalent v)
  elements := Json.elementsUnder
  meets_ne data key v hv := by
    cases v <;> first | rfl | cases hv
  meets_absent data key := by
    simp [existence, operator]

end TypedQuery
