import TypedQuery.Error
import TypedQuery.Query.Basic

/-!
# Renderings

A rendering writes a piece of a statement as a list of chunks: text and the bindings that
placeholders stand for. It may fail, and it depends on the scope in which the piece stands.
Renderings are joined one behind the other; nothing that stands earlier can change a later one.
-/

namespace TypedQuery

/-- What a placeholder stands for. -/
inductive Binding
  | value (v : Value)
  | param (p : Param)
deriving Repr

namespace Binding

def eqv : Binding → Binding → Bool
  | .value v, .value w => v == w
  | .param p, .param q => p == q
  | _, _ => false

def identical : Binding → Binding → Bool
  | .value v, .value w => v.identical w
  | .param p, .param q => p == q
  | _, _ => false

@[simp] theorem eqv_refl (b : Binding) : b.eqv b = true := by
  cases b <;> simp [eqv]

theorem eqv_of_identical {a b : Binding} (h : a.identical b = true) : a.eqv b = true := by
  cases a <;> cases b <;> simp_all [eqv, identical, Value.beq_of_identical]

end Binding

inductive Chunk
  | text (s : String)
  | placeholder (type : ValueType) (binding : Binding)
deriving Repr

/-- Where a piece of a statement stands: inside a projection, and directly inside an operator that
collection paths write their elements for. -/
structure Scope where
  inProjection : Bool := false
  wrapElements : Bool := false
deriving DecidableEq, Repr

abbrev Rendering := Scope → Except Error (List Chunk)

namespace Rendering

def empty : Rendering := fun _ ↦ .ok []

def text (s : String) : Rendering := fun _ ↦ .ok [.text s]

def placeholder (type : ValueType) (binding : Binding) : Rendering :=
  fun _ ↦ .ok [.placeholder type binding]

def fail (e : Error) : Rendering := fun _ ↦ .error e

/-- One rendering behind another. -/
def append (a b : Rendering) : Rendering := fun scope ↦ do
  let before ← a scope
  let behind ← b scope
  pure (before ++ behind)

instance : Append Rendering := ⟨append⟩

def concat : List Rendering → Rendering
  | [] => empty
  | r :: rs => r ++ concat rs

/-- Renderings with a separator between them. -/
def separated (separator : String) : List Rendering → Rendering
  | [] => empty
  | [r] => r
  | r :: rs => r ++ text separator ++ separated separator rs

def commas (rs : List Rendering) : Rendering := separated ", " rs

/-- A rendering between two texts. -/
def between (before behind : String) (r : Rendering) : Rendering :=
  text before ++ r ++ text behind

def parenthesized (r : Rendering) : Rendering := between "(" ")" r

/-- A rendering in a scope made from the present one. -/
def within (change : Scope → Scope) (r : Rendering) : Rendering := fun scope ↦ r (change scope)

theorem append_apply (a b : Rendering) (scope : Scope) :
    (a ++ b) scope = (a scope).bind fun before ↦ (b scope).map (before ++ ·) := by
  show append a b scope = _
  unfold append
  cases a scope <;> cases b scope <;> rfl

theorem exists_of_append {r t : Rendering} {scope : Scope} {chunks : List Chunk}
    (h : (r ++ t) scope = .ok chunks) :
    ∃ before behind, r scope = .ok before ∧ t scope = .ok behind ∧ chunks = before ++ behind := by
  rw [append_apply] at h
  cases hr : r scope with
  | error e => simp [hr, Except.bind] at h
  | ok before =>
      cases ht : t scope with
      | error e => simp [hr, ht, Except.bind, Except.map] at h
      | ok behind =>
          refine ⟨before, behind, rfl, rfl, ?_⟩
          simpa [hr, ht, Except.bind, Except.map] using h.symm

theorem append_of_error {r t : Rendering} {scope : Scope} {e : Error} (h : r scope = .error e) :
    (r ++ t) scope = .error e := by
  rw [append_apply, h]
  rfl

theorem within_append (a b : Rendering) (change : Scope → Scope) :
    (a ++ b).within change = a.within change ++ b.within change := rfl

theorem append_assoc (a b c : Rendering) : a ++ b ++ c = a ++ (b ++ c) := by
  funext scope
  simp only [append_apply]
  cases a scope <;> cases b scope <;> cases c scope <;> simp [Except.bind, Except.map]

theorem empty_append (a : Rendering) : empty ++ a = a := by
  funext scope
  simp only [append_apply, empty]
  cases a scope <;> simp [Except.bind, Except.map]

theorem append_empty (a : Rendering) : a ++ empty = a := by
  funext scope
  simp only [append_apply, empty]
  cases a scope <;> simp [Except.bind, Except.map]

theorem concat_append (rs ts : List Rendering) : concat (rs ++ ts) = concat rs ++ concat ts := by
  induction rs with
  | nil => exact (empty_append _).symm
  | cons r rs ih => simp only [List.cons_append, concat, ih, append_assoc]

end Rendering

end TypedQuery
