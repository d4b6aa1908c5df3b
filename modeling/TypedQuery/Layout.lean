import TypedQuery.Dialect.Basic
import TypedQuery.Rendering.Basic

/-!
# Placeholders

The chunks of a statement are laid out as one text with placeholders and the list of what they stand
for. Anonymous placeholders stand for one binding each. Numbered ones share a label where type and
binding agree, and labels count up from one in the order of their first use.
-/

namespace TypedQuery

/-- A binding at a static type: what a label is given to. -/
abbrev Labelled := ValueType × Binding

namespace Labelled

def eqv (a b : Labelled) : Bool := a.1 == b.1 && a.2.eqv b.2

def identical (a b : Labelled) : Bool := a.1 == b.1 && a.2.identical b.2

/-- The place of a key among those that have a label. A single key is shared by all that equal it,
several ones only by what is identical to them. A hash map looks for the latter. For keys that equal
each other without being identical, and whose hashes therefore differ, what is given here is only
its likely outcome: by chance it may compare such keys all the same and take them for one. -/
def find? (keys : List Labelled) (key : Labelled) : Option Nat :=
  match keys with
  | [only] => if key.eqv only then some 0 else none
  | _ => keys.findIdx? (key.identical ·)

/-- The place of a key, and all keys with a label then: a new key gets the next place. -/
def allot (keys : List Labelled) (key : Labelled) : Nat × List Labelled :=
  match find? keys key with
  | some i => (i, keys)
  | none => (keys.length, keys ++ [key])

@[simp] theorem eqv_refl (a : Labelled) : a.eqv a = true := by
  simp [eqv]

theorem eqv_of_identical {a b : Labelled} (h : a.identical b = true) : a.eqv b = true := by
  simp only [identical, eqv, Bool.and_eq_true] at h ⊢
  exact ⟨h.1, Binding.eqv_of_identical h.2⟩

theorem eqv_of_find? {keys : List Labelled} {key : Labelled} {i : Nat}
    (h : find? keys key = some i) : ∃ k, keys[i]? = some k ∧ key.eqv k = true := by
  unfold find? at h
  split at h
  · rename_i only
    split at h
    · rename_i honly
      obtain rfl := Option.some.inj h
      exact ⟨only, rfl, honly⟩
    · cases h
  · obtain ⟨hi, hkey, _⟩ := List.findIdx?_eq_some_iff_getElem.mp h
    exact ⟨keys[i], List.getElem?_eq_getElem hi, eqv_of_identical hkey⟩

theorem prefix_allot (keys : List Labelled) (key : Labelled) : keys <+: (allot keys key).2 := by
  unfold allot
  split
  · exact List.prefix_rfl
  · exact List.prefix_append keys [key]

theorem eqv_allot (keys : List Labelled) (key : Labelled) :
    ∃ k, (allot keys key).2[(allot keys key).1]? = some k ∧ key.eqv k = true := by
  unfold allot
  split
  · rename_i hfound
    exact eqv_of_find? hfound
  · exact ⟨key, by simp, eqv_refl key⟩

theorem allot_le (keys : List Labelled) (key : Labelled) : (allot keys key).1 ≤ keys.length := by
  unfold allot
  split
  · rename_i i hfound
    obtain ⟨k, hk, _⟩ := eqv_of_find? hfound
    exact Nat.le_of_lt (List.getElem?_eq_some_iff.mp hk).1
  · exact Nat.le_refl _

theorem length_allot (keys : List Labelled) (key : Labelled) :
    (allot keys key).2.length = max keys.length ((allot keys key).1 + 1) := by
  unfold allot
  split
  · rename_i i hfound
    obtain ⟨k, hk, _⟩ := eqv_of_find? hfound
    have hi := (List.getElem?_eq_some_iff.mp hk).1
    simp only
    omega
  · simp

end Labelled

namespace Layout

/-- The text of numbered chunks and the keys of all labels, behind chunks whose keys are given. -/
def numbered (mark : Char) (keys : List Labelled) : List Chunk → List String × List Labelled
  | [] => ([], keys)
  | .text s :: chunks =>
      let (texts, keys) := numbered mark keys chunks
      (s :: texts, keys)
  | .placeholder type binding :: chunks =>
      let (place, keys) := Labelled.allot keys (type, binding)
      let (texts, keys) := numbered mark keys chunks
      ((mark.toString ++ toString (place + 1)) :: texts, keys)

/-- The text of chunks with anonymous placeholders and the bindings they stand for. -/
def anonymous : List Chunk → List String × List Binding
  | [] => ([], [])
  | .text s :: chunks =>
      let (texts, bindings) := anonymous chunks
      (s :: texts, bindings)
  | .placeholder _ binding :: chunks =>
      let (texts, bindings) := anonymous chunks
      ("?" :: texts, binding :: bindings)

end Layout

/-- The text of chunks in a style of placeholders, and the bindings in the order of placeholders. -/
def layout (style : PlaceholderStyle) (chunks : List Chunk) : String × List Binding :=
  match style with
  | .anonymous =>
      let (texts, bindings) := Layout.anonymous chunks
      (String.join texts, bindings)
  | .numbered mark =>
      let (texts, keys) := Layout.numbered mark [] chunks
      (String.join texts, keys.map Prod.snd)

end TypedQuery
