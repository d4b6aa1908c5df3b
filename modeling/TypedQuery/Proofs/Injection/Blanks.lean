import Mathlib.Data.List.Forall2
import TypedQuery.Proofs.Injection.Masking

/-!
# Renderings that differ only in what they bind

Two renderings are alike when they write the same text around the same number of placeholders, or
fail with the same error, in every scope. All combinators keep renderings alike, and so do templates
that bind their constants.
-/

namespace TypedQuery

/-- A chunk without what its placeholder stands for. -/
def Chunk.blank : Chunk → Chunk
  | text s => .text s
  | placeholder _ _ => .placeholder .object (.value .null)

namespace Rendering

/-- A rendering without what its placeholders stand for. -/
def blank (r : Rendering) : Rendering := fun scope ↦ (r scope).map (List.map Chunk.blank)

def Alike (a b : Rendering) : Prop := a.blank = b.blank

@[simp] theorem blank_empty : blank empty = empty := rfl

@[simp] theorem blank_text (s : String) : blank (text s) = text s := rfl

@[simp] theorem blank_placeholder (type : ValueType) (b : Binding) :
    blank (placeholder type b) = placeholder .object (.value .null) := rfl

@[simp] theorem blank_append (a b : Rendering) : blank (a ++ b) = blank a ++ blank b := by
  funext scope
  simp only [blank, append_apply]
  cases a scope <;> cases b scope <;> simp [Except.bind, Except.map]

@[simp] theorem blank_within (change : Scope → Scope) (r : Rendering) :
    blank (r.within change) = (blank r).within change := rfl

@[simp] theorem blank_concat (rs : List Rendering) :
    blank (concat rs) = concat (rs.map blank) := by
  induction rs with
  | nil => rfl
  | cons r rs ih => simp [concat, ih]

@[simp] theorem blank_separated (separator : String) (rs : List Rendering) :
    blank (separated separator rs) = separated separator (rs.map blank) := by
  induction rs with
  | nil => rfl
  | cons r rs ih =>
      cases rs with
      | nil => rfl
      | cons t ts =>
          rw [List.map_cons] at ih
          simp [separated, ih]

@[simp] theorem blank_commas (rs : List Rendering) : blank (commas rs) = commas (rs.map blank) :=
  blank_separated ", " rs

@[simp] theorem blank_between (before behind : String) (r : Rendering) :
    blank (r.between before behind) = (blank r).between before behind := by
  simp [between]

@[simp] theorem blank_parenthesized (r : Rendering) :
    blank r.parenthesized = (blank r).parenthesized :=
  blank_between "(" ")" r

namespace Alike

variable {a b c d : Rendering}

theorem refl (a : Rendering) : a.Alike a := rfl

theorem symm (h : a.Alike b) : b.Alike a := Eq.symm h

theorem append (h : a.Alike b) (h' : c.Alike d) : (a ++ c).Alike (b ++ d) := by
  unfold Alike at *
  rw [blank_append, blank_append, h, h']

theorem within (h : a.Alike b) (change : Scope → Scope) :
    (a.within change).Alike (b.within change) := by
  unfold Alike at *
  rw [blank_within, blank_within, h]

theorem between (h : a.Alike b) (before behind : String) :
    (a.between before behind).Alike (b.between before behind) :=
  ((refl _).append h).append (refl _)

theorem parenthesized (h : a.Alike b) : a.parenthesized.Alike b.parenthesized :=
  h.between "(" ")"

theorem map_blank {rs ts : List Rendering} (h : List.Forall₂ Alike rs ts) :
    rs.map blank = ts.map blank := by
  induction h with
  | nil => rfl
  | cons hr _ ih => rw [List.map_cons, List.map_cons, hr, ih]

theorem concat {rs ts : List Rendering} (h : List.Forall₂ Alike rs ts) :
    (concat rs).Alike (Rendering.concat ts) := by
  unfold Alike
  rw [blank_concat, blank_concat, map_blank h]

theorem separated {rs ts : List Rendering} (h : List.Forall₂ Alike rs ts) (separator : String) :
    (Rendering.separated separator rs).Alike (Rendering.separated separator ts) := by
  unfold Alike
  rw [blank_separated, blank_separated, map_blank h]

theorem commas {rs ts : List Rendering} (h : List.Forall₂ Alike rs ts) :
    (Rendering.commas rs).Alike (Rendering.commas ts) :=
  separated h ", "

/-- Alike renderings have alike outcomes in each scope. -/
theorem apply (h : a.Alike b) (scope : Scope) :
    (a scope).map (List.map Chunk.blank) = (b scope).map (List.map Chunk.blank) :=
  congrFun h scope

theorem of_apply
    (h : ∀ scope, (a scope).map (List.map Chunk.blank) = (b scope).map (List.map Chunk.blank)) :
    a.Alike b :=
  funext h

end Alike

end Rendering

/-! ## Values and constants -/

namespace Value

theorem valueType_masked : ∀ v : Value, v.masked.valueType = v.valueType
  | list (item :: _) => congrArg ValueType.collection (valueType_masked item)
  | list [] | null | bool _ | i8 _ | i16 _ | i32 _ | i64 _ | f32 _ | f64 _ | string _ | date _
  | time _ | timestamp _ | uuid _ | json _ | enum .. | entity .. | tuple _ | typeRef _ => rfl

theorem string?_masked (v : Value) : v.masked.string? = v.string?.map fun _ ↦ "" := by
  cases v <;> rfl

theorem masked_eq_self_of_binary64? {v : Value} (h : v.binary64? ≠ none) : v.masked = v := by
  cases v <;> first | rfl | exact absurd rfl h

theorem binary64?_masked (v : Value) : v.masked.binary64? = v.binary64? := by
  cases v <;> rfl

theorem masked_castNumeric {v w : Value} {target : ValueType} (h : v.castNumeric target = some w) :
    w.masked = w := by
  unfold castNumeric at h
  split at h
  · cases h
  · cases target <;> simp only [Option.some.injEq, reduceCtorEq] at h <;> subst h <;> rfl

theorem castNumeric_masked (v : Value) (target : ValueType) :
    v.masked.castNumeric target = v.castNumeric target := by
  by_cases h : v.binary64? = none
  · unfold castNumeric
    rw [binary64?_masked, h]
  · rw [masked_eq_self_of_binary64? h]

end Value

namespace Constant

theorem masked_normalized (target : ValueType) (c : Constant) :
    (c.normalized target).masked = c.masked.normalized target := by
  unfold normalized
  have htype : c.masked.type = c.type := rfl
  have hvalue : c.masked.value = c.value.masked := rfl
  rw [htype, hvalue, Value.castNumeric_masked]
  split
  · cases hcast : c.value.castNumeric target with
    | none => rfl
    | some v => simp [masked, Value.masked_castNumeric hcast]
  · rfl

end Constant

namespace Rendering

theorem blank_bound (v : Value) : blank (bound v) = placeholder .object (.value .null) := rfl

theorem Alike.bound (v w : Value) : (bound v).Alike (Rendering.bound w) :=
  (blank_bound v).trans (blank_bound w).symm

theorem blank_constant_masked (style : ListStyle) (c : Constant) :
    blank (constant style c.masked) = blank (constant style c) := by
  obtain ⟨type, v⟩ := c
  cases v with
  | list items =>
      have hitems : ∀ vs : List Value, vs.map (blank ∘ bound) =
          List.replicate vs.length (placeholder .object (.value .null)) := by
        intro vs
        induction vs with
        | nil => rfl
        | cons v vs ih => simp [List.replicate_succ, blank_bound, ih]
      cases style <;> simp [constant, Constant.masked, Value.masked, hitems]
  | _ => cases style <;> rfl

theorem Alike.constant {c c' : Constant} (h : c.masked = c'.masked) (style : ListStyle) :
    (constant style c).Alike (Rendering.constant style c') := by
  unfold Alike
  rw [← blank_constant_masked style c, h, blank_constant_masked style c']

end Rendering

end TypedQuery
