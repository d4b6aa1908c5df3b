import TypedQuery.Proofs.Filters.Conjunctions
import TypedQuery.Proofs.Registration

/-!
# Conditions

A predicate that is no connective becomes a document with a single member: a condition under the key
of its path, or the list that stands for an empty collection. If its path goes through a collection,
that document is the condition on one element.
-/

namespace TypedQuery

open Document

/-! ## Constants -/

namespace Value

def isScalar : Value → Bool
  | json (.array _) | json (.object _) | entity .. | list _ | tuple _ => false
  | _ => true

/-- A scalar or a list of scalars. -/
def isFlat : Value → Bool
  | list items => items.all isScalar
  | v => v.isScalar

theorem isObject_ofBinary64 (b : Number.Binary64) : (Json.ofBinary64 b).isObject = false := by
  unfold Json.ofBinary64
  split <;> rfl

theorem isObject_toJson {v : Value} (h : v.isFlat = true) : v.toJson.isObject = false := by
  cases v with
  | json j => cases j <;> first | rfl | cases h
  | entity _ _ | tuple _ => cases h
  | f32 _ | f64 _ => exact isObject_ofBinary64 _
  | _ => rfl

end Value

namespace Expr

mutual

/-- What the operations of an expression are applied to in the end. -/
def terms : Expr → List Expr
  | .operation _ _ args => termsOf args
  | e => [e]

def termsOf : List Expr → List Expr
  | [] => []
  | e :: es => e.terms ++ termsOf es

end

theorem mem_termsOf {es : List Expr} {t : Expr} : t ∈ termsOf es ↔ ∃ e ∈ es, t ∈ e.terms := by
  induction es with
  | nil => simp [termsOf]
  | cons e es ih => simp [termsOf, ih]

theorem terms_subset {type : ValueType} {operator : Operator} {args : List Expr} {a : Expr}
    (ha : a ∈ args) : a.terms ⊆ (operation type operator args).terms := by
  intro t ht
  rw [terms, mem_termsOf]
  exact ⟨a, ha, ht⟩

theorem terms_path (p : Path) : (Expr.path p).terms = [.path p] := by
  rw [terms]
  simp

theorem terms_constant (c : Constant) : (Expr.constant c).terms = [.constant c] := by
  rw [terms]
  simp

end Expr

/-! ## The shape of a condition -/

namespace Document

theorem elementMatch?_of_isObject {v : Json} (h : v.isObject = false) : elementMatch? v = none := by
  cases v <;> first | rfl | cases h

theorem elementMatch?_operator_ne {name : String} (h : name ≠ "$elemMatch") (v : Json) :
    elementMatch? (operator name v) = none := by
  have hne : ("$elemMatch" == name) = false := by simpa using h.symm
  simp [elementMatch?, operator, List.lookup_cons, hne]

/-- One member, which is no condition on an element: it stands under an admissible key, or is the
list for an empty collection. -/
inductive IsCondition (keys : String → Prop) : Document → Prop
  | field {key : String} {value : Json} (hkey : keys key) (hvalue : elementMatch? value = none) :
      IsCondition keys (single key value)
  | list (items : List Json) : IsCondition keys (single "$or" (.array items))

theorem IsCondition.isRegular {keys : String → Prop} {doc : Document} (h : doc.IsCondition keys) :
    doc.IsRegular := by
  cases h with
  | field hkey hvalue => exact isRegular_single _ hvalue
  | list items => exact isRegular_single _ rfl

end Document

namespace DocumentStore

variable {d : DocumentStore} {keys : String → Prop} {path value : Expr} {doc : Document}

/-- The constants of an expression are flat, and its paths have admissible keys. -/
structure Admits (d : DocumentStore) (keys : String → Prop) (e : Expr) : Prop where
  flat : ∀ c, .constant c ∈ e.terms → c.value.isFlat = true
  key : ∀ p key, .path p ∈ e.terms → d.key p = .ok key →
    keys key ∧ ∀ rest, keys (key ++ "." ++ rest)

theorem Admits.arg {type : ValueType} {operator : Operator} {args : List Expr}
    (h : d.Admits keys (.operation type operator args)) {a : Expr} (ha : a ∈ args) :
    d.Admits keys a :=
  ⟨fun c hc ↦ h.flat c (Expr.terms_subset ha hc),
    fun p key hp ↦ h.key p key (Expr.terms_subset ha hp)⟩

theorem Admits.pathKey (h : d.Admits keys path) {key : String} (hkey : d.pathKey path = .ok key) :
    keys key ∧ ∀ rest, keys (key ++ "." ++ rest) := by
  cases path with
  | path p => exact h.key p key (by simp [Expr.terms_path]) hkey
  | _ => cases hkey

theorem Admits.constantJson (h : d.Admits keys value) {json : Json}
    (hjson : d.constantJson value = .ok json) : json.isObject = false := by
  cases value with
  | constant c =>
      obtain rfl := Except.ok.inj hjson
      exact Value.isObject_toJson (h.flat c (by simp [Expr.terms_constant]))
  | _ => cases hjson

theorem isCondition_compare {name : String} (hname : name ≠ "$elemMatch")
    (hpath : d.Admits keys path) (h : d.compare name path value = .ok doc) :
    doc.IsCondition keys := by
  obtain ⟨key, hkey, h⟩ := exists_of_bind h
  obtain ⟨json, _, h⟩ := exists_of_bind h
  obtain rfl := Except.ok.inj h
  exact .field (hpath.pathKey hkey).1 (elementMatch?_operator_ne hname _)

theorem isCondition_compareEqual (hpath : d.Admits keys path) (hvalue : d.Admits keys value)
    (h : d.compareEqual path value = .ok doc) : doc.IsCondition keys := by
  obtain ⟨key, hkey, h⟩ := exists_of_bind h
  obtain ⟨json, hjson, h⟩ := exists_of_bind h
  obtain rfl := Except.ok.inj h
  exact .field (hpath.pathKey hkey).1 (elementMatch?_of_isObject (hvalue.constantJson hjson))

theorem isCondition_compareList {name : String} (hname : name ≠ "$elemMatch")
    (hpath : d.Admits keys path) (h : d.compareList name path value = .ok doc) :
    doc.IsCondition keys := by
  obtain ⟨key, hkey, h⟩ := exists_of_bind h
  obtain ⟨json, _, h⟩ := exists_of_bind h
  obtain rfl := Except.ok.inj h
  exact .field (hpath.pathKey hkey).1 (elementMatch?_operator_ne hname _)

theorem isCondition_holds (hpath : d.Admits keys path) (hvalue : d.Admits keys value)
    (h : d.holds path value = .ok doc) : doc.IsCondition keys := by
  obtain ⟨json, hjson, h⟩ := exists_of_bind h
  obtain ⟨key, hkey, h⟩ := exists_of_bind h
  have hkeys := (hpath.pathKey hkey).1
  split at h
  · obtain rfl := Except.ok.inj h
    exact .field hkeys (elementMatch?_operator_ne (by decide) _)
  · obtain rfl := Except.ok.inj h
    exact .field hkeys (elementMatch?_of_isObject (hvalue.constantJson hjson))

theorem isCondition_matchText {pattern : List Char → List Char} {ignoreCase : Bool}
    (hpath : d.Admits keys path) (h : d.matchText path value pattern ignoreCase = .ok doc) :
    doc.IsCondition keys := by
  obtain ⟨key, hkey, h⟩ := exists_of_bind h
  obtain ⟨text, _, h⟩ := exists_of_bind h
  obtain rfl := Except.ok.inj h
  refine .field (hpath.pathKey hkey).1 ?_
  cases ignoreCase <;> simp [regex, elementMatch?, List.lookup_cons]

theorem isCondition_exists? {present : Bool} (hpath : d.Admits keys path)
    (h : d.exists? path present = .ok doc) : doc.IsCondition keys := by
  obtain ⟨key, hkey, h⟩ := exists_of_bind h
  obtain rfl := Except.ok.inj h
  exact .field (hpath.pathKey hkey).1 (elementMatch?_operator_ne (by decide) _)

theorem isCondition_condition {type : ValueType} {op : Op} {args : List Expr}
    (hargs : ∀ a ∈ args, d.Admits keys a) (h : d.condition type op args = .ok doc) :
    doc.IsCondition keys := by
  unfold condition at h
  split at h
  · -- the size of a collection
    obtain ⟨key, hkey, h⟩ := exists_of_bind h
    obtain ⟨count, _, h⟩ := exists_of_bind h
    obtain rfl := Except.ok.inj h
    have hpath := (hargs _ List.mem_cons_self).arg List.mem_cons_self
    exact .field (hpath.pathKey hkey).1 (elementMatch?_operator_ne (by decide) _)
  case h_2 => cases h
  case h_3 => exact isCondition_compareEqual (hargs _ (by simp)) (hargs _ (by simp)) h
  case h_4 | h_5 | h_6 | h_7 | h_8 => exact isCondition_compare (by decide) (hargs _ (by simp)) h
  case h_9 path low high =>
    obtain ⟨key, hkey, h⟩ := exists_of_bind h
    obtain ⟨low, _, h⟩ := exists_of_bind h
    obtain ⟨high, _, h⟩ := exists_of_bind h
    obtain rfl := Except.ok.inj h
    refine .field ((hargs path (by simp)).pathKey hkey).1 ?_
    simp [elementMatch?, List.lookup_cons]
  case h_10 | h_11 => exact isCondition_compareList (by decide) (hargs _ (by simp)) h
  case h_12 | h_13 => exact isCondition_exists? (hargs _ (by simp)) h
  case h_14 | h_15 | h_16 | h_17 | h_18 | h_19 | h_20 | h_21 | h_22 | h_23 =>
    exact isCondition_matchText (hargs _ (by simp)) h
  case h_24 path =>
    obtain ⟨key, hkey, h⟩ := exists_of_bind h
    obtain rfl := Except.ok.inj h
    exact .field ((hargs path (by simp)).pathKey hkey).1 rfl
  case h_25 path =>
    obtain ⟨key, hkey, h⟩ := exists_of_bind h
    obtain rfl := Except.ok.inj h
    exact .list _
  case h_26 path c =>
    obtain ⟨key, hkey, h⟩ := exists_of_bind h
    obtain rfl := Except.ok.inj h
    have hkeys := ((hargs path (by simp)).pathKey hkey).2 c.value.text
    exact .field hkeys (elementMatch?_operator_ne (by decide) _)
  case h_27 | h_28 => exact isCondition_holds (hargs _ (by simp)) (hargs _ (by simp)) h
  case h_29 => cases h

/-! ## Regular filters -/

/-- All constants among the terms of an expression are flat. -/
def IsFlat (e : Expr) : Prop := ∀ c, .constant c ∈ e.terms → c.value.isFlat = true

theorem admits_of_isFlat {e : Expr} (h : IsFlat e) : d.Admits (fun _ ↦ True) e :=
  ⟨h, fun _ _ _ _ ↦ ⟨trivial, fun _ ↦ trivial⟩⟩

theorem isFlat_path (p : Path) : IsFlat (.path p) := by
  intro c hc
  simp [Expr.terms_path] at hc

theorem IsFlat.arg {type : ValueType} {operator : Operator} {args : List Expr}
    (h : IsFlat (.operation type operator args)) {a : Expr} (ha : a ∈ args) : IsFlat a :=
  fun c hc ↦ h c (Expr.terms_subset ha hc)

theorem isRegular_elementCondition {type : ValueType} {op : Op} {args : List Expr}
    (hargs : ∀ a ∈ args, IsFlat a) (h : d.elementCondition type op args = .ok doc) :
    doc.IsRegular := by
  have hcondition : ∀ {args : List Expr} {doc : Document}, (∀ a ∈ args, IsFlat a) →
      d.condition type op args = .ok doc → doc.IsRegular := fun hargs h ↦
    (isCondition_condition (fun a ha ↦ admits_of_isFlat (hargs a ha)) h).isRegular
  unfold elementCondition at h
  split at h
  · rename_i p others
    split at h
    · rename_i collection inner _
      obtain ⟨key, _, h⟩ := exists_of_bind h
      obtain ⟨conditions, hconditions, h⟩ := exists_of_bind h
      obtain rfl := Except.ok.inj h
      have hinner : ∀ a ∈ Expr.path inner :: others, IsFlat a := by
        intro a ha
        rcases List.mem_cons.mp ha with rfl | ha
        · exact isFlat_path inner
        · exact hargs a (List.mem_cons_of_mem _ ha)
      exact isRegular_elementMatch key (hcondition hinner hconditions).nodup
    · exact hcondition hargs h
  · exact hcondition hargs h

theorem isRegular_negation {inner : Expr} {filter : Except Error Document} (hinner : IsFlat inner)
    (h : d.negation inner filter = .ok doc) : doc.IsRegular := by
  have hadmits := fun a (ha : IsFlat a) ↦ (admits_of_isFlat ha : d.Admits (fun _ ↦ True) a)
  unfold negation at h
  split at h
  · exact (isCondition_compare (by decide) (hadmits _ (isFlat_path _)) h).isRegular
  · have hvalue := hadmits _ (hinner.arg (List.mem_cons_of_mem _ List.mem_cons_self))
    exact (isCondition_compareEqual (hadmits _ (isFlat_path _)) hvalue h).isRegular
  · exact (isCondition_exists? (hadmits _ (hinner.arg List.mem_cons_self)) h).isRegular
  · exact (isCondition_exists? (hadmits _ (hinner.arg List.mem_cons_self)) h).isRegular
  · cases filter with
    | error e => cases h
    | ok found =>
        obtain rfl := Except.ok.inj h
        exact isRegular_single _ rfl

end DocumentStore

end TypedQuery
