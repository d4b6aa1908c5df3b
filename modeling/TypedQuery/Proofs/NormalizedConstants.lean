import Mathlib.Data.List.Forall2
import TypedQuery.Proofs.NumberConversions
import TypedQuery.Proofs.Pagination.Queries

/-!
# Constants at the type of another operand

The first numeric operand that is no constant sets the type of the numeric constants beside it. The
operands stay in their places, and only constants that are numbers both by their static type and by
their value change. Then the list has nothing left to change: its first such operand is the same,
and its constants have their types already.
-/

namespace TypedQuery

open List (Forall₂)

namespace Constant

variable {c : Constant} {t : ValueType}

/-- A numeric value that is used at a numeric type. -/
def IsNumber (c : Constant) : Prop :=
  c.type.isNumeric = true ∧ c.value.valueType.isNumeric = true

theorem normalized_of_type_eq (h : c.type = t) : c.normalized t = c := by
  unfold normalized
  rw [if_neg]
  simp [h]

/-- A constant that is no number is not cast: a null, for one, has no numeric value. -/
theorem normalized_of_not_isNumber (h : ¬ c.IsNumber) : c.normalized t = c := by
  unfold normalized
  by_cases htype : c.type.isNumeric = true
  · have hvalue : c.value.valueType.isNumeric = false :=
      Bool.eq_false_iff.mpr fun hv ↦ h ⟨htype, hv⟩
    have hcast : c.value.castNumeric t = none := by
      unfold Value.castNumeric
      rw [Value.binary64?_eq_none hvalue]
    rw [hcast, ite_self]
  · rw [if_neg]
    simp [htype]

theorem exists_normalized_eq (h : c.IsNumber) (ht : t.isNumeric = true) (hne : c.type ≠ t) :
    ∃ v, c.value.castNumeric t = some v ∧ c.normalized t = ⟨t, v⟩ := by
  obtain ⟨v, hcast, -⟩ := Value.exists_castNumeric_of_isNumeric h.2 ht
  refine ⟨v, hcast, ?_⟩
  unfold normalized
  rw [if_pos (by simp [h.1, hne]), hcast]

end Constant

namespace Expr

variable {args : List Expr} {e e' : Expr} {t : ValueType}

/-! ## The type of the others -/

/-- A numeric operand that is no constant. -/
def SetsType (e : Expr) : Prop := e.isConstant = false ∧ e.type.isNumeric = true

theorem setsType_iff : e.SetsType ↔ (!e.isConstant && e.type.isNumeric) = true := by
  simp [SetsType]

theorem numericTarget_eq_none_iff :
    numericTarget args = none ↔ ∀ e ∈ args, ¬ e.SetsType := by
  rw [numericTarget, Option.map_eq_none_iff, List.find?_eq_none]
  simp only [setsType_iff]

theorem numericTarget_eq_some_iff :
    numericTarget args = some t ↔
      ∃ before e after, args = before ++ e :: after ∧ (∀ a ∈ before, ¬ a.SetsType) ∧
        e.SetsType ∧ e.type = t := by
  simp only [numericTarget, Option.map_eq_some_iff, List.find?_eq_some_iff_append,
    Bool.not_eq_true', ← Bool.not_eq_true, ← setsType_iff]
  constructor
  · rintro ⟨e, ⟨hsets, before, after, hargs, hbefore⟩, htype⟩
    exact ⟨before, e, after, hargs, hbefore, hsets, htype⟩
  · rintro ⟨before, e, after, hargs, hbefore, hsets, htype⟩
    exact ⟨e, ⟨hsets, before, after, hargs, hbefore⟩, htype⟩

theorem isNumeric_of_numericTarget (h : numericTarget args = some t) : t.isNumeric = true := by
  obtain ⟨_, e, _, _, _, hsets, rfl⟩ := numericTarget_eq_some_iff.mp h
  exact hsets.2

/-! ## One operand -/

/-- What becomes of an operand beside one of the type `t`: only numbers among the constants change,
and these only where they have another type. -/
inductive TakesType (t : ValueType) : Expr → Expr → Prop
  | operand {e : Expr} (h : e.isConstant = false) : TakesType t e e
  | other {c : Constant} (h : ¬ c.IsNumber) : TakesType t (constant c) (constant c)
  | same {c : Constant} (h : c.IsNumber) (htype : c.type = t) :
      TakesType t (constant c) (constant c)
  | cast {c : Constant} {v : Value} (h : c.IsNumber) (htype : c.type ≠ t)
      (hcast : c.value.castNumeric t = some v) : TakesType t (constant c) (constant ⟨t, v⟩)

theorem normalizedTo_of_not_isConstant (h : e.isConstant = false) : e.normalizedTo t = e := by
  cases e with
  | constant c => cases h
  | _ => rfl

theorem isConstant_normalizedTo (t : ValueType) (e : Expr) :
    (e.normalizedTo t).isConstant = e.isConstant := by
  cases e <;> rfl

theorem takesType_normalizedTo (ht : t.isNumeric = true) (e : Expr) :
    TakesType t e (e.normalizedTo t) := by
  cases h : e.isConstant with
  | false =>
      rw [normalizedTo_of_not_isConstant h]
      exact .operand h
  | true =>
      cases e with
      | constant c =>
          change TakesType t (constant c) (constant (c.normalized t))
          by_cases hnumber : c.IsNumber
          · by_cases htype : c.type = t
            · rw [Constant.normalized_of_type_eq htype]
              exact .same hnumber htype
            · obtain ⟨v, hcast, heq⟩ := Constant.exists_normalized_eq hnumber ht htype
              rw [heq]
              exact .cast hnumber htype hcast
          · rw [Constant.normalized_of_not_isNumber hnumber]
            exact .other hnumber
      | _ => cases h

/-- What has taken a type is left alone from then on. -/
theorem TakesType.normalizedTo_eq (h : TakesType t e e') : e'.normalizedTo t = e' := by
  cases h with
  | operand h => exact normalizedTo_of_not_isConstant h
  | other h => exact congrArg constant (Constant.normalized_of_not_isNumber h)
  | same h htype => exact congrArg constant (Constant.normalized_of_type_eq htype)
  | cast h htype hcast => exact congrArg constant (Constant.normalized_of_type_eq rfl)

/-! ## All operands -/

theorem normalizeNumbers_of_none (h : numericTarget args = none) :
    normalizeNumbers args = args := by
  rw [normalizeNumbers, h]

theorem normalizeNumbers_of_some (h : numericTarget args = some t) :
    normalizeNumbers args = args.map (normalizedTo t) := by
  rw [normalizeNumbers, h]

theorem length_normalizeNumbers (args : List Expr) :
    (normalizeNumbers args).length = args.length := by
  cases h : numericTarget args with
  | none => rw [normalizeNumbers_of_none h]
  | some t => rw [normalizeNumbers_of_some h, List.length_map]

theorem forall₂_takesType (h : numericTarget args = some t) :
    Forall₂ (TakesType t) args (normalizeNumbers args) := by
  rw [normalizeNumbers_of_some h, List.forall₂_map_right_iff]
  exact List.forall₂_same.mpr fun e _ ↦ takesType_normalizedTo (isNumeric_of_numericTarget h) e

theorem numericTarget_normalizeNumbers (args : List Expr) :
    numericTarget (normalizeNumbers args) = numericTarget args := by
  cases h : numericTarget args with
  | none => rw [normalizeNumbers_of_none h, h]
  | some t =>
      rw [normalizeNumbers_of_some h, ← h]
      exact numericTarget_map (isConstant_normalizedTo t)
        (fun e he ↦ by rw [normalizedTo_of_not_isConstant he]) args

theorem normalizeNumbers_normalizeNumbers (args : List Expr) :
    normalizeNumbers (normalizeNumbers args) = normalizeNumbers args := by
  have htarget := numericTarget_normalizeNumbers args
  cases h : numericTarget args with
  | none => exact normalizeNumbers_of_none (htarget.trans h)
  | some t =>
      rw [normalizeNumbers_of_some (htarget.trans h), normalizeNumbers_of_some h, List.map_map]
      exact List.map_congr_left fun e _ ↦
        (takesType_normalizedTo (isNumeric_of_numericTarget h) e).normalizedTo_eq

/-- Nothing changes where each number has the type already. -/
theorem normalizeNumbers_eq_self_iff (h : numericTarget args = some t) :
    normalizeNumbers args = args ↔ ∀ c, constant c ∈ args → c.IsNumber → c.type = t := by
  have ht := isNumeric_of_numericTarget h
  have hkept : normalizeNumbers args = args ↔ ∀ e ∈ args, e.normalizedTo t = e := by
    rw [normalizeNumbers_of_some h]
    simpa using List.map_inj_left (f := normalizedTo t) (g := id) (l := args)
  rw [hkept]
  constructor
  · intro hall c hc hnumber
    by_contra hne
    obtain ⟨v, -, heq⟩ := Constant.exists_normalized_eq hnumber ht hne
    have hsame : c.normalized t = c := constant.inj (hall _ hc)
    exact hne (congrArg Constant.type (hsame.symm.trans heq))
  · intro htypes e he
    have htakes := takesType_normalizedTo ht e
    generalize e.normalizedTo t = e' at htakes ⊢
    cases htakes with
    | operand h | other h | same h htype => rfl
    | cast h htype hcast => exact absurd (htypes _ he h) htype

end Expr

/-! ## Renderings -/

/-- The operands that a numeric operation is written with are those of the changed list. -/
theorem Setup.normalizeNumbers_operands (s : Setup) (args : List Expr) :
    s.normalizeNumbers (s.operands args) = s.operands (Expr.normalizeNumbers args) := by
  unfold Setup.normalizeNumbers
  rw [Setup.map_expr_operands]
  cases h : Expr.numericTarget args with
  | none => rw [Expr.normalizeNumbers_of_none h]
  | some t =>
      rw [Expr.normalizeNumbers_of_some h, Setup.operands_eq_map, Setup.operands_eq_map]
      dsimp only
      rw [List.map_map, List.map_map]
      refine List.map_congr_left fun e _ ↦ ?_
      simp only [Function.comp_apply, Setup.expr_operand]
      cases e <;> rfl

namespace Expr

/-- Where no numeric operand stands beside the constants, the operands stay as they are. Otherwise
all numbers among the constants take the type of the first such operand, in their places, and
nothing else changes; the list stays as it is just where its numbers have that type already. A
second time nothing changes, and a rendering makes the same change of its operands. -/
theorem normalizeNumbers_settles (args : List Expr) :
    (normalizeNumbers args).length = args.length ∧
    ((∀ e ∈ args, ¬ e.SetsType) ∧ normalizeNumbers args = args ∨
      ∃ before e after, args = before ++ e :: after ∧ (∀ a ∈ before, ¬ a.SetsType) ∧ e.SetsType ∧
        Forall₂ (TakesType e.type) args (normalizeNumbers args) ∧
        (normalizeNumbers args = args ↔
          ∀ c, constant c ∈ args → c.IsNumber → c.type = e.type)) ∧
    normalizeNumbers (normalizeNumbers args) = normalizeNumbers args ∧
    ∀ s : Setup, s.normalizeNumbers (s.operands args) = s.operands (normalizeNumbers args) := by
  refine ⟨length_normalizeNumbers args, ?_, normalizeNumbers_normalizeNumbers args,
    fun s ↦ s.normalizeNumbers_operands args⟩
  cases h : numericTarget args with
  | none => exact .inl ⟨numericTarget_eq_none_iff.mp h, normalizeNumbers_of_none h⟩
  | some t =>
      obtain ⟨before, e, after, hargs, hbefore, hsets, rfl⟩ := numericTarget_eq_some_iff.mp h
      exact .inr ⟨before, e, after, hargs, hbefore, hsets, forall₂_takesType h,
        normalizeNumbers_eq_self_iff h⟩

/-- A null and a text at a numeric type stay beside a weight, and the age sets no type any more. -/
example :
    let weight : Expr := .path (.root .i32 "weight")
    let age : Expr := .path (.root .i8 "age")
    normalizeNumbers [constant ⟨.i64, .null⟩, .ofValue (.i64 (2 ^ 40)), weight,
        constant ⟨.f64, .string "1"⟩, age] =
      [constant ⟨.i64, .null⟩, .ofValue (.i32 (2 ^ 31 - 1)), weight,
        constant ⟨.f64, .string "1"⟩, age] := by
  rfl

end Expr

end TypedQuery
