import TypedQuery.Proofs.NormalizedConstants

/-!
# Comparisons with integer constants

The constants of a comparison are bound at the type of the path they are compared with. A constant
beyond the range of that type becomes the nearest bound of it. Two numbers that lie beyond the same
bound are then no longer told apart, and nothing else changes.
-/

namespace TypedQuery

/-! ## Integer types -/

inductive IntegerType
  | i8
  | i16
  | i32
  | i64
deriving DecidableEq

namespace IntegerType

def type : IntegerType → ValueType
  | i8 => .i8
  | i16 => .i16
  | i32 => .i32
  | i64 => .i64

def low : IntegerType → Int
  | i8 => Int8.minValue.toInt
  | i16 => Int16.minValue.toInt
  | i32 => Int32.minValue.toInt
  | i64 => Int64.minValue.toInt

def high : IntegerType → Int
  | i8 => Int8.maxValue.toInt
  | i16 => Int16.maxValue.toInt
  | i32 => Int32.maxValue.toInt
  | i64 => Int64.maxValue.toInt

def Contains (t : IntegerType) (n : Int) : Prop := t.low ≤ n ∧ n ≤ t.high

def clamp (t : IntegerType) (n : Int) : Int := Value.clamp t.low t.high n

/-- The smaller of two numbers becomes equal to the larger one: both lie at or beyond one bound. -/
def Merges (t : IntegerType) (x y : Int) : Prop := x < y ∧ (t.high ≤ x ∨ y ≤ t.low)

variable {t : IntegerType} {x y n : Int}

theorem low_lt_high (t : IntegerType) : t.low < t.high := by
  cases t <;> decide

theorem type_injective {t t' : IntegerType} (h : t.type = t'.type) : t = t' := by
  cases t <;> cases t' <;> first | rfl | cases h

theorem isNumeric_type (t : IntegerType) : t.type.isNumeric = true := by
  cases t <;> rfl

theorem contains_clamp (t : IntegerType) (n : Int) : t.Contains (t.clamp n) := by
  have hlt := t.low_lt_high
  unfold Contains clamp Value.clamp
  omega

theorem clamp_eq (h : t.Contains n) : t.clamp n = n := by
  obtain ⟨hlow, hhigh⟩ := h
  unfold clamp Value.clamp
  omega

theorem clamp_cases (t : IntegerType) (n : Int) :
    n ≤ t.low ∧ t.clamp n = t.low ∨ t.Contains n ∧ t.clamp n = n ∨
      t.high ≤ n ∧ t.clamp n = t.high := by
  have hlt := t.low_lt_high
  unfold Contains clamp Value.clamp
  rcases Int.le_total n t.low with hlow | hlow
  · exact .inl ⟨hlow, by omega⟩
  · rcases Int.le_total n t.high with hhigh | hhigh
    · exact .inr (.inl ⟨⟨hlow, hhigh⟩, by omega⟩)
    · exact .inr (.inr ⟨hhigh, by omega⟩)

theorem clamp_lt_iff : t.clamp x < t.clamp y ↔ x < y ∧ ¬ t.Merges x y := by
  have hlt := t.low_lt_high
  unfold Merges
  rcases t.clamp_cases x with ⟨hx, hcx⟩ | ⟨⟨hx, hx'⟩, hcx⟩ | ⟨hx, hcx⟩ <;>
    rcases t.clamp_cases y with ⟨hy, hcy⟩ | ⟨⟨hy, hy'⟩, hcy⟩ | ⟨hy, hcy⟩ <;>
    omega

theorem clamp_le_iff : t.clamp x ≤ t.clamp y ↔ x ≤ y ∨ t.Merges y x := by
  rw [← Int.not_lt, clamp_lt_iff, ← Int.not_lt]
  by_cases h : t.Merges y x <;> simp [h]

/-- A number of the range merges with larger ones just at the upper bound. -/
theorem merges_left_iff (hx : t.Contains x) : t.Merges x y ↔ x = t.high ∧ t.high < y := by
  obtain ⟨hlow, hhigh⟩ := hx
  unfold Merges
  omega

/-- A number of the range merges with smaller ones just at the lower bound. -/
theorem merges_right_iff (hy : t.Contains y) : t.Merges x y ↔ y = t.low ∧ x < t.low := by
  obtain ⟨hlow, hhigh⟩ := hy
  unfold Merges
  omega

theorem exists_castNumeric {v : Value} (t : IntegerType) (hv : v.int? = some n) :
    ∃ w, v.castNumeric t.type = some w ∧ w.int? = some (t.clamp n) := by
  obtain ⟨float, hfloat⟩ : ∃ float, v.binary64? = some float := by
    cases v <;> first | exact ⟨_, rfl⟩ | cases hv
  obtain ⟨hlow, hhigh⟩ := t.contains_clamp n
  have hsaturated : Value.saturated t.low t.high v float = t.clamp n := by
    unfold Value.saturated
    rw [hv]
    rfl
  unfold Value.castNumeric
  rw [hfloat]
  cases t <;> refine ⟨_, rfl, congrArg some ?_⟩
  · exact (congrArg (fun n ↦ (Int8.ofInt n).toInt) hsaturated).trans
      (Int8.toInt_ofInt_of_le hlow (Int.lt_of_le_sub_one hhigh))
  · exact (congrArg (fun n ↦ (Int16.ofInt n).toInt) hsaturated).trans
      (Int16.toInt_ofInt_of_le hlow (Int.lt_of_le_sub_one hhigh))
  · exact (congrArg (fun n ↦ (Int32.ofInt n).toInt) hsaturated).trans
      (Int32.toInt_ofInt_of_le hlow (Int.lt_of_le_sub_one hhigh))
  · exact (congrArg (fun n ↦ (Int64.ofInt n).toInt) hsaturated).trans
      (Int64.toInt_ofInt_of_le hlow (Int.lt_of_le_sub_one hhigh))

end IntegerType

/-! ## Integer constants -/

namespace Constant

/-- The number of an integer constant. -/
def int (c : Constant) : Int := c.value.int?.getD 0

/-- A constant of an integer type with a number of its range. -/
def IsInteger (c : Constant) : Prop :=
  ∃ t : IntegerType, c.type = t.type ∧ c.value.int? = some c.int ∧ t.Contains c.int

/-- A constant bound at another integer type is the nearest number of that type. -/
theorem normalized_int {c : Constant} (h : c.IsInteger) (t : IntegerType) :
    (c.normalized t.type).value.int? = some (t.clamp c.int) ∧
      (c.normalized t.type).type = t.type := by
  obtain ⟨t', htype, hint, hrange⟩ := h
  obtain ⟨w, hcast, hw⟩ := t.exists_castNumeric hint
  unfold normalized
  have hnumeric := t'.isNumeric_type
  by_cases hsame : t' = t
  · subst hsame
    rw [if_neg (by simp [htype]), t'.clamp_eq hrange]
    exact ⟨hint, htype⟩
  · have hne : t'.type ≠ t.type := fun h ↦ hsame (IntegerType.type_injective h)
    rw [if_pos (by simpa [hnumeric, htype] using hne), hcast]
    exact ⟨hw, rfl⟩

theorem render_of_int? (s : Setup) {c : Constant} {n : Int} (h : c.value.int? = some n) :
    (s.operand (.constant c)).render = .placeholder c.type (.value c.value) := by
  obtain ⟨type, v⟩ := c
  cases v <;> first | rfl | cases h

end Constant

/-! ## Comparisons -/

inductive Comparison (α : Type)
  | lt (x y : α)
  | loe (x y : α)
  | gt (x y : α)
  | goe (x y : α)
  | between (x low high : α)

namespace Comparison

variable {α β γ : Type}

def map (f : α → β) : Comparison α → Comparison β
  | lt x y => lt (f x) (f y)
  | loe x y => loe (f x) (f y)
  | gt x y => gt (f x) (f y)
  | goe x y => goe (f x) (f y)
  | between x low high => between (f x) (f low) (f high)

def op : Comparison α → Op
  | lt .. => .lt
  | loe .. => .loe
  | gt .. => .gt
  | goe .. => .goe
  | between .. => .between

def operands : Comparison α → List α
  | lt x y | loe x y | gt x y | goe x y => [x, y]
  | between x low high => [x, low, high]

def Holds : Comparison Int → Prop
  | lt x y => x < y
  | loe x y => x ≤ y
  | gt x y => y < x
  | goe x y => y ≤ x
  | between x low high => low ≤ x ∧ x ≤ high

/-- Numbers that the comparison has to tell apart lie beyond one bound of a type. -/
def Strays (t : IntegerType) : Comparison Int → Prop
  | lt x y | goe x y => t.Merges x y
  | loe x y | gt x y => t.Merges y x
  | between x low high =>
      t.Merges x low ∧ t.clamp x ≤ t.clamp high ∨ t.Merges high x ∧ t.clamp low ≤ t.clamp x

@[simp] theorem op_map (f : α → β) (c : Comparison α) : (c.map f).op = c.op := by
  cases c <;> rfl

@[simp] theorem operands_map (f : α → β) (c : Comparison α) :
    (c.map f).operands = c.operands.map f := by
  cases c <;> rfl

theorem map_map (f : α → β) (g : β → γ) (c : Comparison α) :
    (c.map f).map g = c.map (g ∘ f) := by
  cases c <;> rfl

theorem map_congr {f g : α → β} {c : Comparison α} (h : ∀ a ∈ c.operands, f a = g a) :
    c.map f = c.map g := by
  cases c <;> simp_all [map, operands]

/-- Clamping the numbers of a comparison changes its truth value just when it strays. -/
theorem holds_clamp_iff (t : IntegerType) (c : Comparison Int) :
    ((c.map t.clamp).Holds ↔ c.Holds) ↔ ¬ c.Strays t := by
  have hlt : ∀ {x y}, t.Merges x y → x < y := fun h ↦ h.1
  have hle : ∀ {x y}, t.Merges x y → ¬ y ≤ x := fun h ↦ Int.not_le.mpr h.1
  cases c with
  | lt x y =>
      simp only [map, Holds, Strays, IntegerType.clamp_lt_iff]
      have hxy := @hlt x y
      tauto
  | gt x y =>
      simp only [map, Holds, Strays, IntegerType.clamp_lt_iff]
      have hyx := @hlt y x
      tauto
  | loe x y =>
      simp only [map, Holds, Strays, IntegerType.clamp_le_iff]
      have hyx := @hle y x
      tauto
  | goe x y =>
      simp only [map, Holds, Strays, IntegerType.clamp_le_iff]
      have hxy := @hle x y
      tauto
  | between x low high =>
      simp only [map, Holds, Strays, IntegerType.clamp_le_iff]
      have hxl := @hle x low
      have hhx := @hle high x
      tauto

/-! ## Comparisons of a path -/

/-- An operand of a comparison of a path: the path itself, or a constant. -/
def operandExpr (p : Path) : Option Constant → Expr
  | none => .path p
  | some k => .constant k

def expr (type : ValueType) (p : Path) (c : Comparison (Option Constant)) : Expr :=
  .operation type (.op c.op) (c.operands.map (operandExpr p))

/-- The comparison with the constants that are bound for it. -/
def bound (t : IntegerType) (c : Comparison (Option Constant)) : Comparison (Option Constant) :=
  c.map (Option.map (Constant.normalized t.type))

/-- The number of an operand where the path has a value. -/
def number (v : Int) : Option Constant → Int
  | none => v
  | some k => k.int

def HoldsAt (v : Int) (c : Comparison (Option Constant)) : Prop := (c.map (number v)).Holds

def StraysAt (t : IntegerType) (v : Int) (c : Comparison (Option Constant)) : Prop :=
  (c.map (number v)).Strays t

variable {t : IntegerType} {p : Path} {c : Comparison (Option Constant)} {v : Int}

theorem numericTarget_operands {os : List (Option Constant)} (hpath : none ∈ os)
    (hp : p.type = t.type) : Expr.numericTarget (os.map (operandExpr p)) = some t.type := by
  have hnumeric : p.type.isNumeric = true := hp ▸ t.isNumeric_type
  have hfind : (os.map (operandExpr p)).find? (fun e ↦ !e.isConstant && e.type.isNumeric) =
      some (.path p) := by
    induction os with
    | nil => cases hpath
    | cons o os ih =>
        rw [List.map_cons, List.find?_cons]
        cases o with
        | none => simp [operandExpr, Expr.isConstant, Expr.type, hnumeric]
        | some k => simpa [operandExpr, Expr.isConstant] using ih (by simpa using hpath)
  rw [Expr.numericTarget, hfind, Option.map_some, ← hp]
  rfl

/-- A comparison of a path is rendered with its constants at the type of the path. -/
theorem render_expr (s : Setup) (type : ValueType) (hpath : none ∈ c.operands)
    (hp : p.type = t.type) :
    (s.operand (c.expr type p)).render = s.inside c.op (s.plain (.op c.op)
      ((c.bound t).operands.map fun o ↦ s.operand (operandExpr p o))) := by
  -- neither family rewrites a comparison
  have hunchanged : (s.operand (c.expr type p)).render =
      s.inside c.op (s.unchanged c.op ((c.operands.map (operandExpr p)).map s.operand)) := by
    change s.operationRendering (.op c.op) (s.operands (c.operands.map (operandExpr p))) = _
    rw [Setup.operands_eq_map]
    unfold Setup.operationRendering
    cases s.profile.family <;> cases c <;> rfl
  have hnumeric : c.op.isNumeric = true := by
    cases c <;> rfl
  rw [hunchanged, Setup.unchanged, if_pos hnumeric, ← Setup.operands_eq_map,
    Setup.normalizeNumbers_operands,
    Expr.normalizeNumbers_of_some (numericTarget_operands hpath hp), bound, operands_map,
    Setup.operands_eq_map, List.map_map, List.map_map, List.map_map]
  congr 2
  refine List.map_congr_left fun o _ ↦ ?_
  cases o <;> rfl

theorem number_bound (hv : t.Contains v) {o : Option Constant}
    (ho : ∀ k, o = some k → k.IsInteger) :
    number v (o.map (Constant.normalized t.type)) = t.clamp (number v o) := by
  cases o with
  | none => exact (t.clamp_eq hv).symm
  | some k =>
      obtain ⟨hint, _⟩ := Constant.normalized_int (ho k rfl) t
      change (k.normalized t.type).int = t.clamp k.int
      rw [Constant.int, hint]
      rfl

/-- In every dialect a comparison of a path of an integer type with integer constants is written
with each constant replaced by the nearest number of that type. It keeps its truth value on a row
exactly where it strays beyond neither bound of the type. -/
theorem bound_holdsAt_iff (s : Setup) (type : ValueType) (t : IntegerType) (p : Path)
    (hp : p.type = t.type) (c : Comparison (Option Constant)) (hpath : none ∈ c.operands)
    (hconstants : ∀ k, some k ∈ c.operands → k.IsInteger) :
    (s.operand (c.expr type p)).render = s.inside c.op (s.plain (.op c.op)
        ((c.bound t).operands.map fun o ↦ s.operand (operandExpr p o))) ∧
      (∀ k, some k ∈ (c.bound t).operands →
        (s.operand (.constant k)).render = .placeholder t.type (.value k.value)) ∧
      ∀ v, t.Contains v → (((c.bound t).HoldsAt v ↔ c.HoldsAt v) ↔ ¬ c.StraysAt t v) := by
  refine ⟨render_expr s type hpath hp, fun k hk ↦ ?_, fun v hv ↦ ?_⟩
  · rw [bound, operands_map, List.mem_map] at hk
    obtain ⟨o, ho, hk⟩ := hk
    obtain ⟨k, rfl, rfl⟩ := Option.map_eq_some_iff.mp hk
    obtain ⟨hint, htype⟩ := Constant.normalized_int (hconstants k ho) t
    rw [Constant.render_of_int? s hint, htype]
  · have hmap : (c.bound t).map (number v) = (c.map (number v)).map t.clamp := by
      rw [bound, map_map, map_map]
      refine map_congr fun o ho ↦ number_bound hv ?_
      rintro k rfl
      exact hconstants k ho
    unfold HoldsAt StraysAt
    rw [hmap]
    exact holds_clamp_iff t _

/-! ### An example -/

def catAge : Path := .property .i8 (.entity "Cat" "cat") "age"

/-- An age from three to three hundred. -/
def ageBetween : Comparison (Option Constant) :=
  .between none (some (.ofValue (.i64 3))) (some (.ofValue (.i64 300)))

theorem isInteger_ageBetween {k : Constant} (h : some k ∈ ageBetween.operands) :
    k.IsInteger := by
  simp only [ageBetween, operands, List.mem_cons, reduceCtorEq, Option.some.injEq, false_or,
    List.not_mem_nil, or_false] at h
  rcases h with rfl | rfl
  · exact ⟨.i64, rfl, rfl, by decide, by decide⟩
  · exact ⟨.i64, rfl, rfl, by decide, by decide⟩

/-- No age of eight bits is beyond three hundred, so that bound may be cut off. -/
theorem ageBetween_keeps :
    ∃ d : Dialect, ("h2", Except.ok d) ∈ Dialect.known ∧
      let s : Setup := { profile := d.toProfile }
      catAge.type = IntegerType.i8.type ∧ none ∈ ageBetween.operands ∧
        (∀ k, some k ∈ ageBetween.operands → k.IsInteger) ∧
        (s.operand (ageBetween.expr .bool catAge)).render =
          s.inside .between (s.plain (.op .between)
            ((ageBetween.bound .i8).operands.map fun o ↦ s.operand (operandExpr catAge o))) ∧
        ∀ v, IntegerType.i8.Contains v →
          ((ageBetween.bound .i8).HoldsAt v ↔ ageBetween.HoldsAt v) := by
  obtain ⟨d, hknown, _⟩ := Dialect.exists_h2
  have hpath : none ∈ ageBetween.operands := List.mem_cons_self
  obtain ⟨hrender, _, hholds⟩ := bound_holdsAt_iff { profile := d.toProfile } .bool .i8 catAge
    rfl ageBetween hpath fun k hk ↦ isInteger_ageBetween hk
  refine ⟨d, hknown, rfl, hpath, fun k hk ↦ isInteger_ageBetween hk, hrender, fun v hv ↦ ?_⟩
  apply (hholds v hv).mpr
  have hlow : ¬ IntegerType.i8.Merges v 3 := by
    rw [IntegerType.merges_left_iff hv]
    exact fun h ↦ absurd h.2 (by decide)
  have hhigh : ¬ IntegerType.i8.Merges 300 v := by
    rw [IntegerType.merges_right_iff hv]
    exact fun h ↦ absurd h.2 (by decide)
  rintro (⟨h, _⟩ | ⟨h, _⟩)
  · exact hlow h
  · exact hhigh h

def ageBelow : Comparison (Option Constant) := .lt none (some (.ofValue (.i32 200)))

/-- The largest age of eight bits is less than two hundred, but not less than the bound constant. -/
theorem ageBelow_loses :
    ageBelow.bound .i8 = .lt none (some ⟨.i8, .i8 127⟩) ∧ IntegerType.i8.Contains 127 ∧
      ageBelow.HoldsAt 127 ∧ ¬ (ageBelow.bound .i8).HoldsAt 127 := by
  have hbound : ageBelow.bound .i8 = .lt none (some ⟨.i8, .i8 127⟩) := rfl
  refine ⟨hbound, ⟨by decide, by decide⟩, ?_, ?_⟩
  · change (127 : Int) < 200
    decide
  · rw [hbound]
    change ¬ (127 : Int) < 127
    decide

end Comparison

end TypedQuery
