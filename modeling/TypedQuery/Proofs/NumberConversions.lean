import TypedQuery.Expr.Factory

/-!
# Rows with converted numbers

A factory that converts numbers hands a row on in which every number has the type declared for its
slot: it is cast to a declared numeric type and becomes a truth value where one is declared. All
else stays as it is. A converted row has nothing left to convert, so that a second conversion to
the same types changes nothing.
-/

namespace TypedQuery

namespace Value

theorem isSome_binary64? (v : Value) : v.binary64?.isSome = v.valueType.isNumeric := by
  cases v with
  | list items => cases items <;> rfl
  | _ => rfl

theorem binary64?_eq_none {v : Value} (h : v.valueType.isNumeric = false) :
    v.binary64? = none := by
  rw [← isSome_binary64?, Option.isSome_eq_false_iff, Option.isNone_iff_eq_none] at h
  exact h

/-- A number has a value of every numeric type. -/
theorem exists_castNumeric_of_isNumeric {v : Value} (hv : v.valueType.isNumeric = true)
    {t : ValueType} (ht : t.isNumeric = true) :
    ∃ w, v.castNumeric t = some w ∧ w.valueType = t := by
  rw [← isSome_binary64?, Option.isSome_iff_exists] at hv
  obtain ⟨float, hfloat⟩ := hv
  unfold castNumeric
  rw [hfloat]
  cases t with
  | i8 | i16 | i32 | i64 | f32 | f64 => exact ⟨_, rfl, rfl⟩
  | _ => cases ht

theorem exists_numericToBool {v : Value} (hv : v.valueType.isNumeric = true) :
    ∃ b, v.numericToBool = some (bool b) := by
  rw [← isSome_binary64?, Option.isSome_iff_exists] at hv
  obtain ⟨float, hfloat⟩ := hv
  exact ⟨float.isPositive, by rw [numericToBool, hfloat]; rfl⟩

end Value

namespace Factory

/-! ## One slot -/

/-- Whether numbers are converted in a slot of a type. -/
def takesNumbers (t : ValueType) : Bool := t.isNumeric || t == .bool

/-- What becomes of a value in a slot, which may have a declared type. -/
structure ConvertsTo (declared : Option ValueType) (v w : Value) : Prop where
  /-- A number gets a declared numeric type, by a cast unless it has it already. -/
  number : ∀ t ∈ declared, t.isNumeric = true → v.valueType.isNumeric = true →
    w.valueType = t ∧ (if v.valueType = t then w = v else v.castNumeric t = some w)
  /-- A number becomes a truth value where one is declared. -/
  truthValue : declared = some .bool → v.valueType.isNumeric = true →
    v.numericToBool = some w ∧ ∃ b, w = .bool b
  /-- All else is left alone. -/
  unchanged : (v.valueType.isNumeric = false ∨ ∀ t ∈ declared, takesNumbers t = false) → w = v

theorem convert_bool (v : Value) : convert v .bool = v.numericToBool.getD v := rfl

theorem convert_of_ne_bool (v : Value) {t : ValueType} (ht : t ≠ .bool) :
    convert v t =
      (if t.isNumeric && v.valueType != t then v.castNumeric t else none).getD v := by
  unfold convert
  split
  · exact absurd rfl ht
  · rfl

/-- What is no number is left alone. -/
theorem convert_of_not_isNumeric {v : Value} (hv : v.valueType.isNumeric = false)
    (t : ValueType) : convert v t = v := by
  have hnone := Value.binary64?_eq_none hv
  by_cases ht : t = .bool
  · subst ht
    rw [convert_bool, Value.numericToBool, hnone]
    rfl
  · have hcast : v.castNumeric t = none := by
      unfold Value.castNumeric
      rw [hnone]
    rw [convert_of_ne_bool v ht, hcast, ite_self]
    rfl

/-- So is everything in a slot of another type. -/
theorem convert_of_not_takesNumbers (v : Value) {t : ValueType} (ht : takesNumbers t = false) :
    convert v t = v := by
  rw [takesNumbers, Bool.or_eq_false_iff, beq_eq_false_iff_ne] at ht
  rw [convert_of_ne_bool v ht.2, ht.1]
  rfl

theorem convert_of_valueType_eq {v : Value} {t : ValueType} (hv : v.valueType = t)
    (ht : t.isNumeric = true) : convert v t = v := by
  have hbool : t ≠ .bool := by
    rintro rfl
    cases ht
  have hsame : (v.valueType != t) = false := by simp [hv]
  rw [convert_of_ne_bool v hbool, hsame, Bool.and_false]
  rfl

theorem convertsTo_convert (v : Value) (t : ValueType) : ConvertsTo (some t) v (convert v t) where
  number := by
    rintro _ ⟨⟩ ht hv
    by_cases htype : v.valueType = t
    · rw [convert_of_valueType_eq htype ht, if_pos htype]
      exact ⟨htype, rfl⟩
    · obtain ⟨w, hcast, hw⟩ := Value.exists_castNumeric_of_isNumeric hv ht
      have hbool : t ≠ .bool := by
        rintro rfl
        cases ht
      have hother : (v.valueType != t) = true := by simpa using htype
      have hconvert : convert v t = w := by
        rw [convert_of_ne_bool v hbool, ht, hother, Bool.and_self, if_pos rfl, hcast]
        rfl
      rw [hconvert, if_neg htype]
      exact ⟨hw, hcast⟩
  truthValue := by
    rintro ⟨⟩ hv
    obtain ⟨b, hb⟩ := Value.exists_numericToBool hv
    rw [convert_bool, hb]
    exact ⟨rfl, b, rfl⟩
  unchanged := by
    rintro (hv | ht)
    · exact convert_of_not_isNumeric hv t
    · exact convert_of_not_takesNumbers v (ht t rfl)

theorem convertsTo_none (v : Value) : ConvertsTo none v v where
  number := by simp
  truthValue := by simp
  unchanged _ := rfl

/-- A converted value has nothing left to convert: it is a truth value, has the declared type, or
was left alone before. -/
theorem convert_convert (v : Value) (t : ValueType) : convert (convert v t) t = convert v t := by
  have hconverts := convertsTo_convert v t
  by_cases hv : v.valueType.isNumeric = true
  · by_cases ht : t.isNumeric = true
    · exact convert_of_valueType_eq (hconverts.number t rfl ht hv).1 ht
    · by_cases hbool : t = .bool
      · obtain ⟨-, b, hb⟩ := hconverts.truthValue (by rw [hbool]) hv
        rw [hb]
        exact convert_of_not_isNumeric rfl t
      · have htakes : takesNumbers t = false := by simp [takesNumbers, hbool, ht]
        rw [convert_of_not_takesNumbers _ htakes]
  · rw [Bool.not_eq_true] at hv
    rw [convert_of_not_isNumeric hv, convert_of_not_isNumeric hv]

/-! ## Rows -/

theorem length_convertRow (types : List ValueType) (row : List Value) :
    (convertRow types row).length = row.length := by
  induction row generalizing types with
  | nil => cases types <;> rfl
  | cons v row ih => cases types <;> simp [convertRow, ih]

theorem convertsTo_convertRow (types : List ValueType) (row : List Value) (i : Nat) :
    Option.Rel (ConvertsTo types[i]?) row[i]? (convertRow types row)[i]? := by
  induction row generalizing types i with
  | nil => cases types <;> simp [convertRow]
  | cons v row ih =>
      cases types with
      | nil =>
          cases hi : (v :: row)[i]? with
          | none => simp [convertRow, hi]
          | some w => simp [convertRow, hi, convertsTo_none]
      | cons t types =>
          cases i with
          | zero => simpa [convertRow] using convertsTo_convert v t
          | succ i => simpa [convertRow] using ih types i

theorem convertRow_convertRow (types : List ValueType) (row : List Value) :
    convertRow types (convertRow types row) = convertRow types row := by
  induction row generalizing types with
  | nil => cases types <;> rfl
  | cons v row ih =>
      cases types with
      | nil => rfl
      | cons t types => simp only [convertRow, convert_convert, ih]

/-- A factory hands its row on, slot by slot converted to the declared types: a function is called
with the converted row, and gives the result. Whatever the inner factory is, converting twice has
the result of converting once. -/
theorem newInstance_converting (types : List ValueType) (row : List Value) :
    ∃ converted : List Value, converted.length = row.length ∧
      (∀ i : Nat, Option.Rel (ConvertsTo types[i]?) row[i]? converted[i]?) ∧
      (∀ (name : String) (build : List Value → Except Error Value),
        (converting (.function name build) types).newInstance row = build converted) ∧
      ∀ inner : Factory,
        (converting inner types).newInstance row = inner.newInstance converted ∧
        (converting (converting inner types) types).newInstance row =
          (converting inner types).newInstance row := by
  refine ⟨convertRow types row, length_convertRow types row, convertsTo_convertRow types row,
    fun _ _ ↦ rfl, fun inner ↦ ⟨rfl, ?_⟩⟩
  simp only [newInstance, convertRow_convertRow]

/-- A row longer than its types, with a number for a truth value and one that is cut off. -/
example : (converting .tuple [.bool, .i32]).newInstance [.i64 1, .i64 (2 ^ 40), .i8 3] =
    .ok (.tuple [.bool true, .i32 (2 ^ 31 - 1), .i8 3]) := by
  rfl

end Factory

end TypedQuery
