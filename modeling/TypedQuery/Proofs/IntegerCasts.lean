import TypedQuery.Proofs.NumberConversions
import TypedQuery.Proofs.NumericOperands

/-!
# Casts between integer types

A cast makes of an integer the number of the target type that is nearest to it. There is just one
such number, so that every law of casts is a law of nearest numbers: casts keep the order, a way
over a wider type has no effect, and a number that is brought to a wider type comes back unchanged.
-/

namespace TypedQuery

namespace IntegerType

variable {s t : IntegerType} {v w : Value} {n m x y : Int}

/-! ## Ranges -/

/-- The number of bits. -/
def width : IntegerType → Nat
  | i8 => 8
  | i16 => 16
  | i32 => 32
  | i64 => 64

theorem low_eq (t : IntegerType) : t.low = -(2 ^ (t.width - 1) : Nat) := by
  cases t <;> decide

theorem high_eq (t : IntegerType) : t.high = (2 ^ (t.width - 1) : Nat) - 1 := by
  cases t <;> decide

theorem power_le_power (h : s.width ≤ t.width) : 2 ^ (s.width - 1) ≤ 2 ^ (t.width - 1) :=
  Nat.pow_le_pow_right (by decide) (Nat.sub_le_sub_right h 1)

theorem low_le_low (h : s.width ≤ t.width) : t.low ≤ s.low := by
  rw [low_eq, low_eq]
  exact Int.neg_le_neg (Int.ofNat_le.mpr (power_le_power h))

theorem high_le_high (h : s.width ≤ t.width) : s.high ≤ t.high := by
  rw [high_eq, high_eq]
  exact Int.sub_le_sub_right (Int.ofNat_le.mpr (power_le_power h)) 1

/-! ## Nearest numbers -/

/-- A number of the type such that none is nearer to the given one. -/
structure Nearest (t : IntegerType) (n m : Int) : Prop where
  contains : t.Contains m
  closest : ∀ k, t.Contains k → (n - m).natAbs ≤ (n - k).natAbs

theorem nearest_clamp (t : IntegerType) (n : Int) : t.Nearest n (t.clamp n) where
  contains := t.contains_clamp n
  closest := by
    rintro k ⟨hlow, hhigh⟩
    rcases t.clamp_cases n with ⟨hn, hclamp⟩ | ⟨-, hclamp⟩ | ⟨hn, hclamp⟩ <;> rw [hclamp] <;> omega

/-- A range has no gaps, so that it never has two numbers that are equally near. -/
theorem nearest_iff : t.Nearest n m ↔ m = t.clamp n := by
  constructor
  · rintro ⟨⟨hlow, hhigh⟩, hclosest⟩
    have hclamp := hclosest _ (t.contains_clamp n)
    rcases t.clamp_cases n with ⟨hn, heq⟩ | ⟨-, heq⟩ | ⟨hn, heq⟩ <;> rw [heq] at hclamp ⊢ <;> omega
  · rintro rfl
    exact t.nearest_clamp n

theorem clamp_of_le_low (h : n ≤ t.low) : t.clamp n = t.low := by
  have hlt := t.low_lt_high
  unfold clamp Value.clamp
  omega

theorem clamp_of_high_le (h : t.high ≤ n) : t.clamp n = t.high := by
  have hlt := t.low_lt_high
  unfold clamp Value.clamp
  omega

/-- What a wider type cuts off is beyond the bounds of the narrower one. -/
theorem clamp_clamp (h : s.width ≤ t.width) (n : Int) : s.clamp (t.clamp n) = s.clamp n := by
  rcases t.clamp_cases n with ⟨hn, heq⟩ | ⟨-, heq⟩ | ⟨hn, heq⟩
  · have hlow := low_le_low h
    rw [heq, clamp_of_le_low hlow, clamp_of_le_low (Int.le_trans hn hlow)]
  · rw [heq]
  · have hhigh := high_le_high h
    rw [heq, clamp_of_high_le hhigh, clamp_of_high_le (Int.le_trans hhigh hn)]

/-! ## Values -/

/-- A number as a value of a type. -/
def value : IntegerType → Int → Value
  | i8, n => .i8 (.ofInt n)
  | i16, n => .i16 (.ofInt n)
  | i32, n => .i32 (.ofInt n)
  | i64, n => .i64 (.ofInt n)

theorem valueType_value (t : IntegerType) (n : Int) : (t.value n).valueType = t.type := by
  cases t <;> rfl

/-- An integer value is its number at its type, and the number is in the range of that type. -/
theorem exists_eq_value (hv : v.int? = some n) :
    ∃ t : IntegerType, t.Contains n ∧ v = t.value n := by
  cases v with
  | i8 x =>
      cases hv
      exact ⟨.i8, ⟨x.minValue_le_toInt, x.toInt_le⟩, congrArg Value.i8 x.ofInt_toInt.symm⟩
  | i16 x =>
      cases hv
      exact ⟨.i16, ⟨x.minValue_le_toInt, x.toInt_le⟩, congrArg Value.i16 x.ofInt_toInt.symm⟩
  | i32 x =>
      cases hv
      exact ⟨.i32, ⟨x.minValue_le_toInt, x.toInt_le⟩, congrArg Value.i32 x.ofInt_toInt.symm⟩
  | i64 x =>
      cases hv
      exact ⟨.i64, ⟨x.minValue_le_toInt, x.toInt_le⟩, congrArg Value.i64 x.ofInt_toInt.symm⟩
  | _ => cases hv

theorem exists_int? (htype : v.valueType = t.type) : ∃ n, v.int? = some n := by
  cases v with
  | i8 x | i16 x | i32 x | i64 x => exact ⟨_, rfl⟩
  | list items => cases items <;> cases t <;> cases htype
  | _ => cases t <;> cases htype

theorem isNumeric_valueType (hv : v.int? = some n) : v.valueType.isNumeric = true := by
  obtain ⟨t, -, rfl⟩ := exists_eq_value hv
  rw [valueType_value]
  exact t.isNumeric_type

theorem eq_of_int? (htype : v.valueType = w.valueType) (hv : v.int? = some n)
    (hw : w.int? = some n) : v = w := by
  obtain ⟨s, -, rfl⟩ := exists_eq_value hv
  obtain ⟨t, -, rfl⟩ := exists_eq_value hw
  rw [valueType_value, valueType_value] at htype
  rw [type_injective htype]

theorem contains_of_int? (htype : v.valueType = t.type) (hv : v.int? = some n) :
    t.Contains n := by
  obtain ⟨s, hn, rfl⟩ := exists_eq_value hv
  rw [valueType_value] at htype
  rwa [← type_injective htype]

/-! ## Casts -/

theorem exists_cast (t : IntegerType) (hv : v.int? = some n) :
    ∃ w, v.castNumeric t.type = some w ∧ w.valueType = t.type ∧ w.int? = some (t.clamp n) := by
  obtain ⟨w, hcast, hw⟩ := t.exists_castNumeric hv
  obtain ⟨w', hcast', htype⟩ :=
    Value.exists_castNumeric_of_isNumeric (isNumeric_valueType hv) t.isNumeric_type
  obtain rfl : w = w' := Option.some.inj (hcast.symm.trans hcast')
  exact ⟨w, hcast, htype, hw⟩

/-- A cast does not tell integer values apart that have nearest numbers in common. -/
theorem castNumeric_congr (hv : v.int? = some x) (hw : w.int? = some y)
    (h : t.clamp x = t.clamp y) : v.castNumeric t.type = w.castNumeric t.type := by
  obtain ⟨v', hcast, htype, hv'⟩ := t.exists_cast hv
  obtain ⟨w', hcast', htype', hw'⟩ := t.exists_cast hw
  rw [hcast, hcast', eq_of_int? (htype.trans htype'.symm) hv' (h ▸ hw')]

theorem castNumeric_self (htype : v.valueType = t.type) (hv : v.int? = some n) :
    v.castNumeric t.type = some v := by
  obtain ⟨w, hcast, htype', hw⟩ := t.exists_cast hv
  rw [clamp_eq (contains_of_int? htype hv)] at hw
  rw [hcast, eq_of_int? (htype'.trans htype.symm) hw hv]

/-- A cast of an integer value gives the nearest number of an integer type: the number itself where
the type has it, and otherwise the bound beyond which it lies. Larger numbers become no smaller
ones, a cast to a type at least as wide is undone by a cast back, and a cast before one to a type
that is not wider has no effect. -/
theorem castNumeric_saturates (s t : IntegerType) (v : Value) (htype : v.valueType = s.type) :
    ∃ n w m, v.int? = some n ∧
      v.castNumeric t.type = some w ∧ w.valueType = t.type ∧ w.int? = some m ∧
      (∀ k, t.Nearest n k ↔ k = m) ∧
      (t.Contains n → m = n) ∧ (n < t.low → m = t.low) ∧ (t.high < n → m = t.high) ∧
      (∀ (v' : Value) (n' : Int), v'.int? = some n' → n ≤ n' →
        ∃ w' m', v'.castNumeric t.type = some w' ∧ w'.int? = some m' ∧ m ≤ m') ∧
      (s.width ≤ t.width → w.castNumeric s.type = some v) ∧
      ∀ u : IntegerType, u.width ≤ t.width → w.castNumeric u.type = v.castNumeric u.type := by
  obtain ⟨n, hv⟩ := exists_int? htype
  obtain ⟨w, hcast, hwtype, hw⟩ := t.exists_cast hv
  have hcomposed : ∀ u : IntegerType, u.width ≤ t.width →
      w.castNumeric u.type = v.castNumeric u.type :=
    fun u hu ↦ castNumeric_congr hw hv (clamp_clamp hu n)
  refine ⟨n, w, t.clamp n, hv, hcast, hwtype, hw, fun k ↦ nearest_iff, clamp_eq,
    fun h ↦ clamp_of_le_low (Int.le_of_lt h), fun h ↦ clamp_of_high_le (Int.le_of_lt h), ?_, ?_,
    hcomposed⟩
  · intro v' n' hv' hle
    obtain ⟨w', hcast', -, hw'⟩ := t.exists_cast hv'
    exact ⟨w', t.clamp n', hcast', hw', clamp_le_iff.mpr (.inl hle)⟩
  · intro hwider
    rw [hcomposed s hwider]
    exact castNumeric_self htype hv

/-- The least positive integer that no floating-point value of eight bytes is equal to, one more
than the fifty-third power of two. -/
def oddInteger : Value := .i64 9007199254740993

/-- It stays odd among integers of eight bytes, is cut off among those of four, and then becomes the
byte that it also becomes at once. -/
theorem castNumeric_oddInteger :
    oddInteger.valueType = i64.type ∧
      (∃ w, oddInteger.castNumeric i64.type = some w ∧ w.int? = some 9007199254740993) ∧
      ∃ w, oddInteger.castNumeric i32.type = some w ∧ w.int? = some 2147483647 ∧
        w.castNumeric i8.type = oddInteger.castNumeric i8.type := by
  have hint : oddInteger.int? = some 9007199254740993 := by decide
  refine ⟨rfl, ?_, ?_⟩
  · obtain ⟨n, w, m, hn, hcast, -, hm, -, hfits, -⟩ :=
      castNumeric_saturates .i64 .i64 oddInteger rfl
    obtain rfl : 9007199254740993 = n := Option.some.inj (hint.symm.trans hn)
    rw [hfits ⟨by decide, by decide⟩] at hm
    exact ⟨w, hcast, hm⟩
  · obtain ⟨n, w, m, hn, hcast, -, hm, -, -, -, hcut, -, -, hnarrow⟩ :=
      castNumeric_saturates .i64 .i32 oddInteger rfl
    obtain rfl : 9007199254740993 = n := Option.some.inj (hint.symm.trans hn)
    rw [hcut (by decide)] at hm
    exact ⟨w, hcast, hm, hnarrow .i8 (by decide)⟩

end IntegerType

end TypedQuery
