import Mathlib.Tactic.NormNum
import TypedQuery.Proofs.Reading.Arithmetic

/-!
# Trees that are read with another value

A difference or a quotient whose right operand is on its own level is read as another tree. If no
atom occurs twice, its values and those of that tree can be told apart from outside: some assignment
gives the two different values.
-/

namespace TypedQuery

namespace Reading

namespace ArithOp

/-- What may stand behind an operator without a change. -/
def neutral : ArithOp → ℚ
  | add | sub => 0
  | mult | div => 1

@[simp] theorem result_neutral (op : ArithOp) (x : ℚ) : op.result x op.neutral = some x := by
  cases op <;> simp [result, neutral]

@[simp] theorem value_neutral (op : ArithOp) (x : Option ℚ) :
    op.value x (some op.neutral) = x := by
  cases x with
  | none => rfl
  | some x => exact op.result_neutral x

/-- Different values stay different behind an operator, unless they are zero. -/
theorem exists_result_neutral (op : ArithOp) {x y : ℚ} (hne : x ≠ y) (hx : x ≠ 0) (hy : y ≠ 0) :
    ∃ x' y', op.result op.neutral x = some x' ∧ op.result op.neutral y = some y' ∧ x' ≠ y' ∧
      x' ≠ 0 ∧ y' ≠ 0 := by
  cases op with
  | add => exact ⟨x, y, by simp [result, neutral], by simp [result, neutral], hne, hx, hy⟩
  | sub =>
      refine ⟨-x, -y, by simp [result, neutral], by simp [result, neutral], ?_, ?_, ?_⟩
      · exact fun h ↦ hne (neg_injective h)
      · exact neg_ne_zero.mpr hx
      · exact neg_ne_zero.mpr hy
  | mult => exact ⟨x, y, by simp [result, neutral], by simp [result, neutral], hne, hx, hy⟩
  | div =>
      refine ⟨x⁻¹, y⁻¹, by simp [result, neutral, hx], by simp [result, neutral, hy], ?_, ?_, ?_⟩
      · exact fun h ↦ hne (inv_injective h)
      · exact inv_ne_zero hx
      · exact inv_ne_zero hy

/-- Values for the operands of a difference or a quotient that is grouped in two ways. -/
theorem exists_result_ne (op o : ArithOp) (hop : op.isAssociative = false)
    (hlevel : o.isTight = op.isTight) :
    ∃ x y middle, o.result op.neutral 2 = some middle ∧ op.result 4 middle = some x ∧
      o.result 4 2 = some y ∧ x ≠ y ∧ x ≠ 0 ∧ y ≠ 0 := by
  match op, o with
  | sub, add => exact ⟨2, 6, 2, by norm_num [result, neutral]⟩
  | sub, sub => exact ⟨6, 2, -2, by norm_num [result, neutral]⟩
  | div, mult => exact ⟨2, 8, 2, by norm_num [result, neutral]⟩
  | div, div => exact ⟨8, 2, 1 / 2, by norm_num [result, neutral]⟩
  | sub, mult | sub, div | div, add | div, sub => exact absurd hlevel (by decide)
  | add, _ | mult, _ => exact absurd hop (by decide)

end ArithOp

/-! ## Assignments of some atoms -/

/-- Some values of the given atoms make a property of assignments true. -/
def Attainable (atoms : List String) (P : (String → ℚ) → Prop) : Prop :=
  ∃ chosen : String → ℚ, ∀ assignment, (∀ s ∈ atoms, assignment s = chosen s) → P assignment

namespace Attainable

variable {as bs : List String} {P Q : (String → ℚ) → Prop}

theorem mono (h : Attainable as P) (hPQ : ∀ assignment, P assignment → Q assignment) :
    Attainable as Q := by
  obtain ⟨chosen, hchosen⟩ := h
  exact ⟨chosen, fun assignment hagree ↦ hPQ _ (hchosen assignment hagree)⟩

theorem exists_assignment (h : Attainable as P) : ∃ assignment, P assignment := by
  obtain ⟨chosen, hchosen⟩ := h
  exact ⟨chosen, hchosen chosen fun _ _ ↦ rfl⟩

theorem both (hnodup : (as ++ bs).Nodup) (hP : Attainable as P) (hQ : Attainable bs Q) :
    Attainable (as ++ bs) fun assignment ↦ P assignment ∧ Q assignment := by
  obtain ⟨first, hfirst⟩ := hP
  obtain ⟨second, hsecond⟩ := hQ
  have hdisjoint := (List.nodup_append.mp hnodup).2.2
  refine ⟨fun s ↦ if s ∈ as then first s else second s, fun assignment hagree ↦ ⟨?_, ?_⟩⟩
  · refine hfirst assignment fun s hs ↦ ?_
    exact (hagree s (List.mem_append_left bs hs)).trans (if_pos hs)
  · refine hsecond assignment fun s hs ↦ ?_
    exact (hagree s (List.mem_append_right as hs)).trans
      (if_neg fun ha ↦ hdisjoint s ha s hs rfl)

end Attainable

/-! ## Two values of a tree -/

/-- A tree has one value and what it is read as another one. The latter counts behind an operator
that may take over first operands, or that is on another level. -/
structure Splits (free : ArithOp → Bool) (t : OpTree ArithOp String) (x y : ℚ)
    (assignment : String → ℚ) : Prop where
  value : t.value assignment = some x
  regrouped : (arithmetic.regroup t).value assignment = some y
  behind : ∀ op l, (free op || !arithmetic.isOnLevel op t) = true →
    (arithmetic.onto l op t).value assignment = op.value (l.value assignment) (some y)

namespace Splits

variable {free free' : ArithOp → Bool} {t l r r₁ r₂ : OpTree ArithOp String} {op o : ArithOp}
  {x y x₁ y₁ x₂ y₂ : ℚ} {assignment : String → ℚ}

theorem atom {s : String} (h : assignment s = x) : Splits free (.atom s) x x assignment where
  value := congrArg some h
  regrouped := congrArg some h
  behind op l _ := congrArg (fun z ↦ op.value (l.value assignment) (some z)) h

theorem unary (h : Splits free t x y assignment) :
    Splits free' (.unary t) (-x) (-y) assignment where
  value := congrArg (Option.map Neg.neg) h.value
  regrouped := congrArg (Option.map Neg.neg) h.regrouped
  behind op l _ :=
    congrArg (fun z ↦ op.value (l.value assignment) (Option.map Neg.neg z)) h.regrouped

theorem binary (hl : Splits free l x₁ y₁ assignment) (hr : Splits free' r x₂ y₂ assignment)
    (hright : (free' op || !arithmetic.isOnLevel op r) = true)
    (hvalue : op.result x₁ x₂ = some x) (hregrouped : op.result y₁ y₂ = some y)
    (hgroup : ∀ first z, free first = true → op.isTight = first.isTight →
      op.value (first.value z (some y₁)) (some y₂) = first.value z (op.result y₁ y₂)) :
    Splits free (.binary op l r) x y assignment := by
  have hself : (arithmetic.onto (arithmetic.regroup l) op r).value assignment = some y := by
    rw [hr.behind _ _ hright, hl.regrouped]
    exact hregrouped
  refine ⟨?_, hself, fun first z hfirst ↦ ?_⟩
  · have hoperands : (OpTree.binary op l r).value assignment =
        op.value (l.value assignment) (r.value assignment) := rfl
    rw [hoperands, hl.value, hr.value]
    exact hvalue
  · by_cases hlevel : op.isTight = first.isTight
    · have honto : arithmetic.onto z first (.binary op l r) =
          arithmetic.onto (arithmetic.onto z first l) op r := by
        rw [Grammar.onto]
        exact if_pos hlevel
      have hfree : free first = true := by
        simpa [Grammar.isOnLevel, arithmetic, hlevel] using hfirst
      rw [honto, hr.behind _ _ hright, hl.behind first z (by simp [hfree]),
        hgroup first _ hfree hlevel, hregrouped]
    · have honto : arithmetic.onto z first (.binary op l r) =
          .binary first z (arithmetic.onto (arithmetic.regroup l) op r) := by
        rw [Grammar.onto]
        exact if_neg hlevel
      rw [honto]
      exact congrArg (first.value (z.value assignment)) hself

theorem mono (h : Splits free t x y assignment) (hfree : ∀ op, free' op = true → free op = true) :
    Splits free' t x y assignment where
  value := h.value
  regrouped := h.regrouped
  behind op l hop := by
    refine h.behind op l ?_
    simp only [Bool.or_eq_true] at hop ⊢
    exact hop.imp_left (hfree op)

theorem binary_neutral (hl : Splits free l x y assignment)
    (hr : Splits (fun _ ↦ true) r op.neutral op.neutral assignment) :
    Splits free (.binary op l r) x y assignment :=
  hl.binary hr rfl (op.result_neutral x) (op.result_neutral y) fun first z _ _ ↦ by simp

/-- A difference or a quotient whose right operand is on its own level. -/
theorem misgrouped (hl : Splits (fun _ ↦ true) l 4 4 assignment)
    (h₁ : Splits (fun _ ↦ true) r₁ op.neutral op.neutral assignment)
    (h₂ : Splits (fun _ ↦ true) r₂ 2 2 assignment) (hlevel : o.isTight = op.isTight) {middle : ℚ}
    (hmiddle : o.result op.neutral 2 = some middle) (hx : op.result 4 middle = some x)
    (hy : o.result 4 2 = some y) :
    Splits ArithOp.isAssociative (.binary op l (.binary o r₁ r₂)) x y assignment := by
  have hfirst : Splits ArithOp.isAssociative (.binary op l r₁) 4 4 assignment :=
    (hl.mono fun _ _ ↦ rfl).binary_neutral h₁
  -- What is read is the rotated tree, in which the operators are grouped from the left.
  have hrotated : Splits ArithOp.isAssociative (.binary o (.binary op l r₁) r₂) y y assignment :=
    hfirst.binary h₂ rfl hy hy fun first z hfree hlevel ↦
      ArithOp.value_assoc first o hfree hlevel z (some 4) (some 2)
  refine ⟨?_, ?_, fun first z hop ↦ ?_⟩
  · have hoperands : (OpTree.binary op l (.binary o r₁ r₂)).value assignment =
        op.value (l.value assignment) (o.value (r₁.value assignment) (r₂.value assignment)) := rfl
    rw [hoperands, hl.value, h₁.value, h₂.value, ArithOp.value_some, hmiddle]
    exact hx
  · rw [Grammar.regroup_rotate hlevel]
    exact hrotated.regrouped
  · rw [Grammar.onto_rotate hlevel]
    refine hrotated.behind first z ?_
    have hsame : arithmetic.isOnLevel first (.binary o (.binary op l r₁) r₂) =
        arithmetic.isOnLevel first (.binary op l (.binary o r₁ r₂)) :=
      congrArg (· == first.isTight) hlevel
    rw [hsame]
    exact hop

end Splits

/-- A tree without repeated atoms can have any value, which is then read unchanged. -/
theorem attainable_splits {t : OpTree ArithOp String} (hnodup : t.atoms.Nodup) (x : ℚ) :
    Attainable t.atoms (Splits (fun _ ↦ true) t x x) := by
  induction t generalizing x with
  | atom s => exact ⟨fun _ ↦ x, fun assignment hagree ↦ .atom (hagree s (by simp [OpTree.atoms]))⟩
  | unary t ih =>
      refine (ih hnodup (-x)).mono fun assignment h ↦ ?_
      have hunary : Splits (fun _ ↦ true) (.unary t) (- -x) (- -x) assignment := h.unary
      rwa [neg_neg] at hunary
  | binary op l r ihl ihr =>
      have hl := ihl (List.nodup_append.mp hnodup).1 x
      have hr := ihr (List.nodup_append.mp hnodup).2.1 op.neutral
      exact (hl.both hnodup hr).mono fun _ h ↦ h.1.binary_neutral h.2

/-- A tree without repeated atoms that is grouped otherwise than it is read can have a value that is
read as another one. -/
theorem exists_attainable_splits {t : OpTree ArithOp String} (hnodup : t.atoms.Nodup)
    (hgroups : arithmetic.groupsFreely ArithOp.isAssociative t = false) :
    ∃ x y, x ≠ y ∧ x ≠ 0 ∧ y ≠ 0 ∧ Attainable t.atoms (Splits ArithOp.isAssociative t x y) := by
  induction t with
  | atom s => cases hgroups
  | unary t ih =>
      obtain ⟨x, y, hne, hx, hy, h⟩ := ih hnodup hgroups
      refine ⟨-x, -y, fun heq ↦ hne (neg_injective heq), neg_ne_zero.mpr hx, neg_ne_zero.mpr hy, ?_⟩
      exact h.mono fun _ hsplits ↦ hsplits.unary
  | binary op l r ihl ihr =>
      obtain ⟨hnodupl, hnodupr, _⟩ := List.nodup_append.mp hnodup
      -- Either this operation is grouped otherwise than it is read, or one of its operands is, and
      -- the other operand can be given a value that shows the difference.
      by_cases hhere : (op.isAssociative || !arithmetic.isOnLevel op r) = true
      · by_cases hleft : arithmetic.groupsFreely ArithOp.isAssociative l = true
        · have hright : arithmetic.groupsFreely ArithOp.isAssociative r = false := by
            simpa [Grammar.groupsFreely, hhere, hleft] using hgroups
          obtain ⟨x, y, hne, hx, hy, hr⟩ := ihr hnodupr hright
          obtain ⟨x', y', hx', hy', hresult⟩ := op.exists_result_neutral hne hx hy
          refine ⟨x', y', hresult.1, hresult.2.1, hresult.2.2, ?_⟩
          refine ((attainable_splits hnodupl op.neutral).both hnodup hr).mono fun assignment h ↦ ?_
          exact (h.1.mono fun _ _ ↦ rfl).binary h.2 hhere hx' hy' fun first z hfree hlevel ↦
            ArithOp.value_assoc first op hfree hlevel z _ _
        · obtain ⟨x, y, hne, hx, hy, hl⟩ := ihl hnodupl (by simpa using hleft)
          refine ⟨x, y, hne, hx, hy, ?_⟩
          exact (hl.both hnodup (attainable_splits hnodupr op.neutral)).mono fun _ h ↦
            h.1.binary_neutral h.2
      · simp only [Bool.or_eq_true, not_or, Bool.not_eq_true, Bool.not_eq_true',
          Bool.not_eq_false] at hhere
        obtain ⟨hop, hlevel⟩ := hhere
        cases r with
        | binary o r₁ r₂ =>
            have hlevel' : o.isTight = op.isTight := by
              simpa [Grammar.isOnLevel, arithmetic] using hlevel
            obtain ⟨x, y, middle, hmiddle, hx, hy, hne, hx0, hy0⟩ :=
              ArithOp.exists_result_ne op o hop hlevel'
            refine ⟨x, y, hne, hx0, hy0, ?_⟩
            obtain ⟨hnodup₁, hnodup₂, _⟩ := List.nodup_append.mp hnodupr
            have hr := (attainable_splits hnodup₁ op.neutral).both hnodupr
              (attainable_splits hnodup₂ 2)
            refine ((attainable_splits hnodupl 4).both hnodup hr).mono fun _ h ↦ ?_
            exact h.1.misgrouped h.2.1 h.2.2 hlevel' hmiddle hx hy
        | _ => cases hlevel

end Reading

end TypedQuery
