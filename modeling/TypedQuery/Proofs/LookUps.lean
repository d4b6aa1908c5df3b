import TypedQuery.Proofs.Registration
import TypedQuery.Registry.Calls

/-!
# Look-up after a history of calls

The layers of a registry do not show in its look-ups: whatever calls built it, an operator is found
as its last registration has it, and what failed has left no trace.
-/

namespace TypedQuery

namespace RegistryCall

/-- A registration gives back the registry with the entry that its pattern is read as. -/
theorem apply_of_registration {call : RegistryCall} {g : Registration}
    (h : call.registration? = some g) (r : Registry) :
    call.apply r = g.entry.map (r.insert g.operator) := by
  have hread : ∀ (arity : Option Arity) (pattern : String) (operator : Operator)
      (entryOf : Template → TemplateEntry),
      (do pure (r.insert operator (entryOf (← Registry.readFor arity pattern)))) =
        ((Registry.readFor arity pattern).map entryOf).map (r.insert operator) := by
    intro arity pattern operator entryOf
    cases Registry.readFor arity pattern <;> rfl
  cases call with
  | layer name => cases h
  | register operator pattern | registerWith operator pattern precedence =>
      obtain rfl := Option.some.inj h
      rw [Registration.entry, Registration.declaredArity, Option.or_none]
      exact hread operator.arity pattern operator _
  | registerCustom name arity pattern precedence =>
      obtain rfl := Option.some.inj h
      exact hread (some arity) pattern (.custom name) _

theorem edit_of_registration {call : RegistryCall} {g : Registration}
    (h : call.registration? = some g) :
    call.edit = .enter g.operator g.declaredArity g.pattern g.precedence g.arity := by
  cases call with
  | layer name => cases h
  | register operator pattern | registerWith operator pattern precedence =>
      obtain rfl := Option.some.inj h
      rw [Registration.declaredArity, Option.or_none]
      rfl
  | registerCustom name arity pattern precedence =>
      obtain rfl := Option.some.inj h
      rfl

end RegistryCall

namespace Registry

variable {r : Registry} {calls : List RegistryCall} {done : List Registration}

/-! ## One call -/

/-- A pattern is read and checked before the first change. -/
theorem run_enter (r : Registry) (operator : Operator) (checked : Option Arity) (pattern : String)
    (precedence : Int) (arity : Option Arity) :
    Id.run ((RegistryEdit.enter operator checked pattern precedence arity).run.run r) =
      match readFor checked pattern with
      | .ok t => (.ok (), r.insert operator ⟨t, precedence, arity⟩)
      | .error e => (.error e, r) := by
  unfold RegistryEdit.enter readFor
  cases Template.parse pattern with
  | error e => rfl
  | ok t =>
      have hedit : ∀ next : Template → RegistryEdit Unit,
          (do next (← (Except.ok t : Except Error Template))) = next t := fun _ ↦ rfl
      have hread : ∀ next : Template → Except Error Template,
          (do next (← Except.ok t)) = next t := fun _ ↦ rfl
      rw [hedit, hread]
      split <;> rfl

theorem outcome_of_registration {call : RegistryCall} {g : Registration}
    (h : call.registration? = some g) (r : Registry) :
    r.outcome call =
      match g.entry with
      | .ok e => (.ok (), r.insert g.operator e)
      | .error e => (.error e, r) := by
  rw [outcome, RegistryCall.edit_of_registration h, run_enter, Registration.entry]
  cases readFor g.declaredArity g.pattern <;> rfl

/-- A call changes the registry in place to what it gives back, or fails without a change. -/
theorem outcome_eq (r : Registry) (call : RegistryCall) :
    r.outcome call =
      match call.apply r with
      | .ok r' => (.ok (), r')
      | .error e => (.error e, r) := by
  cases hg : call.registration? with
  | none =>
      cases call with
      | layer name => rfl
      | _ => cases hg
  | some g =>
      rw [outcome_of_registration hg, RegistryCall.apply_of_registration hg]
      cases g.entry <;> rfl

/-- A call starts a layer, makes a registration, or fails without a trace. -/
theorem after_cases (r : Registry) (call : RegistryCall) :
    (∃ name, r.made? call = none ∧ r.after call = r.layer name) ∨
      (∃ g e, r.made? call = some g ∧ g.entry = .ok e ∧ r.after call = r.insert g.operator e) ∨
      (r.made? call = none ∧ r.after call = r) := by
  cases hg : call.registration? with
  | none =>
      cases call with
      | layer name => exact .inl ⟨name, rfl, rfl⟩
      | _ => cases hg
  | some g =>
      have houtcome := outcome_of_registration hg r
      cases he : g.entry with
      | error e =>
          rw [he] at houtcome
          exact .inr (.inr ⟨by rw [made?, houtcome]; rfl, by rw [after, houtcome]⟩)
      | ok e =>
          rw [he] at houtcome
          exact .inr (.inl ⟨g, e, by rw [made?, houtcome, hg]; rfl, he, by rw [after, houtcome]⟩)

/-- A call that fails leaves the registry as it was. -/
theorem after_of_error {call : RegistryCall} {e : Error} (h : (r.outcome call).1 = .error e) :
    r.after call = r := by
  rw [outcome_eq] at h
  rw [after, outcome_eq]
  cases happly : call.apply r with
  | error e' => rfl
  | ok r' =>
      rw [happly] at h
      cases h

/-! ## Histories -/

/-- The last one of some registrations that is for an operator. -/
def lastOf (operator : Operator) (done : List Registration) : Option Registration :=
  done.reverse.find? (·.operator == operator)

theorem lastOf_snoc (operator : Operator) (done : List Registration) (g : Registration) :
    lastOf operator (done ++ [g]) =
      if g.operator = operator then some g else lastOf operator done := by
  by_cases h : g.operator = operator <;> simp [lastOf, h]

theorem lastOf_eq_none_iff {operator : Operator} :
    lastOf operator done = none ↔ ∀ g ∈ done, g.operator ≠ operator := by
  simp [lastOf]

/-- A registry that looks each operator up as the last one of some registrations has it. -/
structure Recalls (r : Registry) (done : List Registration) : Prop where
  none (operator : Operator) (h : lastOf operator done = none) : r.get? operator = none
  some (operator : Operator) (g : Registration) (h : lastOf operator done = some g) :
    ∃ e, g.entry = .ok e ∧ r.get? operator = some e

theorem recalls_empty : empty.Recalls [] where
  none _ _ := rfl
  some _ _ h := nomatch h

theorem Recalls.insert (h : r.Recalls done) {g : Registration} {e : TemplateEntry}
    (he : g.entry = .ok e) : (r.insert g.operator e).Recalls (done ++ [g]) := by
  refine ⟨fun operator hlast ↦ ?_, fun operator g' hlast ↦ ?_⟩ <;>
    rw [lastOf_snoc] at hlast <;> split at hlast
  · cases hlast
  · rename_i hne
    rw [get?_insert_of_ne r (Ne.symm hne)]
    exact h.none operator hlast
  · rename_i heq
    obtain rfl := Option.some.inj hlast
    exact ⟨e, he, heq ▸ get?_insert_self r g.operator e⟩
  · rename_i hne
    rw [get?_insert_of_ne r (Ne.symm hne)]
    exact h.some operator g' hlast

theorem Recalls.after (h : r.Recalls done) (call : RegistryCall) :
    (r.after call).Recalls (done ++ (r.made? call).toList) := by
  obtain ⟨name, hmade, hafter⟩ | ⟨g, e, hmade, he, hafter⟩ | ⟨hmade, hafter⟩ := after_cases r call
  · rw [hmade, hafter, Option.toList_none, List.append_nil]
    refine ⟨fun operator hlast ↦ ?_, fun operator g hlast ↦ ?_⟩ <;> rw [get?_layer]
    · exact h.none operator hlast
    · exact h.some operator g hlast
  · rw [hmade, hafter]
    exact h.insert he
  · rw [hmade, hafter, Option.toList_none, List.append_nil]
    exact h

theorem Recalls.afterAll (h : r.Recalls done) (calls : List RegistryCall) :
    (r.afterAll calls).Recalls (done ++ r.made calls) := by
  induction calls generalizing r done with
  | nil => rwa [made, List.append_nil]
  | cons call calls ih =>
      rw [made, ← List.append_assoc]
      exact ih (h.after call)

theorem recalls_afterAll (calls : List RegistryCall) :
    (empty.afterAll calls).Recalls (empty.made calls) :=
  recalls_empty.afterAll calls

theorem Recalls.exists_of_get? (h : r.Recalls done) {operator : Operator} {e : TemplateEntry}
    (hget : r.get? operator = .some e) : ∃ g ∈ done, g.operator = operator ∧ g.entry = .ok e := by
  cases hlast : lastOf operator done with
  | none =>
      rw [h.none operator hlast] at hget
      cases hget
  | some g =>
      obtain ⟨e', he, hget'⟩ := h.some operator g hlast
      obtain rfl := Option.some.inj (hget'.symm.trans hget)
      exact ⟨g, by simpa using List.mem_of_find?_eq_some hlast,
        by simpa using List.find?_some hlast, he⟩

theorem afterAll_snoc (r : Registry) (calls : List RegistryCall) (call : RegistryCall) :
    r.afterAll (calls ++ [call]) = (r.afterAll calls).after call := by
  simp [afterAll]

/-! ## Requirements -/

theorem Recalls.contains_iff (h : r.Recalls done) {operator : Operator} :
    r.contains operator = true ↔ ∃ g ∈ done, g.operator = operator := by
  constructor
  · intro hcontains
    obtain ⟨e, hget⟩ := Option.isSome_iff_exists.mp hcontains
    obtain ⟨g, hg, hoperator, _⟩ := h.exists_of_get? hget
    exact ⟨g, hg, hoperator⟩
  · rintro ⟨g, hg, hoperator⟩
    cases hlast : lastOf operator done with
    | none => exact absurd hoperator (lastOf_eq_none_iff.mp hlast g hg)
    | some last =>
        obtain ⟨e, _, hget⟩ := h.some operator last hlast
        rw [contains, hget]
        rfl

theorem require_eq_error_iff {dialect : String} {operators : List Operator} {e : Error} :
    r.require dialect operators = .error e ↔ ∃ before operator behind,
      operators = before ++ operator :: behind ∧ (∀ o ∈ before, r.contains o = true) ∧
        r.contains operator = false ∧ e = .missingTemplate operator dialect := by
  constructor
  · unfold require
    cases hfind : operators.find? (!r.contains ·) with
    | none => exact fun h ↦ nomatch h
    | some operator =>
        intro h
        obtain ⟨hmissing, before, behind, rfl, hbefore⟩ := List.find?_eq_some_iff_append.mp hfind
        exact ⟨before, operator, behind, rfl, by simpa using hbefore, by simpa using hmissing,
          (Except.error.inj h).symm⟩
  · rintro ⟨before, operator, behind, rfl, hbefore, hmissing, rfl⟩
    have hfind : (before ++ operator :: behind).find? (!r.contains ·) = some operator :=
      List.find?_eq_some_iff_append.mpr
        ⟨by simp [hmissing], before, behind, rfl, by simpa using hbefore⟩
    rw [require, hfind]
    rfl

/-- After any history of calls, an operator is looked up as its last registration has it, a call
that fails changes no look-up and no layer, and a requirement fails at the first operator that was
never registered. -/
theorem lookUps_afterAll (calls : List RegistryCall) :
    (∀ operator, match lastOf operator (empty.made calls) with
      | none => (empty.afterAll calls).get? operator = none
      | some g => ∃ t, Template.parse g.pattern = .ok t ∧
          (empty.afterAll calls).get? operator = some ⟨t, g.precedence, g.arity⟩) ∧
      (∀ call e, ((empty.afterAll calls).outcome call).1 = .error e →
        (∀ operator, (empty.afterAll (calls ++ [call])).get? operator =
          (empty.afterAll calls).get? operator) ∧
        (empty.afterAll (calls ++ [call])).layerNames = (empty.afterAll calls).layerNames) ∧
      ∀ dialect operators e, (empty.afterAll calls).require dialect operators = .error e ↔
        ∃ before operator behind, operators = before ++ operator :: behind ∧
          (∀ o ∈ before, ∃ g ∈ empty.made calls, g.operator = o) ∧
          (∀ g ∈ empty.made calls, g.operator ≠ operator) ∧
          e = .missingTemplate operator dialect := by
  have hrecalls := recalls_afterAll calls
  refine ⟨fun operator ↦ ?_, fun call e hfails ↦ ?_, fun dialect operators e ↦ ?_⟩
  · split
    · rename_i hlast
      exact hrecalls.none operator hlast
    · rename_i g hlast
      obtain ⟨e, he, hget⟩ := hrecalls.some operator g hlast
      obtain ⟨t, hread, rfl⟩ := exists_of_map he
      exact ⟨t, readFor_eq_ok hread, hget⟩
  · rw [afterAll_snoc, after_of_error hfails]
    exact ⟨fun _ ↦ rfl, rfl⟩
  · have hmissing : ∀ operator, (empty.afterAll calls).contains operator = false ↔
        ∀ g ∈ empty.made calls, g.operator ≠ operator := by
      intro operator
      rw [← Bool.not_eq_true, hrecalls.contains_iff]
      simp
    simp only [require_eq_error_iff, hrecalls.contains_iff, hmissing]

end Registry

end TypedQuery
