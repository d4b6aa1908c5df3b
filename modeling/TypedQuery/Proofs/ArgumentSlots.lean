import TypedQuery.Proofs.Building
import TypedQuery.Proofs.BuiltRegistries
import TypedQuery.Proofs.Errors.Fitting
import TypedQuery.Statement

/-!
# Slots without an argument

Registration refuses a slot behind the last argument of an operator that takes a fixed number of
them, and so every slot of such an operator finds its argument. For an operator that takes at least
some number of arguments nothing is checked: there the slots have to be among the arguments that are
always given.
-/

namespace TypedQuery

namespace Rendering

/-- No slot is without an argument. -/
def FindsArguments (r : Rendering) : Prop :=
  ∀ scope pattern, r scope ≠ .error (.invalidTemplate pattern .outOfRange)

variable {a b r : Rendering}

theorem findsArguments_fail {e : Error} (h : ∀ pattern, e ≠ .invalidTemplate pattern .outOfRange) :
    (fail e).FindsArguments := by
  intro _ pattern hfails
  exact h pattern (Except.error.inj hfails)

theorem isClosed_findsArguments : IsClosed FindsArguments where
  empty _ _ h := nomatch h
  text _ _ _ h := nomatch h
  placeholder _ _ _ _ h := nomatch h
  append {a b} ha hb := by
    intro scope pattern h
    rw [append_apply] at h
    cases hbefore : a scope with
    | error e =>
        rw [hbefore] at h
        exact ha scope pattern (hbefore.trans h)
    | ok before =>
        cases hbehind : b scope with
        | error e =>
            rw [hbefore, hbehind] at h
            exact hb scope pattern (hbehind.trans h)
        | ok behind =>
            rw [hbefore, hbehind] at h
            cases h

end Rendering

open Rendering

/-! ## What registration checks -/

theorem Template.isWithin_of_fits {t : Template} {n : Nat} (h : t.fits (.exact n) = true) :
    t.isWithin n = true := by
  rw [isWithin_eq_maxIndex]
  simp only [fits, Bool.and_eq_true] at h
  exact h.2

namespace Registry

variable {r : Registry}

theorem template_fits_of_readFor {arity : Arity} {pattern : String} {t : Template}
    (h : readFor (some arity) pattern = .ok t) : t.fits arity = true := by
  obtain ⟨u, _, h⟩ := exists_of_bind h
  split at h
  · rename_i hfits
    obtain rfl := Except.ok.inj h
    exact hfits
  · cases h

/-- The arity that the template of an operator was checked against. -/
def arityOf (operator : Operator) (e : TemplateEntry) : Option Arity := operator.arity.or e.arity

/-- A registry in which templates of operators with a fixed number of arguments have slots for
these only. -/
def HasCheckedSlots (r : Registry) : Prop :=
  ∀ operator e n, r.get? operator = some e → arityOf operator e = some (.exact n) →
    e.template.isWithin n = true

theorem IsBuilt.hasCheckedSlots (h : r.IsBuilt) : r.HasCheckedSlots := by
  obtain ⟨calls, rfl⟩ := h
  intro operator e n hget harity
  obtain ⟨g, _, rfl, hentry⟩ := (recalls_afterAll calls).exists_of_get? hget
  obtain ⟨t, hread, rfl⟩ := exists_of_map hentry
  have hdeclared : g.declaredArity = some (.exact n) := harity
  rw [hdeclared] at hread
  exact Template.isWithin_of_fits (template_fits_of_readFor hread)

end Registry

/-! ## Renderings -/

namespace Setup

variable {s : Setup} {args : List Operand} {operator : Operator} {e : TemplateEntry}

theorem findsArguments_apply {operation : Op → List Operand → Operand}
    (hop : Keeps FindsArguments operation) (hwithin : e.template.isWithin args.length = true)
    (hargs : ∀ a ∈ args, a.render.FindsArguments) :
    (entry.apply s operation args e).FindsArguments := by
  refine isClosed_findsArguments.concat fun r hr ↦ ?_
  obtain ⟨slot, hslot, rfl⟩ := List.mem_map.mp hr
  exact element_of_isClosed isClosed_findsArguments (.inr hop)
    (.inl (List.all_eq_true.mp hwithin slot hslot)) hargs e.precedence

theorem findsArguments_entry {operation : Op → List Operand → Operand}
    (hop : Keeps FindsArguments operation)
    (hwithin : ∀ e, s.profile.registry.get? operator = some e →
      e.template.isWithin args.length = true)
    (hargs : ∀ a ∈ args, a.render.FindsArguments) :
    (s.entry operation operator args).FindsArguments := by
  unfold entry
  split
  · exact findsArguments_fail nofun
  · rename_i e he
    have happly := findsArguments_apply (s := s) hop (hwithin e he) hargs
    split
    · split
      · exact happly
      · exact findsArguments_fail nofun
    · exact happly

/-- Slots make operations of built-in operators with fixed numbers of arguments. -/
theorem keeps_findsArguments (hs : s.profile.registry.HasCheckedSlots) (depth : Nat) :
    Keeps FindsArguments (s.textOperation depth) := by
  have hfixed : ∀ {op : Op} {n : Nat}, op.arity = .exact n →
      ∀ e, s.profile.registry.get? (.op op) = some e → e.template.isWithin n = true := by
    intro op n harity e he
    refine hs (.op op) e n he ?_
    simp [Registry.arityOf, Operator.arity, harity]
  induction depth with
  | zero =>
      have hendless : (fail .endlessExpansion).FindsArguments := findsArguments_fail (by simp)
      exact ⟨fun _ ↦ hendless, fun _ ↦ hendless, fun _ _ ↦ hendless⟩
  | succ depth ih =>
      have hstep : ∀ {op : Op} {args : List Operand}, op.arity = .exact args.length →
          (∀ a ∈ args, a.render.FindsArguments) →
          (s.textOperation (depth + 1) op args).render.FindsArguments :=
        fun harity hargs scope ↦ findsArguments_entry ih (hfixed harity) hargs _
      exact ⟨fun ha ↦ hstep rfl (by simpa using ha), fun ha ↦ hstep rfl (by simpa using ha),
        fun ha hb ↦ hstep rfl (by simpa using ⟨ha, hb⟩)⟩

/-- With as many arguments as its operator takes, an operation is its template applied to them. -/
theorem plain_eq_apply {arity : Arity} (hbuilt : s.profile.registry.IsBuilt)
    (hget : s.profile.registry.get? operator = some e)
    (harity : Registry.arityOf operator e = some arity) (hargs : arity.accepts args.length = true) :
    s.plain operator args = s.apply e.template e.precedence args := by
  have hnone := hbuilt.arity_eq_none hget
  unfold plain entry
  rw [hget]
  dsimp only
  split
  · rename_i arity' hown
    obtain rfl : arity' = arity := by
      obtain hoperator | hentry := hnone
      · simpa [Registry.arityOf, hoperator, hown] using harity
      · simp [hentry] at hown
    rw [if_pos hargs]
    rfl
  · rfl

/-! ### Slots behind the arguments -/

theorem element_of_not_isWithin {operation : Op → List Operand → Operand} {slot : Element}
    (h : slot.isWithin args.length = false) (pattern : String) (precedence : Int) :
    s.element operation pattern precedence args slot =
      .fail (.invalidTemplate pattern .outOfRange) := by
  cases slot with
  | text | all => cases h
  | arg i | inlined i | cased i | like i =>
      have hnone : args[i]? = none := by
        simpa [Element.isWithin, Element.index?] using h
      simp only [element, element.withArg, hnone]

theorem argument_string (precedence : Int) (text : String) :
    s.argument precedence (s.string text) = .bound (.string text) := by
  have hshape : s.bindsLooser precedence (s.string text) = false := rfl
  rw [argument, hshape, Bool.and_false]
  rfl

/-- Constant texts can be written in any slot. -/
theorem exists_element_string {operation : Op → List Operand → Operand} {slot : Element} {n : Nat}
    (h : slot.isWithin n = true) (pattern : String) (precedence : Int) (text : String)
    (scope : Scope) : ∃ chunks,
      s.element operation pattern precedence (.replicate n (s.string text)) slot scope =
        .ok chunks := by
  have hget : ∀ i, slot.index? = some i →
      (List.replicate n (s.string text))[i]? = some (s.string text) := by
    intro i hi
    have hlt : i < n := by simpa [Element.isWithin, hi] using h
    simp [hlt]
  cases slot with
  | text t => exact ⟨_, rfl⟩
  | arg i =>
      simp only [element, element.withArg, hget i rfl, argument_string]
      exact ⟨_, rfl⟩
  | inlined i =>
      simp only [element, element.withArg, hget i rfl]
      exact ⟨_, rfl⟩
  | cased i letterCase =>
      simp only [element, element.withArg, hget i rfl]
      cases letterCase <;> exact ⟨_, rfl⟩
  | like i =>
      simp only [element, element.withArg, hget i rfl]
      exact ⟨_, rfl⟩
  | all =>
      simp only [element, List.map_replicate, argument_string]
      exact isClosed_succeeds.separated ", " (fun r hr ↦ List.eq_of_mem_replicate hr ▸
        isClosed_succeeds.bound _) scope

/-- An operation of constant texts misses the first slot that none of them is for. -/
theorem apply_string_of_not_isWithin {t : Template} {n : Nat} (h : t.isWithin n = false)
    (precedence : Int) (text : String) (scope : Scope) :
    s.apply t precedence (.replicate n (s.string text)) scope =
      .error (.invalidTemplate t.pattern .outOfRange) := by
  obtain ⟨pattern, elements⟩ := t
  change Rendering.concat _ scope = _
  dsimp only [Template.isWithin] at h ⊢
  induction elements with
  | nil => cases h
  | cons slot elements ih =>
      rw [List.map_cons, Rendering.concat]
      cases hslot : slot.isWithin n with
      | false =>
          refine append_of_error ?_
          rw [element_of_not_isWithin (by rwa [List.length_replicate])]
          rfl
      | true =>
          obtain ⟨chunks, hchunks⟩ :=
            exists_element_string (s := s) hslot pattern precedence text scope
          rw [append_apply, hchunks, ih (by simpa [hslot] using h)]
          rfl

/-- The slots of an operation find their arguments, unless its operator takes at least some number
of arguments and its template has a slot behind these. -/
theorem findsArguments_apply_iff {arity : Arity} (hbuilt : s.profile.registry.IsBuilt)
    (hget : s.profile.registry.get? operator = some e)
    (harity : Registry.arityOf operator e = some arity) :
    (∀ args, arity.accepts args.length = true →
        s.plain operator args = s.apply e.template e.precedence args) ∧
      ((∀ args, arity.accepts args.length = true → (∀ a ∈ args, a.render.FindsArguments) →
          (s.apply e.template e.precedence args).FindsArguments) ↔
        ∀ n, arity = .atLeast n → e.template.isWithin n = true) := by
  refine ⟨fun args hargs ↦ plain_eq_apply hbuilt hget harity hargs, ⟨fun h n hn ↦ ?_, ?_⟩⟩
  · subst hn
    by_contra hoff
    have hmiss := apply_string_of_not_isWithin (s := s) (by simpa using hoff) e.precedence "" {}
    refine h (.replicate n (s.string "")) (by simp [Arity.accepts]) (fun a ha ↦ ?_) {} _ hmiss
    rw [List.eq_of_mem_replicate ha]
    exact value_of_isClosed isClosed_findsArguments _
  · intro h args haccepts hargs
    have hchecked := hbuilt.hasCheckedSlots
    refine findsArguments_apply (keeps_findsArguments hchecked _) ?_ hargs
    cases arity with
    | exact n =>
        obtain rfl : args.length = n := by simpa [Arity.accepts] using haccepts
        exact hchecked operator e _ hget harity
    | atLeast n => exact Template.isWithin_mono (by simpa [Arity.accepts] using haccepts) (h n rfl)

end Setup

/-! ## Operators that take at least two arguments -/

/-- An operator for the greatest of two or more values. -/
def greatest : Setting := .custom "GREATEST" (.atLeast 2) "greatest({*})" (-1)

theorem Setup.findsArguments_plain_greatest : ∃ d,
    Dialect.build "sql" .sql [greatest] = .ok d ∧
      ∃ e, d.registry.get? (.custom "GREATEST") = some e ∧
        d.registry.IsBuilt ∧ Registry.arityOf (.custom "GREATEST") e = some (.atLeast 2) ∧
        ∀ args : List Operand, 2 ≤ args.length → (∀ a ∈ args, a.render.FindsArguments) →
          (Setup.plain { profile := d.toProfile } (.custom "GREATEST") args).FindsArguments := by
  have hreadable : ∀ setting ∈ [greatest], setting.IsReadable := by
    simpa [greatest, Setting.IsReadable] using Registry.isReadable_ofList rfl
  obtain ⟨d, hbuild⟩ := Dialect.exists_build "sql" .sql hreadable
  obtain ⟨first, _, hfold⟩ := Dialect.exists_of_build hbuild
  obtain ⟨t, hparse, hget⟩ :=
    (Dialect.registered_of_foldlM_set hfold (.custom "GREATEST")).1 _ rfl
  obtain rfl : t = ⟨"greatest({*})", [.text "greatest(", .all, .text ")"]⟩ :=
    (Except.ok.inj hparse).symm
  have hbuilt := Dialect.isBuilt_of_build hbuild
  have harity : Registry.arityOf (.custom "GREATEST")
      ⟨⟨"greatest({*})", [.text "greatest(", .all, .text ")"]⟩, -1, some (.atLeast 2)⟩ =
        some (.atLeast 2) := rfl
  obtain ⟨hplain, hfinds⟩ :=
    findsArguments_apply_iff (s := { profile := d.toProfile }) hbuilt hget harity
  refine ⟨d, hbuild, _, hget, hbuilt, rfl, fun args hlength hargs ↦ ?_⟩
  have haccepts : Arity.accepts (.atLeast 2) args.length = true := by
    simpa [Arity.accepts] using hlength
  rw [hplain args haccepts]
  refine hfinds.mpr (fun n hn ↦ ?_) args haccepts hargs
  obtain rfl := Arity.atLeast.inj hn
  rfl

/-- A template of COALESCE with one slot more than the arguments that are always there. -/
def coalesceOfThree : Setting := .template (.op .coalesce) "coalesce({0},{1},{2})"

/-- The first of two texts. -/
def coalescedTexts : Expr :=
  .operation .string (.op .coalesce) [.ofValue (.string "a"), .ofValue (.string "b")]

theorem Setup.expr_coalescedTexts {s : Setup} (h : s.profile.family = .sql) :
    s.expr coalescedTexts =
      s.inside .coalesce (s.plain (.op .coalesce) [s.string "a", s.string "b"]) := by
  have hoperation : s.expr coalescedTexts =
      s.operationRendering (.op .coalesce) [s.string "a", s.string "b"] := rfl
  rw [hoperation, operationRendering, h]
  rfl

theorem Serializer.serialize_coalesceOfThree : ∃ d,
    Dialect.build "sql" .sql [coalesceOfThree] = .ok d ∧
      Expr.mkOperation .string (.op .coalesce) [.ofValue (.string "a"), .ofValue (.string "b")] =
        .ok coalescedTexts ∧
      ({ dialect := d } : Serializer).serialize (.expr coalescedTexts) =
        .error (.invalidTemplate "coalesce({0},{1},{2})" .outOfRange) := by
  have hreadable : ∀ setting ∈ [coalesceOfThree], setting.IsReadable := by
    simpa [coalesceOfThree, Setting.IsReadable] using Registry.isReadable_ofList rfl
  obtain ⟨d, hbuild⟩ := Dialect.exists_build "sql" .sql hreadable
  obtain ⟨first, _, hfold⟩ := Dialect.exists_of_build hbuild
  obtain ⟨t, hparse, hget⟩ := (Dialect.registered_of_foldlM_set hfold (.op .coalesce)).1 _ rfl
  obtain rfl : t = ⟨"coalesce({0},{1},{2})",
      [.text "coalesce(", .arg 0, .text ",", .arg 1, .text ",", .arg 2, .text ")"]⟩ :=
    (Except.ok.inj hparse).symm
  refine ⟨d, hbuild, rfl, ?_⟩
  have hfails : (Serializer.setup { dialect := d }).expr coalescedTexts {} =
      .error (.invalidTemplate "coalesce({0},{1},{2})" .outOfRange) := by
    rw [Setup.expr_coalescedTexts (Dialect.family_of_build hbuild), Setup.plain, Setup.entry,
      show (Serializer.setup { dialect := d }).profile.registry.get? _ = _ from hget]
    rfl
  change Except.map _ ((Serializer.setup { dialect := d }).expr coalescedTexts {}) = _
  rw [hfails]
  rfl

end TypedQuery
