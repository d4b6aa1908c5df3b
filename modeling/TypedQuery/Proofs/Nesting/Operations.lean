import TypedQuery.Proofs.Nesting.Replacement

/-!
# Operations over a sub-query that is replaced

Operands and renderings may depend on the query that a sub-query has. What joined renderings inherit
holds of every rendering of SQL that such operands get into: how an operand is rewritten and which
of its renderings is written never depends on that query.
-/

namespace TypedQuery

/-- Something that depends on the query of a sub-query. -/
abbrev Nested (α : Type) := Query Expr → α

namespace Rendering

/-- A property of nested renderings that renderings joined or chosen by their scope inherit. -/
structure IsCongruence (P : Nested Rendering → Prop) : Prop where
  const (r : Rendering) : P fun _ ↦ r
  append {F G : Nested Rendering} (hF : P F) (hG : P G) : P fun q ↦ F q ++ G q
  within {F : Nested Rendering} (hF : P F) (change : Scope → Scope) : P fun q ↦ (F q).within change
  choose {F G : Nested Rendering} (hF : P F) (hG : P G) (c : Scope → Bool) :
    P fun q scope ↦ if c scope then F q scope else G q scope

namespace IsCongruence

variable {P : Nested Rendering → Prop} {F : Nested Rendering} {α : Type} {l : List α}
  {G : α → Nested Rendering}

theorem concat (h : IsCongruence P) (hG : ∀ x ∈ l, P (G x)) :
    P fun q ↦ Rendering.concat (l.map fun x ↦ G x q) := by
  induction l with
  | nil => exact h.const .empty
  | cons x l ih =>
      rw [List.forall_mem_cons] at hG
      exact h.append hG.1 (ih hG.2)

theorem separated (h : IsCongruence P) (separator : String) (hG : ∀ x ∈ l, P (G x)) :
    P fun q ↦ Rendering.separated separator (l.map fun x ↦ G x q) := by
  induction l with
  | nil => exact h.const .empty
  | cons x l ih =>
      rw [List.forall_mem_cons] at hG
      have hrest := ih hG.2
      cases l with
      | nil => exact hG.1
      | cons x' l => exact h.append (h.append hG.1 (h.const (.text separator))) hrest

theorem between (h : IsCongruence P) (before behind : String) (hF : P F) :
    P fun q ↦ (F q).between before behind :=
  h.append (h.append (h.const (.text before)) hF) (h.const (.text behind))

end IsCongruence

end Rendering

open Rendering (IsCongruence)

/-! ## Uniform operands -/

/-- Nested operands of one expression whose renderings have a property. -/
structure Operand.Uniform (P : Nested Rendering → Prop) (k : Nat) (A : Nested Operand) : Prop where
  exists_expr : ∃ e : Expr, ∀ q, (A q).expr = e.withQuery k q
  exists_operator? : ∃ o, ∀ q, (A q).operator? = o
  render : P fun q ↦ (A q).render

open Operand (Uniform)

namespace Operand.Uniform

variable {P : Nested Rendering → Prop} {k : Nat} {A : Nested Operand} {l : List (Nested Operand)}

theorem const (h : IsCongruence P) {a : Operand} {e : Expr}
    (he : ∀ q, a.expr = e.withQuery k q) : Uniform P k fun _ ↦ a :=
  ⟨⟨e, he⟩, ⟨a.operator?, fun _ ↦ rfl⟩, h.const a.render⟩

theorem exists_value? (h : Uniform P k A) : ∃ v, ∀ q, (A q).value? = v := by
  obtain ⟨e, he⟩ := h.exists_expr
  exact ⟨e.value?, fun q ↦ by rw [Operand.value?, he, Expr.value?_withQuery]⟩

theorem exists_string? (h : Uniform P k A) : ∃ t, ∀ q, (A q).string? = t := by
  obtain ⟨v, hv⟩ := h.exists_value?
  exact ⟨v.bind Value.string?, fun q ↦ by rw [Operand.string?, hv]⟩

theorem exists_exprs (h : ∀ A ∈ l, Uniform P k A) :
    ∃ es : List Expr, ∀ q, (l.map (· q)).map Operand.expr = es.map (Expr.withQuery k q) := by
  induction l with
  | nil => exact ⟨[], fun _ ↦ rfl⟩
  | cons A l ih =>
      rw [List.forall_mem_cons] at h
      obtain ⟨e, he⟩ := h.1.exists_expr
      obtain ⟨es, hes⟩ := ih h.2
      exact ⟨e :: es, fun q ↦ by simp only [List.map_cons, he, hes]⟩

end Operand.Uniform

namespace Setup

variable {P : Nested Rendering → Prop} {k : Nat} {s : Setup} {A B : Nested Operand}
  {l : List (Nested Operand)}

theorem uniform_constant (hP : IsCongruence P) (c : Constant) :
    Uniform P k fun _ ↦ s.constant c :=
  .const hP (e := .constant c) fun _ ↦ rfl

theorem uniform_string (hP : IsCongruence P) (t : String) :
    Uniform P k fun _ ↦ s.string t :=
  uniform_constant hP _

theorem uniform_count (hP : IsCongruence P) (n : UInt64) : Uniform P k fun _ ↦ s.count n :=
  uniform_constant hP _

theorem congruent_argument (hP : IsCongruence P) (h : Uniform P k A) (precedence : Int) :
    P fun q ↦ s.argument precedence (A q) := by
  obtain ⟨o, ho⟩ := h.exists_operator?
  obtain ⟨loose, hloose⟩ : ∃ loose, ∀ q, s.bindsLooser precedence (A q) = loose :=
    ⟨_, fun q ↦ by rw [bindsLooser, ho]⟩
  simp only [argument, hloose]
  by_cases hwrapped : (decide (0 ≤ precedence) && loose) = true
  · simp only [if_pos hwrapped]
    exact hP.between "(" ")" h.render
  · simp only [if_neg hwrapped]
    exact h.render

/-! ## Templates -/

/-- Makers of operations that keep operands uniform. -/
def KeepsUniform (P : Nested Rendering → Prop) (k : Nat)
    (operation : Op → List Operand → Operand) : Prop :=
  ∀ (op : Op) (l : List (Nested Operand)), (∀ A ∈ l, Uniform P k A) →
    Uniform P k fun q ↦ operation op (l.map (· q))

theorem KeepsUniform.one {operation : Op → List Operand → Operand}
    (hop : KeepsUniform P k operation) (op : Op) (h : Uniform P k A) :
    Uniform P k fun q ↦ operation op [A q] :=
  hop op [A] (by simpa using h)

theorem KeepsUniform.two {operation : Op → List Operand → Operand}
    (hop : KeepsUniform P k operation) (op : Op) (hA : Uniform P k A) (hB : Uniform P k B) :
    Uniform P k fun q ↦ operation op [A q, B q] :=
  hop op [A, B] (by simpa using ⟨hA, hB⟩)

theorem uniform_likeOperand (hP : IsCongruence P) {operation : Op → List Operand → Operand}
    (hop : KeepsUniform P k operation) (leading trailing lower : Bool) (h : Uniform P k A) :
    Uniform P k fun q ↦ s.likeOperand operation (A q) leading trailing lower := by
  have hlower : Uniform P k fun q ↦ if lower then operation .lower [A q] else A q := by
    cases lower with
    | true => exact hop.one .lower h
    | false => exact h
  have hleading : ∀ {B : Nested Operand}, Uniform P k B → Uniform P k fun q ↦
      if leading then operation .concat [s.string "%", B q] else B q := by
    intro B hB
    cases leading with
    | true => exact hop.two .concat (uniform_string hP "%") hB
    | false => exact hB
  have hinner := hleading hlower
  cases trailing with
  | true => exact hop.two .concat hinner (uniform_string hP "%")
  | false => exact hinner

theorem congruent_withArg (hP : IsCongruence P) (pattern : String) (index : Nat)
    {f : Operand → Rendering} (hf : ∀ A ∈ l, P fun q ↦ f (A q)) :
    P fun q ↦ element.withArg pattern (l.map (· q)) index f := by
  unfold element.withArg
  simp only [List.getElem?_map]
  cases hA : l[index]? with
  | none => exact hP.const _
  | some A => exact hf A (List.mem_of_getElem? hA)

theorem congruent_element (hP : IsCongruence P) {operation : Op → List Operand → Operand}
    (hop : KeepsUniform P k operation) (pattern : String) (precedence : Int)
    (hAs : ∀ A ∈ l, Uniform P k A) (slot : Element) :
    P fun q ↦ s.element operation pattern precedence (l.map (· q)) slot := by
  cases slot with
  | text t => exact hP.const (.text t)
  | arg index =>
      exact congruent_withArg hP pattern index fun A hA ↦
        congruent_argument hP (hAs A hA) precedence
  | inlined index =>
      refine congruent_withArg hP pattern index fun A hA ↦ ?_
      obtain ⟨v, hv⟩ := (hAs A hA).exists_value?
      simp only [hv]
      cases v with
      | none => exact congruent_argument hP (hAs A hA) precedence
      | some v => exact hP.const _
  | cased index letterCase =>
      refine congruent_withArg hP pattern index fun A hA ↦ ?_
      obtain ⟨t, ht⟩ := (hAs A hA).exists_string?
      simp only [ht]
      cases t with
      | none =>
          cases letterCase with
          | lower => exact congruent_argument hP (hop.one .lower (hAs A hA)) precedence
          | upper => exact congruent_argument hP (hop.one .upper (hAs A hA)) precedence
      | some t => cases letterCase <;> exact hP.const _
  | like index leading trailing lower =>
      refine congruent_withArg hP pattern index fun A hA ↦ ?_
      obtain ⟨t, ht⟩ := (hAs A hA).exists_string?
      simp only [ht]
      cases t with
      | none =>
          have hlike := uniform_likeOperand (s := s) hP hop leading trailing lower (hAs A hA)
          exact congruent_argument hP hlike precedence
      | some t => exact hP.const _
  | all =>
      simp only [element, List.map_map]
      exact hP.separated ", " fun A hA ↦ congruent_argument hP (hAs A hA) precedence

theorem congruent_entry (hP : IsCongruence P) {operation : Op → List Operand → Operand}
    (hop : KeepsUniform P k operation) (operator : Operator) (hAs : ∀ A ∈ l, Uniform P k A) :
    P fun q ↦ s.entry operation operator (l.map (· q)) := by
  unfold entry
  cases s.profile.registry.get? operator with
  | none => exact hP.const _
  | some e =>
      have happly : P fun q ↦ entry.apply s operation (l.map (· q)) e :=
        hP.concat fun slot _ ↦
          congruent_element hP hop e.template.pattern e.precedence hAs slot
      simp only [List.length_map]
      cases e.arity with
      | none => exact happly
      | some arity =>
          by_cases haccepts : arity.accepts l.length = true
          · simpa only [haccepts, if_true] using happly
          · simp only [haccepts]
            exact hP.const _

theorem keepsUniform_textOperation (hP : IsCongruence P) (depth : Nat) :
    KeepsUniform P k (s.textOperation depth) := by
  have hoperation : ∀ {op : Op} {l : List (Nested Operand)} {F : Nested Rendering},
      (∀ A ∈ l, Uniform P k A) → P F →
        Uniform P k fun q ↦ textOperation.ofRender op (l.map (· q)) (F q) := by
    intro op l F hAs hF
    obtain ⟨es, hes⟩ := Operand.Uniform.exists_exprs hAs
    refine ⟨⟨.operation .string (.op op) es, fun q ↦ ?_⟩, ⟨_, fun _ ↦ rfl⟩, hF⟩
    simp only [textOperation.ofRender, Operand.expr, hes, Expr.withQuery, withQueryExprs_eq_map]
  induction depth with
  | zero => exact fun op l hAs ↦ hoperation hAs (hP.const (.fail .endlessExpansion))
  | succ depth ih =>
      exact fun op l hAs ↦ hoperation hAs (hP.within (congruent_entry hP ih (.op op) hAs) _)

theorem congruent_apply (hP : IsCongruence P) (t : Template) (precedence : Int)
    (hAs : ∀ A ∈ l, Uniform P k A) : P fun q ↦ s.apply t precedence (l.map (· q)) :=
  hP.concat fun slot _ ↦ congruent_element hP (keepsUniform_textOperation hP expansionDepth)
    t.pattern precedence hAs slot

theorem congruent_plain (hP : IsCongruence P) (operator : Operator)
    (hAs : ∀ A ∈ l, Uniform P k A) : P fun q ↦ s.plain operator (l.map (· q)) :=
  congruent_entry hP (keepsUniform_textOperation hP expansionDepth) operator hAs

theorem congruent_plain_pair (hP : IsCongruence P) (operator : Operator) (hA : Uniform P k A)
    (hB : Uniform P k B) : P fun q ↦ s.plain operator [A q, B q] :=
  congruent_plain hP operator (l := [A, B]) (by simpa using ⟨hA, hB⟩)

/-! ## Rewritings -/

/-- Operands changed one by one stay uniform when each of them does. -/
theorem exists_map {f : Operand → Operand}
    (h : ∀ A ∈ l, ∃ B, Uniform P k B ∧ ∀ q, f (A q) = B q) :
    ∃ Bs : List (Nested Operand), (∀ B ∈ Bs, Uniform P k B) ∧
      ∀ q, (l.map (· q)).map f = Bs.map (· q) := by
  induction l with
  | nil => exact ⟨[], List.forall_mem_nil _, fun _ ↦ rfl⟩
  | cons A l ih =>
      rw [List.forall_mem_cons] at h
      obtain ⟨B, hB, hfB⟩ := h.1
      obtain ⟨Bs, hBs, hfBs⟩ := ih h.2
      refine ⟨B :: Bs, List.forall_mem_cons.mpr ⟨hB, hBs⟩, fun q ↦ ?_⟩
      simp only [List.map_cons, hfB, hfBs]

theorem exists_normalizeNumbers (hP : IsCongruence P) (hAs : ∀ A ∈ l, Uniform P k A) :
    ∃ Bs : List (Nested Operand), (∀ B ∈ Bs, Uniform P k B) ∧
      ∀ q, s.normalizeNumbers (l.map (· q)) = Bs.map (· q) := by
  obtain ⟨es, hes⟩ := Operand.Uniform.exists_exprs hAs
  have htarget : ∀ q, Expr.numericTarget ((l.map (· q)).map Operand.expr) =
      Expr.numericTarget es := fun q ↦ by rw [hes, Expr.numericTarget_withQuery]
  simp only [normalizeNumbers, htarget]
  cases Expr.numericTarget es with
  | none => exact ⟨l, hAs, fun _ ↦ rfl⟩
  | some target =>
      refine exists_map fun A hA ↦ ?_
      obtain ⟨e, he⟩ := (hAs A hA).exists_expr
      simp only [he]
      cases e with
      | constant c => exact ⟨_, uniform_constant hP _, fun _ ↦ rfl⟩
      | _ => exact ⟨A, hAs A hA, fun _ ↦ rfl⟩

theorem congruent_unchanged (hP : IsCongruence P) (op : Op) (hAs : ∀ A ∈ l, Uniform P k A) :
    P fun q ↦ s.unchanged op (l.map (· q)) := by
  unfold unchanged
  cases op.isNumeric with
  | true =>
      obtain ⟨Bs, hBs, heq⟩ := exists_normalizeNumbers (s := s) hP hAs
      simp only [heq, if_true]
      exact congruent_plain hP (.op op) hBs
  | false => exact congruent_plain hP (.op op) hAs

theorem congruent_listTest (hP : IsCongruence P) (op : Op) (decided : String)
    (hA : Uniform P k A) (hB : Uniform P k B) :
    P fun q ↦ s.listTest op decided (A q) (B q) := by
  obtain ⟨v, hv⟩ := hB.exists_value?
  obtain ⟨empty, hempty⟩ : ∃ empty, ∀ q, isEmptyList (B q) = empty :=
    ⟨_, fun q ↦ by rw [isEmptyList, hv]⟩
  simp only [listTest, hempty]
  cases empty with
  | true => exact hP.const (.text decided)
  | false => exact congruent_plain_pair hP (.op op) hA hB

theorem congruent_numericCast (hP : IsCongruence P) (hA : Uniform P k A) (hB : Uniform P k B) :
    P fun q ↦ s.numericCast (A q) (B q) := by
  obtain ⟨v, hv⟩ := hB.exists_value?
  simp only [numericCast, hv]
  cases v with
  | none => exact hP.const _
  | some v =>
      cases v with
      | typeRef t => exact congruent_plain_pair hP (.op .cast) hA (uniform_string hP _)
      | _ => exact hP.const _

theorem congruent_likeTest (hP : IsCongruence P) (hA : Uniform P k A) (hB : Uniform P k B) :
    P fun q ↦ s.likeTest (A q) (B q) := by
  obtain ⟨t, ht⟩ := hB.exists_string?
  simp only [likeTest, ht]
  cases t with
  | none => exact congruent_plain_pair hP (.op .like) hA hB
  | some t => exact congruent_plain_pair hP (.op .like) hA (uniform_string hP _)

/-- Only four operators with two arguments are rewritten. -/
theorem sqlOperation_eq_unchanged {op : Op} {args : List Operand}
    (h : args.length = 2 → op ∉ [Op.isIn, .notIn, .numCast, .like]) :
    s.sqlOperation op args = s.unchanged op args := by
  unfold sqlOperation
  split
  · simp at h
  · simp at h
  · simp at h
  · simp at h
  · rfl

theorem congruent_sqlOperation (hP : IsCongruence P) (op : Op) (hAs : ∀ A ∈ l, Uniform P k A) :
    P fun q ↦ s.sqlOperation op (l.map (· q)) := by
  by_cases h : l.length = 2 ∧ op ∈ [Op.isIn, .notIn, .numCast, .like]
  · obtain ⟨hlength, hop⟩ := h
    obtain ⟨A, B, rfl⟩ : ∃ A B, l = [A, B] := by
      match l, hlength with
      | [A, B], _ => exact ⟨A, B, rfl⟩
    have hA : Uniform P k A := hAs A (by simp)
    have hB : Uniform P k B := hAs B (by simp)
    simp only [List.mem_cons, List.not_mem_nil, or_false] at hop
    rcases hop with rfl | rfl | rfl | rfl
    · exact congruent_listTest hP .isIn "1 = 2" hA hB
    · exact congruent_listTest hP .notIn "1 = 1" hA hB
    · exact congruent_numericCast hP hA hB
    · exact congruent_likeTest hP hA hB
  · have hunchanged : ∀ q, s.sqlOperation op (l.map (· q)) = s.unchanged op (l.map (· q)) :=
      fun q ↦ sqlOperation_eq_unchanged fun hlength hop ↦ h ⟨by simpa using hlength, hop⟩
    simp only [hunchanged]
    exact congruent_unchanged hP op hAs

theorem uniform_operation (hP : IsCongruence P) (hsql : s.profile.family = .sql)
    (type : ValueType) (operator : Operator) (hAs : ∀ A ∈ l, Uniform P k A) :
    Uniform P k fun q ↦ s.operation type operator (l.map (· q)) := by
  obtain ⟨es, hes⟩ := Operand.Uniform.exists_exprs hAs
  refine ⟨⟨.operation type operator es, fun q ↦ ?_⟩, ⟨some operator, fun _ ↦ rfl⟩, ?_⟩
  · simp only [operation, Operand.expr, hes, Expr.withQuery, withQueryExprs_eq_map]
  · simp only [operation, Operand.render, operationRendering, hsql]
    cases operator with
    | op op => exact hP.within (congruent_sqlOperation hP op hAs) _
    | _ => exact congruent_plain hP _ hAs

/-! ## Templates, rows and paths -/

theorem uniform_template (hP : IsCongruence P) (type : ValueType) (t : Template)
    (hAs : ∀ A ∈ l, Uniform P k A) :
    Uniform P k fun q ↦ s.template type t (l.map (· q)) := by
  obtain ⟨es, hes⟩ := Operand.Uniform.exists_exprs hAs
  refine ⟨⟨.template type t es, fun q ↦ ?_⟩, ⟨none, fun _ ↦ rfl⟩, congruent_apply hP t (-1) hAs⟩
  simp only [template, Operand.expr, hes, Expr.withQuery, withQueryExprs_eq_map]

theorem congruent_renders (hP : IsCongruence P) (separator : String)
    (hAs : ∀ A ∈ l, Uniform P k A) :
    P fun q ↦ .separated separator ((l.map (· q)).map Operand.render) := by
  simp only [List.map_map]
  exact hP.separated separator fun A hA ↦ (hAs A hA).render

theorem uniform_factory (hP : IsCongruence P) (type : ValueType) (maker : Factory)
    (hAs : ∀ A ∈ l, Uniform P k A) :
    Uniform P k fun q ↦ factory type maker (l.map (· q)) := by
  obtain ⟨es, hes⟩ := Operand.Uniform.exists_exprs hAs
  have hitems := congruent_renders hP ", " hAs
  refine ⟨⟨.factory type maker es, fun q ↦ ?_⟩, ⟨none, fun _ ↦ rfl⟩, ?_⟩
  · simp only [factory, Operand.expr, hes, Expr.withQuery, withQueryExprs_eq_map]
  · exact hP.choose hitems (hP.between "(" ")" hitems) (·.inProjection)

theorem uniform_step (hP : IsCongruence P) (p : Path) (hAs : ∀ A ∈ l, Uniform P k A) :
    Uniform P k fun q ↦ s.step (p.withQuery k q) (l.map (· q)) := by
  refine ⟨⟨.path p, fun _ ↦ rfl⟩, ⟨none, fun _ ↦ rfl⟩, ?_⟩
  simp only [step, Operand.render, Path.kind_withQuery, Path.type_withQuery]
  cases s.profile.registry.get? (.path p.kind) with
  | none => exact hP.const _
  | some e =>
      have hbody := hP.within (congruent_apply (s := s) hP e.template e.precedence hAs)
        ({ · with wrapElements := false })
      exact hP.choose (hP.between "elements(" ")" hbody) hbody fun scope ↦
        scope.wrapElements && p.kind == .property && p.type.isCollectionLike

end Setup

end TypedQuery
