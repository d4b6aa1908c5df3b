import TypedQuery.Proofs.Injection.Blanks

/-!
# Operations over constants with other strings

Operands are alike when their expressions agree once masked, they are operations of the same
operator or none, and their renderings are alike. Templates that bind their constants keep operands
alike, and so do the rewritings of SQL: none of them looks at the contents of a string.
-/

namespace TypedQuery

open List (Forall₂)

/-! ## What a mask keeps -/

namespace Path

@[simp] theorem type_masked (p : Path) : p.masked.type = p.type := by
  cases p <;> rfl

@[simp] theorem kind_masked (p : Path) : p.masked.kind = p.kind := by
  cases p <;> rfl

@[simp] theorem isRoot_masked (p : Path) : p.masked.isRoot = p.isRoot := by
  cases p <;> rfl

@[simp] theorem name?_masked (p : Path) : p.masked.name? = p.name? := by
  cases p <;> rfl

theorem type_eq_of_masked {p p' : Path} (h : p.masked = p'.masked) : p.type = p'.type := by
  rw [← p.type_masked, h, p'.type_masked]

end Path

namespace Expr

@[simp] theorem value?_masked (e : Expr) : e.masked.value? = e.value?.map Value.masked := by
  cases e <;> rfl

@[simp] theorem isConstant_masked (e : Expr) : e.masked.isConstant = e.isConstant := by
  cases e <;> rfl

@[simp] theorem path?_masked (e : Expr) : e.masked.path? = e.path?.map Path.masked := by
  cases e <;> rfl

@[simp] theorem type_masked (e : Expr) : e.masked.type = e.type := by
  cases e with
  | path p => exact p.type_masked
  | _ => rfl

/-- A constant that shares its mask with no other value is the same in both expressions. -/
theorem value?_eq_of_masked {e e' : Expr} (h : e.masked = e'.masked) {w : Value}
    (hw : ∀ v : Value, v.masked = w.masked → v = w) (he : e.value? = some w) :
    e'.value? = some w := by
  have hvalue := congrArg value? h
  rw [value?_masked, value?_masked, he] at hvalue
  cases he' : e'.value? with
  | none => simp [he'] at hvalue
  | some v =>
      have hv : w.masked = v.masked := by simpa [he'] using hvalue
      rw [hw v hv.symm]

theorem numericTarget_masked (es : List Expr) :
    numericTarget (es.map masked) = numericTarget es :=
  numericTarget_map isConstant_masked (fun e _ ↦ type_masked e) es

end Expr

/-! ## Alike operands -/

structure Operand.Alike (a b : Operand) : Prop where
  expr : a.expr.masked = b.expr.masked
  operator? : a.operator? = b.operator?
  render : a.render.Alike b.render

namespace Operand.Alike

variable {a b : Operand} {as bs : List Operand}

theorem refl (a : Operand) : a.Alike a := ⟨rfl, rfl, .refl _⟩

theorem map_value? (h : a.Alike b) : a.value?.map Value.masked = b.value?.map Value.masked := by
  simpa only [Expr.value?_masked, Operand.value?] using congrArg Expr.value? h.expr

theorem map_path? (h : a.Alike b) : a.path?.map Path.masked = b.path?.map Path.masked := by
  simpa only [Expr.path?_masked, Operand.path?] using congrArg Expr.path? h.expr

theorem isSome_string? (h : a.Alike b) : a.string?.isSome = b.string?.isSome := by
  have key : ∀ c : Operand, c.string?.isSome =
      ((c.value?.map Value.masked).bind Value.string?).isSome := by
    intro c
    cases hv : c.value? <;> simp [Operand.string?, hv, Value.string?_masked]
  rw [key a, key b, h.map_value?]

theorem map_expr (h : Forall₂ Operand.Alike as bs) :
    (as.map Operand.expr).map Expr.masked = (bs.map Operand.expr).map Expr.masked := by
  induction h with
  | nil => rfl
  | cons hab _ ih => simp only [List.map_cons, hab.expr, ih]

theorem numericTarget (h : Forall₂ Operand.Alike as bs) :
    Expr.numericTarget (as.map Operand.expr) = Expr.numericTarget (bs.map Operand.expr) := by
  rw [← Expr.numericTarget_masked, map_expr h, Expr.numericTarget_masked]

theorem forall₂_render (h : Forall₂ Operand.Alike as bs) :
    Forall₂ Rendering.Alike (as.map Operand.render) (bs.map Operand.render) := by
  simp only [List.forall₂_map_left_iff, List.forall₂_map_right_iff]
  exact h.imp fun _ _ hxy ↦ hxy.render

/-- Alike lists of operands have alike operands at the same places. -/
theorem getElem? (h : Forall₂ Operand.Alike as bs) (i : Nat) :
    (as[i]? = none ∧ bs[i]? = none) ∨ ∃ x y, as[i]? = some x ∧ bs[i]? = some y ∧ x.Alike y := by
  induction h generalizing i with
  | nil => simp
  | cons hab _ ih =>
      cases i with
      | zero => exact .inr ⟨_, _, rfl, rfl, hab⟩
      | succ i => simpa using ih i

end Operand.Alike

namespace Setup

variable {s : Setup} {a b : Operand} {as bs : List Operand}

theorem alike_constant {c c' : Constant} (h : c.masked = c'.masked) :
    (s.constant c).Alike (s.constant c') :=
  ⟨congrArg Expr.constant h, rfl, .constant h _⟩

theorem alike_value {v w : Value} (h : v.masked = w.masked) : (s.value v).Alike (s.value w) := by
  have htype : v.valueType = w.valueType := by
    rw [← v.valueType_masked, h, w.valueType_masked]
  refine alike_constant ?_
  simp only [Constant.masked, Constant.ofValue, h, htype]

theorem alike_string (t t' : String) : (s.string t).Alike (s.string t') := alike_constant rfl

theorem alike_argument (precedence : Int) (h : a.Alike b) :
    (s.argument precedence a).Alike (s.argument precedence b) := by
  have hloose : s.bindsLooser precedence a = s.bindsLooser precedence b := by
    unfold bindsLooser
    rw [h.operator?]
  unfold argument
  rw [hloose]
  split
  · exact h.render.parenthesized
  · exact h.render

/-! ## Templates -/

/-- Makers of text operations that keep operands alike. -/
def KeepsAlike (operation : Op → List Operand → Operand) : Prop :=
  ∀ op ∈ [Op.lower, .upper, .concat], ∀ xs ys : List Operand, Forall₂ Operand.Alike xs ys →
    (operation op xs).Alike (operation op ys)

theorem alike_likeOperand {operation : Op → List Operand → Operand} (hop : KeepsAlike operation)
    (leading trailing lower : Bool) (h : a.Alike b) :
    (s.likeOperand operation a leading trailing lower).Alike
      (s.likeOperand operation b leading trailing lower) := by
  have hlower : ∀ x y : Operand, x.Alike y →
      (if lower then operation .lower [x] else x).Alike
        (if lower then operation .lower [y] else y) := by
    intro x y hxy
    split
    · exact hop .lower (by simp) _ _ (.cons hxy .nil)
    · exact hxy
  have hleading : ∀ x y : Operand, x.Alike y →
      (if leading then operation .concat [s.string "%", x] else x).Alike
        (if leading then operation .concat [s.string "%", y] else y) := by
    intro x y hxy
    split
    · exact hop .concat (by simp) _ _ (.cons (.refl _) (.cons hxy .nil))
    · exact hxy
  have hinner := hleading _ _ (hlower _ _ h)
  simp only [likeOperand]
  cases trailing with
  | true => exact hop .concat (by simp) _ _ (.cons hinner (.cons (.refl _) .nil))
  | false => exact hinner

theorem alike_withArg (pattern : String) (h : Forall₂ Operand.Alike as bs) (i : Nat)
    {f g : Operand → Rendering}
    (hfg : ∀ x y, as[i]? = some x → bs[i]? = some y → x.Alike y → (f x).Alike (g y)) :
    (element.withArg pattern as i f).Alike (element.withArg pattern bs i g) := by
  unfold element.withArg
  rcases Operand.Alike.getElem? h i with ⟨hx, hy⟩ | ⟨x, y, hx, hy, hxy⟩
  · rw [hx, hy]
    exact .refl _
  · rw [hx, hy]
    exact hfg x y hx hy hxy

/-- Arguments that agree in every constant that a template writes out. -/
def SlotsAgree (t : Template) (as bs : List Operand) : Prop :=
  ∀ i, Element.inlined i ∈ t.elements →
    as[i]?.bind Operand.value? = bs[i]?.bind Operand.value?

theorem slotsAgree_of_bindsAll {t : Template} (h : t.bindsAll = true) : SlotsAgree t as bs := by
  intro i hi
  have hbinds := List.all_eq_true.mp h _ hi
  simp [Element.writesOut] at hbinds

theorem alike_element {operation : Op → List Operand → Operand} (hop : KeepsAlike operation)
    (pattern : String) (precedence : Int) (h : Forall₂ Operand.Alike as bs) {e : Element}
    (hslot : ∀ i, e = .inlined i → as[i]?.bind Operand.value? = bs[i]?.bind Operand.value?) :
    (s.element operation pattern precedence as e).Alike
      (s.element operation pattern precedence bs e) := by
  cases e with
  | text t => exact .refl _
  | arg i => exact alike_withArg pattern h i fun x y _ _ hxy ↦ alike_argument precedence hxy
  | inlined i =>
      refine alike_withArg pattern h i fun x y hx hy hxy ↦ ?_
      have hvalue : x.value? = y.value? := by simpa [hx, hy] using hslot i rfl
      rw [hvalue]
      split
      · exact .refl _
      · exact alike_argument precedence hxy
  | cased i letterCase =>
      refine alike_withArg pattern h i fun x y _ _ hxy ↦ ?_
      have hsome := hxy.isSome_string?
      cases hx : x.string? <;> cases hy : y.string? <;> simp [hx, hy] at hsome
      · cases letterCase
        · exact alike_argument precedence (hop .lower (by simp) _ _ (.cons hxy .nil))
        · exact alike_argument precedence (hop .upper (by simp) _ _ (.cons hxy .nil))
      · cases letterCase <;> exact .bound _ _
  | like i leading trailing lower =>
      refine alike_withArg pattern h i fun x y _ _ hxy ↦ ?_
      have hsome := hxy.isSome_string?
      cases hx : x.string? <;> cases hy : y.string? <;> simp [hx, hy] at hsome
      · exact alike_argument precedence (alike_likeOperand hop leading trailing lower hxy)
      · exact .bound _ _
  | all =>
      refine Rendering.Alike.commas ?_
      simp only [List.forall₂_map_left_iff, List.forall₂_map_right_iff]
      exact h.imp fun _ _ hxy ↦ alike_argument precedence hxy

theorem alike_elements {operation : Op → List Operand → Operand} (hop : KeepsAlike operation)
    (t : Template) (precedence : Int) (h : Forall₂ Operand.Alike as bs)
    (hslots : SlotsAgree t as bs) :
    (Rendering.concat (t.elements.map (s.element operation t.pattern precedence as))).Alike
      (.concat (t.elements.map (s.element operation t.pattern precedence bs))) := by
  refine Rendering.Alike.concat ?_
  simp only [List.forall₂_map_left_iff, List.forall₂_map_right_iff, List.forall₂_same]
  intro e he
  exact alike_element hop _ _ h fun i hi ↦ hslots i (hi ▸ he)

theorem alike_entry {operation : Op → List Operand → Operand} (hop : KeepsAlike operation)
    {operator : Operator} (h : Forall₂ Operand.Alike as bs)
    (hslots : ∀ e, s.profile.registry.get? operator = some e → SlotsAgree e.template as bs) :
    (s.entry operation operator as).Alike (s.entry operation operator bs) := by
  unfold entry
  cases hget : s.profile.registry.get? operator with
  | none => exact .refl _
  | some e =>
      have happly : (entry.apply s operation as e).Alike (entry.apply s operation bs e) :=
        alike_elements hop e.template e.precedence h (hslots e hget)
      cases harity : e.arity with
      | none => simpa only [harity] using happly
      | some arity =>
          simp only [harity, h.length_eq]
          split
          · exact happly
          · exact .refl _

theorem slotsAgree_of_registry {operator : Operator}
    (h : s.profile.registry.bindsAll operator = true) (e : TemplateEntry)
    (hget : s.profile.registry.get? operator = some e) : SlotsAgree e.template as bs := by
  refine slotsAgree_of_bindsAll ?_
  simpa [Registry.bindsAll, hget] using h

/-! ## Dialects that bind strings -/

end Setup

/-- Nothing that a dialect of SQL writes by itself puts a string constant into the text: not
the operations of slots and of numbered rows, not the target of a cast, and no path below a
collection. -/
structure Profile.BindsStrings (p : Profile) : Prop where
  sql : p.family = .sql
  own : ∀ op ∈ [Op.lower, .upper, .concat, .aliased], p.registry.bindsAll (.op op) = true
  cast : ∀ e, p.registry.get? (.op .cast) = some e →
    ∀ i, Element.inlined i ∈ e.template.elements → i = 1
  path : ∀ kind ∈ [PathKind.listValue, .mapValue, .mapKey],
    p.registry.bindsAll (.path kind) = true

namespace Setup

variable {s : Setup} {a b : Operand} {as bs : List Operand}

theorem alike_ofRender (op : Op) (h : Forall₂ Operand.Alike as bs) {r t : Rendering}
    (hr : r.Alike t) : (textOperation.ofRender op as r).Alike (textOperation.ofRender op bs t) := by
  refine ⟨?_, rfl, hr⟩
  have hexprs := Operand.Alike.map_expr h
  simp only [textOperation.ofRender, Operand.expr, Expr.masked, maskedExprs_eq_map, hexprs]

theorem keepsAlike_textOperation (hs : s.profile.BindsStrings) (depth : Nat) :
    KeepsAlike (s.textOperation depth) := by
  induction depth with
  | zero =>
      intro op _ xs ys h
      exact alike_ofRender op h (.refl _)
  | succ depth ih =>
      intro op hop xs ys h
      have hown : s.profile.registry.bindsAll (.op op) = true :=
        hs.own op (List.mem_append_left [Op.aliased] hop)
      have hentry := alike_entry ih h (slotsAgree_of_registry hown)
      exact alike_ofRender op h (hentry.within _)

theorem alike_apply (hs : s.profile.BindsStrings) (t : Template) (precedence : Int)
    (h : Forall₂ Operand.Alike as bs) (hslots : SlotsAgree t as bs) :
    (s.apply t precedence as).Alike (s.apply t precedence bs) :=
  alike_elements (keepsAlike_textOperation hs expansionDepth) t precedence h hslots

theorem alike_plain (hs : s.profile.BindsStrings) {operator : Operator}
    (h : Forall₂ Operand.Alike as bs)
    (hslots : ∀ e, s.profile.registry.get? operator = some e → SlotsAgree e.template as bs) :
    (s.plain operator as).Alike (s.plain operator bs) :=
  alike_entry (keepsAlike_textOperation hs expansionDepth) h hslots

theorem alike_plain_of_bindsAll (hs : s.profile.BindsStrings) {operator : Operator}
    (h : Forall₂ Operand.Alike as bs) (hbinds : s.profile.registry.bindsAll operator = true) :
    (s.plain operator as).Alike (s.plain operator bs) :=
  alike_plain hs h (slotsAgree_of_registry hbinds)

/-! ## Rewritings -/

theorem alike_normalized (target : ValueType) (h : a.Alike b) :
    (match a.expr with
      | .constant c => s.constant (c.normalized target)
      | _ => a).Alike
      (match b.expr with
        | .constant c => s.constant (c.normalized target)
        | _ => b) := by
  have hexpr := h.expr
  cases ha : a.expr <;> cases hb : b.expr <;>
    simp only [ha, hb, Expr.masked, Expr.constant.injEq, reduceCtorEq] at hexpr
  · refine alike_constant ?_
    rw [Constant.masked_normalized, Constant.masked_normalized, hexpr]
  all_goals exact h

theorem forall₂_normalizeNumbers (h : Forall₂ Operand.Alike as bs) :
    Forall₂ Operand.Alike (s.normalizeNumbers as) (s.normalizeNumbers bs) := by
  unfold normalizeNumbers
  rw [Operand.Alike.numericTarget h]
  split
  · exact h
  · simp only [List.forall₂_map_left_iff, List.forall₂_map_right_iff]
    exact h.imp fun _ _ hxy ↦ alike_normalized _ hxy

theorem alike_unchanged (hs : s.profile.BindsStrings) {op : Op}
    (h : Forall₂ Operand.Alike as bs) (hbinds : s.profile.registry.bindsAll (.op op) = true) :
    (s.unchanged op as).Alike (s.unchanged op bs) := by
  refine alike_plain_of_bindsAll hs ?_ hbinds
  split
  · exact forall₂_normalizeNumbers h
  · exact h

theorem value?_eq_typeRef (h : a.Alike b) {t : ValueType} (ha : a.value? = some (.typeRef t)) :
    b.value? = some (.typeRef t) := by
  refine Expr.value?_eq_of_masked h.expr (fun v hv ↦ ?_) ha
  cases v <;> simp_all [Value.masked]

theorem alike_numericCast (hs : s.profile.BindsStrings) {x y target target' : Operand}
    (hx : x.Alike y) (htarget : target.Alike target') :
    (s.numericCast x target).Alike (s.numericCast y target') := by
  by_cases ht : ∃ t, target.value? = some (.typeRef t)
  · obtain ⟨t, ht⟩ := ht
    unfold numericCast
    rw [ht, value?_eq_typeRef htarget ht]
    refine alike_plain hs (.cons hx (.cons (.refl _) .nil)) fun e he i hi ↦ ?_
    -- only the name of the type is written out, and that is the same on both sides
    obtain rfl := hs.cast e he i hi
    rfl
  · have hfail : ∀ z u : Operand, (¬ ∃ t, u.value? = some (.typeRef t)) →
        s.numericCast z u = .fail (.invalidArgument .castTarget) := by
      intro z u hu
      unfold numericCast
      split
      · rename_i t hvalue
        exact absurd ⟨t, hvalue⟩ hu
      · rfl
    have hback : target'.Alike target := ⟨htarget.expr.symm, htarget.operator?.symm,
      htarget.render.symm⟩
    rw [hfail x target ht, hfail y target' fun ⟨t, ht'⟩ ↦ ht ⟨t, value?_eq_typeRef hback ht'⟩]
    exact .refl _

theorem alike_likeTest (hs : s.profile.BindsStrings) {x y pattern pattern' : Operand}
    (hx : x.Alike y) (hpattern : pattern.Alike pattern')
    (hbinds : s.profile.registry.bindsAll (.op .like) = true) :
    (s.likeTest x pattern).Alike (s.likeTest y pattern') := by
  have hsome := hpattern.isSome_string?
  unfold likeTest
  cases hp : pattern.string? <;> cases hp' : pattern'.string? <;> simp [hp, hp'] at hsome
  · exact alike_plain_of_bindsAll hs (.cons hx (.cons hpattern .nil)) hbinds
  · exact alike_plain_of_bindsAll hs (.cons hx (.cons (alike_string _ _) .nil)) hbinds

theorem isEmptyList_iff (c : Operand) :
    isEmptyList c = true ↔ c.value?.map Value.masked = some (.list []) := by
  unfold isEmptyList
  cases c.value? with
  | none => simp
  | some v =>
      cases v with
      | list items => cases items <;> simp [Value.masked, Value.maskedItems]
      | _ => simp [Value.masked]

theorem isEmptyList_eq (h : a.Alike b) : isEmptyList a = isEmptyList b := by
  rw [Bool.eq_iff_iff, isEmptyList_iff, isEmptyList_iff, h.map_value?]

theorem alike_listTest (hs : s.profile.BindsStrings) (op : Op) (decided : String)
    {x y z w : Operand} (hx : x.Alike y) (hz : z.Alike w)
    (hbinds : s.profile.registry.bindsAll (.op op) = true) :
    (s.listTest op decided x z).Alike (s.listTest op decided y w) := by
  unfold listTest
  rw [isEmptyList_eq hz]
  split
  · exact .refl _
  · exact alike_plain_of_bindsAll hs (.cons hx (.cons hz .nil)) hbinds

theorem alike_sqlOperation (hs : s.profile.BindsStrings) {op : Op}
    (h : Forall₂ Operand.Alike as bs) (hbinds : s.profile.registry.bindsAll (.op op) = true) :
    (s.sqlOperation op as).Alike (s.sqlOperation op bs) := by
  unfold sqlOperation
  split
  · obtain _ | ⟨hx, _ | ⟨hy, _ | _⟩⟩ := h
    exact alike_listTest hs .isIn _ hx hy hbinds
  · obtain _ | ⟨hx, _ | ⟨hy, _ | _⟩⟩ := h
    exact alike_listTest hs .notIn _ hx hy hbinds
  · obtain _ | ⟨hx, _ | ⟨hy, _ | _⟩⟩ := h
    exact alike_numericCast hs hx hy
  · obtain _ | ⟨hx, _ | ⟨hy, _ | _⟩⟩ := h
    exact alike_likeTest hs hx hy hbinds
  · rename_i hin hnotIn hcast hlike
    -- the other side has as many arguments, so that it is no special case either
    split
    · obtain _ | ⟨_, _ | ⟨_, _ | _⟩⟩ := h
      exact absurd rfl (hin _ _ rfl)
    · obtain _ | ⟨_, _ | ⟨_, _ | _⟩⟩ := h
      exact absurd rfl (hnotIn _ _ rfl)
    · obtain _ | ⟨_, _ | ⟨_, _ | _⟩⟩ := h
      exact absurd rfl (hcast _ _ rfl)
    · obtain _ | ⟨_, _ | ⟨_, _ | _⟩⟩ := h
      exact absurd rfl (hlike _ _ rfl)
    · exact alike_unchanged hs h hbinds

theorem alike_operationRendering (hs : s.profile.BindsStrings) {operator : Operator}
    (h : Forall₂ Operand.Alike as bs) (hbinds : s.profile.registry.bindsAll operator = true) :
    (s.operationRendering operator as).Alike (s.operationRendering operator bs) := by
  cases operator with
  | op op =>
      simp only [operationRendering, hs.sql]
      exact (alike_sqlOperation hs h hbinds).within _
  | _ => exact alike_plain_of_bindsAll hs h hbinds

theorem alike_operation (hs : s.profile.BindsStrings) (type : ValueType) {operator : Operator}
    (h : Forall₂ Operand.Alike as bs) (hbinds : s.profile.registry.bindsAll operator = true) :
    (s.operation type operator as).Alike (s.operation type operator bs) := by
  refine ⟨?_, rfl, alike_operationRendering hs h hbinds⟩
  have hexprs := Operand.Alike.map_expr h
  simp only [operation, Operand.expr, Expr.masked, maskedExprs_eq_map, hexprs]

/-! ## Templates, rows and paths -/

theorem alike_template (hs : s.profile.BindsStrings) (type : ValueType) {t : Template}
    (h : Forall₂ Operand.Alike as bs) (hslots : SlotsAgree t as bs) :
    (s.template type t as).Alike (s.template type t bs) := by
  refine ⟨?_, rfl, alike_apply hs t (-1) h hslots⟩
  have hexprs := Operand.Alike.map_expr h
  simp only [template, Operand.expr, Expr.masked, maskedExprs_eq_map, hexprs]

theorem alike_factory (type : ValueType) (maker : Factory) (h : Forall₂ Operand.Alike as bs) :
    (factory type maker as).Alike (factory type maker bs) := by
  have hexprs := Operand.Alike.map_expr h
  have hitems := Rendering.Alike.commas (Operand.Alike.forall₂_render h)
  refine ⟨?_, rfl, .of_apply fun scope ↦ ?_⟩
  · simp only [factory, Operand.expr, Expr.masked, maskedExprs_eq_map, hexprs]
  · simp only [factory, Operand.render]
    split
    · exact hitems.apply scope
    · exact hitems.parenthesized.apply scope

theorem alike_step (hs : s.profile.BindsStrings) {p p' : Path} (hp : p.masked = p'.masked)
    (h : Forall₂ Operand.Alike as bs)
    (hslots : ∀ e, s.profile.registry.get? (.path p.kind) = some e →
      SlotsAgree e.template as bs) :
    (s.step p as).Alike (s.step p' bs) := by
  have hkind : p.kind = p'.kind := by rw [← p.kind_masked, hp, p'.kind_masked]
  have htype := Path.type_eq_of_masked hp
  refine ⟨congrArg Expr.path hp, rfl, ?_⟩
  simp only [step, Operand.render, ← hkind, ← htype]
  cases hget : s.profile.registry.get? (.path p.kind) with
  | none => exact .refl _
  | some e =>
      have hbody := (alike_apply hs e.template e.precedence h (hslots e hget)).within
        ({ · with wrapElements := false })
      refine .of_apply fun scope ↦ ?_
      simp only
      split
      · exact (hbody.between "elements(" ")").apply scope
      · exact hbody.apply scope

end Setup

end TypedQuery
