import TypedQuery.Proofs.Contexts.Visitors
import TypedQuery.Proofs.Projections.Operands

/-!
# Operations put in as a whole

Over operands whose writers put their renderings into a context as a whole, the writer of an
operation does so, too: whatever is rewritten, the same operands are left, and flags that were set
for them are set back.
-/

namespace TypedQuery

namespace Visitor

variable (v : Visitor)

/-! ## Constants -/

theorem writer_placeholder (type : ValueType) (b : Binding) :
    (Rendering.placeholder type b).writer v.placeholders = v.placeholder type b := rfl

theorem writer_bound (value : Value) :
    (Rendering.bound value).writer v.placeholders = v.bound value := rfl

theorem draft_constant (c : Constant) :
    (v.toSetup.constant c).draft v.placeholders = v.constant c := by
  have hwriter : (Rendering.constant v.profile.listStyle c).writer v.placeholders =
      (v.constant c).write := by
    unfold Rendering.constant constant
    cases c.value with
    | list items =>
        cases v.profile.listStyle <;>
          simp [Draft.write, writer_placeholder, writer_bound, Function.comp_def]
    | _ => simp [Draft.write, writer_placeholder]
  rw [Setup.constant, Operand.draft, hwriter]
  rfl

theorem draft_value (value : Value) :
    (v.toSetup.value value).draft v.placeholders = v.value value := v.draft_constant _

theorem draft_string (text : String) :
    (v.toSetup.string text).draft v.placeholders = v.string text := v.draft_value _

theorem draft_count (n : UInt64) :
    (v.toSetup.count n).draft v.placeholders = v.count n := v.draft_value _

/-! ## Templates -/

variable {operation : Op → List Operand → Operand} {operation' : Op → List Draft → Draft}

theorem writer_argument (precedence : Int) (a : Operand) :
    (v.toSetup.argument precedence a).writer v.placeholders =
      v.argument precedence (a.draft v.placeholders) := by
  have hloose : v.bindsLooser precedence (a.draft v.placeholders) =
      v.toSetup.bindsLooser precedence a := by
    rw [bindsLooser, Operand.operator?_draft]
    rfl
  unfold Setup.argument argument
  rw [hloose]
  split <;> simp

/-- Makers of operations that make drafts for what others make operands for. -/
def Drafts (v : Visitor) (operation : Op → List Operand → Operand)
    (operation' : Op → List Draft → Draft) : Prop :=
  ∀ op args, (operation op args).draft v.placeholders =
    operation' op (args.map (Operand.draft v.placeholders))

variable {v}

theorem draft_likeOperand (h : v.Drafts operation operation') (a : Operand)
    (leading trailing lower : Bool) :
    (v.toSetup.likeOperand operation a leading trailing lower).draft v.placeholders =
      v.likeOperand operation' (a.draft v.placeholders) leading trailing lower := by
  unfold Setup.likeOperand likeOperand
  cases leading <;> cases trailing <;> cases lower <;> simp [h _ _, draft_string]

theorem writer_withArg (pattern : String) (index : Nat) (args : List Operand)
    {f : Operand → Rendering} {g : Draft → Writer}
    (h : ∀ a, (f a).writer v.placeholders = g (a.draft v.placeholders)) :
    (Setup.element.withArg pattern args index f).writer v.placeholders =
      element.withArg pattern (args.map (Operand.draft v.placeholders)) index g := by
  unfold Setup.element.withArg element.withArg
  rw [List.getElem?_map]
  cases args[index]? with
  | none => rfl
  | some a => exact h a

theorem writer_element (h : v.Drafts operation operation') (pattern : String) (precedence : Int)
    (args : List Operand) (slot : Element) :
    (v.toSetup.element operation pattern precedence args slot).writer v.placeholders =
      v.element operation' pattern precedence (args.map (Operand.draft v.placeholders)) slot := by
  cases slot with
  | text text => rfl
  | arg index => exact writer_withArg pattern index args (v.writer_argument precedence)
  | inlined index =>
      refine writer_withArg pattern index args fun a ↦ ?_
      rw [Operand.value?_draft]
      cases a.value? with
      | none => exact v.writer_argument precedence a
      | some value => rfl
  | cased index letterCase =>
      refine writer_withArg pattern index args fun a ↦ ?_
      rw [Operand.string?_draft]
      cases a.string? <;> cases letterCase <;>
        first | rfl | exact (v.writer_argument precedence _).trans (by rw [h]; rfl)
  | like index leading trailing lower =>
      refine writer_withArg pattern index args fun a ↦ ?_
      rw [Operand.string?_draft]
      cases a.string? with
      | none => exact (v.writer_argument precedence _).trans (by rw [draft_likeOperand h])
      | some text => rfl
  | all =>
      simp only [Setup.element, element, Rendering.writer_commas, List.map_map, Function.comp_def,
        writer_argument]

theorem writer_entry (h : v.Drafts operation operation') (operator : Operator)
    (args : List Operand) :
    (v.toSetup.entry operation operator args).writer v.placeholders =
      v.entry operation' operator (args.map (Operand.draft v.placeholders)) := by
  have happly : ∀ e, (Setup.entry.apply v.toSetup operation args e).writer v.placeholders =
      entry.apply v operation' (args.map (Operand.draft v.placeholders)) e := by
    intro e
    simp only [Setup.entry.apply, entry.apply, Rendering.writer_concat, List.map_map,
      Function.comp_def, writer_element h]
  unfold Setup.entry entry
  rw [List.length_map]
  cases v.profile.registry.get? operator with
  | none => rfl
  | some e =>
      cases harity : e.arity with
      | none => simpa [harity] using happly e
      | some arity =>
          cases haccepts : arity.accepts args.length with
          | true => simpa [harity, haccepts] using happly e
          | false => simp [harity, haccepts]

theorem writer_inside (op : Op) (r : Rendering) :
    (v.toSetup.inside op r).writer v.placeholders = v.inside op (r.writer v.placeholders) :=
  Rendering.writer_inside (v.profile.wrapsElements op) r

theorem drafts_textOperation (depth : Nat) :
    v.Drafts (v.toSetup.textOperation depth) (v.textOperation depth) := by
  induction depth with
  | zero =>
      intro op args
      simp [Setup.textOperation, Setup.textOperation.ofRender, textOperation,
        textOperation.ofWriter, Operand.draft]
  | succ depth ih =>
      intro op args
      simp [Setup.textOperation, Setup.textOperation.ofRender, textOperation,
        textOperation.ofWriter, Operand.draft, writer_inside, writer_entry ih]

theorem writer_apply (t : Template) (precedence : Int) (args : List Operand) :
    (v.toSetup.apply t precedence args).writer v.placeholders =
      v.apply t precedence (args.map (Operand.draft v.placeholders)) := by
  simp only [Setup.apply, apply, Rendering.writer_concat, List.map_map, Function.comp_def,
    writer_element (drafts_textOperation Setup.expansionDepth)]

theorem writer_plain (operator : Operator) (args : List Operand) :
    (v.toSetup.plain operator args).writer v.placeholders =
      v.plain operator (args.map (Operand.draft v.placeholders)) :=
  writer_entry (drafts_textOperation Setup.expansionDepth) operator args

/-! ## Paths -/

theorem draft_step (p : Path) (args : List Operand) :
    (v.toSetup.step p args).draft v.placeholders =
      v.step p (args.map (Operand.draft v.placeholders)) := by
  rw [Setup.step, Operand.draft, step]
  congr 1
  cases v.profile.registry.get? (.path p.kind) with
  | none => rfl
  | some e =>
      dsimp only
      rw [← writer_apply, ← Rendering.writer_step]
      simp only [Bool.and_assoc]

theorem draft_rootStep (type : ValueType) (name : String) :
    (v.toSetup.rootStep type name).draft v.placeholders = v.rootStep type name := by
  rw [Setup.rootStep, draft_step, rootStep, List.map_singleton, draft_string]

theorem draft_propertyStep (type : ValueType) (owner : Path) (parent : Operand) (name : String) :
    (v.toSetup.propertyStep type owner parent name).draft v.placeholders =
      v.propertyStep type owner (parent.draft v.placeholders) name := by
  simp only [Setup.propertyStep, propertyStep, draft_step, List.map_cons, List.map_nil,
    draft_string]

/-! ## Rewritings -/

theorem draft_normalizeNumbers (args : List Operand) :
    (v.toSetup.normalizeNumbers args).map (Operand.draft v.placeholders) =
      v.normalizeNumbers (args.map (Operand.draft v.placeholders)) := by
  unfold Setup.normalizeNumbers normalizeNumbers
  rw [Operand.map_expr_draft]
  cases Expr.numericTarget (args.map Operand.expr) with
  | none => rfl
  | some target =>
      simp only [List.map_map]
      refine List.map_congr_left fun a _ ↦ ?_
      simp only [Function.comp_apply, Operand.expr_draft]
      cases a.expr with
      | constant c => exact v.draft_constant _
      | _ => rfl

theorem writer_unchanged (op : Op) (args : List Operand) :
    (v.toSetup.unchanged op args).writer v.placeholders =
      v.unchanged op (args.map (Operand.draft v.placeholders)) := by
  rw [Setup.unchanged, writer_plain, unchanged]
  split
  · rw [draft_normalizeNumbers]
  · rfl

variable (x y : Operand)

theorem writer_plain_pair (operator : Operator) :
    (v.toSetup.plain operator [x, y]).writer v.placeholders =
      v.plain operator [x.draft v.placeholders, y.draft v.placeholders] :=
  writer_plain operator [x, y]

theorem draft_encoded (collection : Path) :
    (v.toSetup.encoded collection x).draft v.placeholders =
      v.encoded collection (x.draft v.placeholders) := by
  unfold Setup.encoded encoded
  rw [Operand.value?_draft]
  split
  · rfl
  · cases x.value? with
    | none => rfl
    | some value =>
        cases value with
        | enum type name ordinal =>
            dsimp only
            cases v.encodingOf collection with
            | ordinal => exact v.draft_value _
            | name => exact v.draft_string name
        | _ => rfl

theorem writer_entityIn (op : Op) (p : Path) (c : Constant) :
    (v.toSetup.entityIn op p c x y).writer v.placeholders =
      v.entityIn op p c (x.draft v.placeholders) (y.draft v.placeholders) := by
  unfold Setup.entityIn entityIn
  cases v.identify with
  | none => exact writer_plain_pair x y _
  | some identify =>
      cases (v.metamodel.entity? p.type).bind EntityInfo.id with
      | none => exact writer_plain_pair x y _
      | some id =>
          dsimp only
          split
          · exact writer_plain_pair x y _
          · cases Setup.identifiers identify (c.value.list?.getD [c.value]) with
            | error e => rfl
            | ok ids => simp only [writer_plain_pair, draft_propertyStep, draft_value]

theorem writer_membership (op member : Op) :
    (v.toSetup.membership op member x y).writer v.placeholders =
      v.membership op member (x.draft v.placeholders) (y.draft v.placeholders) := by
  unfold Setup.membership membership
  rw [Operand.expr_draft, Operand.expr_draft]
  cases y.expr with
  | path collection => simp only [writer_plain_pair, draft_encoded]
  | constant c =>
      cases x.expr with
      | path p => exact writer_entityIn x y op p c
      | _ => exact writer_plain_pair x y _
  | _ => exact writer_plain_pair x y _

theorem writer_quantified (op member : Op) (values : List Operand) :
    (v.toSetup.quantified op member x values).writer v.placeholders =
      v.quantified op member (x.draft v.placeholders)
        (values.map (Operand.draft v.placeholders)) := by
  cases values with
  | nil => rfl
  | cons y values =>
      simp only [Setup.quantified, quantified, List.map_cons, writer_inside, writer_membership]

theorem writer_instanceTest :
    (v.toSetup.instanceTest x y).writer v.placeholders =
      v.instanceTest (x.draft v.placeholders) (y.draft v.placeholders) := by
  unfold Setup.instanceTest instanceTest
  rw [Operand.value?_draft]
  cases v.profile.capabilities.typeAsString with
  | false => exact writer_plain_pair x y _
  | true =>
      cases y.value? with
      | none => exact writer_plain_pair x y _
      | some value =>
          cases value with
          | typeRef t => simp only [writer_plain_pair, draft_string]
          | _ => exact writer_plain_pair x y _

theorem writer_numericCast :
    (v.toSetup.numericCast x y).writer v.placeholders =
      v.numericCast (x.draft v.placeholders) (y.draft v.placeholders) := by
  unfold Setup.numericCast numericCast
  rw [Operand.value?_draft]
  cases y.value? with
  | none => rfl
  | some value =>
      cases value with
      | typeRef t =>
          cases v.profile.family <;> simp only [writer_plain_pair, draft_string]
      | _ => rfl

theorem writer_likeTest :
    (v.toSetup.likeTest x y).writer v.placeholders =
      v.likeTest (x.draft v.placeholders) (y.draft v.placeholders) := by
  unfold Setup.likeTest likeTest
  rw [Operand.string?_draft]
  cases y.string? with
  | none => exact writer_plain_pair x y _
  | some text => simp only [writer_plain_pair, draft_string]

theorem draft_lowered :
    (v.toSetup.lowered x).draft v.placeholders = v.lowered (x.draft v.placeholders) := by
  unfold Setup.lowered lowered
  rw [Operand.string?_draft]
  cases x.string? with
  | none => exact drafts_textOperation _ .lower [x]
  | some text => exact v.draft_string _

theorem draft_regexAsLike :
    (v.toSetup.regexAsLike y).map (Operand.draft v.placeholders) =
      v.regexAsLike (y.draft v.placeholders) := by
  unfold Setup.regexAsLike regexAsLike
  rw [Operand.string?_draft]
  cases y.string? with
  | none => rfl
  | some regex =>
      dsimp only
      cases Text.Like.ofRegex? v.profile.escape regex.toList with
      | none => rfl
      | some like => exact congrArg Except.ok (v.draft_string _)

theorem writer_regexTest (op : Op) :
    (v.toSetup.regexTest op x y).writer v.placeholders =
      v.regexTest op (x.draft v.placeholders) (y.draft v.placeholders) := by
  unfold Setup.regexTest regexTest
  rw [← draft_regexAsLike]
  split
  · exact writer_plain_pair x y _
  · cases v.toSetup.regexAsLike y with
    | error e => rfl
    | ok like =>
        have hlower : (v.toSetup.textOperation (Setup.expansionDepth + 1) .lower [x]).draft
            v.placeholders =
              v.textOperation (Setup.expansionDepth + 1) .lower [x.draft v.placeholders] :=
          drafts_textOperation _ .lower [x]
        simp only [Except.map]
        split
        · simp only [writer_plain_pair, draft_lowered, hlower]
        · exact writer_plain_pair x like _

/-! ## Operations -/

/-- Only the draft of an operation is one. -/
theorem draft_eq_operation {a : Operand} {e : Expr} {o : Operator} {ds : List Draft} {w : Writer}
    (h : a.draft v.placeholders = .operation e o ds w) :
    ∃ args r, a = .operation e o args r := by
  cases a with
  | operation e' o' args r =>
      rw [Operand.draft, Draft.operation.injEq] at h
      obtain ⟨rfl, rfl, -⟩ := h
      exact ⟨args, r, rfl⟩
  | _ => cases h

theorem draft_eq_subQuery {a : Operand} {e : Expr} {select : Option String → Writer}
    (h : a.draft v.placeholders = .subQuery e select) : ∃ select', a = .subQuery e select' := by
  cases a with
  | subQuery e' select' =>
      rw [Operand.draft, Draft.subQuery.injEq] at h
      obtain ⟨rfl, -⟩ := h
      exact ⟨select', rfl⟩
  | _ => cases h

theorem writer_jpqlOperation (op : Op) (args : List Operand) :
    (v.toSetup.jpqlOperation op args).writer v.placeholders =
      v.jpqlOperation op (args.map (Operand.draft v.placeholders)) := by
  unfold Setup.jpqlOperation
  split
  · simp [writer_quantified, jpqlOperation, Operand.draft]
  · simp [writer_quantified, jpqlOperation, Operand.draft]
  · exact writer_membership _ _ _ _
  · exact writer_membership _ _ _ _
  · exact writer_instanceTest _ _
  · exact writer_numericCast _ _
  · simp [jpqlOperation, Operand.draft]
  · exact writer_regexTest _ _ _
  · exact writer_regexTest _ _ _
  · exact writer_likeTest _ _
  · rw [writer_unchanged]
    unfold jpqlOperation
    -- drafts have the shapes of their operands, so that they are not rewritten either
    split <;> simp_all [List.map_eq_cons_iff]
    · rename_i hshape hother
      obtain ⟨x, y, rfl, -, hy⟩ := hshape
      obtain ⟨values, r, rfl⟩ := draft_eq_operation hy
      exact absurd rfl (hother x _ values r)
    · rename_i hshape hother
      obtain ⟨x, y, rfl, -, hy⟩ := hshape
      obtain ⟨values, r, rfl⟩ := draft_eq_operation hy
      exact absurd rfl (hother x _ values r)
    · rename_i hshape hother
      obtain ⟨x, rfl, hx⟩ := hshape
      obtain ⟨select, rfl⟩ := draft_eq_subQuery hx
      exact absurd rfl (hother _ select)

theorem writer_listTest (op : Op) (decided : String) :
    (v.toSetup.listTest op decided x y).writer v.placeholders =
      v.listTest op decided (x.draft v.placeholders) (y.draft v.placeholders) := by
  unfold Setup.listTest Setup.isEmptyList listTest
  rw [Operand.value?_draft]
  cases y.value? with
  | none => exact writer_plain_pair x y _
  | some value =>
      cases value with
      | list items =>
          cases items with
          | nil => rfl
          | cons item items => exact writer_plain_pair x y _
      | _ => exact writer_plain_pair x y _

theorem writer_sqlOperation (op : Op) (args : List Operand) :
    (v.toSetup.sqlOperation op args).writer v.placeholders =
      v.sqlOperation op (args.map (Operand.draft v.placeholders)) := by
  unfold Setup.sqlOperation
  split
  · exact writer_listTest _ _ _ _
  · exact writer_listTest _ _ _ _
  · exact writer_numericCast _ _
  · exact writer_likeTest _ _
  · rw [writer_unchanged]
    unfold sqlOperation
    split <;> simp_all [List.map_eq_cons_iff]

theorem draft_operation (type : ValueType) (operator : Operator) (args : List Operand) :
    (v.toSetup.operation type operator args).draft v.placeholders =
      v.operation type operator (args.map (Operand.draft v.placeholders)) := by
  have hwriter : (v.toSetup.operationRendering operator args).writer v.placeholders =
      v.operationWriter operator (args.map (Operand.draft v.placeholders)) := by
    unfold Setup.operationRendering operationWriter
    cases operator with
    | op op =>
        dsimp only
        rw [writer_inside]
        cases v.profile.family with
        | jpql => rw [writer_jpqlOperation]
        | sql => rw [writer_sqlOperation]
    | _ => exact writer_plain _ args
  simp [Setup.operation, operation, Operand.draft, hwriter]

/-! ## Templates and rows -/

theorem draft_template (type : ValueType) (t : Template) (args : List Operand) :
    (v.toSetup.template type t args).draft v.placeholders =
      v.template type t (args.map (Operand.draft v.placeholders)) := by
  simp [Setup.template, template, Operand.draft, writer_apply]

theorem draft_factory (type : ValueType) (maker : Factory) (args : List Operand) :
    (Setup.factory type maker args).draft v.placeholders =
      factory type maker (args.map (Operand.draft v.placeholders)) := by
  have hitems : Writer.commas ((args.map (Operand.draft v.placeholders)).map Draft.write) =
      (Rendering.commas (args.map Operand.render)).writer v.placeholders := by
    simp [Function.comp_def]
  rw [factory, hitems, ← Rendering.writer_row, Operand.map_expr_draft]
  rfl

theorem draft_param (p : Param) : (Setup.param p).draft v.placeholders = v.param p := rfl

end Visitor

end TypedQuery
