import Mathlib.Data.List.Forall2
import TypedQuery.Proofs.Isolation
import TypedQuery.Proofs.Nesting.Selects

/-!
# Operations in and out of a projection

Only a row sees whether it stands in a projection. An operator looks at the faces of its operands
and writes them with its template, so that an operation writes the same in two places as soon as its
operands do.
-/

namespace TypedQuery

open List (Forall₂)

/-- Two images of a list are related item by item when those of its members are. -/
theorem forall₂_map_self {α β γ : Type} {R : β → γ → Prop} {f : α → β} {g : α → γ} {l : List α}
    (h : ∀ x ∈ l, R (f x) (g x)) : Forall₂ R (l.map f) (l.map g) := by
  rw [List.forall₂_map_left_iff, List.forall₂_map_right_iff, List.forall₂_same]
  exact h

/-! ## Renderings in two places -/

namespace Rendering

variable {b b' : Bool} {r t r' t' : Rendering} {rs ts : List Rendering}

/-- One rendering writes, in or out of a projection, what another one writes in or out of one. -/
def Agree (b b' : Bool) (r t : Rendering) : Prop := ∀ wrap, r ⟨b, wrap⟩ = t ⟨b', wrap⟩

theorem Agree.refl (r : Rendering) : Agree b b r r := fun _ ↦ rfl

theorem IsScopeFree.agree (h : r.IsScopeFree) : Agree b b' r r := fun _ ↦ h _ _

theorem Agree.append (h : Agree b b' r t) (h' : Agree b b' r' t') :
    Agree b b' (r ++ r') (t ++ t') := by
  intro wrap
  rw [append_apply, append_apply, h wrap, h' wrap]

theorem Agree.concat (h : Forall₂ (Agree b b') rs ts) : Agree b b' (concat rs) (concat ts) := by
  induction h with
  | nil => exact isScopeFree_empty.agree
  | cons hfirst _ ih => exact hfirst.append ih

theorem Agree.separated (separator : String) (h : Forall₂ (Agree b b') rs ts) :
    Agree b b' (separated separator rs) (separated separator ts) := by
  induction h with
  | nil => exact isScopeFree_empty.agree
  | cons hfirst hrest ih =>
      cases hrest with
      | nil => exact hfirst
      | cons hnext hothers => exact (hfirst.append (isScopeFree_text separator).agree).append ih

theorem Agree.between (before behind : String) (h : Agree b b' r t) :
    Agree b b' (r.between before behind) (t.between before behind) :=
  ((isScopeFree_text before).agree.append h).append (isScopeFree_text behind).agree

/-- Whether elements are meant has nothing to do with projections. -/
theorem Agree.wrapping (h : Agree b b' r t) (wrap : Bool) :
    Agree b b' (r.within ({ · with wrapElements := wrap }))
      (t.within ({ · with wrapElements := wrap })) := fun _ ↦ h wrap

end Rendering

/-! ## Faces -/

/-- What a rewriting sees of a path: its last step and the type that this step belongs to. -/
structure Path.SameFace (p p' : Path) : Prop where
  type : p.type = p'.type
  kind : p.kind = p'.kind
  name? : p.name? = p'.name?
  owner : p.parent?.map Path.type = p'.parent?.map Path.type

namespace Expr

def constant? : Expr → Option Constant
  | constant c => some c
  | _ => none

/-- What an operator sees of an operand besides the operations and queries it is made of. -/
structure SameFace (e e' : Expr) : Prop where
  type : e.type = e'.type
  constant? : e.constant? = e'.constant?
  path? : Option.Rel Path.SameFace e.path? e'.path?

variable {e e' : Expr}

theorem constant?_eq_some_iff {c : Constant} : e.constant? = some c ↔ e = .constant c := by
  cases e <;> simp [constant?]

theorem SameFace.value? (h : e.SameFace e') : e.value? = e'.value? := by
  have hvalue : ∀ e : Expr, e.value? = e.constant?.map Constant.value := by
    intro e
    cases e <;> rfl
  rw [hvalue, hvalue, h.constant?]

theorem SameFace.isConstant (h : e.SameFace e') : e.isConstant = e'.isConstant := by
  have hconstant : ∀ e : Expr, e.isConstant = e.constant?.isSome := by
    intro e
    cases e <;> rfl
  rw [hconstant, hconstant, h.constant?]

theorem sameFace_constant (c : Constant) : SameFace (.constant c) (.constant c) := ⟨rfl, rfl, .none⟩

theorem sameFace_path {p p' : Path} (h : p.SameFace p') : SameFace (.path p) (.path p') :=
  ⟨h.type, rfl, .some h⟩

/-- Neither a constant nor a path has anything but its type to show. -/
theorem sameFace_of_type (htype : e.type = e'.type) (hconstant : e.constant? = none)
    (hpath : e.path? = none) (hconstant' : e'.constant? = none) (hpath' : e'.path? = none) :
    e.SameFace e' :=
  ⟨htype, hconstant.trans hconstant'.symm, by rw [hpath, hpath']; exact .none⟩

theorem numericTarget_of_sameFace {es es' : List Expr} (h : Forall₂ SameFace es es') :
    numericTarget es = numericTarget es' := by
  unfold numericTarget
  induction h with
  | nil => rfl
  | cons hfirst _ ih =>
      rw [List.find?_cons, List.find?_cons, hfirst.isConstant, hfirst.type]
      split
      · exact congrArg some hfirst.type
      · exact ih

end Expr

/-! ## Operands in two places -/

/-- Operands of one face and of one build, which write the same in two places. -/
inductive Operand.Agree (b b' : Bool) : Operand → Operand → Prop
  | leaf {e e' : Expr} {r t : Rendering} (face : e.SameFace e') (h : Rendering.Agree b b' r t) :
      Agree b b' (.leaf e r) (.leaf e' t)
  | operation {e e' : Expr} {operator : Operator} {as bs : List Operand} {r t : Rendering}
      (face : e.SameFace e') (hargs : Forall₂ (Agree b b') as bs)
      (h : Rendering.Agree b b' r t) :
      Agree b b' (.operation e operator as r) (.operation e' operator bs t)
  | subQuery {e e' : Expr} {select select' : Option String → Rendering} (face : e.SameFace e')
      (h : ∀ projection, Rendering.Agree b b' (select projection) (select' projection)) :
      Agree b b' (.subQuery e select) (.subQuery e' select')

namespace Operand.Agree

variable {b b' : Bool} {x y : Operand} {as bs : List Operand}

theorem face (h : Agree b b' x y) : x.expr.SameFace y.expr := by
  cases h <;> assumption

theorem render (h : Agree b b' x y) : Rendering.Agree b b' x.render y.render := by
  cases h with
  | leaf _ h => exact h
  | operation _ _ h => exact h
  | subQuery _ h => exact (h none).between "(" ")"

theorem operator? (h : Agree b b' x y) : x.operator? = y.operator? := by
  cases h <;> rfl

theorem value? (h : Agree b b' x y) : x.value? = y.value? := h.face.value?

theorem string? (h : Agree b b' x y) : x.string? = y.string? := by
  rw [Operand.string?, Operand.string?, h.value?]

theorem forall₂_render (h : Forall₂ (Agree b b') as bs) :
    Forall₂ (Rendering.Agree b b') (as.map Operand.render) (bs.map Operand.render) :=
  List.rel_map (fun _ _ hxy ↦ hxy.render) h

theorem forall₂_face (h : Forall₂ (Agree b b') as bs) :
    Forall₂ Expr.SameFace (as.map Operand.expr) (bs.map Operand.expr) :=
  List.rel_map (fun _ _ hxy ↦ hxy.face) h

theorem getElem? (h : Forall₂ (Agree b b') as bs) (i : Nat) :
    (as[i]? = none ∧ bs[i]? = none) ∨
      ∃ x y, as[i]? = some x ∧ bs[i]? = some y ∧ Agree b b' x y := by
  induction h generalizing i with
  | nil => simp
  | cons hab _ ih =>
      cases i with
      | zero => exact .inr ⟨_, _, rfl, rfl, hab⟩
      | succ i => simpa using ih i

end Operand.Agree

open Rendering (isScopeFree_fail isScopeFree_text isClosed_isScopeFree)

namespace Setup

variable {s : Setup} {b b' : Bool} {x y x' y' : Operand} {as bs : List Operand}

theorem agree_constant (s : Setup) (c : Constant) :
    Operand.Agree b b' (s.constant c) (s.constant c) :=
  .leaf (Expr.sameFace_constant c) (isClosed_isScopeFree.constant s.profile.listStyle c).agree

theorem agree_value (s : Setup) (v : Value) : Operand.Agree b b' (s.value v) (s.value v) :=
  s.agree_constant (.ofValue v)

theorem agree_string (s : Setup) (t : String) : Operand.Agree b b' (s.string t) (s.string t) :=
  s.agree_value (.string t)

theorem agree_count (s : Setup) (n : UInt64) : Operand.Agree b b' (s.count n) (s.count n) :=
  s.agree_value _

/-! ## Templates -/

theorem agree_argument (precedence : Int) (h : x.Agree b b' y) :
    Rendering.Agree b b' (s.argument precedence x) (s.argument precedence y) := by
  have hloose : s.bindsLooser precedence x = s.bindsLooser precedence y := by
    rw [bindsLooser, bindsLooser, h.operator?]
  unfold argument
  rw [hloose]
  split
  · exact h.render.between "(" ")"
  · exact h.render

/-- Makers of operations that write the same in two places as their arguments do. -/
def KeepsAgree (b b' : Bool) (operation : Op → List Operand → Operand) : Prop :=
  ∀ (op : Op) {as bs : List Operand}, Forall₂ (Operand.Agree b b') as bs →
    Operand.Agree b b' (operation op as) (operation op bs)

theorem agree_likeOperand {operation : Op → List Operand → Operand}
    (hop : KeepsAgree b b' operation) (h : x.Agree b b' y) (leading trailing lower : Bool) :
    Operand.Agree b b' (s.likeOperand operation x leading trailing lower)
      (s.likeOperand operation y leading trailing lower) := by
  have hlower : Operand.Agree b b' (if lower then operation .lower [x] else x)
      (if lower then operation .lower [y] else y) := by
    cases lower with
    | true => exact hop .lower (.cons h .nil)
    | false => exact h
  have hleading : ∀ {c d : Operand}, c.Agree b b' d → Operand.Agree b b'
      (if leading then operation .concat [s.string "%", c] else c)
      (if leading then operation .concat [s.string "%", d] else d) := by
    intro c d hcd
    cases leading with
    | true => exact hop .concat (.cons (s.agree_string "%") (.cons hcd .nil))
    | false => exact hcd
  unfold likeOperand
  cases trailing with
  | true => exact hop .concat (.cons (hleading hlower) (.cons (s.agree_string "%") .nil))
  | false => exact hleading hlower

theorem agree_withArg (pattern : String) (h : Forall₂ (Operand.Agree b b') as bs) (i : Nat)
    {f g : Operand → Rendering} (hfg : ∀ {x y : Operand}, x.Agree b b' y →
      Rendering.Agree b b' (f x) (g y)) :
    Rendering.Agree b b' (element.withArg pattern as i f) (element.withArg pattern bs i g) := by
  unfold element.withArg
  rcases Operand.Agree.getElem? h i with ⟨hx, hy⟩ | ⟨x, y, hx, hy, hxy⟩
  · rw [hx, hy]
    exact (isScopeFree_fail _).agree
  · rw [hx, hy]
    exact hfg hxy

theorem agree_element {operation : Op → List Operand → Operand} (hop : KeepsAgree b b' operation)
    (pattern : String) (precedence : Int) (h : Forall₂ (Operand.Agree b b') as bs)
    (slot : Element) :
    Rendering.Agree b b' (s.element operation pattern precedence as slot)
      (s.element operation pattern precedence bs slot) := by
  cases slot with
  | text t => exact (isScopeFree_text t).agree
  | arg i => exact agree_withArg pattern h i fun hxy ↦ agree_argument precedence hxy
  | inlined i =>
      refine agree_withArg pattern h i fun {x y} hxy ↦ ?_
      rw [hxy.value?]
      split
      · exact (isScopeFree_text _).agree
      · exact agree_argument precedence hxy
  | cased i letterCase =>
      refine agree_withArg pattern h i fun {x y} hxy ↦ ?_
      rw [hxy.string?]
      split
      · exact (isClosed_isScopeFree.bound _).agree
      · exact (isClosed_isScopeFree.bound _).agree
      · exact agree_argument precedence (hop .lower (.cons hxy .nil))
      · exact agree_argument precedence (hop .upper (.cons hxy .nil))
  | like i leading trailing lower =>
      refine agree_withArg pattern h i fun {x y} hxy ↦ ?_
      rw [hxy.string?]
      split
      · exact (isClosed_isScopeFree.bound _).agree
      · exact agree_argument precedence (agree_likeOperand hop hxy leading trailing lower)
  | all =>
      refine Rendering.Agree.separated ", " ?_
      exact List.rel_map (fun _ _ hxy ↦ agree_argument precedence hxy) h

theorem agree_elements {operation : Op → List Operand → Operand} (hop : KeepsAgree b b' operation)
    (t : Template) (precedence : Int) (h : Forall₂ (Operand.Agree b b') as bs) :
    Rendering.Agree b b'
      (.concat (t.elements.map (s.element operation t.pattern precedence as)))
      (.concat (t.elements.map (s.element operation t.pattern precedence bs))) := by
  refine Rendering.Agree.concat ?_
  exact forall₂_map_self fun slot _ ↦ agree_element hop t.pattern precedence h slot

theorem agree_entry {operation : Op → List Operand → Operand} (hop : KeepsAgree b b' operation)
    (operator : Operator) (h : Forall₂ (Operand.Agree b b') as bs) :
    Rendering.Agree b b' (s.entry operation operator as) (s.entry operation operator bs) := by
  unfold entry
  split
  · exact (isScopeFree_fail _).agree
  · rename_i e _
    rw [h.length_eq]
    split
    · split
      · exact agree_elements hop e.template e.precedence h
      · exact (isScopeFree_fail _).agree
    · exact agree_elements hop e.template e.precedence h

theorem keepsAgree_textOperation (s : Setup) (depth : Nat) :
    KeepsAgree b b' (s.textOperation depth) := by
  have hoperation : ∀ {op : Op} {as bs : List Operand} {r t : Rendering},
      Forall₂ (Operand.Agree b b') as bs → Rendering.Agree b b' r t →
        Operand.Agree b b' (textOperation.ofRender op as r) (textOperation.ofRender op bs t) :=
    fun h hr ↦ .operation (Expr.sameFace_of_type rfl rfl rfl rfl rfl) h hr
  induction depth with
  | zero => exact fun op as bs h ↦ hoperation h (isScopeFree_fail _).agree
  | succ depth ih => exact fun op as bs h ↦ hoperation h ((agree_entry ih (.op op) h).wrapping _)

theorem agree_apply (t : Template) (precedence : Int) (h : Forall₂ (Operand.Agree b b') as bs) :
    Rendering.Agree b b' (s.apply t precedence as) (s.apply t precedence bs) :=
  agree_elements (s.keepsAgree_textOperation expansionDepth) t precedence h

theorem agree_plain (operator : Operator) (h : Forall₂ (Operand.Agree b b') as bs) :
    Rendering.Agree b b' (s.plain operator as) (s.plain operator bs) :=
  agree_entry (s.keepsAgree_textOperation expansionDepth) operator h

theorem agree_plain_pair (operator : Operator) (hx : x.Agree b b' x') (hy : y.Agree b b' y') :
    Rendering.Agree b b' (s.plain operator [x, y]) (s.plain operator [x', y']) :=
  agree_plain operator (.cons hx (.cons hy .nil))

/-! ## Paths -/

theorem agree_step {p p' : Path} (hp : p.SameFace p') (h : Forall₂ (Operand.Agree b b') as bs) :
    Operand.Agree b b' (s.step p as) (s.step p' bs) := by
  refine .leaf (Expr.sameFace_path hp) ?_
  rw [hp.kind, hp.type]
  split
  · exact (isScopeFree_fail _).agree
  · rename_i e _
    have hbody := (agree_apply (s := s) e.template e.precedence h).wrapping false
    intro wrap
    dsimp only
    split
    · exact hbody.between "elements(" ")" wrap
    · exact hbody wrap

theorem agree_rootStep (s : Setup) (type : ValueType) (name : String) :
    Operand.Agree b b' (s.rootStep type name) (s.rootStep type name) :=
  agree_step ⟨rfl, rfl, rfl, rfl⟩ (.cons (s.agree_string _) .nil)

theorem agree_propertyStep (type : ValueType) {owner owner' : Path}
    (howner : owner.type = owner'.type) (h : x.Agree b b' y) (name : String) :
    Operand.Agree b b' (s.propertyStep type owner x name)
      (s.propertyStep type owner' y name) := by
  unfold propertyStep
  rw [howner]
  exact agree_step ⟨rfl, rfl, rfl, congrArg some howner⟩ (.cons h (.cons (s.agree_string _) .nil))

/-! ## Rewritings -/

theorem agree_normalizeNumbers (h : Forall₂ (Operand.Agree b b') as bs) :
    Forall₂ (Operand.Agree b b') (s.normalizeNumbers as) (s.normalizeNumbers bs) := by
  unfold normalizeNumbers
  rw [Expr.numericTarget_of_sameFace (Operand.Agree.forall₂_face h)]
  split
  · exact h
  · refine List.rel_map (fun x y hxy ↦ ?_) h
    have hconstant := hxy.face.constant?
    split
    · rename_i c hc
      rw [hc, eq_comm] at hconstant
      rw [Expr.constant?_eq_some_iff.mp hconstant]
      exact s.agree_constant _
    · rename_i hnone
      split
      · rename_i c hc
        rw [hc] at hconstant
        exact absurd (Expr.constant?_eq_some_iff.mp hconstant) (hnone c)
      · exact hxy

theorem agree_unchanged (op : Op) (h : Forall₂ (Operand.Agree b b') as bs) :
    Rendering.Agree b b' (s.unchanged op as) (s.unchanged op bs) := by
  unfold unchanged
  split
  · exact agree_plain _ (agree_normalizeNumbers h)
  · exact agree_plain _ h

theorem encodingOf_of_sameFace {p p' : Path} (h : p.SameFace p') :
    s.encodingOf p = s.encodingOf p' := by
  obtain ⟨_, hkind, hname, howner⟩ := h
  cases p <;> cases p' <;> simp_all [encodingOf, Path.kind, Path.name?, Path.parent?]

theorem agree_encoded {p p' : Path} (hp : p.SameFace p') (h : x.Agree b b' y) :
    Operand.Agree b b' (s.encoded p x) (s.encoded p' y) := by
  unfold encoded
  rw [h.value?, encodingOf_of_sameFace hp]
  split
  · exact h
  · split
    · split
      · exact s.agree_value _
      · exact s.agree_string _
    · exact h

theorem agree_entityIn (op : Op) {p p' : Path} (hp : p.SameFace p') (c : Constant)
    (hx : x.Agree b b' x') (hy : y.Agree b b' y') :
    Rendering.Agree b b' (s.entityIn op p c x y) (s.entityIn op p' c x' y') := by
  have hplain := agree_plain_pair (s := s) (.op op) hx hy
  unfold entityIn
  rw [hp.type]
  split
  · split
    · exact hplain
    · split
      · exact agree_plain_pair _ (agree_propertyStep _ hp.type hx _) (s.agree_value _)
      · exact (isScopeFree_fail _).agree
  · exact hplain

/-- A membership is rewritten by the path that it is tested in, or by the path and the constant
that are compared. -/
theorem membership_eq (s : Setup) (op member : Op) (x y : Operand) :
    s.membership op member x y =
      match y.path?, x.path?, y.expr.constant? with
      | some collection, _, _ => s.plain (.op member) [s.encoded collection x, y]
      | none, some p, some c => s.entityIn op p c x y
      | _, _, _ => s.plain (.op op) [x, y] := by
  unfold membership Operand.path?
  cases y.expr <;> cases x.expr <;> rfl

theorem agree_membership (op member : Op) (hx : x.Agree b b' x') (hy : y.Agree b b' y') :
    Rendering.Agree b b' (s.membership op member x y) (s.membership op member x' y') := by
  have hplain := agree_plain_pair (s := s) (.op op) hx hy
  have hcollection : Option.Rel Path.SameFace y.path? y'.path? := hy.face.path?
  have hpath : Option.Rel Path.SameFace x.path? x'.path? := hx.face.path?
  rw [membership_eq, membership_eq, hy.face.constant?]
  generalize y.path? = collection, y'.path? = collection', x.path? = p, x'.path? = p' at *
  cases hcollection with
  | some hcollection => exact agree_plain_pair _ (agree_encoded hcollection hx) hy
  | none =>
      cases hpath with
      | none => exact hplain
      | some hp =>
          cases y'.expr.constant? with
          | none => exact hplain
          | some c => exact agree_entityIn op hp c hx hy

theorem agree_quantified (op member : Op) (hx : x.Agree b b' y)
    (h : Forall₂ (Operand.Agree b b') as bs) :
    Rendering.Agree b b' (s.quantified op member x as) (s.quantified op member y bs) := by
  cases h with
  | nil => exact (isScopeFree_fail _).agree
  | cons hfirst _ => exact (agree_membership op member hx hfirst).wrapping _

theorem agree_instanceTest (hx : x.Agree b b' x') (hy : y.Agree b b' y') :
    Rendering.Agree b b' (s.instanceTest x y) (s.instanceTest x' y') := by
  unfold instanceTest
  rw [hy.value?]
  split
  · exact agree_plain_pair _ hx (s.agree_string _)
  · exact agree_plain_pair _ hx hy

theorem agree_numericCast (hx : x.Agree b b' x') (hy : y.Agree b b' y') :
    Rendering.Agree b b' (s.numericCast x y) (s.numericCast x' y') := by
  unfold numericCast
  rw [hy.value?]
  split
  · exact agree_plain_pair _ hx (s.agree_string _)
  · exact (isScopeFree_fail _).agree

theorem agree_likeTest (hx : x.Agree b b' x') (hy : y.Agree b b' y') :
    Rendering.Agree b b' (s.likeTest x y) (s.likeTest x' y') := by
  unfold likeTest
  rw [hy.string?]
  split
  · exact agree_plain_pair _ hx (s.agree_string _)
  · exact agree_plain_pair _ hx hy

theorem agree_lowered (h : x.Agree b b' y) :
    Operand.Agree b b' (s.lowered x) (s.lowered y) := by
  unfold lowered
  rw [h.string?]
  split
  · exact s.agree_string _
  · exact s.keepsAgree_textOperation _ .lower (.cons h .nil)

/-- A pattern is converted to another one or refused by its text alone. -/
theorem agree_regexAsLike (h : x.Agree b b' y) :
    (∃ e, s.regexAsLike x = .error e ∧ s.regexAsLike y = .error e) ∨
      ∃ like like', s.regexAsLike x = .ok like ∧ s.regexAsLike y = .ok like' ∧
        like.Agree b b' like' := by
  unfold regexAsLike
  rw [h.string?]
  split
  · exact .inr ⟨x, y, rfl, rfl, h⟩
  · split
    · exact .inr ⟨_, _, rfl, rfl, s.agree_string _⟩
    · exact .inl ⟨_, rfl, rfl⟩

theorem agree_regexTest (op : Op) (hx : x.Agree b b' x') (hy : y.Agree b b' y') :
    Rendering.Agree b b' (s.regexTest op x y) (s.regexTest op x' y') := by
  have hlower := s.keepsAgree_textOperation (expansionDepth + 1) .lower (.cons hx .nil)
  unfold regexTest
  split
  · exact agree_plain_pair _ hx hy
  · rcases agree_regexAsLike (s := s) hy with ⟨e, he, he'⟩ | ⟨like, like', hlike, hlike', hagree⟩
    · rw [he, he']
      exact (isScopeFree_fail e).agree
    · rw [hlike, hlike']
      dsimp only
      split
      · exact agree_plain_pair _ hlower (agree_lowered hagree)
      · exact agree_plain_pair _ hx hagree

/-! ## Operations -/

/-- The values that a comparison with some element ranges over. -/
def anyValues? : Operand → Option (List Operand)
  | .operation _ (.op .any) values _ => some values
  | _ => none

theorem anyValues?_of_agree (h : x.Agree b b' y) :
    Option.Rel (Forall₂ (Operand.Agree b b')) (anyValues? x) (anyValues? y) := by
  cases h with
  | leaf _ _ => exact .none
  | subQuery _ _ => exact .none
  | operation _ hargs _ =>
      unfold anyValues?
      split
      · rename_i hany
        cases hany
        exact .some hargs
      · rename_i hother
        split
        · rename_i hany
          cases hany
          exact absurd rfl (hother _ _ _)
        · exact .none

theorem jpqlOperation_eq (s : Setup) (x y : Operand) :
    s.jpqlOperation .eq [x, y] =
      match anyValues? y with
      | some values => s.quantified .isIn .memberOf x values
      | none => s.unchanged .eq [x, y] := by
  unfold jpqlOperation anyValues?
  split <;> simp_all

theorem jpqlOperation_ne (s : Setup) (x y : Operand) :
    s.jpqlOperation .ne [x, y] =
      match anyValues? y with
      | some values => s.quantified .notIn .notMemberOf x values
      | none => s.unchanged .ne [x, y] := by
  unfold jpqlOperation anyValues?
  split <;> simp_all

/-- The operators of two arguments that are rewritten in the object query languages. -/
def rewrittenPairs : List Op :=
  [.eq, .ne, .isIn, .notIn, .instanceOf, .numCast, .matchesRegex, .matchesRegexIc, .like]

theorem jpqlOperation_eq_unchanged {op : Op}
    (hpair : as.length = 2 → op ∉ rewrittenPairs) (hone : as.length = 1 → op ≠ .existsRow) :
    s.jpqlOperation op as = s.unchanged op as := by
  unfold jpqlOperation
  unfold rewrittenPairs at hpair
  split <;> simp_all

theorem agree_jpqlPair {op : Op} (hop : op ∈ rewrittenPairs) (hx : x.Agree b b' x')
    (hy : y.Agree b b' y') :
    Rendering.Agree b b' (s.jpqlOperation op [x, y]) (s.jpqlOperation op [x', y']) := by
  have hunchanged := fun op ↦ agree_unchanged (s := s) op (.cons hx (.cons hy .nil))
  have hvalues := anyValues?_of_agree hy
  simp only [rewrittenPairs, List.mem_cons, List.not_mem_nil, or_false] at hop
  rcases hop with rfl | rfl | rfl | rfl | rfl | rfl | rfl | rfl | rfl
  · rw [jpqlOperation_eq, jpqlOperation_eq]
    generalize anyValues? y = values, anyValues? y' = values' at *
    cases hvalues with
    | none => exact hunchanged .eq
    | some h => exact agree_quantified .isIn .memberOf hx h
  · rw [jpqlOperation_ne, jpqlOperation_ne]
    generalize anyValues? y = values, anyValues? y' = values' at *
    cases hvalues with
    | none => exact hunchanged .ne
    | some h => exact agree_quantified .notIn .notMemberOf hx h
  · exact agree_membership .isIn .memberOf hx hy
  · exact agree_membership .notIn .notMemberOf hx hy
  · exact agree_instanceTest hx hy
  · exact agree_numericCast hx hy
  · exact agree_regexTest .matchesRegex hx hy
  · exact agree_regexTest .matchesRegexIc hx hy
  · exact agree_likeTest hx hy

theorem agree_existsRow (h : x.Agree b b' y) :
    Rendering.Agree b b' (s.jpqlOperation .existsRow [x]) (s.jpqlOperation .existsRow [y]) := by
  have hunchanged := agree_unchanged (s := s) .existsRow (.cons h .nil)
  cases h with
  | leaf _ _ => exact hunchanged
  | operation _ _ _ => exact hunchanged
  | subQuery _ hselect => exact (hselect _).between "exists (" ")"

theorem agree_jpqlOperation (op : Op) (h : Forall₂ (Operand.Agree b b') as bs) :
    Rendering.Agree b b' (s.jpqlOperation op as) (s.jpqlOperation op bs) := by
  by_cases hpair : as.length = 2 ∧ op ∈ rewrittenPairs
  · obtain ⟨hlength, hop⟩ := hpair
    obtain ⟨x, y, rfl⟩ := List.length_eq_two.mp hlength
    obtain _ | ⟨hx, _ | ⟨hy, ⟨⟩⟩⟩ := h
    exact agree_jpqlPair hop hx hy
  · by_cases hone : as.length = 1 ∧ op = .existsRow
    · obtain ⟨hlength, rfl⟩ := hone
      obtain ⟨x, rfl⟩ := List.length_eq_one_iff.mp hlength
      obtain _ | ⟨hx, ⟨⟩⟩ := h
      exact agree_existsRow hx
    · rw [jpqlOperation_eq_unchanged (fun hlength hop ↦ hpair ⟨hlength, hop⟩)
        (fun hlength hop ↦ hone ⟨hlength, hop⟩),
        jpqlOperation_eq_unchanged (fun hlength hop ↦ hpair ⟨h.length_eq.trans hlength, hop⟩)
        (fun hlength hop ↦ hone ⟨h.length_eq.trans hlength, hop⟩)]
      exact agree_unchanged op h

theorem agree_listTest (op : Op) (decided : String) (hx : x.Agree b b' x')
    (hy : y.Agree b b' y') :
    Rendering.Agree b b' (s.listTest op decided x y) (s.listTest op decided x' y') := by
  have hempty : isEmptyList y = isEmptyList y' := by
    rw [isEmptyList, isEmptyList, hy.value?]
  unfold listTest
  rw [hempty]
  split
  · exact (isScopeFree_text decided).agree
  · exact agree_plain_pair _ hx hy

theorem agree_sqlOperation (op : Op) (h : Forall₂ (Operand.Agree b b') as bs) :
    Rendering.Agree b b' (s.sqlOperation op as) (s.sqlOperation op bs) := by
  by_cases hpair : as.length = 2 ∧ op ∈ [Op.isIn, .notIn, .numCast, .like]
  · obtain ⟨hlength, hop⟩ := hpair
    obtain ⟨x, y, rfl⟩ := List.length_eq_two.mp hlength
    obtain _ | ⟨hx, _ | ⟨hy, ⟨⟩⟩⟩ := h
    simp only [List.mem_cons, List.not_mem_nil, or_false] at hop
    rcases hop with rfl | rfl | rfl | rfl
    · exact agree_listTest .isIn "1 = 2" hx hy
    · exact agree_listTest .notIn "1 = 1" hx hy
    · exact agree_numericCast hx hy
    · exact agree_likeTest hx hy
  · rw [sqlOperation_eq_unchanged fun hlength hop ↦ hpair ⟨hlength, hop⟩,
      sqlOperation_eq_unchanged fun hlength hop ↦ hpair ⟨h.length_eq.trans hlength, hop⟩]
    exact agree_unchanged op h

/-- An operation writes the same in two places when its operands do. -/
theorem agree_operation (type : ValueType) (operator : Operator)
    (h : Forall₂ (Operand.Agree b b') as bs) :
    Operand.Agree b b' (s.operation type operator as) (s.operation type operator bs) := by
  refine .operation (Expr.sameFace_of_type rfl rfl rfl rfl rfl) h ?_
  unfold operationRendering
  cases operator with
  | op op =>
      refine Rendering.Agree.wrapping ?_ _
      cases s.profile.family with
      | jpql => exact agree_jpqlOperation op h
      | sql => exact agree_sqlOperation op h
  | _ => exact agree_plain _ h

theorem agree_template (type : ValueType) (t : Template)
    (h : Forall₂ (Operand.Agree b b') as bs) :
    Operand.Agree b b' (s.template type t as) (s.template type t bs) :=
  .leaf (Expr.sameFace_of_type rfl rfl rfl rfl rfl) (agree_apply t (-1) h)

theorem agree_param (p : Param) : Operand.Agree b b' (param p) (param p) :=
  .leaf (Expr.sameFace_of_type rfl rfl rfl rfl rfl)
    (isClosed_isScopeFree.placeholder _ _).agree

end Setup

end TypedQuery
