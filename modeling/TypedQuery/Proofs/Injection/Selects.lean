import TypedQuery.Proofs.Injection.Operations
import TypedQuery.Rendering.Select

/-!
# Selects over constants with other strings

Queries are alike when their operands are, part by part, and everything else in them is the same.
Such queries are written alike, also where their rows are numbered: there the flags that the window
needs are added to both.
-/

namespace TypedQuery

open List (Forall₂)

/-! ## Alike queries -/

structure Join.Alike (j k : Join Operand) : Prop where
  kind : j.kind = k.kind
  target : j.target.Alike k.target
  condition : Option.Rel Operand.Alike j.condition k.condition
  fetch : j.fetch = k.fetch
  fetchAll : j.fetchAll = k.fetchAll

structure OrderKey.Alike (x y : OrderKey Operand) : Prop where
  target : x.target.Alike y.target
  direction : x.direction = y.direction
  nulls : x.nulls = y.nulls

structure Flag.Alike (f g : Flag Operand) : Prop where
  position : f.position = g.position
  isText : f.isText = g.isText
  render : f.render.Alike g.render

structure Query.Alike (q q' : Query Operand) : Prop where
  projection : Forall₂ Operand.Alike q.projection q'.projection
  joins : Forall₂ Join.Alike q.joins q'.joins
  filter : Option.Rel Operand.Alike q.filter q'.filter
  groupBy : Forall₂ Operand.Alike q.groupBy q'.groupBy
  having : Option.Rel Operand.Alike q.having q'.having
  orderBy : Forall₂ OrderKey.Alike q.orderBy q'.orderBy
  modifiers : q.modifiers = q'.modifiers
  distinct : q.distinct = q'.distinct
  flags : Forall₂ Flag.Alike q.flags q'.flags

theorem Flag.Alike.refl (f : Flag Operand) : f.Alike f := ⟨rfl, rfl, .refl _⟩

theorem Flag.Alike.all_isText {fs gs : List (Flag Operand)} (h : Forall₂ Flag.Alike fs gs) :
    fs.all Flag.isText = gs.all Flag.isText := by
  induction h with
  | nil => rfl
  | cons hfg _ ih => rw [List.all_cons, List.all_cons, hfg.isText, ih]

theorem isEmpty_eq_of_forall₂ {α β : Type} {R : α → β → Prop} {xs : List α} {ys : List β}
    (h : Forall₂ R xs ys) : xs.isEmpty = ys.isEmpty := by
  cases h <;> rfl

namespace Query

variable {q q' : Query Operand}

theorem Alike.flagsAt (h : q.Alike q') (position : Position) :
    Forall₂ Flag.Alike (q.flagsAt position) (q'.flagsAt position) := by
  refine List.rel_filter ?_ h.flags
  intro f g hfg
  simp [hfg.position]

theorem Alike.flagText (h : q.Alike q') (position : Position) :
    (q.flagText position).Alike (q'.flagText position) := by
  refine Rendering.Alike.concat ?_
  simp only [List.forall₂_map_left_iff, List.forall₂_map_right_iff]
  exact (h.flagsAt position).imp fun _ _ hfg ↦ hfg.render

theorem alike_items {as bs : List Operand} (h : Forall₂ Operand.Alike as bs) :
    (items as).Alike (items bs) :=
  .commas (Operand.Alike.forall₂_render h)

theorem Alike.removeFlagsAt (h : q.Alike q') (position : Position) :
    (q.removeFlagsAt position).Alike (q'.removeFlagsAt position) := by
  refine { h with flags := List.rel_filter ?_ h.flags }
  intro f g hfg
  simp [hfg.position]

theorem Alike.withoutLimits (h : q.Alike q') :
    Query.Alike { q with modifiers := {} } { q' with modifiers := {} } :=
  { h with modifiers := rfl }

theorem Alike.withoutOrder (h : q.Alike q') :
    Query.Alike { q with orderBy := [] } { q' with orderBy := [] } :=
  { h with orderBy := .nil }

/-- No text equals an expression, so that an expression is added behind any texts. -/
theorem addFlag_of_isText (htext : q.flags.all Flag.isText = true) (position : Position)
    (e : Operand) :
    q.addFlag ⟨position, .expr e⟩ = { q with flags := q.flags ++ [⟨position, .expr e⟩] } := by
  have hnone : (q.flags.any fun f ↦
      f.position == position && f.content.eqv (.expr e)) = false := by
    rw [List.any_eq_false]
    intro f hf
    have hcontent := List.all_eq_true.mp htext f hf
    unfold Flag.isText at hcontent
    cases hc : f.content <;> simp_all [FlagContent.eqv]
  simp [addFlag, hnone]

theorem Alike.addFlag (h : q.Alike q') (htext : q.flags.all Flag.isText = true)
    (position : Position) {a b : Operand} (hab : a.Alike b) :
    (q.addFlag ⟨position, .expr a⟩).Alike (q'.addFlag ⟨position, .expr b⟩) := by
  have htext' : q'.flags.all Flag.isText = true := by
    rw [← Flag.Alike.all_isText h.flags, htext]
  rw [addFlag_of_isText htext, addFlag_of_isText htext']
  exact { h with flags := List.rel_append h.flags (.cons ⟨rfl, rfl, hab.render⟩ .nil) }

end Query

namespace Setup

variable {s : Setup} {a b : Operand} {as bs : List Operand} {q q' : Query Operand}

/-! ## Clauses -/

theorem alike_source (h : a.Alike b) : (s.source a).Alike (s.source b) := by
  have hpath := h.map_path?
  unfold source
  cases ha : a.path? with
  | none =>
      cases hb : b.path? with
      | none => exact h.render
      | some p' => simp [ha, hb] at hpath
  | some p =>
      cases hb : b.path? with
      | none => simp [ha, hb] at hpath
      | some p' =>
          have hmasked : p.masked = p'.masked := by simpa [ha, hb] using hpath
          have htype := Path.type_eq_of_masked hmasked
          have hroot : p.isRoot = p'.isRoot := by
            rw [← p.isRoot_masked, hmasked, p'.isRoot_masked]
          simp only [htype, hroot]
          split
          · exact (Rendering.Alike.refl _).append h.render
          · exact h.render

theorem alike_joined (forCount : Bool) {j k : Join Operand} (h : j.Alike k) :
    (s.joined forCount j).Alike (s.joined forCount k) := by
  unfold joined
  rw [h.fetch, h.fetchAll]
  refine (((Rendering.Alike.refl _).append (alike_source h.target)).append (.refl _)).append ?_
  have hcondition := h.condition
  generalize j.condition = c at hcondition ⊢
  generalize k.condition = c' at hcondition ⊢
  cases hcondition with
  | none => exact .refl _
  | some hc => exact (Rendering.Alike.refl _).append hc.render

theorem alike_sources (forCount : Bool) {js ks : List (Join Operand)}
    (h : Forall₂ Join.Alike js ks) : (s.sources forCount js).Alike (s.sources forCount ks) := by
  cases h with
  | nil => exact .refl _
  | cons hfirst hothers =>
      refine (alike_joined forCount hfirst).append (.concat ?_)
      simp only [List.forall₂_map_left_iff, List.forall₂_map_right_iff]
      refine hothers.imp fun j k hjk ↦ ?_
      rw [hjk.kind]
      exact (Rendering.Alike.refl _).append (alike_joined forCount hjk)

theorem alike_orderKey {x y : OrderKey Operand} (h : x.Alike y) :
    (s.orderKey x).Alike (s.orderKey y) := by
  have hdirection : x.directionText s.profile.capabilities.nullsOrdering =
      y.directionText s.profile.capabilities.nullsOrdering := by
    unfold OrderKey.directionText
    rw [h.direction, h.nulls]
  unfold orderKey
  rw [hdirection]
  exact h.target.render.append (.refl _)

theorem alike_clause (keyword : String) {r t : Option Rendering}
    (h : Option.Rel Rendering.Alike r t) : (clause keyword r).Alike (clause keyword t) := by
  cases h with
  | none => exact .refl _
  | some hrt => exact (Rendering.Alike.refl _).append hrt

theorem alike_listClause (keyword separator : String) {rs ts : List Rendering}
    (h : Forall₂ Rendering.Alike rs ts) :
    (listClause keyword separator rs).Alike (listClause keyword separator ts) := by
  unfold listClause
  rw [isEmpty_eq_of_forall₂ h]
  split
  · exact .refl _
  · exact (Rendering.Alike.refl _).append (.separated h separator)

theorem rel_render {x y : Option Operand} (h : Option.Rel Operand.Alike x y) :
    Option.Rel Rendering.Alike (x.map Operand.render) (y.map Operand.render) := by
  cases h with
  | none => exact .none
  | some hab => exact .some hab.render

/-! ## The select -/

theorem alike_countTarget (hs : s.profile.BindsStrings) (h : q.Alike q') :
    (s.countTarget q).Alike (s.countTarget q') := by
  have hitems := Query.alike_items h.projection
  unfold countTarget
  rw [hs.sql]
  cases hq : q.projection with
  | nil =>
      obtain hq' : q'.projection = [] := List.forall₂_nil_left_iff.mp (hq ▸ h.projection)
      rw [hq']
      exact .refl _
  | cons a as =>
      obtain ⟨b, bs, _, _, hq'⟩ := List.forall₂_cons_left_iff.mp (hq ▸ h.projection)
      rw [hq, hq'] at hitems
      rw [hq']
      exact hitems

theorem alike_selectWord (h : q.Alike q') : (selectWord q).Alike (selectWord q') := by
  unfold selectWord
  rw [isEmpty_eq_of_forall₂ (h.flagsAt .startOverride), h.distinct]
  split
  · exact .refl _
  · exact h.flagText .startOverride

theorem alike_projected (hs : s.profile.BindsStrings) (h : q.Alike q') :
    (s.projected q).Alike (s.projected q') := by
  have hitems := Query.alike_items h.projection
  unfold projected
  rw [hs.sql]
  cases hq : q.projection with
  | nil =>
      obtain hq' : q'.projection = [] := List.forall₂_nil_left_iff.mp (hq ▸ h.projection)
      rw [hq']
      exact .refl _
  | cons a as =>
      obtain ⟨b, bs, _, _, hq'⟩ := List.forall₂_cons_left_iff.mp (hq ▸ h.projection)
      rw [hq, hq'] at hitems
      rw [hq']
      exact hitems

theorem alike_head (hs : s.profile.BindsStrings) (h : q.Alike q') (forCount : Bool)
    (projection : Option String) :
    (s.head q forCount projection).Alike (s.head q' forCount projection) := by
  unfold head
  rw [h.distinct]
  split
  · exact .refl _
  · exact (alike_countTarget hs h).between _ _
  · exact ((alike_selectWord h).append (h.flagText _)).append (alike_projected hs h)

theorem alike_clauses (h : q.Alike q') (forCount : Bool) :
    (s.clauses q forCount).Alike (s.clauses q' forCount) := by
  have hfrom : Option.Rel Rendering.Alike
      (if q.joins.isEmpty then none else some (s.sources forCount q.joins))
      (if q'.joins.isEmpty then none else some (s.sources forCount q'.joins)) := by
    rw [isEmpty_eq_of_forall₂ h.joins]
    split
    · exact .none
    · exact .some (alike_sources forCount h.joins)
  refine .concat ?_
  refine .cons (alike_clause _ hfrom) (.cons (h.flagText _) ?_)
  refine .cons (alike_clause _ (rel_render h.filter)) (.cons (h.flagText _) ?_)
  refine .cons (h.flagText _) (.cons (alike_listClause _ _ ?_) (.cons (h.flagText _) ?_))
  · exact Operand.Alike.forall₂_render h.groupBy
  refine .cons (h.flagText _) (.cons (alike_clause _ (rel_render h.having)) ?_)
  exact .cons (h.flagText _) .nil

theorem alike_ordering (h : q.Alike q') : (s.ordering q).Alike (s.ordering q') := by
  have hkeys : Forall₂ Rendering.Alike (q.orderBy.map s.orderKey) (q'.orderBy.map s.orderKey) := by
    simp only [List.forall₂_map_left_iff, List.forall₂_map_right_iff]
    exact h.orderBy.imp fun _ _ hxy ↦ alike_orderKey hxy
  unfold ordering
  rw [h.modifiers]
  refine .concat (.cons (h.flagText _) (.cons (alike_listClause _ _ hkeys) ?_))
  exact .cons (h.flagText _) (.cons (.refl _) .nil)

theorem alike_select (hs : s.profile.BindsStrings) (h : q.Alike q') (forCount : Bool)
    (projection : Option String) :
    (s.select q forCount projection).Alike (s.select q' forCount projection) := by
  have hhead := (alike_head hs h forCount projection).append (h.flagText .afterProjection)
  have hordering : (if forCount then Rendering.empty else s.ordering q).Alike
      (if forCount then .empty else s.ordering q') := by
    split
    · exact .refl _
    · exact alike_ordering h
  have htail := ((alike_clauses (s := s) h forCount).append hordering).append (h.flagText .finish)
  have hsql : (s.profile.family == .jpql) = false := by rw [hs.sql]; rfl
  simp only [select, hsql, Bool.false_and, Bool.false_eq_true, if_false]
  exact (((h.flagText .start).within _).append (hhead.within _)).append (htail.within _)

/-! ## Numbered rows -/

/-- The numbering template depends on the directions of the keys alone. -/
theorem numberingElements_eq (nullsOrdering : Bool) {keys keys' : List (OrderKey Operand)}
    (h : Forall₂ (fun x y ↦ x.direction = y.direction ∧ x.nulls = y.nulls) keys keys')
    (index : Nat) (before : String) :
    numberingElements nullsOrdering index before keys =
      numberingElements nullsOrdering index before keys' := by
  induction h generalizing index before with
  | nil => rfl
  | cons hxy hrest ih =>
      simp only [numberingElements, OrderKey.directionText, hxy.1, hxy.2,
        isEmpty_eq_of_forall₂ hrest, ih]

theorem bindsAll_numberingElements (nullsOrdering : Bool) (index : Nat) (before : String)
    (keys : List (OrderKey Operand)) :
    (Template.ofElements (numberingElements nullsOrdering index before keys)).bindsAll = true := by
  simp only [Template.bindsAll, Template.ofElements]
  induction keys generalizing index before with
  | nil => rfl
  | cons key keys ih =>
      simp only [numberingElements, List.all_cons, ih]
      rfl

theorem alike_rowNumber (hs : s.profile.BindsStrings) {keys keys' : List (OrderKey Operand)}
    (h : Forall₂ OrderKey.Alike keys keys') : (s.rowNumber keys).Alike (s.rowNumber keys') := by
  have htargets : Forall₂ Operand.Alike (keys.map OrderKey.target)
      (keys'.map OrderKey.target) := by
    simp only [List.forall₂_map_left_iff, List.forall₂_map_right_iff]
    exact h.imp fun _ _ hxy ↦ hxy.target
  simp only [rowNumber]
  rw [isEmpty_eq_of_forall₂ h,
    numberingElements_eq _ (h.imp fun _ _ hxy ↦ ⟨hxy.direction, hxy.nulls⟩)]
  exact alike_template hs _ htargets (slotsAgree_of_bindsAll (bindsAll_numberingElements _ _ _ _))

theorem alike_rowNumberColumn (hs : s.profile.BindsStrings)
    {keys keys' : List (OrderKey Operand)} (h : Forall₂ OrderKey.Alike keys keys') :
    (s.rowNumberColumn keys).Alike (s.rowNumberColumn keys') := by
  have haliased := hs.own .aliased (by simp)
  refine alike_template hs _ (.cons ?_ .nil) (slotsAgree_of_bindsAll rfl)
  exact alike_operation hs _ (.cons (alike_rowNumber hs h) (.cons (.refl _) .nil)) haliased

theorem alike_rowNumbered (hs : s.profile.BindsStrings) (h : q.Alike q')
    (htext : q.flags.all Flag.isText = true) (top : Template) (forms : LimitForms Template)
    (projection : Option String) :
    (s.rowNumbered top forms q projection).Alike (s.rowNumbered top forms q' projection) := by
  have hinner := (h.removeFlagsAt .finish).withoutLimits
  have hinnerText : ({ q.removeFlagsAt .finish with modifiers := {} } : Query Operand).flags.all
      Flag.isText = true := by
    rw [List.all_eq_true] at htext ⊢
    exact fun f hf ↦ htext f (List.mem_of_mem_filter hf)
  unfold rowNumbered
  rw [← h.modifiers]
  refine Rendering.Alike.append ?_ (h.flagText .finish)
  split
  · exact alike_select hs (hinner.addFlag hinnerText _ (.refl _)) false projection
  · have hnumbered := hinner.addFlag hinnerText .afterProjection
      (alike_rowNumberColumn hs h.orderBy)
    have hselect := alike_select hs hnumbered.withoutOrder false projection
    exact (((Rendering.Alike.refl _).append hselect).append (.refl _)).append (.refl _)
  · exact alike_select hs hinner false projection

/-- Alike queries are written alike. -/
theorem alike_query (hs : s.profile.BindsStrings) (h : q.Alike q')
    (htext : q.flags.all Flag.isText = true) (forCount : Bool) (projection : Option String) :
    (s.query q forCount projection).Alike (s.query q' forCount projection) := by
  unfold query
  rw [isEmpty_eq_of_forall₂ h.joins, h.modifiers]
  split
  · split
    · exact alike_rowNumbered hs h htext _ _ projection
    · exact alike_select hs h forCount projection
  · exact alike_select hs h forCount projection

end Setup

end TypedQuery
