import TypedQuery.Proofs.Projections.Spelling

/-!
# Selects with factories spelled out

A select is written clause by clause, each of them in a projection or outside of one. Where
factories are kept in all parts that stand in a projection, it does not matter whether the other
ones are spelled out.
-/

namespace TypedQuery

open List (Forall₂)

namespace Rendering

/-- A scope of their own makes renderings agree everywhere. -/
theorem Agree.fixed {c b b' : Bool} {r t : Rendering} (h : Agree c c r t) (wrap : Bool) :
    Agree b b' (r.within fun _ ↦ ⟨c, wrap⟩) (t.within fun _ ↦ ⟨c, wrap⟩) := fun _ ↦ h wrap

end Rendering

open Rendering (isScopeFree_empty isScopeFree_fail isScopeFree_text)

/-! ## Queries over operands -/

structure Join.Agree (j k : Join Operand) : Prop where
  kind : j.kind = k.kind
  target : j.target.Agree false false k.target
  condition : Option.Rel (Operand.Agree false false) j.condition k.condition
  fetch : j.fetch = k.fetch
  fetchAll : j.fetchAll = k.fetchAll

structure OrderKey.SpelledIn (p : Profile) (shown : Bool) (x y : OrderKey Operand) : Prop where
  target : x.target.SpelledIn p shown y.target
  direction : x.direction = y.direction
  nulls : x.nulls = y.nulls

inductive FlagContent.SpelledIn (p : Profile) (shown : Bool) :
    FlagContent Operand → FlagContent Operand → Prop
  | text (t : String) : SpelledIn p shown (.text t) (.text t)
  | expr {x y : Operand} (h : x.SpelledIn p shown y) : SpelledIn p shown (.expr x) (.expr y)

structure Flag.SpelledIn (p : Profile) (shown : Position → Bool) (f g : Flag Operand) : Prop where
  position : f.position = g.position
  content : f.content.SpelledIn p (shown f.position) g.content

/-- A query and the query with its factories spelled out, but for those in parts that are shown. -/
structure Query.SpelledIn (p : Profile) (shown : Shown) (q q' : Query Operand) : Prop where
  projection : Forall₂ (Operand.SpelledIn p true) q.projection q'.projection
  joins : Forall₂ Join.Agree q.joins q'.joins
  root : shown.root = true → Option.Rel (fun j k ↦ Operand.Agree true true j.target k.target)
    q.joins.head? q'.joins.head?
  filter : Option.Rel (Operand.Agree false false) q.filter q'.filter
  groupBy : Forall₂ (Operand.Agree false false) q.groupBy q'.groupBy
  having : Option.Rel (Operand.Agree false false) q.having q'.having
  orderBy : Forall₂ (OrderKey.SpelledIn p shown.keys) q.orderBy q'.orderBy
  modifiers : q.modifiers = q'.modifiers
  distinct : q.distinct = q'.distinct
  flags : Forall₂ (Flag.SpelledIn p shown.flags) q.flags q'.flags

/-- The parts of a query that are written in a projection are shown, when it stands in one (`b`) or
outside of one. -/
structure Shown.Covers (shown : Shown) (p : Profile) (b : Bool) (q : Query Operand) : Prop where
  root : p.family = .jpql → q.projection.head?.all (·.expr.isFactory) = true → shown.root = true
  keys : q.isRowNumbered p = true → q.modifiers.offset.isSome = true → shown.keys = true
  start : b = true → shown.flags .start = true
  startOverride : shown.flags .startOverride = true
  afterSelect : shown.flags .afterSelect = true
  afterProjection : shown.flags .afterProjection = true
  finish : q.isRowNumbered p = true → b = true → shown.flags .finish = true

variable {p : Profile} {shown : Shown} {b : Bool} {q q' : Query Operand}

/-! ## Flags -/

theorem Flag.SpelledIn.render {modes : Position → Bool} {f g : Flag Operand}
    (h : f.SpelledIn p modes g) (hb : b = true → modes f.position = true) :
    Rendering.Agree b b f.render g.render := by
  obtain ⟨position, content⟩ := f
  obtain ⟨position', content'⟩ := g
  obtain ⟨_, hcontent⟩ := h
  cases hcontent with
  | text t => exact (isScopeFree_text t).agree
  | expr hxy => exact (hxy.agree b hb).render

namespace Query

theorem SpelledIn.flagsAt (h : q.SpelledIn p shown q') (position : Position) :
    Forall₂ (Flag.SpelledIn p shown.flags) (q.flagsAt position) (q'.flagsAt position) := by
  refine List.rel_filter ?_ h.flags
  intro f g hfg
  simp [hfg.position]

theorem SpelledIn.flagText (h : q.SpelledIn p shown q') {position : Position}
    (hb : b = true → shown.flags position = true) :
    Rendering.Agree b b (q.flagText position) (q'.flagText position) := by
  have hat : ∀ f ∈ q.flagsAt position, f.position = position := fun f hf ↦ by
    simpa using (List.mem_filter.mp hf).2
  have hflags := h.flagsAt position
  unfold Query.flagText
  generalize q.flagsAt position = flags, q'.flagsAt position = flags' at hat hflags
  induction hflags with
  | nil => exact isScopeFree_empty.agree
  | cons hfg _ ih =>
      rw [List.forall_mem_cons] at hat
      exact (hfg.render (hat.1 ▸ hb)).append (ih hat.2)

theorem SpelledIn.flagText_outside (h : q.SpelledIn p shown q') (position : Position) :
    Rendering.Agree false false (q.flagText position) (q'.flagText position) :=
  h.flagText nofun

end Query

namespace Setup

variable {s : Setup} {x y : Operand} {xs ys : List Operand}

/-! ## Clauses -/

theorem agree_items (h : Forall₂ (Operand.Agree b b) xs ys) :
    Rendering.Agree b b (Query.items xs) (Query.items ys) :=
  .separated ", " (Operand.Agree.forall₂_render h)

theorem agree_source (h : x.Agree b b y) : Rendering.Agree b b (s.source x) (s.source y) := by
  have hpath : Option.Rel Path.SameFace x.path? y.path? := h.face.path?
  have hrender := h.render
  unfold source
  generalize x.path? = path, y.path? = path' at *
  cases hpath with
  | none => exact hrender
  | @some p p' hp =>
      have hroot : p.isRoot = p'.isRoot := by
        have hkind := hp.kind
        cases p <;> cases p' <;> simp_all [Path.isRoot, Path.kind]
      dsimp only
      rw [hroot, hp.type]
      split
      · exact (isScopeFree_text _).agree.append hrender
      · exact hrender

theorem agree_joined (forCount : Bool) {j k : Join Operand} (h : j.Agree k) :
    Rendering.Agree false false (s.joined forCount j) (s.joined forCount k) := by
  have hcondition := h.condition
  unfold joined
  rw [h.fetch, h.fetchAll]
  refine (((isScopeFree_text _).agree.append (agree_source h.target)).append
    (isScopeFree_text _).agree).append ?_
  generalize j.condition = c, k.condition = c' at hcondition ⊢
  cases hcondition with
  | none => exact isScopeFree_empty.agree
  | some hc => exact (isScopeFree_text _).agree.append hc.render

theorem agree_sources (forCount : Bool) {js ks : List (Join Operand)}
    (h : Forall₂ Join.Agree js ks) :
    Rendering.Agree false false (s.sources forCount js) (s.sources forCount ks) := by
  cases h with
  | nil => exact isScopeFree_empty.agree
  | cons hfirst hothers =>
      refine (agree_joined forCount hfirst).append (.concat ?_)
      refine List.rel_map (fun j k hjk ↦ ?_) hothers
      rw [hjk.kind]
      exact (isScopeFree_text _).agree.append (agree_joined forCount hjk)

theorem agree_orderKey {modes : Bool} {x y : OrderKey Operand} (h : x.SpelledIn p modes y) :
    Rendering.Agree false false (s.orderKey x) (s.orderKey y) := by
  unfold orderKey OrderKey.directionText
  rw [h.direction, h.nulls]
  exact h.target.outside.render.append (isScopeFree_text _).agree

theorem agree_clause (keyword : String) {x y : Option Operand}
    (h : Option.Rel (Operand.Agree b b) x y) :
    Rendering.Agree b b (clause keyword (x.map Operand.render))
      (clause keyword (y.map Operand.render)) := by
  cases h with
  | none => exact isScopeFree_empty.agree
  | some hxy => exact (isScopeFree_text keyword).agree.append hxy.render

theorem agree_listClause (keyword separator : String) {rs ts : List Rendering}
    (h : Forall₂ (Rendering.Agree b b) rs ts) :
    Rendering.Agree b b (listClause keyword separator rs) (listClause keyword separator ts) := by
  unfold listClause
  rw [isEmpty_eq_of_forall₂ h]
  split
  · exact isScopeFree_empty.agree
  · exact (isScopeFree_text keyword).agree.append (.separated separator h)

theorem agree_selectWord (h : q.SpelledIn p shown q') (hs : shown.Covers p b q) :
    Rendering.Agree true true (selectWord q) (selectWord q') := by
  unfold selectWord
  rw [isEmpty_eq_of_forall₂ (h.flagsAt .startOverride), h.distinct]
  split
  · exact (isScopeFree_text _).agree
  · exact h.flagText fun _ ↦ hs.startOverride

/-- Whether a projection starts with a factory is kept. -/
theorem all_isFactory (h : q.SpelledIn p shown q') :
    q.projection.head?.all (·.expr.isFactory) = q'.projection.head?.all (·.expr.isFactory) := by
  have hprojection := h.projection
  generalize q.projection = es, q'.projection = es' at hprojection ⊢
  cases hprojection with
  | nil => rfl
  | cons hxy _ =>
      rw [List.head?_cons, List.head?_cons, Option.all_some, Option.all_some, hxy.expr,
        Expr.isFactory_spelled]

/-- Where the first source is all that can be selected or counted, it is kept as it is. -/
theorem firstTarget_cases (h : q.SpelledIn s.profile shown q') (hs : shown.Covers s.profile b q)
    (hfamily : s.profile.family = .jpql)
    (hfactory : q.projection.head?.all (·.expr.isFactory) = true) :
    (q.joins = [] ∧ q'.joins = []) ∨ ∃ j js k ks, q.joins = j :: js ∧ q'.joins = k :: ks ∧
      j.target.Agree true true k.target := by
  have hheads := h.root (hs.root hfamily hfactory)
  generalize q.joins = js, q'.joins = ks at hheads ⊢
  cases js with
  | nil =>
      cases ks with
      | nil => exact .inl ⟨rfl, rfl⟩
      | cons k ks => cases hheads
  | cons j js =>
      cases ks with
      | nil => cases hheads
      | cons k ks =>
          obtain ⟨hjk⟩ := hheads
          exact .inr ⟨j, js, k, ks, rfl, rfl, hjk⟩

theorem agree_projected (h : q.SpelledIn s.profile shown q') (hs : shown.Covers s.profile b q) :
    Rendering.Agree true true (s.projected q) (s.projected q') := by
  have hitems := agree_items
    (Operand.SpelledIn.forall₂_agree (b := true) h.projection fun _ ↦ rfl)
  have hprojection := h.projection
  have hfirst := fun hfamily ↦ firstTarget_cases h hs hfamily
  unfold projected
  generalize q.projection = es, q'.projection = es' at hitems hprojection hfirst
  cases hprojection with
  | cons _ _ => exact hitems
  | nil =>
      cases hfamily : s.profile.family with
      | sql => exact (isScopeFree_text "*").agree
      | jpql =>
          rcases hfirst hfamily rfl with ⟨hj, hk⟩ | ⟨j, js, k, ks, hj, hk, hjk⟩
          · rw [hj, hk]
            exact (isScopeFree_fail _).agree
          · rw [hj, hk]
            exact hjk.render

theorem agree_countTarget (h : q.SpelledIn s.profile shown q')
    (hs : shown.Covers s.profile b q) :
    Rendering.Agree true true (s.countTarget q) (s.countTarget q') := by
  have hitems := agree_items
    (Operand.SpelledIn.forall₂_agree (b := true) h.projection fun _ ↦ rfl)
  have hprojection := h.projection
  have hfirst := fun hfamily ↦ firstTarget_cases h hs hfamily
  have hfactory := all_isFactory h
  unfold countTarget
  generalize q.projection = es, q'.projection = es' at hitems hprojection hfirst hfactory
  cases hfamily : s.profile.family with
  | sql =>
      cases hprojection with
      | nil => exact (isScopeFree_text "*").agree
      | cons _ _ => exact hitems
  | jpql =>
      dsimp only
      rw [← hfactory]
      split
      · rename_i hall
        rcases hfirst hfamily hall with ⟨hj, hk⟩ | ⟨j, js, k, ks, hj, hk, hjk⟩
        · rw [hj, hk]
          exact (isScopeFree_fail _).agree
        · rw [hj, hk]
          exact hjk.render
      · exact hitems

/-! ## The select -/

theorem agree_head (h : q.SpelledIn s.profile shown q') (hs : shown.Covers s.profile b q)
    (forCount : Bool) (projection : Option String) :
    Rendering.Agree true true (s.head q forCount projection) (s.head q' forCount projection) := by
  unfold head
  rw [h.distinct]
  split
  · exact (isScopeFree_text _).agree
  · exact (agree_countTarget h hs).between _ ")"
  · exact ((agree_selectWord h hs).append (h.flagText fun _ ↦ hs.afterSelect)).append
      (agree_projected h hs)

theorem agree_clauses (h : q.SpelledIn s.profile shown q') (forCount : Bool) :
    Rendering.Agree false false (s.clauses q forCount) (s.clauses q' forCount) := by
  have hflag := h.flagText_outside
  have hfrom : Rendering.Agree false false
      (clause "\nfrom " (if q.joins.isEmpty then none else some (s.sources forCount q.joins)))
      (clause "\nfrom "
        (if q'.joins.isEmpty then none else some (s.sources forCount q'.joins))) := by
    rw [isEmpty_eq_of_forall₂ h.joins]
    split
    · exact isScopeFree_empty.agree
    · exact (isScopeFree_text _).agree.append (agree_sources forCount h.joins)
  refine .concat (.cons hfrom (.cons (hflag _) ?_))
  refine .cons (agree_clause _ h.filter) (.cons (hflag _) (.cons (hflag _) ?_))
  refine .cons (agree_listClause _ _ (Operand.Agree.forall₂_render h.groupBy)) ?_
  refine .cons (hflag _) (.cons (hflag _) (.cons (agree_clause _ h.having) ?_))
  exact .cons (hflag _) .nil

theorem agree_ordering (h : q.SpelledIn s.profile shown q') :
    Rendering.Agree false false (s.ordering q) (s.ordering q') := by
  have hflag := h.flagText_outside
  have hkeys : Forall₂ (Rendering.Agree false false) (q.orderBy.map s.orderKey)
      (q'.orderBy.map s.orderKey) := List.rel_map (fun _ _ hxy ↦ agree_orderKey hxy) h.orderBy
  unfold ordering
  rw [← h.modifiers]
  refine .concat (.cons (hflag _) (.cons (agree_listClause _ _ hkeys) ?_))
  exact .cons (hflag _) (.cons (.refl _) .nil)

theorem agree_select (h : q.SpelledIn s.profile shown q') (hs : shown.Covers s.profile b q)
    (forCount : Bool) (projection : Option String) :
    Rendering.Agree b b (s.select q forCount projection) (s.select q' forCount projection) := by
  have hordering : Rendering.Agree false false (if forCount then .empty else s.ordering q)
      (if forCount then .empty else s.ordering q') := by
    split
    · exact isScopeFree_empty.agree
    · exact agree_ordering h
  have hhead := (agree_head h hs forCount projection).append
    (h.flagText fun _ ↦ hs.afterProjection)
  have hrest := ((agree_clauses h forCount).append hordering).append
    (h.flagText_outside .finish)
  unfold select
  rw [isEmpty_eq_of_forall₂ h.joins]
  split
  · exact (isScopeFree_fail _).agree
  · exact (((h.flagText hs.start).wrapping false).append (hhead.fixed false)).append
      (hrest.fixed false)

/-! ## Numbered rows -/

theorem spelledIn_template (type : ValueType) (t : Template) {mode : Bool}
    (h : Forall₂ (Operand.SpelledIn p mode) xs ys) :
    (s.template type t xs).SpelledIn p mode (s.template type t ys) where
  expr := by
    have hargs := Operand.SpelledIn.map_expr h
    simp only [template, Operand.expr, Expr.spelled, spelledExprs_eq_map, hargs]
  agree _ hb := agree_template type t (Operand.SpelledIn.forall₂_agree h hb)

theorem spelledIn_operation (type : ValueType) (operator : Operator) {mode : Bool}
    (h : Forall₂ (Operand.SpelledIn p mode) xs ys) :
    (s.operation type operator xs).SpelledIn p mode (s.operation type operator ys) where
  expr := by
    have hargs := Operand.SpelledIn.map_expr h
    simp only [operation, Operand.expr, Expr.spelled, spelledExprs_eq_map, hargs]
  agree _ hb := agree_operation type operator (Operand.SpelledIn.forall₂_agree h hb)

theorem spelledIn_count {mode : Bool} (n : UInt64) : (s.count n).SpelledIn p mode (s.count n) where
  expr := rfl
  agree _ _ := s.agree_count n

theorem spelledIn_rowNumberColumn {keys keys' : List (OrderKey Operand)}
    (h : Forall₂ (OrderKey.SpelledIn p true) keys keys') :
    (s.rowNumberColumn keys).SpelledIn p true (s.rowNumberColumn keys') := by
  have htargets : Forall₂ (Operand.SpelledIn p true) (keys.map OrderKey.target)
      (keys'.map OrderKey.target) := List.rel_map (fun _ _ hxy ↦ hxy.target) h
  have hnumber : (s.rowNumber keys).SpelledIn p true (s.rowNumber keys') := by
    simp only [rowNumber]
    rw [isEmpty_eq_of_forall₂ h,
      numberingElements_eq _ (h.imp fun _ _ hxy ↦ ⟨hxy.direction, hxy.nulls⟩)]
    exact spelledIn_template .i64 _ htargets
  have hname : (s.rootStep .i64 "row_number").SpelledIn p true (s.rootStep .i64 "row_number") :=
    ⟨rfl, fun _ _ ↦ s.agree_rootStep .i64 "row_number"⟩
  refine spelledIn_template .i64 _ (.cons ?_ .nil)
  exact spelledIn_operation .i64 (.op .aliased) (.cons hnumber (.cons hname .nil))

end Setup

namespace Query

variable {x y : Operand}

/-- Whether a flag is there already does not depend on the spelling. -/
theorem SpelledIn.addFlag (h : q.SpelledIn p shown q') {position : Position}
    (hshown : shown.flags position = true) (hxy : x.SpelledIn p true y) :
    (q.addFlag ⟨position, .expr x⟩).SpelledIn p shown (q'.addFlag ⟨position, .expr y⟩) := by
  have hsame : ∀ {f g : Flag Operand}, f.SpelledIn p shown.flags g →
      (g.position == position && g.content.eqv (.expr y)) =
        (f.position == position && f.content.eqv (.expr x)) := by
    rintro ⟨place, content⟩ ⟨place', content'⟩ ⟨rfl, hcontent⟩
    by_cases hplace : place = position
    · subst hplace
      dsimp only at hcontent
      rw [hshown] at hcontent
      cases hcontent with
      | text t => rfl
      | expr h => exact congrArg _ (h.beq hxy)
    · have hother : (place == position) = false := by simpa using hplace
      dsimp only
      rw [hother]
      rfl
  have hany : (q'.flags.any fun g ↦ g.position == position && g.content.eqv (.expr y)) =
      q.flags.any fun f ↦ f.position == position && f.content.eqv (.expr x) := by
    have hflags := h.flags
    generalize q.flags = flags, q'.flags = flags' at hflags
    induction hflags with
    | nil => rfl
    | cons hfg _ ih => rw [List.any_cons, List.any_cons, hsame hfg, ih]
  unfold Query.addFlag
  rw [hany]
  split
  · exact h
  · exact { h with flags := List.rel_append h.flags (.cons ⟨rfl, .expr (hshown ▸ hxy)⟩ .nil) }

theorem SpelledIn.withoutOrder (h : q.SpelledIn p shown q') :
    SpelledIn p shown { q with orderBy := [] } { q' with orderBy := [] } :=
  { h with orderBy := .nil }

theorem projection_addFlag (q : Query Operand) (flag : Flag Operand) :
    (q.addFlag flag).projection = q.projection := by
  unfold Query.addFlag
  split <;> rfl

theorem modifiers_addFlag (q : Query Operand) (flag : Flag Operand) :
    (q.addFlag flag).modifiers = q.modifiers := by
  unfold Query.addFlag
  split <;> rfl

theorem SpelledIn.withoutEnd (h : q.SpelledIn p shown q') :
    SpelledIn p shown { q.removeFlagsAt .finish with modifiers := {} }
      { q'.removeFlagsAt .finish with modifiers := {} } := by
  refine { h with modifiers := rfl, flags := List.rel_filter ?_ h.flags }
  intro f g hfg
  simp [hfg.position]

end Query

/-- Without limits nothing is numbered. -/
theorem Shown.Covers.unlimited (hs : shown.Covers p b q) {inner : Query Operand}
    (hprojection : inner.projection = q.projection) (hmodifiers : inner.modifiers = {}) :
    shown.Covers p b inner := by
  have hnumbered : inner.isRowNumbered p = false := by
    unfold Query.isRowNumbered
    rw [hmodifiers]
    split
    · exact Bool.and_false _
    · rfl
  refine { hs with root := ?_, keys := ?_, finish := ?_ }
  · rw [hprojection]
    exact hs.root
  · simp [hnumbered]
  · simp [hnumbered]

namespace Setup

variable {s : Setup}

theorem agree_rowNumbered (h : q.SpelledIn s.profile shown q') (hs : shown.Covers s.profile b q)
    (hnumbered : q.isRowNumbered s.profile = true) (top : Template) (forms : LimitForms Template)
    (projection : Option String) :
    Rendering.Agree b b (s.rowNumbered top forms q projection)
      (s.rowNumbered top forms q' projection) := by
  have hinner := h.withoutEnd
  have hword : ∀ n, (s.template .i64 top [s.count n]).SpelledIn s.profile true
      (s.template .i64 top [s.count n]) :=
    fun n ↦ spelledIn_template .i64 top (.cons (spelledIn_count n) .nil)
  have hcounts : ∀ (t : Template) (ns : List UInt64), Rendering.Agree b b
      (s.apply t (-1) (ns.map s.count)) (s.apply t (-1) (ns.map s.count)) := by
    intro t ns
    exact agree_apply t (-1) (forall₂_map_self fun n _ ↦ s.agree_count n)
  unfold rowNumbered
  rw [← h.modifiers]
  refine Rendering.Agree.append ?_ (h.flagText (hs.finish hnumbered))
  dsimp only
  split
  · refine agree_select (hinner.addFlag hs.afterSelect (hword _)) (hs.unlimited ?_ ?_) false
      projection
    · exact Query.projection_addFlag _ _
    · exact Query.modifiers_addFlag _ _
  · rename_i hoffset
    have hkeys : shown.keys = true := hs.keys hnumbered (by rw [hoffset]; rfl)
    have hcolumn : (s.rowNumberColumn q.orderBy).SpelledIn s.profile true
        (s.rowNumberColumn q'.orderBy) := by
      have horder := h.orderBy
      rw [hkeys] at horder
      exact spelledIn_rowNumberColumn horder
    have hadded := hinner.addFlag hs.afterProjection hcolumn
    refine (((isScopeFree_text _).agree.append (agree_select hadded.withoutOrder
      (hs.unlimited ?_ ?_) false projection)).append (isScopeFree_text _).agree).append ?_
    · exact Query.projection_addFlag _ _
    · exact Query.modifiers_addFlag _ _
    · split
      · exact hcounts _ [_, _]
      · exact hcounts _ [_]
  · exact agree_select hinner (hs.unlimited rfl rfl) false projection

/-- A query is written in the same way when its factories are spelled out. -/
theorem agree_query (h : q.SpelledIn s.profile shown q') (hs : shown.Covers s.profile b q)
    (forCount : Bool) (projection : Option String) :
    Rendering.Agree b b (s.query q forCount projection) (s.query q' forCount projection) := by
  unfold query
  rw [← h.modifiers, isEmpty_eq_of_forall₂ h.joins]
  split
  · rename_i top forms hpagination
    split
    · rename_i hwrapped
      refine agree_rowNumbered h hs ?_ top forms projection
      unfold Query.isRowNumbered
      rw [hpagination, isEmpty_eq_of_forall₂ h.joins]
      simp_all
    · exact agree_select h hs forCount projection
  · exact agree_select h hs forCount projection

end Setup

end TypedQuery
