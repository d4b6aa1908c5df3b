import TypedQuery.Proofs.Nesting.Operations

/-!
# Selects over a sub-query that is replaced

A select of SQL inherits what its expressions have in common, clause by clause. Whether a flag is
there already does not depend on the query that is replaced, because sub-queries are compared by
their identity.
-/

namespace TypedQuery

open Operand (Uniform)
open Rendering (IsCongruence)

variable {P : Nested Rendering → Prop} {k : Nat} {s : Setup} {A : Nested Operand}
  {l : List (Nested Operand)} {Q : Query (Nested Operand)} {flag : Flag (Nested Operand)}

namespace Query

/-! ## Flags -/

theorem flagsAt_map {ε δ : Type} (f : ε → δ) (q : Query ε) (position : Position) :
    (q.map f).flagsAt position = (q.flagsAt position).map (Flag.map f) :=
  List.filter_map

theorem removeFlagsAt_map {ε δ : Type} (f : ε → δ) (q : Query ε) (position : Position) :
    (q.map f).removeFlagsAt position = (q.removeFlagsAt position).map f := by
  have hfilter : (q.map f).flags.filter (·.position != position) =
      (q.flags.filter (·.position != position)).map (Flag.map f) := List.filter_map
  simp only [removeFlagsAt, hfilter]
  rfl

theorem congruent_render (hP : IsCongruence P) (h : ∀ A ∈ flag.content.expr?, Uniform P k A) :
    P fun q ↦ (flag.map (· q)).render := by
  obtain ⟨position, content⟩ := flag
  cases content with
  | text t => exact hP.const (.text t)
  | expr A => exact (h A rfl).render

theorem congruent_flagText (hP : IsCongruence P) (hQ : Q.Each (Uniform P k))
    (position : Position) : P fun q ↦ (Q.map (· q)).flagText position := by
  simp only [flagText, flagsAt_map, List.map_map]
  exact hP.concat fun flag hflag ↦ congruent_render hP (hQ.flags flag (List.mem_filter.mp hflag).1)

theorem Each.removeFlagsAt {ε : Type} {p : ε → Prop} {q : Query ε} (h : q.Each p)
    (position : Position) : (q.removeFlagsAt position).Each p :=
  { h with flags := fun flag hflag ↦ h.flags flag (List.mem_filter.mp hflag).1 }

/-- Whether flags are equal does not depend on the query. -/
theorem exists_eqv {flag' : Flag (Nested Operand)} (h : ∀ A ∈ flag.content.expr?, Uniform P k A)
    (h' : ∀ A ∈ flag'.content.expr?, Uniform P k A) :
    ∃ b, ∀ q, ((flag.map (· q)).position == (flag'.map (· q)).position &&
      (flag.map (· q)).content.eqv (flag'.map (· q)).content) = b := by
  obtain ⟨position, content⟩ := flag
  obtain ⟨position', content'⟩ := flag'
  cases content with
  | text t =>
      cases content' with
      | text t' => exact ⟨position == position' && t == t', fun _ ↦ rfl⟩
      | expr B => exact ⟨position == position' && false, fun _ ↦ rfl⟩
  | expr A =>
      cases content' with
      | text t => exact ⟨position == position' && false, fun _ ↦ rfl⟩
      | expr B =>
          obtain ⟨e, he⟩ := (h A rfl).exists_expr
          obtain ⟨e', he'⟩ := (h' B rfl).exists_expr
          refine ⟨position == position' && e.eqv e', fun q ↦ ?_⟩
          have heqv : (A q == B q) = e.eqv e' := by
            change (A q).expr.eqv (B q).expr = _
            rw [he, he', Expr.eqv_withQuery]
          exact congrArg (position == position' && ·) heqv

theorem exists_addFlag (flag : Flag (Nested Operand)) (hQ : Q.Each (Uniform P k))
    (h : ∀ A ∈ flag.content.expr?, Uniform P k A) :
    ∃ Q' : Query (Nested Operand), Q'.Each (Uniform P k) ∧
      ∀ q, (Q.map (· q)).addFlag (flag.map (· q)) = Q'.map (· q) := by
  have hany : ∀ flags : List (Flag (Nested Operand)),
      (∀ f ∈ flags, ∀ A ∈ f.content.expr?, Uniform P k A) →
      ∃ b, ∀ q, ((flags.map (Flag.map (· q))).any fun f ↦
        f.position == (flag.map (· q)).position && f.content.eqv (flag.map (· q)).content) = b := by
    intro flags hflags
    induction flags with
    | nil => exact ⟨false, fun _ ↦ rfl⟩
    | cons f flags ih =>
        rw [List.forall_mem_cons] at hflags
        obtain ⟨b, hb⟩ := exists_eqv hflags.1 h
        obtain ⟨c, hc⟩ := ih hflags.2
        exact ⟨b || c, fun q ↦ by rw [List.map_cons, List.any_cons, hb q, hc q]⟩
  obtain ⟨b, hb⟩ := hany Q.flags hQ.flags
  cases b with
  | true => exact ⟨Q, hQ, fun q ↦ if_pos (hb q)⟩
  | false =>
      refine ⟨{ Q with flags := Q.flags ++ [flag] }, { hQ with flags := ?_ }, fun q ↦ ?_⟩
      · intro f hf
        rcases List.mem_append.mp hf with hf | hf
        · exact hQ.flags f hf
        · obtain rfl := List.mem_singleton.mp hf
          exact h
      · have hnot := hb q
        refine (if_neg fun hadded ↦ ?_).trans ?_
        · exact absurd (hnot.symm.trans hadded) Bool.false_ne_true
        · simp [Query.map]

end Query

namespace Setup

/-! ## Sources -/

theorem congruent_source (hP : IsCongruence P) (h : Uniform P k A) :
    P fun q ↦ s.source (A q) := by
  obtain ⟨e, he⟩ := h.exists_expr
  have hpath : ∀ q, (A q).path? = e.path?.map (Path.withQuery k q) := fun q ↦ by
    rw [Operand.path?, he, Expr.path?_withQuery]
  simp only [source, hpath]
  cases e.path? with
  | none => exact h.render
  | some p =>
      simp only [Option.map_some, Path.isRoot_withQuery, Path.type_withQuery]
      by_cases hentity : (p.isRoot && p.type.isEntity) = true
      · simp only [if_pos hentity]
        exact hP.append (hP.const _) h.render
      · simp only [if_neg hentity]
        exact h.render

theorem congruent_joined (hP : IsCongruence P) (forCount : Bool) {j : Join (Nested Operand)}
    (h : Uniform P k j.target ∧ ∀ A ∈ j.condition, Uniform P k A) :
    P fun q ↦ s.joined forCount (j.map (· q)) := by
  obtain ⟨kind, target, condition, fetch, fetchAll⟩ := j
  obtain ⟨htarget, hcondition⟩ := h
  have hfront := hP.append (hP.append
    (hP.const (.text (if s.profile.family == .jpql && !forCount && fetch then "fetch " else "")))
    (congruent_source (s := s) hP htarget))
    (hP.const (.text (if s.profile.family == .jpql && !forCount && fetchAll
      then " fetch all properties" else "")))
  cases condition with
  | none => exact hP.append hfront (hP.const .empty)
  | some A => exact hP.append hfront (hP.append (hP.const _) (hcondition A rfl).render)

theorem congruent_sources (hP : IsCongruence P) (forCount : Bool)
    {js : List (Join (Nested Operand))}
    (h : ∀ j ∈ js, Uniform P k j.target ∧ ∀ A ∈ j.condition, Uniform P k A) :
    P fun q ↦ s.sources forCount (js.map (Join.map (· q))) := by
  cases js with
  | nil => exact hP.const .empty
  | cons j js =>
      rw [List.forall_mem_cons] at h
      simp only [List.map_cons, sources, List.map_map]
      refine hP.append (congruent_joined hP forCount h.1) (hP.concat fun j' hj' ↦ ?_)
      exact hP.append (hP.const (.text (s.profile.joinKeywords.keyword j'.kind)))
        (congruent_joined hP forCount (h.2 j' hj'))

/-! ## The select -/

theorem congruent_clause (hP : IsCongruence P) (keyword : String) {B : Option (Nested Operand)}
    (h : ∀ A ∈ B, Uniform P k A) :
    P fun q ↦ clause keyword ((B.map (· q)).map Operand.render) := by
  cases B with
  | none => exact hP.const .empty
  | some A => exact hP.append (hP.const (.text keyword)) (h A rfl).render

theorem congruent_listClause (hP : IsCongruence P) (keyword separator : String) {α : Type}
    {l : List α} {G : α → Nested Rendering} (hG : ∀ x ∈ l, P (G x)) :
    P fun q ↦ listClause keyword separator (l.map fun x ↦ G x q) := by
  cases l with
  | nil => exact hP.const .empty
  | cons x l => exact hP.append (hP.const (.text keyword)) (hP.separated separator hG)

theorem congruent_projected (hP : IsCongruence P) (hsql : s.profile.family = .sql)
    (hQ : Q.Each (Uniform P k)) : P fun q ↦ s.projected (Q.map (· q)) := by
  have hitems := congruent_renders hP ", " hQ.projection
  simp only [projected, hsql, Query.map]
  cases hprojection : Q.projection with
  | nil => exact hP.const (.text "*")
  | cons A l =>
      rw [hprojection] at hitems
      exact hitems

theorem congruent_countTarget (hP : IsCongruence P) (hsql : s.profile.family = .sql)
    (hQ : Q.Each (Uniform P k)) : P fun q ↦ s.countTarget (Q.map (· q)) := by
  have hitems := congruent_renders hP ", " hQ.projection
  simp only [countTarget, hsql, Query.map]
  cases hprojection : Q.projection with
  | nil => exact hP.const (.text "*")
  | cons A l =>
      rw [hprojection] at hitems
      exact hitems

theorem congruent_selectWord (hP : IsCongruence P) (hQ : Q.Each (Uniform P k)) :
    P fun q ↦ selectWord (Q.map (· q)) := by
  have hempty : ∀ q : Query Expr, ((Q.map (· q)).flagsAt .startOverride).isEmpty =
      (Q.flagsAt .startOverride).isEmpty := fun q ↦ by
    rw [Query.flagsAt_map, List.isEmpty_map]
  simp only [selectWord, hempty]
  cases (Q.flagsAt .startOverride).isEmpty with
  | true => exact hP.const (.text (if Q.distinct then "select distinct " else "select "))
  | false => exact Query.congruent_flagText hP hQ .startOverride

theorem congruent_head (hP : IsCongruence P) (hsql : s.profile.family = .sql)
    (hQ : Q.Each (Uniform P k)) (forCount : Bool) (projection : Option String) :
    P fun q ↦ s.head (Q.map (· q)) forCount projection := by
  cases projection with
  | some text => exact hP.const _
  | none =>
      cases forCount with
      | true =>
          exact hP.between (if Q.distinct then "select count(distinct " else "select count(") ")"
            (congruent_countTarget hP hsql hQ)
      | false =>
          exact hP.append (hP.append (congruent_selectWord hP hQ)
            (Query.congruent_flagText hP hQ .afterSelect)) (congruent_projected hP hsql hQ)

theorem congruent_clauses (hP : IsCongruence P) (hQ : Q.Each (Uniform P k)) (forCount : Bool) :
    P fun q ↦ s.clauses (Q.map (· q)) forCount := by
  have hflag := Query.congruent_flagText hP hQ
  have hfrom : P fun q ↦ clause "\nfrom " (if (Q.joins.map (Join.map (· q))).isEmpty then none
      else some (s.sources forCount (Q.joins.map (Join.map (· q))))) := by
    have hsources := congruent_sources (s := s) hP forCount hQ.joins
    simp only [List.isEmpty_map]
    cases Q.joins.isEmpty with
    | true => exact hP.const .empty
    | false => exact hP.append (hP.const (.text "\nfrom ")) hsources
  have hgroup : P fun q ↦
      listClause "\ngroup by " ", " ((Q.groupBy.map (· q)).map Operand.render) := by
    simp only [List.map_map]
    exact congruent_listClause hP _ _ fun A hA ↦ (hQ.groupBy A hA).render
  have hlist := hP.concat (l := [_, _, _, _, _, _, _, _, _, _]) (G := fun F ↦ F) <|
    List.forall_mem_cons.mpr ⟨hfrom, List.forall_mem_cons.mpr ⟨hflag .beforeFilters,
      List.forall_mem_cons.mpr ⟨congruent_clause hP "\nwhere " hQ.filter,
      List.forall_mem_cons.mpr ⟨hflag .afterFilters, List.forall_mem_cons.mpr ⟨hflag .beforeGroupBy,
      List.forall_mem_cons.mpr ⟨hgroup, List.forall_mem_cons.mpr ⟨hflag .afterGroupBy,
      List.forall_mem_cons.mpr ⟨hflag .beforeHaving,
      List.forall_mem_cons.mpr ⟨congruent_clause hP "\nhaving " hQ.having,
      List.forall_mem_cons.mpr ⟨hflag .afterHaving, List.forall_mem_nil _⟩⟩⟩⟩⟩⟩⟩⟩⟩⟩
  exact hlist

theorem congruent_ordering (hP : IsCongruence P) (hQ : Q.Each (Uniform P k)) :
    P fun q ↦ s.ordering (Q.map (· q)) := by
  have hflag := Query.congruent_flagText hP hQ
  have hkeys : P fun q ↦
      listClause "\norder by " ", " ((Q.orderBy.map (OrderKey.map (· q))).map s.orderKey) := by
    simp only [List.map_map]
    refine congruent_listClause hP _ _ fun key hkey ↦ ?_
    exact hP.append (hQ.orderBy key hkey).render
      (hP.const (.text (key.directionText s.profile.capabilities.nullsOrdering)))
  have hlist := hP.concat (l := [_, _, _, _]) (G := fun F ↦ F) <|
    List.forall_mem_cons.mpr ⟨hflag .beforeOrder, List.forall_mem_cons.mpr ⟨hkeys,
      List.forall_mem_cons.mpr ⟨hflag .afterOrder,
      List.forall_mem_cons.mpr ⟨hP.const (s.limits Q.modifiers), List.forall_mem_nil _⟩⟩⟩⟩
  exact hlist

theorem congruent_select (hP : IsCongruence P) (hsql : s.profile.family = .sql)
    (hQ : Q.Each (Uniform P k)) (forCount : Bool) (projection : Option String) :
    P fun q ↦ s.select (Q.map (· q)) forCount projection := by
  have hflag := Query.congruent_flagText hP hQ
  have hordering : P fun q ↦ if forCount then .empty else s.ordering (Q.map (· q)) := by
    cases forCount with
    | true => exact hP.const .empty
    | false => exact congruent_ordering hP hQ
  have hhead := hP.append (congruent_head hP hsql hQ forCount projection) (hflag .afterProjection)
  have hrest := hP.append (hP.append (congruent_clauses (s := s) hP hQ forCount) hordering)
    (hflag .finish)
  have hfamily : (s.profile.family == .jpql) = false := by
    rw [hsql]
    rfl
  simp only [select, hfamily, Bool.false_and, Bool.false_eq_true, if_false]
  exact hP.append (hP.append (hP.within (hflag .start) _) (hP.within hhead _)) (hP.within hrest _)

/-! ## Numbered rows -/

theorem exists_numberingElements (nullsOrdering : Bool) (keys : List (OrderKey (Nested Operand)))
    (index : Nat) (before : String) :
    ∃ elements, ∀ q, numberingElements nullsOrdering index before
      (keys.map (OrderKey.map (· q))) = elements := by
  induction keys generalizing index before with
  | nil => exact ⟨_, fun _ ↦ rfl⟩
  | cons key keys ih =>
      obtain ⟨elements, helements⟩ := ih (index + 1)
        (if keys.isEmpty then key.directionText nullsOrdering
          else key.directionText nullsOrdering ++ ", ")
      refine ⟨.text before :: .arg index :: elements, fun q ↦ ?_⟩
      rw [← helements q, List.map_cons, numberingElements, List.isEmpty_map]
      rfl

theorem uniform_rowNumber (hP : IsCongruence P) {keys : List (OrderKey (Nested Operand))}
    (h : ∀ key ∈ keys, Uniform P k key.target) :
    Uniform P k fun q ↦ s.rowNumber (keys.map (OrderKey.map (· q))) := by
  obtain ⟨elements, helements⟩ := exists_numberingElements
    s.profile.capabilities.nullsOrdering keys 0
    (if keys.isEmpty then "row_number() over (" else "row_number() over (order by ")
  have htargets : ∀ q : Query Expr, (keys.map (OrderKey.map (· q))).map OrderKey.target =
      (keys.map OrderKey.target).map (· q) := fun q ↦ by
    rw [List.map_map, List.map_map]
    rfl
  simp only [rowNumber, List.isEmpty_map, helements, htargets]
  exact uniform_template hP .i64 _ (List.forall_mem_map.mpr h)

theorem uniform_rowNumberColumn (hP : IsCongruence P) (hsql : s.profile.family = .sql)
    {keys : List (OrderKey (Nested Operand))} (h : ∀ key ∈ keys, Uniform P k key.target) :
    Uniform P k fun q ↦ s.rowNumberColumn (keys.map (OrderKey.map (· q))) := by
  have hname : Uniform P k fun _ ↦ s.rootStep .i64 "row_number" :=
    .const hP (e := .path (.root .i64 "row_number")) fun _ ↦ rfl
  have haliased : Uniform P k fun q ↦ s.operation .i64 (.op .aliased)
      [s.rowNumber (keys.map (OrderKey.map (· q))), s.rootStep .i64 "row_number"] :=
    uniform_operation hP hsql .i64 (.op .aliased) (l := [_, _])
      (by simpa using ⟨uniform_rowNumber hP h, hname⟩)
  exact uniform_template hP .i64 (.ofElements [.text ", ", .arg 0]) (l := [_])
    (by simpa using haliased)

theorem congruent_rowNumbered (hP : IsCongruence P) (hsql : s.profile.family = .sql)
    (hQ : Q.Each (Uniform P k)) (top : Template) (forms : LimitForms Template)
    (projection : Option String) :
    P fun q ↦ s.rowNumbered top forms (Q.map (· q)) projection := by
  obtain ⟨inner, hinner, hmap⟩ : ∃ inner : Query (Nested Operand), inner.Each (Uniform P k) ∧
      ∀ q, { (Q.map (· q)).removeFlagsAt .finish with modifiers := {} } = inner.map (· q) := by
    refine ⟨{ Q.removeFlagsAt .finish with modifiers := {} },
      { hQ.removeFlagsAt .finish with }, fun q ↦ ?_⟩
    rw [Query.removeFlagsAt_map]
    rfl
  have hmodifiers : ∀ q : Query Expr, (Q.map (· q)).modifiers = Q.modifiers := fun _ ↦ rfl
  unfold rowNumbered
  refine hP.append ?_ (Query.congruent_flagText hP hQ .finish)
  simp only [hmap, hmodifiers]
  generalize Q.modifiers = m
  obtain ⟨limit, offset⟩ := m
  cases offset with
  | none =>
      cases limit with
      | none => exact congruent_select hP hsql hinner false projection
      | some limit =>
          -- the word for the limit is the same for all queries
          have hword : Uniform P k fun _ ↦ s.template .i64 top [s.count limit] :=
            uniform_template hP .i64 top (l := [fun _ ↦ s.count limit])
              (List.forall_mem_singleton.mpr (uniform_count hP limit))
          obtain ⟨Q', hQ', hadded⟩ := Query.exists_addFlag
            ⟨.afterSelect, .expr fun _ ↦ s.template .i64 top [s.count limit]⟩ hinner
            (fun A hA ↦ Option.some.inj hA ▸ hword)
          have hselect := congruent_select (s := s) hP hsql hQ' false projection
          simp only [← hadded] at hselect
          exact hselect
  | some offset =>
      have hcolumn := uniform_rowNumberColumn (s := s) hP hsql hQ.orderBy
      obtain ⟨Q', hQ', hadded⟩ := Query.exists_addFlag
        ⟨.afterProjection, .expr fun q ↦
          s.rowNumberColumn (Q.orderBy.map (OrderKey.map (· q)))⟩ hinner
        (fun A hA ↦ Option.some.inj hA ▸ hcolumn)
      have hnumbered : Query.Each (Uniform P k) { Q' with orderBy := [] } :=
        { hQ' with orderBy := List.forall_mem_nil _ }
      have hshape : ∀ q, Query.map (· q) { Q' with orderBy := [] } =
          { (inner.map (· q)).addFlag ⟨.afterProjection, .expr
              (s.rowNumberColumn (Q.orderBy.map (OrderKey.map (· q))))⟩ with orderBy := [] } :=
        fun q ↦ congrArg (fun x : Query Operand ↦ { x with orderBy := [] }) (hadded q).symm
      have hselect := congruent_select (s := s) hP hsql hnumbered false projection
      simp only [hshape] at hselect
      cases limit <;>
        exact hP.append (hP.append (hP.append (hP.const _) hselect) (hP.const _)) (hP.const _)

theorem congruent_query (hP : IsCongruence P) (hsql : s.profile.family = .sql)
    (hQ : Q.Each (Uniform P k)) (forCount : Bool) (projection : Option String) :
    P fun q ↦ s.query (Q.map (· q)) forCount projection := by
  have hselect := congruent_select (s := s) hP hsql hQ forCount projection
  unfold query
  cases s.profile.pagination with
  | topRowNumber top forms =>
      have hnumbered := congruent_rowNumbered (s := s) hP hsql hQ top forms projection
      have hempty : ∀ q : Query Expr, (Q.map (· q)).joins.isEmpty = Q.joins.isEmpty := fun q ↦ by
        simp [Query.map]
      have hmodifiers : ∀ q : Query Expr, (Q.map (· q)).modifiers = Q.modifiers := fun _ ↦ rfl
      simp only [hempty, hmodifiers]
      by_cases hrows : (!forCount && !Q.joins.isEmpty && Q.modifiers.isRestricting) = true
      · simp only [if_pos hrows]
        exact hnumbered
      · simp only [if_neg hrows]
        exact hselect
  | _ => exact hselect

end Setup

end TypedQuery
