import TypedQuery.Proofs.Nesting.Statements
import TypedQuery.Proofs.Pagination.Queries

/-!
# Limits can be read from a sub-query

A statement of a known SQL dialect in which a sub-query is written tells the limits of that query,
wherever it stands in the statement and however often it is written.
-/

namespace TypedQuery

open Layout (Distinguishes)
open Rendering (IsCongruence Writes)

namespace Rendering

/-- In every scope a nested rendering is one for all queries, or a relation holds between what it
writes for two of them. -/
def Tells (S : List Chunk → List Chunk → Prop) (q q' : Query Expr) (F : Nested Rendering) : Prop :=
  ∀ scope, (∀ q₁ q₂, F q₁ scope = F q₂ scope) ∨
    ∀ a b, F q scope = .ok a → F q' scope = .ok b → S a b

variable {style : PlaceholderStyle} {S : List Chunk → List Chunk → Prop}

/-- Renderings are joined in four ways, as each of them depends on the query or not. -/
theorem isCongruence_tells (hS : Distinguishes style S) (q q' : Query Expr) :
    IsCongruence (Tells S q q') where
  const r scope := .inl fun _ _ ↦ rfl
  append {F G} hF hG scope := by
    by_cases hsame : (∀ q₁ q₂, F q₁ scope = F q₂ scope) ∧ ∀ q₁ q₂, G q₁ scope = G q₂ scope
    · refine .inl fun q₁ q₂ ↦ ?_
      change (F q₁ ++ G q₁) scope = (F q₂ ++ G q₂) scope
      rw [append_apply, append_apply, hsame.1 q₁ q₂, hsame.2 q₁ q₂]
    · refine .inr fun a b ha hb ↦ ?_
      obtain ⟨before, behind, hbefore, hbehind, rfl⟩ := exists_of_append ha
      obtain ⟨before', behind', hbefore', hbehind', rfl⟩ := exists_of_append hb
      -- a side that is the same for all queries only surrounds the other
      rcases hF scope with hfirst | hfirst <;> rcases hG scope with hsecond | hsecond
      · exact absurd ⟨hfirst, hsecond⟩ hsame
      · obtain rfl := Except.ok.inj (hbefore.symm.trans ((hfirst q q').trans hbefore'))
        exact hS.append_left before (hsecond behind behind' hbehind hbehind')
      · obtain rfl := Except.ok.inj (hbehind.symm.trans ((hsecond q q').trans hbehind'))
        exact hS.append_right (hfirst before before' hbefore hbefore') behind
      · exact hS.append (hfirst before before' hbefore hbefore')
          (hsecond behind behind' hbehind hbehind')
  within hF change scope := hF (change scope)
  choose {F G} hF hG c scope := by
    cases hc : c scope with
    | true => simpa [hc] using hF scope
    | false => simpa [hc] using hG scope

end Rendering

theorem Request.modifiers_withQuery (r : Request) (k : Nat) (q : Query Expr) :
    (r.withQuery k q).modifiers = r.modifiers := by
  cases r with
  | query inner forCount projection => rw [withQuery, Query.withQuery_eq_map]; rfl
  | _ => rfl

/-! ## Sub-queries of the rows of one table -/

/-- A request that is nothing but a sub-query. -/
def subCats (flags : List (Flag Expr)) (m : Modifiers) : Request :=
  .expr (.subQuery 1 .i64 { catRows flags with modifiers := m })

namespace Setup

variable {s : Setup}

/-- Where limits are left to whoever runs a statement, none of a query are written. -/
theorem query_of_external (h : s.profile.pagination = .external) (q : Query Operand)
    (m : Modifiers) (projection : Option String) :
    s.query { q with modifiers := m } false projection = s.query q false projection := by
  have hlimits : ∀ m, s.limits m = .empty := fun m ↦ by rw [limits, h]
  have hordering : s.ordering { q with modifiers := m } = s.ordering q := by
    rw [ordering, ordering, hlimits, hlimits]
    rfl
  have hselect : s.select { q with modifiers := m } false projection =
      s.select q false projection := by
    rw [select, select, hordering]
    rfl
  rwa [query_eq_select (by simp [h]), query_eq_select (by simp [h])]

theorem writes_catRows (hs : s.HasPaths) (hfamily : s.profile.family = .jpql)
    (hexternal : s.profile.pagination = .external) :
    Writes (s.query (s.queryOperands (catRows [])) false none)
      ("select " ++ s.profile.quoteIdent "cat" ++
        ("\nfrom " ++ (s.entityName (.entity "Cat") ++ " " ++ s.profile.quoteIdent "cat"))) := by
  have hname : Writes (s.operand (.path (.entity "Cat" "cat"))).render
      (s.profile.quoteIdent "cat") := (writes_pathOperand hs rfl).2 rfl
  have hprojected : Writes (s.projected (s.queryOperands (catRows [])))
      (s.profile.quoteIdent "cat") := by
    unfold projected
    rw [hfamily]
    exact hname
  have hjoined := s.writes_joined_catRows hs
  have hordering : s.ordering (s.queryOperands (catRows [])) = .empty := by
    have hlimits : s.limits (s.queryOperands (catRows [])).modifiers = .empty := by
      rw [limits, hexternal]
    rw [ordering, hlimits]
    rfl
  have hhead := (((Writes.text "select ").append .empty).append hprojected).append .empty
  have hclauses := ((Writes.text "\nfrom ").append (hjoined.append .empty)).append .empty
  have hselect := ((Writes.empty.within ({ · with wrapElements := false })).append
    (hhead.within fun _ ↦ ⟨true, false⟩)).append
      (((hclauses.append .empty).append .empty).within fun _ ↦ ⟨false, false⟩)
  simp only [String.empty_append, String.append_empty] at hselect
  rw [query_eq_select (by simp [hexternal]), select, hfamily, hordering]
  exact hselect

end Setup

namespace Serializer

variable {s : Serializer} {m m' : Modifiers}

theorem serialize_topCats (hquote : s.dialect.quote = none)
    (hstyle : s.dialect.placeholders = .anonymous) {q : Query Expr} {n : UInt64}
    (hq : s.setup.query (s.setup.queryOperands q) false none {} = .ok (s.setup.topCats n)) :
    s.serialize (.expr (.subQuery 1 .i64 q)) =
      .ok ⟨"(" ++ s.topCatsText ++ ")", [.value (.i64 (counted n))], {}⟩ := by
  have hrendering : (Request.expr (.subQuery 1 .i64 q)).rendering s.setup {} =
      .ok ([.text "("] ++ s.setup.topCats n ++ [.text ")"]) := by
    change (s.setup.query (s.setup.queryOperands q) false none).parenthesized {} = _
    rw [Rendering.parenthesized, Rendering.between, Rendering.append_apply,
      Rendering.append_apply, hq]
    rfl
  rw [serialize_eq, statement, hrendering, hstyle]
  simp only [Except.map, Layout.anonymous_layout_append, Layout.anonymous_layout_text,
    layout_topCats hquote]
  rfl

/-- An object query language leaves the limit of a sub-query out. -/
theorem serialize_subCats_external (hs : s.setup.HasPaths) (hfamily : s.dialect.family = .jpql)
    (hexternal : s.dialect.pagination = .external) (m : Modifiers) :
    s.serialize (subCats [] m) = s.serialize (subCats [] {}) ∧
      ∃ text, s.serialize (subCats [] {}) = .ok ⟨text, [], {}⟩ := by
  have hquery := Setup.query_of_external (s := s.setup) hexternal
    (s.setup.queryOperands (catRows [])) m none
  have hwrites := (Setup.writes_catRows hs hfamily hexternal).parenthesized
  refine ⟨?_, _, statement_of_writes hwrites {}⟩
  exact congrArg (s.statement {} ·.parenthesized) hquery

/-- Whether the outcome of a request is the same for all queries that its sub-queries of one
identity may have. Then these are not written. -/
def Ignores (s : Serializer) (r : Request) (k : Nat) : Prop :=
  ∀ q q', s.serialize (r.withQuery k q) = s.serialize (r.withQuery k q')

/-- In the known SQL dialects, the statement of a request tells the limits of a sub-query from some
source that it writes. -/
theorem not_sameStatement_of_subQuery_modifiers_ne (hknown : s.dialect.IsKnown)
    (hsql : s.dialect.family = .sql) (q : Query Expr) (hjoins : q.joins ≠ [])
    (hm : m.fits = true) (hm' : m'.fits = true) (hne : m ≠ m')
    (halike : ¬ s.dialect.WritesAlike q none m m') (r : Request) (k : Nat)
    (hwritten : ¬ s.Ignores r k) :
    ¬ SameStatement (s.serialize (r.withQuery k { q with modifiers := m }))
      (s.serialize (r.withQuery k { q with modifiers := m' })) := by
  have hkept := keptApart_query hknown hsql hjoins none hm hm' hne halike
  obtain ⟨S, hS, hquery⟩ := hkept.between "(" ")"
  have htells := Setup.congruent_rendering (s := s.setup) (k := k)
    (Rendering.isCongruence_tells hS _ _) hsql (fun scope ↦ .inr (hquery scope)) r
  simp only [Ignores, serialize_eq, Request.modifiers_withQuery] at hwritten ⊢
  rcases htells {} with hsame | hdistinct
  · exact absurd (fun q q' ↦ congrArg (Except.map _) (hsame q q')) hwritten
  · exact not_sameStatement fun a b ha hb ↦ hS.not_same (hdistinct a b ha hb)

/-- Two limits of a sub-query are written with one text and are told apart by what they bind. -/
theorem exists_serialize_subCats : ∃ s : Serializer, s.dialect.IsKnown ∧
    s.dialect.family = .sql ∧
    ¬ s.dialect.WritesAlike (catRows []) none { limit := some 5 } { limit := some 7 } ∧
    ¬ s.Ignores (subCats [] {}) 1 ∧
    (∀ n, s.serialize (subCats [] { limit := some n }) =
      .ok ⟨"(" ++ s.topCatsText ++ ")", [.value (.i64 (counted n))], {}⟩) ∧
    ¬ SameStatement (s.serialize (subCats [] { limit := some 5 }))
      (s.serialize (subCats [] { limit := some 7 })) := by
  obtain ⟨d, hknown, hquote, hn, hstyle⟩ := Dialect.exists_sqlServer2005
  set s : Serializer := { dialect := d }
  have halike := Dialect.not_writesAlike_catRows d
  have hserialize : ∀ n, s.serialize (subCats [] { limit := some n }) =
      .ok ⟨"(" ++ s.topCatsText ++ ")", [.value (.i64 (counted n))], {}⟩ := fun n ↦
    serialize_topCats hquote hstyle (Setup.query_catRows (hasPaths_setup hknown) hn n)
  have hwritten : ¬ s.Ignores (subCats [] {}) 1 := by
    intro hignores
    have hsame : s.serialize (subCats [] { limit := some 7 }) =
        s.serialize (subCats [] { limit := some 5 }) :=
      hignores { catRows [] with modifiers := { limit := some 7 } }
        { catRows [] with modifiers := { limit := some 5 } }
    rw [hserialize, hserialize] at hsame
    have hcounted : counted 7 = counted 5 := by simpa using hsame
    exact absurd hcounted (by decide)
  refine ⟨s, hknown, hn.family, halike, hwritten, hserialize, ?_⟩
  exact not_sameStatement_of_subQuery_modifiers_ne (s := s) hknown hn.family (catRows [])
    (by simp [catRows]) rfl rfl (by decide) halike (subCats [] {}) 1 hwritten

/-- A limit of a sub-query is dropped in an object query language, and in SQL where its word is
there already. -/
theorem exists_sameStatement_subCats :
    (∃ s : Serializer, s.dialect.IsKnown ∧ s.dialect.family = .jpql ∧
      SameStatement (s.serialize (subCats [] { limit := some 5 })) (s.serialize (subCats [] {}))) ∧
    ∃ s : Serializer, s.dialect.IsKnown ∧ s.dialect.family = .sql ∧
      SameStatement (s.serialize (subCats [Query.topFlag 5] { limit := some 5 }))
        (s.serialize (subCats [Query.topFlag 5] {})) := by
  constructor
  · have hmem : ("jpql", Dialect.jpql) ∈ Dialect.known := by simp [Dialect.known]
    obtain ⟨d, hd⟩ := Dialect.exists_of_mem_known _ hmem
    have hbuild : Dialect.jpql = .ok d := hd
    have hknown : d.IsKnown := ⟨_, hbuild ▸ hmem⟩
    have hfamily := Dialect.family_of_build hbuild
    obtain ⟨hsame, text, htext⟩ := serialize_subCats_external (s := { dialect := d })
      (hasPaths_setup hknown) hfamily (hknown.external hfamily) { limit := some 5 }
    refine ⟨{ dialect := d }, hknown, hfamily, ?_⟩
    rw [hsame, htext]
    exact .ok rfl .nil
  · obtain ⟨d, hknown, hquote, hn, hstyle⟩ := Dialect.exists_sqlServer2005
    set s : Serializer := { dialect := d }
    refine ⟨s, hknown, hn.family, ?_⟩
    have hserialize : ∀ m : Modifiers, m = {} ∨ m = { limit := some 5 } →
        s.serialize (subCats [Query.topFlag 5] m) =
          .ok ⟨"(" ++ s.topCatsText ++ ")", [.value (.i64 (counted 5))], {}⟩ := by
      intro m hm
      refine serialize_topCats hquote hstyle ?_
      rw [Setup.query_catRows_topFlag hn 5 m hm]
      exact Setup.select_catRows (hasPaths_setup hknown) hn 5
    rw [hserialize _ (.inr rfl), hserialize _ (.inl rfl)]
    exact .ok rfl (List.forall₂_same.mpr fun b _ ↦ b.eqv_refl)

end Serializer

end TypedQuery
