import TypedQuery.Proofs.Counts
import TypedQuery.Proofs.Pagination.Queries

/-!
# What a count counts

A count is written around its target: all rows, the first source, or the projection. That is one
thing unless the rows have to be distinct or the projection has several items. The target is written
all the same then: as a star behind the word `distinct`, and as a list.
-/

namespace TypedQuery

open Rendering (Writes)

namespace Query

/-- Whether a family finds one thing to count in a query. -/
def leavesOne (family : Family) (q : Query Expr) : Bool :=
  match family, q.projection with
  | .sql, [] => !q.distinct
  | .sql, _ :: others => others.isEmpty
  | .jpql, [] => true
  | .jpql, first :: others => first.isFactory || others.isEmpty

def countWords (q : Query Expr) : String :=
  if q.distinct then "select count(distinct " else "select count("

end Query

namespace Setup

variable {s : Setup}

/-- One thing that a count of a query can be written around. -/
inductive CountsOne (s : Setup) (q : Query Expr) : List Chunk → Prop
  | rows (h : q.distinct = false) : CountsOne s q [.text "*"]
  | item {e : Expr} {target : List Chunk} (h : e ∈ q.projection)
      (htarget : s.expr e ⟨true, false⟩ = .ok target) : CountsOne s q target
  | source {j : Join Expr} {target : List Chunk} (h : q.joins.head? = some j)
      (htarget : s.expr j.target ⟨true, false⟩ = .ok target) : CountsOne s q target

/-- What a count is written around that finds no single thing to count. -/
inductive CountsAll (s : Setup) (q : Query Expr) : List Chunk → Prop
  | rows (h : q.projection = []) (hdistinct : q.distinct = true) : CountsAll s q [.text "*"]
  | items {target : List Chunk} (h : 2 ≤ q.projection.length)
      (htarget : Rendering.commas (q.projection.map s.expr) ⟨true, false⟩ = .ok target) :
      CountsAll s q target

variable {q : Query Expr} {q' : Query Operand} {target : List Chunk}

theorem countTarget_of_sql (hsql : s.profile.family = .sql) (q : Query Operand) :
    s.countTarget q = if q.projection.isEmpty then .text "*" else Query.items q.projection := by
  rw [countTarget, hsql]
  cases q.projection <;> rfl

theorem counts_of_items {e : Expr} {others : List Expr} (hq : q.projection = e :: others)
    (h : Query.items ((e :: others).map s.operand) ⟨true, false⟩ = .ok target) :
    if others.isEmpty then s.CountsOne q target else s.CountsAll q target := by
  rw [Query.items, List.map_map] at h
  cases others with
  | nil => exact .item (hq ▸ List.mem_singleton_self e) h
  | cons next others => exact .items (by rw [hq]; exact Nat.le_add_left _ _) (hq ▸ h)

theorem countsOne_of_source
    (h : (match q.joins.map (Join.map s.operand) with
      | [] => Rendering.fail .missingRoot
      | j :: _ => j.target.render) ⟨true, false⟩ = .ok target) : s.CountsOne q target := by
  cases hjoins : q.joins with
  | nil => rw [hjoins] at h; cases h
  | cons j js =>
      rw [hjoins] at h
      exact .source (by rw [hjoins]; rfl) h

theorem counts_of_countTarget
    (h : s.countTarget (s.queryOperands q) ⟨true, false⟩ = .ok target) :
    if q.leavesOne s.profile.family then s.CountsOne q target else s.CountsAll q target := by
  rw [queryOperands_eq_map, countTarget] at h
  unfold Query.leavesOne
  cases hfamily : s.profile.family with
  | sql =>
      cases hq : q.projection with
      | nil =>
          simp only [Query.map, hfamily, hq, List.map_nil] at h
          obtain rfl : [Chunk.text "*"] = target := Except.ok.inj h
          cases hdistinct : q.distinct with
          | false => exact .rows hdistinct
          | true => exact .rows hq hdistinct
      | cons e others =>
          simp only [Query.map, hfamily, hq, List.map_cons] at h
          exact counts_of_items hq h
  | jpql =>
      cases hq : q.projection with
      | nil =>
          simp only [Query.map, hfamily, hq, List.map_nil] at h
          exact countsOne_of_source h
      | cons e others =>
          have hhead : ((e :: others).map s.operand).head?.all (·.expr.isFactory) = e.isFactory :=
            congrArg Expr.isFactory (s.expr_operand e)
          simp only [Query.map, hfamily, hq, hhead] at h
          cases hfactory : e.isFactory with
          | true =>
              rw [hfactory, if_pos rfl] at h
              simp only [hfactory, Bool.true_or]
              exact countsOne_of_source h
          | false =>
              rw [hfactory, if_neg Bool.false_ne_true] at h
              simp only [hfactory, Bool.false_or]
              exact counts_of_items hq h

/-- The chunks of a count: flags at its start, its words, its target, and what stands behind. -/
theorem exists_of_count {chunks : List Chunk} (h : s.query q' true none {} = .ok chunks) :
    ∃ start target behind, q'.flagText .start {} = .ok start ∧
      s.countTarget q' ⟨true, false⟩ = .ok target ∧
      chunks = start ++ .text (if q'.distinct then "select count(distinct " else "select count(") ::
        target ++ .text ")" :: behind := by
  rw [query_eq_select_of_forCount, select] at h
  split at h
  · cases h
  · obtain ⟨front, clauses, hfront, _, rfl⟩ := Rendering.exists_of_append h
    obtain ⟨start, head, hstart, hhead, rfl⟩ := Rendering.exists_of_append hfront
    obtain ⟨counted, flags, hcounted, _, rfl⟩ := Rendering.exists_of_append hhead
    obtain ⟨before, close, hbefore, hclose, rfl⟩ := Rendering.exists_of_append hcounted
    obtain ⟨words, target, hwords, htarget, rfl⟩ := Rendering.exists_of_append hbefore
    obtain rfl := Except.ok.inj hwords
    obtain rfl := Except.ok.inj hclose
    exact ⟨start, target, flags ++ clauses, hstart, htarget, by simp⟩

end Setup

namespace Serializer

/-- The chunks of a statement are those of the flags at its start, the words of a count, and what is
counted in parentheses. -/
def CountedAround (s : Serializer) (q : Query Expr) (t : Statement) (target : List Chunk) : Prop :=
  ∃ start behind, (s.setup.queryOperands q).flagText .start {} = .ok start ∧
    layout s.dialect.placeholders (start ++ .text q.countWords :: target ++ .text ")" :: behind) =
      (t.text, t.bindings)

/-- A count is written around one thing if the query leaves one to count, and otherwise around all
there is. -/
theorem query_countedAround (s : Serializer) (q : Query Expr) (t : Statement)
    (h : s.query q true none = .ok t) :
    ∃ target, s.CountedAround q t target ∧
      if q.leavesOne s.dialect.family then s.setup.CountsOne q target
      else s.setup.CountsAll q target := by
  obtain ⟨chunks, hchunks, rfl⟩ := exists_of_map h
  obtain ⟨start, target, behind, hstart, htarget, rfl⟩ := Setup.exists_of_count hchunks
  refine ⟨target, ⟨start, behind, hstart, ?_⟩, Setup.counts_of_countTarget htarget⟩
  rw [Setup.queryOperands_eq_map]
  rfl

end Serializer

/-! ## Counted cats -/

def catItems (distinct : Bool) (projection : List Expr) : Query Expr :=
  { catRows [] with projection := projection, distinct := distinct }

def catProperty (name : String) : Expr := .path (.property .string (.entity "Cat" "cat") name)

namespace Setup

variable {s : Setup} {distinct : Bool} {projection : List Expr} {text : String}

theorem writes_count_catItems (hs : s.HasPaths)
    (htext : (s.countTarget (s.queryOperands (catItems distinct projection))).Writes text) :
    (s.query (s.queryOperands (catItems distinct projection)) true none).Writes
      ((catItems distinct projection).countWords ++ text ++ ")" ++ ("\nfrom " ++
        (s.entityName (.entity "Cat") ++ " " ++ s.profile.quoteIdent "cat"))) := by
  have hjoined : s.joined true
      ⟨.listed, s.operand (.path (.entity "Cat" "cat")), none, false, false⟩ = s.joined false
        ⟨.listed, s.operand (.path (.entity "Cat" "cat")), none, false, false⟩ := by
    simp only [joined, Bool.and_false]
  have hclauses : s.clauses (s.queryOperands (catItems distinct projection)) true =
      .text "\nfrom " ++ (s.joined true
        ⟨.listed, s.operand (.path (.entity "Cat" "cat")), none, false, false⟩ ++ .empty) ++
          .empty := rfl
  have hfrom := ((Writes.text "\nfrom ").append ((writes_joined_catRows hs).append .empty)).append
    .empty
  rw [← hjoined, ← hclauses] at hfrom
  have hhead := ((Writes.text (catItems distinct projection).countWords).append htext).append
    (.text ")")
  -- the flags of a query without any are written as nothing
  have hselect := ((Writes.empty.within ({ · with wrapElements := false })).append
    ((hhead.append .empty).within fun _ ↦ ⟨true, false⟩)).append
      (((hfrom.append .empty).append .empty).within fun _ ↦ ⟨false, false⟩)
  simp only [String.append_empty, String.empty_append] at hselect
  have hjoins : (s.queryOperands (catItems distinct projection)).joins.isEmpty = false := rfl
  rw [query_eq_select_of_forCount, select, hjoins, Bool.and_false, if_neg Bool.false_ne_true]
  exact hselect

end Setup

namespace Serializer

variable {s : Serializer} {distinct : Bool} {projection : List Expr} {target : String}

theorem query_catItems (hknown : s.dialect.IsKnown) (hquote : s.dialect.quote = none)
    (htarget : (s.setup.countTarget
      (s.setup.queryOperands (catItems distinct projection))).Writes target) :
    s.query (catItems distinct projection) true none =
      .ok ⟨(catItems distinct projection).countWords ++ target ++ ")\nfrom " ++
        s.setup.entityName (.entity "Cat") ++ " cat", [], {}⟩ := by
  have hwrites := Setup.writes_count_catItems (hasPaths_setup hknown) htarget
  have hquoted : s.setup.profile.quoteIdent "cat" = "cat" := by
    simp [Profile.quoteIdent, setup, hquote]
  have htext : ∀ words table : String, words ++ target ++ ")" ++
      ("\nfrom " ++ (table ++ " " ++ "cat")) = words ++ target ++ ")\nfrom " ++ table ++ " cat" :=
    fun words table ↦ String.toList_inj.mp (by simp)
  rw [query, statement_of_writes hwrites, hquoted, htext]
  rfl

theorem exists_sql_unquoted : ∃ d, ("h2", .ok d) ∈ Dialect.known ∧ d.quote = none ∧
    d.family = .sql ∧ ∀ name, (({ dialect := d } : Serializer).setup.expr (catProperty name)).Writes
      ("cat" ++ "." ++ name) := by
  obtain ⟨d, hmem, hquote⟩ := Dialect.exists_h2
  refine ⟨d, hmem, hquote, Dialect.family_of_mem hmem, fun name ↦ ?_⟩
  have hpaths : ({ dialect := d } : Serializer).setup.HasPaths := hasPaths_setup ⟨"h2", hmem⟩
  rw [← Setup.pathText_property_root hquote .string (.entity "Cat") "cat" name]
  exact (Setup.writes_pathOperand hpaths rfl).2 rfl

theorem query_distinctNames : ∃ s : Serializer, ∃ t,
    s.query (catItems true [catProperty "name"]) true none = .ok t ∧
    t.text = "select count(distinct cat.name)\nfrom " ++ s.setup.entityName (.entity "Cat") ++
      " cat" ∧
    ∃ target, s.CountedAround (catItems true [catProperty "name"]) t target ∧
      s.setup.CountsOne (catItems true [catProperty "name"]) target := by
  obtain ⟨d, hmem, hquote, hsql, hname⟩ := exists_sql_unquoted
  have htarget : (({ dialect := d } : Serializer).setup.countTarget
      (({ dialect := d } : Serializer).setup.queryOperands
        (catItems true [catProperty "name"]))).Writes ("cat" ++ "." ++ "name") := by
    rw [Setup.countTarget_of_sql hsql]
    exact hname "name"
  have hquery := query_catItems (s := { dialect := d }) ⟨"h2", hmem⟩ hquote htarget
  have hone : (catItems true [catProperty "name"]).leavesOne d.family = true := by
    rw [hsql]
    rfl
  obtain ⟨target, haround, hcounts⟩ := query_countedAround _ _ _ hquery
  rw [if_pos hone] at hcounts
  refine ⟨{ dialect := d }, _, hquery, ?_, target, haround, hcounts⟩
  have hwords : (catItems true [catProperty "name"]).countWords ++ ("cat" ++ "." ++ "name") ++
      ")\nfrom " = "select count(distinct cat.name)\nfrom " := by decide
  simp only [hwords]

/-- Distinct cats are counted by a star behind the word `distinct`, and several properties of them
as a list. -/
theorem query_distinctCats : ∃ s : Serializer, ("h2", .ok s.dialect) ∈ Dialect.known ∧
    s.query (catItems true []) true none =
      .ok ⟨"select count(distinct *)\nfrom " ++ s.setup.entityName (.entity "Cat") ++ " cat", [],
        {}⟩ ∧
    s.query (catItems false [catProperty "name", catProperty "color"]) true none =
      .ok ⟨"select count(cat.name, cat.color)\nfrom " ++ s.setup.entityName (.entity "Cat") ++
        " cat", [], {}⟩ := by
  obtain ⟨d, hmem, hquote, hsql, hname⟩ := exists_sql_unquoted
  have hknown : d.IsKnown := ⟨"h2", hmem⟩
  have hstar : (({ dialect := d } : Serializer).setup.countTarget
      (({ dialect := d } : Serializer).setup.queryOperands (catItems true []))).Writes "*" := by
    rw [Setup.countTarget_of_sql hsql]
    exact .text "*"
  have hlist : (({ dialect := d } : Serializer).setup.countTarget
      (({ dialect := d } : Serializer).setup.queryOperands
        (catItems false [catProperty "name", catProperty "color"]))).Writes
          ("cat" ++ "." ++ "name" ++ ", " ++ ("cat" ++ "." ++ "color")) := by
    rw [Setup.countTarget_of_sql hsql]
    exact ((hname "name").append (.text ", ")).append (hname "color")
  have hwords : (catItems true []).countWords ++ "*" ++ ")\nfrom " =
      "select count(distinct *)\nfrom " := by decide
  have hlistWords : (catItems false [catProperty "name", catProperty "color"]).countWords ++
      ("cat" ++ "." ++ "name" ++ ", " ++ ("cat" ++ "." ++ "color")) ++ ")\nfrom " =
        "select count(cat.name, cat.color)\nfrom " := by decide
  refine ⟨{ dialect := d }, hmem, ?_, ?_⟩
  · rw [query_catItems hknown hquote hstar, hwords]
  · rw [query_catItems hknown hquote hlist, hlistWords]

end Serializer

end TypedQuery
