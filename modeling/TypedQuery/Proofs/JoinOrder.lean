import TypedQuery.Query.Calls

/-!
# The order of joins

Listed sources stand in front of explicit joins, either of them in the order they were added. Every
call that builds a query keeps this order, a condition or a fetch flag keeps even the sources
themselves.
-/

namespace TypedQuery

namespace Join

variable {ε : Type}

/-- What a join was added with. -/
def source (j : Join ε) : JoinKind × ε := (j.kind, j.target)

end Join

namespace Query

variable {ε : Type} {q : Query ε}

def joinSources (q : Query ε) : List (JoinKind × ε) := q.joins.map Join.source

def isListed (source : JoinKind × ε) : Bool := source.1 == .listed

/-- Sources as a query has them: the listed ones first. -/
def listedFirst (added : List (JoinKind × ε)) : List (JoinKind × ε) :=
  added.filter isListed ++ added.filter (!isListed ·)

theorem listedFirst_snoc_of_listed (added : List (JoinKind × ε)) {source : JoinKind × ε}
    (h : isListed source = true) :
    listedFirst (added ++ [source]) =
      added.filter isListed ++ source :: added.filter (!isListed ·) := by
  simp [listedFirst, h]

theorem listedFirst_snoc_of_explicit (added : List (JoinKind × ε)) {source : JoinKind × ε}
    (h : isListed source = false) :
    listedFirst (added ++ [source]) = listedFirst added ++ [source] := by
  simp [listedFirst, h]

/-! ## One call -/

/-- Behind listed sources and in front of explicit joins is where a listed one goes. -/
theorem joins_addJoin_listed {listed explicit : List (Join ε)} (hq : q.joins = listed ++ explicit)
    (hlisted : ∀ j ∈ listed, j.kind = .listed) (hexplicit : ∀ j ∈ explicit, j.kind ≠ .listed)
    (target : ε) :
    (q.addJoin .listed target).joins =
      listed ++ { kind := .listed, target } :: explicit := by
  have hexplicit' : ∀ j ∈ explicit.reverse, (j.kind != .listed) = true := by
    intro j hj
    simpa using hexplicit j (List.mem_reverse.mp hj)
  have hlisted' : listed.reverse.takeWhile (·.kind != .listed) = [] ∧
      listed.reverse.dropWhile (·.kind != .listed) = listed.reverse := by
    cases hrev : listed.reverse with
    | nil => simp
    | cons last before =>
        have hlast : last.kind = .listed :=
          hlisted last (List.mem_reverse.mp (hrev ▸ List.mem_cons_self))
        simp [hlast]
  simp only [addJoin, hq, List.reverse_append]
  rw [List.takeWhile_append_of_pos hexplicit', List.dropWhile_append_of_pos hexplicit',
    hlisted'.1, hlisted'.2]
  simp

theorem joinSources_addJoin {added : List (JoinKind × ε)}
    (hq : q.joinSources = listedFirst added) (kind : JoinKind) (target : ε) :
    (q.addJoin kind target).joinSources = listedFirst (added ++ [(kind, target)]) := by
  by_cases hkind : kind = .listed
  · subst hkind
    obtain ⟨listed, explicit, hjoins, hlisted, hexplicit⟩ := List.map_eq_append_iff.mp hq
    have hjoin : ∀ {js : List (Join ε)} {p : JoinKind × ε → Bool},
        js.map Join.source = added.filter p → ∀ j ∈ js, p j.source = true := by
      intro js p hjs j hj
      exact (List.mem_filter.mp (hjs ▸ List.mem_map_of_mem hj)).2
    have hadd := joins_addJoin_listed hjoins
      (fun j hj ↦ by simpa [isListed, Join.source] using hjoin hlisted j hj)
      (fun j hj ↦ by simpa [isListed, Join.source] using hjoin hexplicit j hj) target
    rw [listedFirst_snoc_of_listed added rfl, joinSources, hadd, List.map_append, List.map_cons,
      hlisted, hexplicit]
    rfl
  · have hexplicit : isListed (kind, target) = false := by simpa [isListed] using hkind
    have hadd : (q.addJoin kind target).joins =
        q.joins ++ [{ kind := kind, target := target }] := by
      cases kind <;> first | rfl | exact absurd rfl hkind
    rw [listedFirst_snoc_of_explicit added hexplicit, ← hq, joinSources, hadd, List.map_append]
    rfl

/-- What changes neither the kind nor the target of the last join keeps all sources. -/
theorem joinSources_of_updateLastJoin {q q' : Query Expr} {change : Join Expr → Join Expr}
    (hchange : ∀ j, (change j).source = j.source) (h : q.updateLastJoin change = .ok q') :
    q'.joinSources = q.joinSources := by
  unfold updateLastJoin updateLastJoin? at h
  cases hjoins : q.joins.reverse with
  | nil => simp [hjoins] at h
  | cons last before =>
      have hq : q.joins = before.reverse ++ [last] := by
        rw [← List.reverse_reverse q.joins, hjoins, List.reverse_cons]
      rw [hjoins] at h
      obtain rfl := Except.ok.inj h
      simp [joinSources, hq, hchange]

theorem joins_addFlag [BEq ε] (f : Flag ε) : (q.addFlag f).joins = q.joins := by
  unfold addFlag
  split <;> rfl

/-- A call adds its source, if it has one, and moves no other. -/
theorem joinSources_apply {q q' : Query Expr} {added : List (JoinKind × Expr)}
    (hq : q.joinSources = listedFirst added) {call : QueryCall} (h : call.apply q = .ok q') :
    q'.joinSources = listedFirst (added ++ call.source?.toList) := by
  have hkeep : q'.joinSources = q.joinSources → call.source? = none →
      q'.joinSources = listedFirst (added ++ call.source?.toList) := by
    intro hsame hnone
    rw [hsame, hq, hnone, Option.toList_none, List.append_nil]
  cases call with
  | join kind target =>
      obtain rfl := Except.ok.inj h
      exact joinSources_addJoin hq kind target
  | joinCondition | fetch | fetchAll =>
      refine hkeep (joinSources_of_updateLastJoin ?_ h) rfl
      exact fun _ ↦ rfl
  | flag f =>
      obtain rfl := Except.ok.inj h
      exact hkeep (congrArg (List.map Join.source) (joins_addFlag f)) rfl
  | _ =>
      obtain rfl := Except.ok.inj h
      exact hkeep rfl rfl

theorem source?_eq_none_of_error {q : Query Expr} {call : QueryCall} {e : Error}
    (h : call.apply q = .error e) : call.source? = none := by
  cases call with
  | join => cases h
  | _ => rfl

theorem joinSources_after {q : Query Expr} {added : List (JoinKind × Expr)}
    (hq : q.joinSources = listedFirst added) (call : QueryCall) :
    (q.after call).joinSources = listedFirst (added ++ call.source?.toList) := by
  unfold after
  cases h : call.apply q with
  | ok q' => exact joinSources_apply hq h
  | error e =>
      rw [source?_eq_none_of_error h, Option.toList_none, List.append_nil]
      exact hq

/-! ## All calls -/

theorem joinSources_afterAll {q : Query Expr} {added : List (JoinKind × Expr)}
    (hq : q.joinSources = listedFirst added) (calls : List QueryCall) :
    (q.afterAll calls).joinSources =
      listedFirst (added ++ calls.filterMap QueryCall.source?) := by
  induction calls generalizing q added with
  | nil => simpa [afterAll] using hq
  | cons call calls ih =>
      have hcall := joinSources_after hq call
      have hsources : (call :: calls).filterMap QueryCall.source? =
          call.source?.toList ++ calls.filterMap QueryCall.source? := by
        cases hsource : call.source? <;> simp [hsource]
      rw [hsources, ← List.append_assoc]
      exact ih hcall

/-- After any calls on an empty query, its joins are the listed sources in the order they were
added, followed by the explicit joins in the order they were added, each with its kind and its
target. -/
theorem joins_afterAll (calls : List QueryCall) :
    (({} : Query Expr).afterAll calls).joins.map (fun j ↦ (j.kind, j.target)) =
      (calls.filterMap QueryCall.source?).filter (fun source ↦ source.1 == .listed) ++
        (calls.filterMap QueryCall.source?).filter (fun source ↦ source.1 != .listed) := by
  have hempty : ({} : Query Expr).joinSources = listedFirst [] := rfl
  exact joinSources_afterAll hempty calls

end Query

end TypedQuery
