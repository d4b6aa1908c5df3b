import TypedQuery.Proofs.Pagination.Clauses

/-!
# Limits behind the word `select` and in windows

A limit alone is written behind the word `select`, by a flag that is added unless an equal one is
there already. An offset puts the whole select behind a longer text, with a condition on the numbers
of its rows behind it.
-/

namespace TypedQuery

namespace Query

variable {ε : Type} [BEq ε] {q : Query ε} {flag : Flag ε}

/-- Whether a query has a flag that equals a given one. -/
def hasFlag (q : Query ε) (flag : Flag ε) : Bool :=
  q.flags.any fun f ↦ f.position == flag.position && f.content.eqv flag.content

theorem addFlag_of_hasFlag (h : q.hasFlag flag = true) : q.addFlag flag = q := if_pos h

theorem addFlag_of_not_hasFlag (h : q.hasFlag flag = false) :
    q.addFlag flag = { q with flags := q.flags ++ [flag] } := by
  refine if_neg ?_
  unfold hasFlag at h
  rw [h]
  exact Bool.false_ne_true

theorem hasFlag_removeFlagsAt {removed : Position} (h : flag.position ≠ removed) :
    (q.removeFlagsAt removed).hasFlag flag = q.hasFlag flag := by
  simp only [hasFlag, removeFlagsAt, List.any_filter]
  congr 1
  funext f
  by_cases hf : f.position = flag.position
  · simp [hf, h]
  · simp [hf]

end Query

namespace Setup

variable {s : Setup} {q : Query Operand} {m m' : Modifiers} {projection : Option String}

/-! ## The parts of a select -/

/-- What stands in front of the place of the word for a limit, flags at the start apart. -/
def opening (q : Query Operand) : Option String → Rendering
  | some text => .text ("select " ++ text)
  | none => selectWord q ++ q.flagText .afterSelect

/-- The projection, unless a text was given in its place. -/
def shown (s : Setup) (q : Query Operand) : Option String → Rendering
  | some _ => .empty
  | none => s.projected q

/-- A select up to the place of the word for a limit. -/
def front (q : Query Operand) (projection : Option String) : Rendering :=
  (q.flagText .start).within ({ · with wrapElements := false }) ++
    (opening q projection).within fun _ ↦ ⟨true, false⟩

/-- A select from that place to the end of the projection. -/
def back (s : Setup) (q : Query Operand) (projection : Option String) : Rendering :=
  (s.shown q projection ++ q.flagText .afterProjection).within fun _ ↦ ⟨true, false⟩

def behind (s : Setup) (q : Query Operand) : Rendering :=
  (s.clauses q false ++ s.ordering q ++ q.flagText .finish).within fun _ ↦ ⟨false, false⟩

theorem select_eq (hsql : s.profile.family = .sql) (q : Query Operand)
    (projection : Option String) :
    s.select q false projection = front q projection ++ (s.back q projection ++ s.behind q) := by
  have hfamily : (s.profile.family == .jpql && q.joins.isEmpty) = false := by
    rw [hsql]
    rfl
  have hhead : s.head q false projection ++ q.flagText .afterProjection =
      opening q projection ++ (s.shown q projection ++ q.flagText .afterProjection) := by
    rw [← Rendering.append_assoc]
    cases projection with
    | some text => rw [opening, shown, Rendering.append_empty]; rfl
    | none => rfl
  unfold select
  rw [hfamily, if_neg Bool.false_ne_true, if_neg Bool.false_ne_true, hhead, front, back, behind]
  simp only [Rendering.within_append, Rendering.append_assoc]

theorem exists_behind_eq (s : Setup) (hjoins : q.joins ≠ []) :
    ∃ rest, s.behind q = .text "\nfrom " ++ rest := by
  have hempty : q.joins.isEmpty = false := by simpa using hjoins
  obtain ⟨rest, hrest⟩ : ∃ rest, s.clauses q false = .text "\nfrom " ++ rest := by
    unfold clauses
    rw [hempty, Rendering.concat, if_neg Bool.false_ne_true, clause, Rendering.append_assoc]
    exact ⟨_, rfl⟩
  unfold behind
  rw [hrest, Rendering.append_assoc, Rendering.append_assoc]
  exact ⟨_, rfl⟩

variable {q' : Query Operand}

theorem flagText_congr {position : Position} (h : q.flagsAt position = q'.flagsAt position) :
    q.flagText position = q'.flagText position := by
  rw [Query.flagText, h, Query.flagText]

theorem front_congr (hdistinct : q.distinct = q'.distinct)
    (hflags : ∀ position, position ∈ [Position.start, .startOverride, .afterSelect] →
      q.flagsAt position = q'.flagsAt position) (projection : Option String) :
    front q projection = front q' projection := by
  have hoverride := hflags .startOverride (by simp)
  have hopening : opening q projection = opening q' projection := by
    cases projection with
    | some text => rfl
    | none =>
        rw [opening, opening, selectWord, selectWord,
          flagText_congr (hflags .afterSelect (by simp)), flagText_congr hoverride, hoverride,
          hdistinct]
  rw [front, front, flagText_congr (hflags .start (by simp)), hopening]

theorem back_congr (hprojection : q.projection = q'.projection) (hjoins : q.joins = q'.joins)
    (hflags : q.flagsAt .afterProjection = q'.flagsAt .afterProjection)
    (projection : Option String) : s.back q projection = s.back q' projection := by
  have hshown : s.shown q projection = s.shown q' projection := by
    cases projection with
    | some text => rfl
    | none =>
        rw [shown, shown, projected, projected, hprojection, hjoins]
  rw [back, back, hshown, flagText_congr hflags]

theorem flagText_snoc_of_ne {flag : Flag Operand} {position : Position}
    (h : flag.position ≠ position) :
    Query.flagText { q with flags := q.flags ++ [flag] } position = q.flagText position := by
  refine flagText_congr ?_
  simp [Query.flagsAt, h]

theorem flagText_snoc (q : Query Operand) (flag : Flag Operand) :
    Query.flagText { q with flags := q.flags ++ [flag] } flag.position =
      q.flagText flag.position ++ (flag.render ++ .empty) := by
  have hflags : Query.flagsAt { q with flags := q.flags ++ [flag] } flag.position =
      q.flagsAt flag.position ++ [flag] := by
    simp [Query.flagsAt]
  rw [Query.flagText, hflags, List.map_append, Rendering.concat_append]
  rfl

/-! ## The forms of a query -/

def topWord (s : Setup) (n : UInt64) : Operand := s.template .i64 .top [s.count n]

def topFlag (s : Setup) (n : UInt64) : Flag Operand := ⟨.afterSelect, .expr (s.topWord n)⟩

def innerQuery : String := "with inner_query as \n(\n  "

/-- A query without limits and without the flags at its end. -/
def core (q : Query Operand) : Query Operand := { q.removeFlagsAt .finish with modifiers := {} }

theorem flagsAt_core {position : Position} (h : position ≠ .finish) :
    (core q).flagsAt position = q.flagsAt position := flagsAt_removeFlagsAt h

theorem front_core (q : Query Operand) (projection : Option String) :
    front (core q) projection = front q projection := by
  refine front_congr ?_ ?_ projection
  · rfl
  · intro position h
    refine flagsAt_core ?_
    rintro rfl
    simp at h

theorem back_core (q : Query Operand) (projection : Option String) :
    s.back (core q) projection = s.back q projection := by
  refine back_congr ?_ ?_ ?_ projection
  · rfl
  · rfl
  · exact flagsAt_core (by decide)

theorem hasFlag_core (q : Query Operand) (n : UInt64) :
    (core q).hasFlag (s.topFlag n) = q.hasFlag (s.topFlag n) := by
  refine Query.hasFlag_removeFlagsAt ?_
  simp [topFlag]

/-- Setups that write limits behind `select` and number rows for an offset. -/
structure NumbersRows (s : Setup) : Prop where
  family : s.profile.family = .sql
  pagination : s.profile.pagination = .topRowNumber .top .windows

theorem query_of_not_isRestricting (hm : m.isRestricting = false) (q : Query Operand)
    (projection : Option String) :
    s.query { q with modifiers := m } false projection =
      s.select { q with modifiers := m } false projection := by
  unfold query
  split
  · rw [hm, Bool.and_false, if_neg Bool.false_ne_true]
  · rfl

theorem query_of_isRestricting (hs : s.NumbersRows) (hjoins : q.joins ≠ [])
    (hm : m.isRestricting = true) (projection : Option String) :
    s.query { q with modifiers := m } false projection =
      s.rowNumbered .top .windows { q with modifiers := m } projection := by
  have hempty : q.joins.isEmpty = false := by simpa using hjoins
  simp [query, hs.pagination, hempty, hm]

/-- Whether modifiers add nothing to a query: there is no offset, and the word for a limit is there
already or stands in a part that a text was given in place of. -/
def AddsNothing (s : Setup) (q : Query Operand) (projection : Option String) (m : Modifiers) :
    Prop :=
  m.offset = none ∧
    ∀ n, m.limit = some n → projection.isSome = true ∨ q.hasFlag (s.topFlag n) = true

theorem query_limited (hs : s.NumbersRows) (hjoins : q.joins ≠ []) (n : UInt64)
    (projection : Option String) :
    s.query { q with modifiers := { limit := some n } } false projection =
      s.select ((core q).addFlag (s.topFlag n)) false projection ++ q.flagText .finish :=
  query_of_isRestricting hs hjoins rfl projection

theorem exists_select_addFlag (hs : s.NumbersRows) (hjoins : q.joins ≠ []) {n : UInt64}
    (h : projection.isSome = true ∨ q.hasFlag (s.topFlag n) = true) :
    ∃ rest, s.select (q.addFlag (s.topFlag n)) false projection =
      front q projection ++ (s.back q projection ++ (.text "\nfrom " ++ rest)) := by
  by_cases hflag : q.hasFlag (s.topFlag n) = true
  · obtain ⟨rest, hrest⟩ := exists_behind_eq s hjoins
    refine ⟨rest, ?_⟩
    rw [Query.addFlag_of_hasFlag hflag, select_eq hs.family, hrest]
  · -- the flag stands where the given text stands
    obtain ⟨text, rfl⟩ := Option.isSome_iff_exists.mp (h.resolve_right hflag)
    rw [Query.addFlag_of_not_hasFlag (by simpa using hflag)]
    set q' : Query Operand := { q with flags := q.flags ++ [s.topFlag n] } with hq'
    obtain ⟨rest, hrest⟩ := exists_behind_eq s (q := q') hjoins
    have hstart : q'.flagText .start = q.flagText .start := flagText_snoc_of_ne (by simp [topFlag])
    have hafter : q'.flagText .afterProjection = q.flagText .afterProjection :=
      flagText_snoc_of_ne (by simp [topFlag])
    refine ⟨rest, ?_⟩
    rw [select_eq hs.family, hrest, front, back, hstart, hafter]
    rfl

theorem query_of_addsNothing (hs : s.NumbersRows) (hjoins : q.joins ≠ [])
    (h : s.AddsNothing q projection m) :
    ∃ rest, s.query { q with modifiers := m } false projection =
      front q projection ++ s.back q projection ++ (.text "\nfrom " ++ rest) := by
  obtain ⟨limit, offset⟩ := m
  obtain ⟨rfl, hlimit⟩ := h
  cases limit with
  | none =>
      obtain ⟨rest, hrest⟩ := exists_behind_eq s (q := { q with modifiers := {} }) hjoins
      refine ⟨rest, ?_⟩
      rw [query_of_not_isRestricting rfl, select_eq hs.family, hrest, Rendering.append_assoc]
      rfl
  | some n =>
      obtain ⟨rest, hrest⟩ := exists_select_addFlag hs (q := core q) hjoins
        (by rw [hasFlag_core]; exact hlimit n rfl)
      refine ⟨rest ++ q.flagText .finish, ?_⟩
      rw [query_limited hs hjoins, hrest, front_core, back_core]
      simp only [Rendering.append_assoc]

theorem behind_topFlag (q : Query Operand) (n : UInt64) :
    s.behind { q with flags := q.flags ++ [s.topFlag n] } = s.behind q := by
  have hflags : ∀ position, position ≠ .afterSelect →
      Query.flagText { q with flags := q.flags ++ [s.topFlag n] } position = q.flagText position :=
    fun position h ↦ flagText_snoc_of_ne h.symm
  simp only [behind, clauses, ordering, hflags, ne_eq, reduceCtorEq, not_false_eq_true]

theorem front_topFlag (q : Query Operand) (n : UInt64) :
    front { q with flags := q.flags ++ [s.topFlag n] } none =
      front q none ++ (s.topWord n).render.within fun _ ↦ ⟨true, false⟩ := by
  set q' : Query Operand := { q with flags := q.flags ++ [s.topFlag n] } with hq'
  have hstart : q'.flagText .start = q.flagText .start := flagText_snoc_of_ne (by simp [topFlag])
  have hflags : q'.flagsAt .startOverride = q.flagsAt .startOverride := by
    simp [hq', Query.flagsAt, topFlag]
  have hword : selectWord q' = selectWord q := by
    rw [selectWord, selectWord, flagText_congr hflags, hflags]
  have hafter : q'.flagText .afterSelect =
      q.flagText .afterSelect ++ ((s.topWord n).render ++ .empty) := flagText_snoc q (s.topFlag n)
  rw [front, front, opening, opening, hstart, hword, hafter]
  simp only [Rendering.within_append, Rendering.append_assoc, Rendering.append_empty]

/-- A limit alone that is written stands between the front and the rest of a select. -/
theorem query_of_top (hs : s.NumbersRows) (hjoins : q.joins ≠ []) {n : UInt64}
    (h : q.hasFlag (s.topFlag n) = false) :
    s.query { q with modifiers := { limit := some n } } false none =
      front q none ++ ((s.topWord n).render.within (fun _ ↦ ⟨true, false⟩) ++ s.back q none) ++
        (s.behind (core q) ++ q.flagText .finish) := by
  have hback : s.back { core q with flags := (core q).flags ++ [s.topFlag n] } none =
      s.back (core q) none := by
    refine back_congr ?_ ?_ ?_ none
    · rfl
    · rfl
    · simp [Query.flagsAt, topFlag]
  rw [query_limited hs hjoins, Query.addFlag_of_not_hasFlag (by rw [hasFlag_core, h]),
    select_eq hs.family, front_topFlag, hback, behind_topFlag, front_core, back_core]
  simp only [Rendering.append_assoc]

/-! ## Windows -/

def windowChunks (offset : UInt64) : Option UInt64 → List Chunk
  | none => [.text "row_number > ", boundCount offset]
  | some limit =>
      [.text "row_number > ", boundCount offset, .text " and row_number <= ",
        boundCount (cappedSum offset limit)]

def window (offset : UInt64) (limit : Option UInt64) : Rendering := fun _ ↦
  .ok (windowChunks offset limit)

def numbered (s : Setup) (q : Query Operand) : Query Operand :=
  { (core q).addFlag ⟨.afterProjection, .expr (s.rowNumberColumn q.orderBy)⟩ with orderBy := [] }

theorem query_of_offset (hs : s.NumbersRows) (hjoins : q.joins ≠ []) (offset : UInt64)
    (limit : Option UInt64) (projection : Option String) :
    s.query { q with modifiers := ⟨limit, some offset⟩ } false projection =
      .text innerQuery ++ (s.select (s.numbered q) false projection ++
        (.text "\n)\nselect * \nfrom inner_query\nwhere " ++
          (window offset limit ++ q.flagText .finish))) := by
  have hopen : s.apply LimitForms.windows.offset (-1) [s.count offset] = window offset none := by
    have happly : s.apply LimitForms.windows.offset (-1) [s.count offset] =
        .text "row_number > " ++ ((s.count offset).render ++ .empty) := rfl
    rw [happly, render_count]
    rfl
  have hclosed : ∀ n, s.apply LimitForms.windows.both (-1)
      [s.count offset, s.count (cappedSum offset n)] = window offset (some n) := by
    intro n
    have happly : s.apply LimitForms.windows.both (-1)
        [s.count offset, s.count (cappedSum offset n)] =
          .text "row_number > " ++ ((s.count offset).render ++ (.text " and row_number <= " ++
            ((s.count (cappedSum offset n)).render ++ .empty))) := rfl
    rw [happly, render_count, render_count]
    rfl
  rw [query_of_isRestricting hs hjoins (by simp [Modifiers.isRestricting])]
  cases limit with
  | none =>
      rw [← hopen]
      simp only [← Rendering.append_assoc]
      rfl
  | some n =>
      rw [← hclosed]
      simp only [← Rendering.append_assoc]
      rfl

theorem exists_select_numbered (hs : s.NumbersRows) (q : Query Operand)
    (projection : Option String) :
    ∃ rest, s.select (s.numbered q) false projection =
      front q projection ++ (s.back q projection ++ rest) := by
  set column : Flag Operand := ⟨.afterProjection, .expr (s.rowNumberColumn q.orderBy)⟩ with hcolumn
  have hfront : front (s.numbered q) projection = front (core q) projection := by
    refine front_congr ?_ ?_ projection
    · unfold numbered Query.addFlag
      split <;> rfl
    · intro position hposition
      refine flagsAt_addFlag .afterProjection ?_ _
      rintro rfl
      simp at hposition
  have hback : ∃ more, s.back (s.numbered q) projection = s.back (core q) projection ++ more := by
    by_cases hflag : (core q).hasFlag column = true
    · refine ⟨.empty, ?_⟩
      rw [numbered, Query.addFlag_of_hasFlag hflag, Rendering.append_empty]
      rfl
    · have hshown : s.shown (s.numbered q) projection = s.shown (core q) projection := by
        rw [numbered, Query.addFlag_of_not_hasFlag (by simpa using hflag)]
        cases projection <;> rfl
      have hafter : (s.numbered q).flagText .afterProjection =
          (core q).flagText .afterProjection ++ (column.render ++ .empty) := by
        rw [numbered, Query.addFlag_of_not_hasFlag (by simpa using hflag)]
        exact flagText_snoc (core q) column
      rw [back, back, hshown, hafter, ← Rendering.append_assoc, Rendering.within_append]
      exact ⟨_, rfl⟩
  obtain ⟨more, hmore⟩ := hback
  rw [select_eq hs.family, hfront, hmore, front_core, back_core, Rendering.append_assoc]
  exact ⟨_, rfl⟩

end Setup

end TypedQuery
