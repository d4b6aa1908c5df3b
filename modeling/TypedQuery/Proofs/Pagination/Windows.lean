import TypedQuery.Proofs.Pagination.Queries

/-!
# The rows that limits select

Counts are cut off at the largest number of eight bytes with a sign, and the end of a window before
that at the largest one without. No row that has a number of eight bytes is lost or gained by that:
what is written selects it just when the limit and the offset do.
-/

namespace TypedQuery

/-- Whether limits select the row at a position; the first row is at 1. -/
def Modifiers.selects (m : Modifiers) (row : Nat) : Prop :=
  let start := (m.offset.map UInt64.toNat).getD 0
  start < row ∧ ∀ n ∈ m.limit, row ≤ start + n.toNat

/-- What is written to select rows: clauses with bound or with written numbers, a number of rows
behind the word `select`, or bounds of row numbers. -/
inductive Window
  | clauses (limit offset : Option Int64)
  | fetched (limit offset : Option Int64)
  | top (limit : Int64)
  | numbered (above : Int64) (upTo : Option Int64)

namespace Window

/-- The numbers in the order in which they are written. -/
def numbers : Window → List Int64
  | clauses limit offset => limit.toList ++ offset.toList
  | fetched limit offset => offset.toList ++ limit.toList
  | top limit => [limit]
  | numbered above upTo => above :: upTo.toList

/-- Whether the row at a position is selected. -/
def selects : Window → Nat → Prop
  | clauses limit offset, row | fetched limit offset, row =>
      let start := (offset.map Int64.toInt).getD 0
      start < row ∧ ∀ n ∈ limit, (row : Int) ≤ start + n.toInt
  | top limit, row => (row : Int) ≤ limit.toInt
  | numbered above upTo, row => above.toInt < row ∧ ∀ n ∈ upTo, (row : Int) ≤ n.toInt

def bound (n : Int64) : Chunk := .placeholder .i64 (.value (.i64 n))

def written (n : Int64) : Chunk := .text (Value.i64 n).text

def chunks : Window → List Chunk
  | clauses none none | fetched none none => []
  | clauses (some limit) none => [.text "\nlimit ", bound limit]
  | clauses none (some offset) => [.text "\noffset ", bound offset]
  | clauses (some limit) (some offset) =>
      [.text "\nlimit ", bound limit, .text "\noffset ", bound offset]
  | fetched (some limit) none => [.text "\nfetch first ", written limit, .text " rows only"]
  | fetched none (some offset) => [.text "\noffset ", written offset, .text " rows"]
  | fetched (some limit) (some offset) =>
      [.text "\noffset ", written offset, .text " rows fetch next ", written limit,
        .text " rows only"]
  | top limit => [.text "top (", bound limit, .text ") "]
  | numbered above none => [.text "row_number > ", bound above]
  | numbered above (some upTo) =>
      [.text "row_number > ", bound above, .text " and row_number <= ", bound upTo]

def rendering (w : Window) : Rendering := fun _ ↦ .ok w.chunks

end Window

/-! ## Numbers that are cut off -/

theorem toInt_counted_eq_min (n : UInt64) : (counted n).toInt = min n.toNat (2 ^ 63 - 1) := by
  have hlt : min n.toNat (UInt64.size / 2 - 1) < 2 ^ 63 := by
    simp only [UInt64.size]
    omega
  rw [counted, Int64.toInt_ofNat_of_lt hlt]
  rfl

theorem toNat_cappedSum (a b : UInt64) :
    (Setup.cappedSum a b).toNat = min (a.toNat + b.toNat) (2 ^ 64 - 1) := by
  have hlt : min (a.toNat + b.toNat) (UInt64.size - 1) < UInt64.size := by
    simp only [UInt64.size]
    omega
  rw [Setup.cappedSum, UInt64.toNat_ofNat_of_lt' hlt]
  rfl

namespace Window

variable {m : Modifiers} {row : Nat}

def ofClauses (m : Modifiers) : Window := clauses (m.limit.map counted) (m.offset.map counted)

def ofFetched (m : Modifiers) : Window := fetched (m.limit.map counted) (m.offset.map counted)

def ofNumbered (offset : UInt64) (limit : Option UInt64) : Window :=
  numbered (counted offset) (limit.map fun n ↦ counted (Setup.cappedSum offset n))

/-- A window with numbers from zero on that selects the rows that limits select. -/
structure IsExact (w : Window) (m : Modifiers) : Prop where
  nonneg : ∀ n ∈ w.numbers, 0 ≤ n.toInt
  selects_iff : ∀ row, 1 ≤ row → row < 2 ^ 63 → (w.selects row ↔ m.selects row)

theorem counted_nonneg (n : UInt64) : 0 ≤ (counted n).toInt := by
  rw [toInt_counted_eq_min]
  omega

theorem selects_clauses_iff (hrow : row < 2 ^ 63) : (ofClauses m).selects row ↔ m.selects row := by
  obtain ⟨limit, offset⟩ := m
  cases limit <;> cases offset <;>
    simp [ofClauses, selects, Modifiers.selects, toInt_counted_eq_min] <;> omega

theorem chunks_ofClauses (m : Modifiers) : (ofClauses m).chunks = Setup.clauseChunks m := by
  obtain ⟨limit, offset⟩ := m
  cases limit <;> cases offset <;> rfl

theorem chunks_ofFetched (m : Modifiers) : (ofFetched m).chunks = Setup.fetchChunks m := by
  obtain ⟨limit, offset⟩ := m
  cases limit <;> cases offset <;> rfl

theorem isExact_ofClauses (m : Modifiers) : (ofClauses m).IsExact m where
  nonneg n hn := by
    simp only [ofClauses, numbers, List.mem_append, Option.mem_toList, Option.map_eq_some_iff] at hn
    obtain ⟨k, _, rfl⟩ | ⟨k, _, rfl⟩ := hn <;> exact counted_nonneg k
  selects_iff _ _ hrow := selects_clauses_iff hrow

theorem isExact_ofFetched (m : Modifiers) : (ofFetched m).IsExact m where
  nonneg n hn := by
    simp only [ofFetched, numbers, List.mem_append, Option.mem_toList, Option.map_eq_some_iff] at hn
    obtain ⟨k, _, rfl⟩ | ⟨k, _, rfl⟩ := hn <;> exact counted_nonneg k
  selects_iff _ _ hrow := selects_clauses_iff hrow

theorem isExact_top (n : UInt64) : (top (counted n)).IsExact { limit := some n } where
  nonneg k hk := by
    obtain rfl := List.mem_singleton.mp hk
    exact counted_nonneg n
  selects_iff row hpos hrow := by
    simp [selects, Modifiers.selects, toInt_counted_eq_min]
    omega

theorem isExact_ofNumbered (offset : UInt64) (limit : Option UInt64) :
    (ofNumbered offset limit).IsExact ⟨limit, some offset⟩ where
  nonneg n hn := by
    simp only [ofNumbered, numbers, List.mem_cons, Option.mem_toList, Option.map_eq_some_iff] at hn
    obtain rfl | ⟨k, _, rfl⟩ := hn <;> exact counted_nonneg _
  selects_iff row _ hrow := by
    cases limit <;>
      simp [ofNumbered, selects, Modifiers.selects, toInt_counted_eq_min, toNat_cappedSum] <;> omega

end Window

/-! ## Where windows are written -/

namespace Setup

variable {s : Setup} {q : Query Operand} {m : Modifiers} {projection : Option String}

/-- A query up to the place of clauses for its limits. -/
def upToLimits (s : Setup) (q : Query Operand) (projection : Option String) : Rendering :=
  front q projection ++ (s.back q projection ++
    (s.clauses q false ++ (q.flagText .beforeOrder ++
      (listClause "\norder by " ", " (q.orderBy.map s.orderKey) ++ q.flagText .afterOrder))).within
        fun _ ↦ ⟨false, false⟩)

/-- A query without limits and flags at its end, with the word for a limit. -/
def withTop (s : Setup) (q : Query Operand) (n : UInt64) : Query Operand :=
  (core q).addFlag (s.topFlag n)

/-- Places of windows: what stands in front of a window and behind it in a query. -/
inductive Places (s : Setup) (q : Query Operand) :
    Option String → Window → Rendering → Rendering → Prop
  | clauses (projection : Option String) (limit offset : Option Int64) :
      Places s q projection (.clauses limit offset) (s.upToLimits q projection)
        ((q.flagText .finish).within fun _ ↦ ⟨false, false⟩)
  | fetched (projection : Option String) (limit offset : Option Int64) :
      Places s q projection (.fetched limit offset) (s.upToLimits q projection)
        ((q.flagText .finish).within fun _ ↦ ⟨false, false⟩)
  | top (n : UInt64) (fs gs : List (Flag Operand))
      (hflags : (s.withTop q n).flagsAt .afterSelect = fs ++ s.topFlag n :: gs) :
      Places s q none (.top (counted n))
        ((q.flagText .start).within ({ · with wrapElements := false }) ++
          (selectWord q ++ .concat (fs.map Flag.render)).within fun _ ↦ ⟨true, false⟩)
        (((Rendering.concat (gs.map Flag.render)).within fun _ ↦ ⟨true, false⟩) ++
          (s.back q none ++ (s.behind (core q) ++ q.flagText .finish)))
  | numbered (projection : Option String) (above : Int64) (upTo : Option Int64) :
      Places s q projection (.numbered above upTo)
        (.text innerQuery ++ (s.select (s.numbered q) false projection ++
          .text "\n)\nselect * \nfrom inner_query\nwhere "))
        (q.flagText .finish)

/-- A rendering in which an exact window for limits stands at its place. -/
def WritesWindow (s : Setup) (q : Query Operand) (projection : Option String) (m : Modifiers)
    (r : Rendering) : Prop :=
  ∃ w before behind, s.Places q projection w before behind ∧ w.IsExact m ∧
    r = before ++ (w.rendering ++ behind)

theorem select_eq_limits (hsql : s.profile.family = .sql) (q : Query Operand) (m : Modifiers)
    (projection : Option String) :
    s.select { q with modifiers := m } false projection =
      s.upToLimits q projection ++ ((s.limits m).within (fun _ ↦ ⟨false, false⟩) ++
        (q.flagText .finish).within fun _ ↦ ⟨false, false⟩) := by
  have hordering : s.ordering { q with modifiers := m } = q.flagText .beforeOrder ++
      (listClause "\norder by " ", " (q.orderBy.map s.orderKey) ++ (q.flagText .afterOrder ++
        (s.limits m ++ .empty))) := rfl
  have hbehind : s.behind { q with modifiers := m } =
      (s.clauses q false ++ s.ordering { q with modifiers := m } ++ q.flagText .finish).within
        fun _ ↦ ⟨false, false⟩ := rfl
  have hparts : s.select { q with modifiers := m } false projection = front q projection ++
      (s.back q projection ++ s.behind { q with modifiers := m }) := select_eq hsql _ projection
  rw [hparts, hbehind, hordering, upToLimits]
  simp only [Rendering.within_append, Rendering.append_assoc, Rendering.append_empty]

theorem writesWindow_select (hsql : s.profile.family = .sql) {w : Window}
    (hplace : s.Places q projection w (s.upToLimits q projection)
      ((q.flagText .finish).within fun _ ↦ ⟨false, false⟩))
    (hexact : w.IsExact m) (hlimits : ∀ scope, s.limits m scope = .ok w.chunks) :
    s.WritesWindow q projection m (s.select { q with modifiers := m } false projection) := by
  refine ⟨w, _, _, hplace, hexact, ?_⟩
  have hwindow : (s.limits m).within (fun _ ↦ ⟨false, false⟩) = w.rendering :=
    funext fun _ ↦ hlimits _
  rw [select_eq_limits hsql, hwindow]

theorem writesWindow_numbered (hs : s.NumbersRows) (hjoins : q.joins ≠ []) (offset : UInt64)
    (limit : Option UInt64) : s.WritesWindow q projection ⟨limit, some offset⟩
      (s.query { q with modifiers := ⟨limit, some offset⟩ } false projection) := by
  refine ⟨.ofNumbered offset limit, _, _, .numbered projection _ _,
    Window.isExact_ofNumbered offset limit, ?_⟩
  have hwindow : window offset limit = (Window.ofNumbered offset limit).rendering := by
    cases limit <;> rfl
  rw [query_of_offset hs hjoins, hwindow]
  simp only [Rendering.append_assoc]

/-! ### A limit behind the word `select` -/

theorem flagsAt_withTop (position : Position) (h : position ≠ .afterSelect)
    (hfinish : position ≠ .finish) (q : Query Operand) (n : UInt64) :
    (s.withTop q n).flagsAt position = q.flagsAt position := by
  rw [withTop, topFlag, flagsAt_addFlag .afterSelect h.symm, flagsAt_core hfinish]

theorem withTop_cases (s : Setup) (q : Query Operand) (n : UInt64) :
    s.withTop q n = core q ∨
      s.withTop q n = { core q with flags := (core q).flags ++ [s.topFlag n] } := by
  cases h : (core q).hasFlag (s.topFlag n) with
  | true => exact .inl (Query.addFlag_of_hasFlag h)
  | false => exact .inr (Query.addFlag_of_not_hasFlag h)

theorem behind_withTop (q : Query Operand) (n : UInt64) :
    s.behind (s.withTop q n) = s.behind (core q) := by
  obtain h | h := withTop_cases s q n
  · rw [h]
  · rw [h, behind_topFlag]

theorem back_withTop (q : Query Operand) (n : UInt64) (projection : Option String) :
    s.back (s.withTop q n) projection = s.back q projection := by
  refine back_congr ?_ ?_ (flagsAt_withTop .afterProjection (by decide) (by decide) q n) projection
  all_goals
    obtain h | h := withTop_cases s q n <;> rw [h] <;> rfl

theorem selectWord_withTop (q : Query Operand) (n : UInt64) :
    selectWord (s.withTop q n) = selectWord q := by
  have hflags := flagsAt_withTop (s := s) .startOverride (by decide) (by decide) q n
  have hdistinct : (s.withTop q n).distinct = q.distinct := by
    obtain h | h := withTop_cases s q n <;> rw [h] <;> rfl
  rw [selectWord, selectWord, flagText_congr hflags, hflags, hdistinct]

theorem writesWindow_top (hs : s.NumbersRows) (hjoins : q.joins ≠ []) (n : UInt64)
    (hmem : s.topFlag n ∈ (s.withTop q n).flags) :
    s.WritesWindow q none { limit := some n }
      (s.query { q with modifiers := { limit := some n } } false none) := by
  obtain ⟨fs, gs, hflags⟩ : ∃ fs gs,
      (s.withTop q n).flagsAt .afterSelect = fs ++ s.topFlag n :: gs :=
    List.append_of_mem (List.mem_filter.mpr ⟨hmem, rfl⟩)
  have hword : (s.topFlag n).render.within (fun _ ↦ ⟨true, false⟩) =
      (Window.top (counted n)).rendering := funext fun _ ↦ render_topWord s n _
  have hafter : (s.withTop q n).flagText .afterSelect = .concat (fs.map Flag.render) ++
      ((s.topFlag n).render ++ .concat (gs.map Flag.render)) := by
    rw [Query.flagText, hflags, List.map_append, Rendering.concat_append]
    rfl
  have hstart := flagText_congr (flagsAt_withTop (s := s) .start (by decide)
    (by decide) q n)
  refine ⟨_, _, _, .top n fs gs hflags, Window.isExact_top n, ?_⟩
  rw [query_limited hs hjoins, ← withTop, select_eq hs.family, behind_withTop, back_withTop, front,
    opening, hstart, selectWord_withTop, hafter, ← hword]
  simp only [Rendering.within_append, Rendering.append_assoc]

theorem eq_of_eqv_i64 {c : Constant} {k : Int64} (h : c.eqv ⟨.i64, .i64 k⟩ = true) :
    c = ⟨.i64, .i64 k⟩ := by
  obtain ⟨type, value⟩ := c
  simp only [Constant.eqv, Bool.and_eq_true, beq_iff_eq] at h
  obtain ⟨rfl, hvalue⟩ := h
  change Value.eqvBy _ value (.i64 k) = true at hvalue
  cases value <;> simp_all [Value.eqvBy]

/-- An expression that equals the word for a limit is this word. -/
theorem eq_topWord_of_beq {e : Expr} {k : Int64}
    (h : (e == .template .i64 .top [.ofValue (.i64 k)]) = true) :
    e = .template .i64 .top [.ofValue (.i64 k)] := by
  change Expr.eqv e (.template .i64 .top [.constant ⟨.i64, .i64 k⟩]) = true at h
  cases e with
  | template type t args =>
      simp only [Expr.eqv, Bool.and_eq_true, beq_iff_eq] at h
      obtain ⟨⟨rfl, rfl⟩, hargs⟩ := h
      obtain _ | ⟨x, _ | ⟨y, ys⟩⟩ := args
      · cases hargs
      · cases x with
        | constant c =>
            have hc : c.eqv ⟨.i64, .i64 k⟩ = true := by simpa [eqvArgs, Expr.eqv] using hargs
            rw [eq_of_eqv_i64 hc]
            rfl
        | _ => simp [eqvArgs, Expr.eqv] at hargs
      · simp [eqvArgs] at hargs
  | _ => simp [Expr.eqv] at h

theorem mem_flagOperands {flags : List (Flag Expr)} {position : Position} {e : Expr}
    (h : ⟨position, .expr e⟩ ∈ flags) : ⟨position, .expr (s.operand e)⟩ ∈ s.flagOperands flags := by
  induction flags with
  | nil => cases h
  | cons flag flags ih =>
      obtain ⟨position', content⟩ := flag
      cases content with
      | text t => exact List.mem_cons_of_mem _ (ih (by simpa using h))
      | expr e' =>
          obtain heq | hmem := List.mem_cons.mp h
          · cases heq
            exact List.mem_cons_self
          · exact List.mem_cons_of_mem _ (ih hmem)

theorem topFlag_mem_withTop (q : Query Expr) (n : UInt64) :
    s.topFlag n ∈ (s.withTop (s.queryOperands q) n).flags := by
  cases hflag : (s.queryOperands q).hasFlag (s.topFlag n) with
  | false =>
      rw [withTop, Query.addFlag_of_not_hasFlag (by rw [hasFlag_core, hflag])]
      exact List.mem_append_right _ List.mem_cons_self
  | true =>
      rw [withTop, Query.addFlag_of_hasFlag (by rw [hasFlag_core, hflag])]
      rw [hasFlag_queryOperands] at hflag
      obtain ⟨⟨position, content⟩, hmem, heq⟩ := List.any_eq_true.mp hflag
      simp only [Bool.and_eq_true, beq_iff_eq] at heq
      obtain ⟨rfl, hcontent⟩ := heq
      cases content with
      | text t => cases hcontent
      | expr e =>
          obtain rfl := eq_topWord_of_beq hcontent
          have hflags : s.topFlag n ∈ (s.queryOperands q).flags := by
            cases q
            exact mem_flagOperands hmem
          exact List.mem_filter.mpr ⟨hflags, rfl⟩

/-! ### Limits that are not written -/

theorem limits_eq_empty (hs : s.NumbersRows) (m : Modifiers) : s.limits m = .empty := by
  rw [limits, hs.pagination]

theorem select_of_numbersRows (hs : s.NumbersRows) (q : Query Operand) (m : Modifiers)
    (projection : Option String) :
    s.select { q with modifiers := m } false projection =
      s.upToLimits q projection ++ (q.flagText .finish).within fun _ ↦ ⟨false, false⟩ := by
  have hlimits : (s.limits m).within (fun _ ↦ ⟨false, false⟩) = .empty := by
    rw [limits_eq_empty hs]
    rfl
  rw [select_eq_limits hs.family, hlimits, Rendering.empty_append]

theorem query_of_joins_eq_nil (hs : s.NumbersRows) (hjoins : q.joins = []) (m : Modifiers)
    (projection : Option String) :
    s.query { q with modifiers := m } false projection =
      s.select { q with modifiers := m } false projection := by
  simp [query, hs.pagination, hjoins]

theorem upToLimits_core (s : Setup) (q : Query Operand) (projection : Option String) :
    s.upToLimits (core q) projection = s.upToLimits q projection := by
  have hflags : ∀ position, position ≠ .finish →
      (core q).flagText position = q.flagText position :=
    fun position h ↦ flagText_congr (flagsAt_core h)
  have hclauses : s.clauses (core q) false = s.clauses q false := by
    simp only [clauses, hflags, ne_eq, reduceCtorEq, not_false_eq_true]
    rfl
  rw [upToLimits, upToLimits, front_core, back_core, hclauses, hflags .beforeOrder (by decide),
    hflags .afterOrder (by decide)]
  rfl

theorem select_core (hs : s.NumbersRows) (q : Query Operand) (projection : Option String) :
    s.select (core q) false projection = s.upToLimits q projection := by
  have hfinish : (core q).flagsAt .finish = [] := by
    simp [core, Query.flagsAt, Query.removeFlagsAt]
  have hselect : s.select (core q) false projection = s.upToLimits (core q) projection ++
      ((core q).flagText .finish).within fun _ ↦ ⟨false, false⟩ :=
    select_of_numbersRows hs (core q) {} projection
  rw [hselect, upToLimits_core, Query.flagText, hfinish]
  exact Rendering.append_empty _

/-- Behind a text in place of the projection a limit alone leaves no trace. -/
theorem query_of_projection (hs : s.NumbersRows) (hjoins : q.joins ≠ []) (n : UInt64)
    (text : String) :
    s.query { q with modifiers := { limit := some n } } false (some text) =
      s.upToLimits q (some text) ++ q.flagText .finish := by
  have hfront : front (s.withTop q n) (some text) = front q (some text) := by
    have hstart := flagText_congr (flagsAt_withTop (s := s) .start (by decide)
      (by decide) q n)
    rw [front, front, hstart]
    rfl
  have hselect : s.select (s.withTop q n) false (some text) =
      s.select (core q) false (some text) := by
    rw [select_eq hs.family, select_eq hs.family, hfront, front_core, back_withTop, back_core,
      behind_withTop]
  rw [query_limited hs hjoins, ← withTop, hselect, select_core hs]

/-- Without a source, or with a text in place of the projection, a limit can be lost. -/
theorem query_eq_of_unwritten (hs : s.NumbersRows)
    (h : q.joins = [] ∨ (projection.isSome = true ∧ m.offset = none)) :
    s.query { q with modifiers := m } false projection {} =
      s.query { q with modifiers := {} } false projection {} := by
  have hplain : s.query { q with modifiers := {} } false projection =
      s.upToLimits q projection ++ (q.flagText .finish).within fun _ ↦ ⟨false, false⟩ := by
    rw [query_of_not_isRestricting rfl, select_of_numbersRows hs]
  by_cases hjoins : q.joins = []
  · rw [query_of_joins_eq_nil hs hjoins, select_of_numbersRows hs, hplain]
  · obtain ⟨limit, offset⟩ := m
    obtain ⟨hprojection, rfl⟩ := h.resolve_left hjoins
    obtain ⟨text, rfl⟩ := Option.isSome_iff_exists.mp hprojection
    cases limit with
    | none => rfl
    | some n =>
        -- the flags at the end stand outside of the select, in the scope of the whole
        rw [query_of_projection hs hjoins, hplain, Rendering.append_apply, Rendering.append_apply]
        rfl

theorem writesWindow_of_numbersRows (hs : s.NumbersRows) {q : Query Expr}
    (h : ¬ (m.isRestricting = true ∧
      (q.joins = [] ∨ (projection.isSome = true ∧ m.offset = none)))) :
    s.WritesWindow (s.queryOperands q) projection m
      (s.query { s.queryOperands q with modifiers := m } false projection) := by
  by_cases hm : m.isRestricting = true
  · obtain ⟨hjoins, halone⟩ := not_or.mp fun hor ↦ h ⟨hm, hor⟩
    have hjoins' := s.joins_queryOperands_ne_nil hjoins
    obtain ⟨limit, offset⟩ := m
    cases offset with
    | some offset => exact writesWindow_numbered hs hjoins' offset limit
    | none =>
        obtain rfl : projection = none := by simpa using halone
        cases limit with
        | none => cases hm
        | some n => exact writesWindow_top hs hjoins' n (topFlag_mem_withTop q n)
  · obtain ⟨hlimit, hoffset⟩ : m.limit = none ∧ m.offset = none := by
      simpa [Modifiers.isRestricting] using hm
    obtain rfl : m = {} := by
      obtain ⟨limit, offset⟩ := m
      obtain rfl : limit = none := hlimit
      obtain rfl : offset = none := hoffset
      rfl
    rw [query_of_not_isRestricting rfl]
    refine writesWindow_select hs.family (.clauses projection _ _) (Window.isExact_ofClauses {})
      fun scope ↦ ?_
    rw [limits_eq_empty hs]
    rfl

end Setup

namespace Serializer

variable {s : Serializer}

/-- Limits are written unless rows are numbered and there is no source, or a limit alone behind a
text in place of the projection. -/
theorem writesWindow_of_written (hknown : s.dialect.IsKnown) (hsql : s.dialect.family = .sql)
    {q : Query Expr} {m : Modifiers} {projection : Option String}
    (h : ¬ (s.dialect.numbersRows = true ∧ m.isRestricting = true ∧
      (q.joins = [] ∨ (projection.isSome = true ∧ m.offset = none)))) :
    s.setup.WritesWindow (s.setup.queryOperands q) projection m
      (s.setup.query (s.setup.queryOperands { q with modifiers := m }) false projection) := by
  rw [Setup.queryOperands_modifiers s.setup q m]
  cases hknown.paginates hsql with
  | clauses hforms =>
      rw [Setup.query_eq_select (s := s.setup) (by simp [setup, hforms])]
      refine Setup.writesWindow_select (w := .ofClauses m) hsql (.clauses projection _ _)
        (Window.isExact_ofClauses m) fun scope ↦ ?_
      rw [Setup.limits_clauses (s := s.setup) hforms, Window.chunks_ofClauses]
  | fetching hforms hstyle =>
      rw [Setup.query_eq_select (s := s.setup) (by simp [setup, hforms])]
      refine Setup.writesWindow_select (w := .ofFetched m) hsql (.fetched projection _ _)
        (Window.isExact_ofFetched m) fun scope ↦ ?_
      rw [Setup.limits_fetching (s := s.setup) hforms, Window.chunks_ofFetched]
  | numbering hforms hstyle =>
      have hnumbers : s.dialect.numbersRows = true := by rw [Dialect.numbersRows, hforms]
      exact Setup.writesWindow_of_numbersRows ⟨hsql, hforms⟩ fun hunwritten ↦
        h ⟨hnumbers, hunwritten⟩

/-- In the known SQL dialects, the limits of a query from some source with a projection of its own
are always written, and what is written selects the rows that they select. -/
theorem writesWindow_of_joins_ne_nil (hknown : s.dialect.IsKnown) (hsql : s.dialect.family = .sql)
    {q : Query Expr} (hjoins : q.joins ≠ []) (m : Modifiers) :
    s.setup.WritesWindow (s.setup.queryOperands q) none m
      (s.setup.query (s.setup.queryOperands { q with modifiers := m }) false none) := by
  refine writesWindow_of_written hknown hsql ?_
  rintro ⟨_, _, hnone | ⟨hprojection, _⟩⟩
  · exact hjoins hnone
  · cases hprojection

/-- In the known SQL dialects, what is written for a limit and an offset selects the rows that these
select. Where rows are numbered, a query without a source and a limit alone behind a text in place
of the projection write nothing. -/
theorem query_writesWindow (hknown : s.dialect.IsKnown) (hsql : s.dialect.family = .sql)
    (q : Query Expr) (m : Modifiers) (projection : Option String) :
    s.setup.WritesWindow (s.setup.queryOperands q) projection m
        (s.setup.query (s.setup.queryOperands { q with modifiers := m }) false projection) ∨
      s.dialect.numbersRows = true ∧ m.isRestricting = true ∧
        (q.joins = [] ∨ (projection.isSome = true ∧ m.offset = none)) ∧
        s.setup.query (s.setup.queryOperands { q with modifiers := m }) false projection {} =
          s.setup.query (s.setup.queryOperands { q with modifiers := {} }) false projection {} := by
  by_cases hunwritten : s.dialect.numbersRows = true ∧ m.isRestricting = true ∧
      (q.joins = [] ∨ (projection.isSome = true ∧ m.offset = none))
  · obtain ⟨hnumbers, hrestricting, hcase⟩ := hunwritten
    have hs : s.setup.NumbersRows := by
      cases hknown.paginates hsql with
      | numbering hforms => exact ⟨hsql, hforms⟩
      | clauses hforms | fetching hforms =>
          simp [Dialect.numbersRows, hforms] at hnumbers
    refine .inr ⟨hnumbers, hrestricting, hcase, ?_⟩
    rw [Setup.queryOperands_modifiers s.setup q m, Setup.queryOperands_modifiers s.setup q {}]
    refine Setup.query_eq_of_unwritten hs (hcase.imp_left fun hjoins ↦ ?_)
    rw [Setup.joins_queryOperands, hjoins]
    rfl
  · exact .inl (writesWindow_of_written hknown hsql hunwritten)

/-- A window of all cats whose end is beyond all numbers of eight bytes. -/
theorem exists_writesWindow_catRows : ∃ s : Serializer, s.dialect.IsKnown ∧
    s.dialect.family = .sql ∧
    s.setup.WritesWindow (s.setup.queryOperands (catRows [])) none ⟨some 0xffffffffffffffff, some 7⟩
      (s.setup.query (s.setup.queryOperands
        { catRows [] with modifiers := ⟨some 0xffffffffffffffff, some 7⟩ }) false none) := by
  obtain ⟨d, hknown, _, hn, _⟩ := Dialect.exists_sqlServer2005
  refine ⟨{ dialect := d }, hknown, hn.family, ?_⟩
  refine (query_writesWindow hknown hn.family (catRows []) _ none).resolve_right ?_
  rintro ⟨_, _, hjoins | ⟨hprojection, _⟩, _⟩
  · cases hjoins
  · cases hprojection

end Serializer

end TypedQuery
