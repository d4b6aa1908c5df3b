import TypedQuery.Proofs.Pagination.Queries
import TypedQuery.Proofs.Passages
import TypedQuery.Proofs.Projections.FactoryFree

/-!
# The order of numbered rows

Behind an offset the rows of a query are numbered in the order of the query. The order keys then
stand in a projection, and are written there by a template, but they are written with the words that
the query without limits has in its order clause.
-/

namespace TypedQuery

open Setup (cappedSum)

/-- The condition on the numbers of the rows behind an offset. -/
def Passage.window (offset : UInt64) : Option UInt64 → Passage
  | none => ⟨"row_number > ?", [.value (.i64 (counted offset))]⟩
  | some limit =>
      ⟨"row_number > ? and row_number <= ?",
        [.value (.i64 (counted offset)), .value (.i64 (counted (cappedSum offset limit)))]⟩

namespace Query

variable {ε δ : Type}

/-- Order keys behind a word, if a query has any. -/
def keyed (q : Query ε) (word : String) (keys : Passage) : Passage :=
  if q.orderBy.isEmpty then .ofText "" else .ofText word ++ keys

theorem keyed_map (f : ε → δ) (q : Query ε) : (q.map f).keyed = q.keyed := by
  funext word keys
  rw [keyed, keyed, map, List.isEmpty_map]

/-- A query without limits, without an order and without flags at its end, with further columns
behind its projection. -/
def unordered (q : Query ε) (columns : List (FlagContent ε)) : Query ε :=
  { q.removeFlagsAt .finish with
    modifiers := {}
    orderBy := []
    flags := (q.removeFlagsAt .finish).flags ++ columns.map (⟨.afterProjection, ·⟩) }

theorem unordered_map (f : ε → δ) (q : Query ε) (columns : List (FlagContent ε)) :
    (q.map f).unordered (columns.map (FlagContent.map f)) = (q.unordered columns).map f := by
  have hcolumns : Flag.map f ∘ (⟨.afterProjection, ·⟩) =
      (⟨.afterProjection, ·⟩) ∘ FlagContent.map f := rfl
  simp only [unordered, removeFlagsAt_map]
  simp only [map, List.map_append, List.map_map, hcolumns, List.map_nil]

theorem flagsAt_unordered (q : Query Operand) (columns : List (FlagContent Operand))
    {position : Position} (hcolumns : position ≠ .afterProjection) (hfinish : position ≠ .finish) :
    (q.unordered columns).flagsAt position = q.flagsAt position := by
  have hnone : (columns.map fun c ↦ (⟨.afterProjection, c⟩ : Flag Operand)).filter
      (·.position == position) = [] := by
    simp [List.filter_eq_nil_iff, hcolumns.symm]
  rw [flagsAt, unordered, List.filter_append, hnone, List.append_nil]
  exact Setup.flagsAt_removeFlagsAt hfinish

theorem flagsAt_finish_unordered (q : Query ε) (columns : List (FlagContent ε)) :
    (q.unordered columns).flagsAt .finish = [] := by
  simp [flagsAt, unordered, removeFlagsAt]

theorem flagsAt_afterProjection_unordered (q : Query ε) (columns : List (FlagContent ε)) :
    (q.unordered columns).flagsAt .afterProjection =
      q.flagsAt .afterProjection ++ columns.map (⟨.afterProjection, ·⟩) := by
  have hkept : ∀ flag : Flag ε, (flag.position == .afterProjection && flag.position != .finish) =
      (flag.position == .afterProjection) := fun flag ↦ by
    by_cases hflag : flag.position = .afterProjection <;> simp [hflag]
  have hall : (columns.map fun c ↦ (⟨.afterProjection, c⟩ : Flag ε)).filter
      (·.position == .afterProjection) = columns.map (⟨.afterProjection, ·⟩) := by
    simp [List.filter_eq_self]
  simp only [flagsAt, unordered, removeFlagsAt, List.filter_append, List.filter_filter, hkept, hall]

/-- A query is put together from the same passages with and without its offset. Without it the
order keys follow the clauses of the query. With it they number the rows, in a column behind the
projection of a query that is selected from; flags at the end stand at the end of the whole. -/
structure NumberedAs (write : Query ε → Except Error Passage) (q : Query ε) (offset : UInt64)
    (front behind keys : Passage) : Prop where
  unordered : ∀ columns : List String, write (q.unordered (columns.map .text)) =
    .ok (front ++ String.join columns ++ behind ++ q.textAt .afterOrder)
  ordered : write { q with modifiers := {} } =
    .ok (front ++ behind ++ q.keyed "\norder by " keys ++ q.textAt .afterOrder ++
      q.textAt .finish)
  numbered : write q =
    .ok ("with inner_query as \n(\n  " ++ (front ++ (", row_number() over (" ++
      q.keyed "order by " keys ++ ") as row_number") ++ behind ++ q.textAt .afterOrder) ++
        "\n)\nselect * \nfrom inner_query\nwhere " ++ Passage.window offset q.modifiers.limit ++
          q.textAt .finish)

end Query

namespace Setup

open Rendering (passage_append passage_append_congr passage_text passage_text_append)

variable {s : Setup} {q : Query Operand}

/-! ## Selects in parts -/

/-- The clauses between the projection and the order of a query. -/
def rowClauses (s : Setup) (q : Query Operand) : Rendering :=
  (s.clauses q false ++ q.flagText .beforeOrder).within fun _ ↦ ⟨false, false⟩

/-- The order keys of a query, as its order clause has them. -/
def keyList (s : Setup) (orderBy : List (OrderKey Operand)) : Rendering :=
  .separated ", " (orderBy.map s.orderKey)

/-- Order keys behind a text, if there are any. -/
def keyed (s : Setup) (before : String) (orderBy : List (OrderKey Operand)) : Rendering :=
  listClause before ", " (orderBy.map s.orderKey)

/-- Columns that stand behind a projection. -/
def columnsText (columns : List (FlagContent Operand)) : Rendering :=
  .concat (columns.map fun c ↦ Flag.render ⟨.afterProjection, c⟩)

theorem limits_of_numbersRows (hs : s.NumbersRows) (m : Modifiers) : s.limits m = .empty := by
  rw [limits, hs.pagination]

theorem select_ordered (hs : s.NumbersRows) (q : Query Operand) (projection : Option String) :
    s.select { q with modifiers := {} } false projection =
      front q projection ++ (s.back q projection ++ (s.rowClauses q ++
        (s.keyed "\norder by " q.orderBy ++ (q.flagText .afterOrder ++ q.flagText .finish)).within
          fun _ ↦ ⟨false, false⟩)) := by
  have hbehind : s.behind { q with modifiers := {} } = s.rowClauses q ++
      (s.keyed "\norder by " q.orderBy ++ (q.flagText .afterOrder ++ q.flagText .finish)).within
        fun _ ↦ ⟨false, false⟩ := by
    have hordering : s.ordering { q with modifiers := {} } = q.flagText .beforeOrder ++
        (s.keyed "\norder by " q.orderBy ++ (q.flagText .afterOrder ++ .empty)) := by
      rw [ordering, limits_of_numbersRows hs]
      rfl
    rw [behind, hordering, rowClauses, ← Rendering.within_append, Rendering.append_empty]
    simp only [Rendering.append_assoc]
    rfl
  rw [select_eq hs.family, hbehind]
  rfl

theorem select_unordered (hs : s.NumbersRows) (q : Query Operand)
    (columns : List (FlagContent Operand)) (projection : Option String) :
    s.select (q.unordered columns) false projection =
      front q projection ++ (s.back q projection ++
        ((columnsText columns).within (fun _ ↦ ⟨true, false⟩) ++ (s.rowClauses q ++
          (q.flagText .afterOrder).within fun _ ↦ ⟨false, false⟩))) := by
  have hflags : ∀ position, position ≠ .afterProjection → position ≠ .finish →
      (q.unordered columns).flagText position = q.flagText position :=
    fun position hcolumns hfinish ↦ flagText_congr (q.flagsAt_unordered columns hcolumns hfinish)
  have hfront : front (q.unordered columns) projection = front q projection := by
    refine front_congr ?_ ?_ projection
    · rfl
    · intro position hposition
      refine q.flagsAt_unordered columns ?_ ?_
      · rintro rfl
        simp at hposition
      · rintro rfl
        simp at hposition
  have hback : s.back (q.unordered columns) projection =
      s.back q projection ++ (columnsText columns).within fun _ ↦ ⟨true, false⟩ := by
    have hshown : s.shown (q.unordered columns) projection = s.shown q projection := by
      cases projection <;> rfl
    have hprojected : (q.unordered columns).flagText .afterProjection =
        q.flagText .afterProjection ++ columnsText columns := by
      rw [Query.flagText, Query.flagsAt_afterProjection_unordered, List.map_append,
        Rendering.concat_append, List.map_map]
      rfl
    rw [back, back, hshown, hprojected, ← Rendering.append_assoc]
    rfl
  have hbehind : s.behind (q.unordered columns) = s.rowClauses q ++
      (q.flagText .afterOrder).within fun _ ↦ ⟨false, false⟩ := by
    have hclauses : s.clauses (q.unordered columns) false = s.clauses q false := by
      simp only [clauses, hflags, ne_eq, reduceCtorEq, not_false_eq_true]
      rfl
    have hordering : s.ordering (q.unordered columns) =
        q.flagText .beforeOrder ++ q.flagText .afterOrder := by
      rw [ordering, limits_of_numbersRows hs, hflags .beforeOrder (by decide) (by decide),
        hflags .afterOrder (by decide) (by decide)]
      simp only [Query.unordered, List.map_nil, listClause, List.isEmpty_nil, if_true,
        Rendering.concat, Rendering.empty_append, Rendering.append_empty]
    have hfinish : (q.unordered columns).flagText .finish = .empty := by
      rw [Query.flagText, Query.flagsAt_finish_unordered]
      rfl
    rw [behind, hclauses, hordering, hfinish, rowClauses, ← Rendering.within_append,
      Rendering.append_empty, Rendering.append_assoc]
  rw [select_eq hs.family, hfront, hback, hbehind, Rendering.append_assoc]

/-- Among texts a numbered query is one with a further column. -/
theorem numbered_eq_unordered (h : q.flags.all Flag.isText = true) :
    s.numbered q = q.unordered [.expr (s.rowNumberColumn q.orderBy)] := by
  have hcore : (core q).flags.all Flag.isText = true := by
    rw [List.all_eq_true] at h ⊢
    exact fun flag hflag ↦ h flag (List.mem_of_mem_filter hflag)
  rw [numbered, Query.addFlag_of_isText hcore]
  rfl

/-! ## The numbers of rows -/

theorem keyList_cons (key : OrderKey Operand) (keys : List (OrderKey Operand)) :
    s.keyList (key :: keys) = s.orderKey key ++ s.keyed ", " keys := by
  cases keys with
  | nil => exact (Rendering.append_empty _).symm
  | cons next keys => exact Rendering.append_assoc _ _ _

/-- The numbering template writes the keys as the order clause does, from any key on. -/
theorem passage_numberingElements (operation : Op → List Operand → Operand) (pattern : String)
    (prior : List Operand) (keys : List (OrderKey Operand)) (before : String) :
    (Rendering.concat ((numberingElements s.profile.capabilities.nullsOrdering prior.length before
        keys).map (s.element operation pattern (-1) (prior ++ keys.map OrderKey.target)))).passage =
      (.text before ++ (s.keyList keys ++ .text ")") : Rendering).passage := by
  -- the slots count on from the arguments of the keys before, so there may be any of these
  induction keys generalizing prior before with
  | nil =>
      have hend := passage_text_append before ")"
      exact (congrArg Rendering.passage (Rendering.append_empty _)).trans hend
  | cons key keys ih =>
      have harg : s.element operation pattern (-1)
          (prior ++ key.target :: keys.map OrderKey.target) (.arg prior.length) =
            key.target.render := by
        simp [element, element.withArg, argument]
      have hrest := ih (prior ++ [key.target])
        (if keys.isEmpty then key.directionText s.profile.capabilities.nullsOrdering
          else key.directionText s.profile.capabilities.nullsOrdering ++ ", ")
      rw [List.length_append, List.length_singleton, List.append_assoc] at hrest
      rw [numberingElements, List.map_cons, List.map_cons, List.map_cons, harg, Rendering.concat,
        Rendering.concat, keyList_cons, orderKey]
      refine passage_append_congr rfl ?_
      rw [Rendering.append_assoc, Rendering.append_assoc]
      refine passage_append_congr rfl (hrest.trans ?_)
      cases keys with
      | nil => rfl
      | cons next keys =>
          refine (passage_append_congr (passage_text_append _ _) rfl).trans ?_
          rw [Rendering.append_assoc, keyed, listClause, List.map_cons, List.isEmpty_cons,
            if_neg Bool.false_ne_true, Rendering.append_assoc]
          rfl

theorem passage_rowNumber (orderBy : List (OrderKey Operand)) :
    (s.rowNumber orderBy).render.passage =
      (.text "row_number() over (" ++ (s.keyed "order by " orderBy ++ .text ")") :
        Rendering).passage := by
  refine (passage_numberingElements (s.textOperation expansionDepth) _ [] orderBy
    (if orderBy.isEmpty then "row_number() over (" else "row_number() over (order by ")).trans ?_
  cases orderBy with
  | nil => rfl
  | cons key keys =>
      refine (passage_append_congr (passage_text_append "row_number() over (" "order by ")
        rfl).trans ?_
      rw [keyed, listClause, List.map_cons, List.isEmpty_cons, if_neg Bool.false_ne_true,
        Rendering.append_assoc, Rendering.append_assoc]
      rfl

/-- Setups that number rows, alias columns by `as` and write names without quotes. -/
structure NumbersInOrder (s : Setup) : Prop extends s.NumbersRows where
  paths : s.HasPaths
  aliased : ∃ precedence, s.profile.registry.get? (.op .aliased) =
    some ⟨⟨"{0} as {1}", [.arg 0, .text " as ", .arg 1]⟩, precedence, none⟩
  quote : s.profile.quote = none
  wraps : s.profile.wrapsElements .aliased = false

theorem render_rowNumberColumn (hs : s.NumbersInOrder) (orderBy : List (OrderKey Operand)) :
    (s.rowNumberColumn orderBy).render =
      .text ", " ++ (((s.rowNumber orderBy).render ++ (.text " as " ++
        ((s.rootStep .i64 "row_number").render ++ .empty))).within
          ({ · with wrapElements := false }) ++ .empty) := by
  obtain ⟨precedence, haliased⟩ := hs.aliased
  have hplain : s.operationRendering (.op .aliased)
      [s.rowNumber orderBy, s.rootStep .i64 "row_number"] =
        ((s.rowNumber orderBy).render ++ (.text " as " ++
          ((s.rootStep .i64 "row_number").render ++ .empty))).within
            ({ · with wrapElements := false }) := by
    have hnumeric : Op.aliased.isNumeric = false := rfl
    have hentry : s.plain (.op .aliased) [s.rowNumber orderBy, s.rootStep .i64 "row_number"] =
        s.argument precedence (s.rowNumber orderBy) ++ (.text " as " ++
          (s.argument precedence (s.rootStep .i64 "row_number") ++ .empty)) := by
      rw [plain_eq haliased, apply_binary]
    have hrow : s.argument precedence (s.rowNumber orderBy) = (s.rowNumber orderBy).render :=
      argument_leaf precedence _ _
    have hname : s.argument precedence (s.rootStep .i64 "row_number") =
        (s.rootStep .i64 "row_number").render := argument_leaf precedence _ _
    rw [operationRendering, hs.family, inside, hs.wraps]
    simp only [sqlOperation, unchanged, hnumeric, Bool.false_eq_true, if_false]
    rw [hentry, hrow, hname]
  rw [← hplain]
  rfl

theorem writes_rowNumberName (hs : s.NumbersInOrder) :
    (s.rootStep .i64 "row_number").render.Writes "row_number" := by
  have hwrites := (writes_pathOperand hs.paths (p := .root .i64 "row_number") rfl).2 rfl
  rwa [pathText, Profile.quoteIdent, hs.quote] at hwrites

/-- In a projection the column of row numbers is written with the keys of the order clause. -/
theorem passage_rowNumberColumn (hs : s.NumbersInOrder) {orderBy : List (OrderKey Operand)}
    (hkeys : ∀ key ∈ orderBy, key.target.Agree true false key.target) :
    (s.rowNumberColumn orderBy).render.passage ⟨true, false⟩ =
      (.text ", row_number() over (" ++ (s.keyed "order by " orderBy ++
        .text ") as row_number") : Rendering).passage {} := by
  have hagree : Rendering.Agree true false (s.keyed "order by " orderBy)
      (s.keyed "order by " orderBy) := by
    unfold keyed listClause
    split
    · exact Rendering.isScopeFree_empty.agree
    · refine (Rendering.isScopeFree_text _).agree.append (.separated ", " ?_)
      exact forall₂_map_self fun key hkey ↦
        (hkeys key hkey).render.append (Rendering.isScopeFree_text _).agree
  have hscope : ∀ t u : String, (Rendering.text t ++ (s.keyed "order by " orderBy ++
      .text u)).passage ⟨true, false⟩ =
        (Rendering.text t ++ (s.keyed "order by " orderBy ++ .text u)).passage {} := by
    intro t u
    refine congrArg (Except.map _) ?_
    exact ((Rendering.isScopeFree_text t).agree.append
      (hagree.append (Rendering.isScopeFree_text u).agree)) false
  have hname := (((Rendering.Writes.text " as ").append
    ((s.writes_rowNumberName hs).append .empty))).passage
  have hbody : ((s.rowNumber orderBy).render ++ (.text " as " ++
      ((s.rootStep .i64 "row_number").render ++ .empty))).passage =
        (.text "row_number() over (" ++ (s.keyed "order by " orderBy ++
          .text ") as row_number") : Rendering).passage := by
    have hend : (.text " as " ++ ((s.rootStep .i64 "row_number").render ++ .empty) :
        Rendering).passage = (Rendering.text " as row_number").passage := by
      funext scope
      rw [hname, passage_text]
      rfl
    refine (passage_append_congr (passage_rowNumber orderBy) hend).trans ?_
    rw [Rendering.append_assoc, Rendering.append_assoc]
    refine passage_append_congr rfl (passage_append_congr rfl ?_)
    exact (passage_text_append ")" " as row_number").symm
  rw [render_rowNumberColumn hs, Rendering.append_empty, ← hscope]
  have hstart := congrFun (passage_append_congr (passage_text_append ", " "row_number() over (")
    (b := s.keyed "order by " orderBy ++ .text ") as row_number") rfl) ⟨true, false⟩
  rw [Rendering.append_assoc] at hstart
  refine Eq.trans ?_ hstart.symm
  rw [passage_append, passage_append _ _ ⟨true, false⟩, Rendering.passage_within, hbody]

/-! ## The whole -/

theorem passage_keyed (word : String) (q : Query Operand) (scope : Scope) :
    (s.keyed word q.orderBy).passage scope =
      ((s.keyList q.orderBy).passage scope).map (q.keyed word) := by
  unfold keyed Query.keyed keyList
  cases q.orderBy with
  | nil => rfl
  | cons key keys =>
      rw [List.map_cons, listClause, List.isEmpty_cons, if_neg Bool.false_ne_true, passage_append,
        passage_text]
      rfl

theorem passage_window (offset : UInt64) (limit : Option UInt64) (scope : Scope) :
    (window offset limit).passage scope = .ok (.window offset limit) := by
  cases limit with
  | none => rfl
  | some limit => rfl

theorem writes_columnsText (columns : List String) :
    (columnsText (columns.map .text)).Writes (String.join columns) := by
  induction columns with
  | nil => exact .empty
  | cons column columns ih =>
      rw [String.join_cons]
      exact (Rendering.Writes.text column).append ih

theorem query_unordered (q : Query Operand) (columns : List (FlagContent Operand))
    (projection : Option String) :
    s.query (q.unordered columns) false projection =
      s.select (q.unordered columns) false projection :=
  query_of_not_isRestricting rfl (q.unordered columns) projection

/-- A query that can be written is put together from the passages of its rows and its keys. -/
theorem exists_numberedAs (hs : s.NumbersInOrder) (hjoins : q.joins ≠ []) {offset : UInt64}
    (hoffset : q.modifiers.offset = some offset) (hflags : q.flags.all Flag.isText = true)
    (hkeys : ∀ key ∈ q.orderBy, key.target.Agree true false key.target)
    (projection : Option String) :
    ((∃ e, (s.query { q with modifiers := {} } false projection).passage {} = .error e) ∧
      ∃ e, (s.query q false projection).passage {} = .error e) ∨
    ∃ front behind keys, (s.keyList q.orderBy).passage {} = .ok keys ∧
      q.NumberedAs (fun q ↦ (s.query q false projection).passage {}) offset front behind keys := by
  obtain ⟨limit, hmodifiers⟩ : ∃ limit, q.modifiers = ⟨limit, some offset⟩ :=
    ⟨q.modifiers.limit, by rw [← hoffset]⟩
  have htext : ∀ position scope, (q.flagText position).passage scope =
      .ok (.ofText (q.textAt position)) :=
    fun position scope ↦ (Query.writes_flagText hflags position).passage scope
  have hcolumns : ∀ columns scope, (columnsText (columns.map .text)).passage scope =
      .ok (.ofText (String.join columns)) :=
    fun columns scope ↦ (writes_columnsText columns).passage scope
  have hcolumn : (columnsText [.expr (s.rowNumberColumn q.orderBy)]).passage ⟨true, false⟩ =
      (.text ", row_number() over (" ++ (s.keyed "order by " q.orderBy ++
        .text ") as row_number") : Rendering).passage {} := by
    rw [← passage_rowNumberColumn hs hkeys]
    exact congrFun (congrArg Rendering.passage (Rendering.append_empty _)) _
  have hunordered := fun columns : List String ↦
    congrArg (Rendering.passage · {}) ((query_unordered q (columns.map .text) projection).trans
      (select_unordered hs.toNumbersRows q (columns.map .text) projection))
  have hplain := congrArg (Rendering.passage · {})
    ((query_of_not_isRestricting rfl q projection).trans
      (select_ordered hs.toNumbersRows q projection))
  have hpaged := congrArg (Rendering.passage · {})
    (query_of_offset hs.toNumbersRows hjoins offset limit projection)
  rw [← hmodifiers] at hpaged
  rw [numbered_eq_unordered hflags, select_unordered hs.toNumbersRows] at hpaged
  simp only [passage_append, Rendering.passage_within, htext, hcolumns, hcolumn, passage_keyed,
    passage_text, passage_window] at hunordered hplain hpaged
  rcases hfront : (front q projection).passage {} with e | front
  · rw [hfront] at hplain hpaged
    exact .inl ⟨⟨e, hplain⟩, e, hpaged⟩
  rcases hback : (s.back q projection).passage {} with e | back
  · rw [hfront, hback] at hplain hpaged
    exact .inl ⟨⟨e, hplain⟩, e, hpaged⟩
  rcases hkeyList : (s.keyList q.orderBy).passage {} with e | keys
  · -- another clause may fail first in the order of the query
    rw [hfront, hback, hkeyList] at hplain hpaged
    rcases hrows : (s.rowClauses q).passage {} with e' | behind
    · rw [hrows] at hplain hpaged
      exact .inl ⟨⟨e', hplain⟩, e, hpaged⟩
    · rw [hrows] at hplain hpaged
      exact .inl ⟨⟨e, hplain⟩, e, hpaged⟩
  rcases hrows : (s.rowClauses q).passage {} with e | behind
  · rw [hfront, hback, hkeyList, hrows] at hplain hpaged
    exact .inl ⟨⟨e, hplain⟩, e, hpaged⟩
  simp only [hfront, hback, hkeyList, hrows, Except.bind, Except.map] at hunordered hplain hpaged
  refine .inr ⟨front ++ back, behind, keys, rfl, fun columns ↦ ?_, ?_, ?_⟩
  · rw [hunordered]
    simp only [Passage.append_assoc]
  · rw [hplain]
    simp only [Passage.append_assoc]
  · rw [hpaged, hmodifiers]
    simp only [Passage.append_assoc]
    rfl

/-! ## Queries that can be written -/

/-- A query without limits can be written if its parts can. -/
theorem succeeds_query (hs : s.NumbersRows) (hflags : q.flags.all Flag.isText = true)
    (hprojected : (s.projected q).Succeeds) (hclauses : (s.clauses q false).Succeeds)
    (hkeys : ∀ key ∈ q.orderBy, key.target.render.Succeeds) :
    (s.query { q with modifiers := {} } false none).Succeeds := by
  have hclosed := Rendering.isClosed_succeeds
  have htext : ∀ position, (q.flagText position).Succeeds := fun position ↦
    (Query.writes_flagText hflags position).succeeds
  have hword : (selectWord q).Succeeds := by
    unfold selectWord
    split
    · exact hclosed.text _
    · exact htext _
  have hkeyed : (s.keyed "\norder by " q.orderBy).Succeeds := by
    unfold keyed listClause
    split
    · exact hclosed.empty
    · refine hclosed.append (hclosed.text _) (hclosed.separated _ fun r hr ↦ ?_)
      obtain ⟨key, hkey, rfl⟩ := List.mem_map.mp hr
      exact hclosed.append (hkeys key hkey) (hclosed.text _)
  have hfront : (front q none).Succeeds :=
    hclosed.append (fun _ ↦ htext _ _) fun _ ↦ hclosed.append hword (htext _) _
  have hback : (s.back q none).Succeeds := fun _ ↦ hclosed.append hprojected (htext _) _
  have hrows : (s.rowClauses q).Succeeds := fun _ ↦ hclosed.append hclauses (htext _) _
  rw [query_of_not_isRestricting rfl, select_ordered hs]
  exact hclosed.append hfront (hclosed.append hback (hclosed.append hrows fun _ ↦
    hclosed.append hkeyed (hclosed.append (htext _) (htext _)) _))

theorem succeeds_catProperty (hs : s.HasPaths) (type : ValueType) (name : String)
    (htype : type.isCollectionLike = false) :
    (s.operand (.path (.property type (.entity "Cat" "cat") name))).render.Succeeds :=
  ((writes_pathOperand hs (p := .property type (.entity "Cat" "cat") name) rfl).2 htype).succeeds

/-- The clauses of a query of all cats. -/
theorem succeeds_catClauses (hs : s.HasPaths) :
    (.text "\nfrom " ++ (s.joined false
      ⟨.listed, s.operand (.path (.entity "Cat" "cat")), none, false, false⟩ ++ .empty) ++ .empty :
        Rendering).Succeeds := by
  have hclosed := Rendering.isClosed_succeeds
  have hcats := (writes_joined_catRows hs).succeeds
  exact hclosed.append (hclosed.append (hclosed.text _) (hclosed.append hcats hclosed.empty))
    hclosed.empty

end Setup

namespace Serializer

/-- Some cats by weight and by the name of a locked one, with a page of them locked. -/
def lockedPage : Query Expr :=
  { projection := [.path (.property .string (.entity "Cat" "cat") "name"), .param ⟨.i32, "lives"⟩]
    joins := [{ kind := .listed, target := .path (.entity "Cat" "cat") }]
    orderBy := [⟨.path (.property .i32 (.entity "Cat" "cat") "weight"), .descending, .last⟩,
      ⟨.subQuery 0 .string lockedNames, .ascending, .unstated⟩]
    modifiers := ⟨some 5, some 3⟩
    flags := [⟨.finish, .text "\nfor update"⟩, ⟨.afterProjection, .text ", 1"⟩] }

end Serializer

namespace Setup

variable {s : Setup}

theorem succeeds_lockedNames (hs : s.NumbersInOrder) :
    (s.operand (.subQuery 0 .string Serializer.lockedNames)).render.Succeeds := by
  have hname := succeeds_catProperty hs.paths .string "name" rfl
  have hnames := succeeds_query (q := s.queryOperands Serializer.lockedNames) hs.toNumbersRows rfl
    hname (succeeds_catClauses hs.paths) fun _ hkey ↦ nomatch hkey
  exact Rendering.isClosed_succeeds.between "(" ")" hnames

theorem succeeds_lockedPage (hs : s.NumbersInOrder) :
    (s.query { s.queryOperands Serializer.lockedPage with modifiers := {} } false
      none).Succeeds := by
  have hclosed := Rendering.isClosed_succeeds
  have hname := succeeds_catProperty hs.paths .string "name" rfl
  refine succeeds_query (q := s.queryOperands Serializer.lockedPage) hs.toNumbersRows rfl
    (hclosed.append (hclosed.append hname (hclosed.text ", ")) (hclosed.placeholder _ _))
    (succeeds_catClauses hs.paths) fun key hkey ↦ ?_
  obtain rfl | rfl : key = ⟨_, _, _⟩ ∨ key = ⟨_, _, _⟩ := by
    simpa [queryOperands, Serializer.lockedPage, orderOperands] using hkey
  · exact succeeds_catProperty hs.paths .i32 "weight" rfl
  · exact succeeds_lockedNames hs

end Setup

/-! ## SQL Server -/

theorem Template.parse_aliased : Template.parse "{0} as {1}" =
    .ok ⟨"{0} as {1}", [.arg 0, .text " as ", .arg 1]⟩ := rfl

namespace Dialect

/-- SQL Server 2005, with null values ordered by words or not. -/
def IsSqlServer2005 (d : Dialect) : Prop :=
  ∃ known ordering, ("sql_server_2005", .ok known) ∈ Dialect.known ∧
    d = known.withCapabilities ({ · with nullsOrdering := ordering })

theorem IsSqlServer2005.placeholders {d : Dialect} (h : d.IsSqlServer2005) :
    d.placeholders = .anonymous := by
  obtain ⟨known, ordering, hmem, rfl⟩ := h
  exact (placeholders_eq_anonymous_iff hmem).mpr (by decide)

end Dialect

namespace Serializer

theorem numbersInOrder_setup {s : Serializer} (hs : s.dialect.IsSqlServer2005) :
    s.setup.NumbersInOrder := by
  obtain ⟨dialect, metamodel, identify⟩ := s
  obtain ⟨known, ordering, hmem, rfl⟩ := hs
  have hknown : known.IsKnown := ⟨_, hmem⟩
  have hbuild : Dialect.sqlServer2005 = .ok known := by
    simpa [Dialect.known, eq_comm] using hmem
  have hfamily : known.family = .sql := Dialect.family_of_build hbuild
  have hforms := Dialect.pagination_of_build hbuild rfl
  have hquote : known.quote = none := Dialect.quote_of_build hbuild rfl
  have hwraps : known.wrapElements = [] := Dialect.wrapElements_of_build hbuild rfl
  obtain ⟨t, hparse, hget⟩ : ∃ t, Template.parse "{0} as {1}" = .ok t ∧
      known.registry.get? (.op .aliased) = some ⟨t, Op.aliased.precedence, none⟩ :=
    hknown.get?_op (by simp [Registry.baseOps]) (by decide)
  obtain rfl := Except.ok.inj (Template.parse_aliased.symm.trans hparse)
  exact
    { family := hfamily
      pagination := (Except.ok.inj hforms).symm
      paths := ⟨hknown.get?_root, hknown.get?_property⟩
      aliased := ⟨_, hget⟩
      quote := hquote
      wraps := congrArg (List.contains · Op.aliased) hwraps }

theorem passage_unordered (s : Serializer) (hs : s.dialect.placeholders = .anonymous)
    (q : Query Expr) (columns : List String) (projection : Option String) :
    s.passage (q.unordered (columns.map .text)) projection =
      (s.setup.query ((s.setup.queryOperands q).unordered (columns.map .text)) false
        projection).passage {} := by
  have hcolumns : (columns.map FlagContent.text).map (FlagContent.map s.setup.operand) =
      columns.map .text := by
    rw [List.map_map]
    rfl
  rw [passage_eq s hs, Setup.queryOperands_eq_map, Setup.queryOperands_eq_map, ← hcolumns,
    Query.unordered_map]

/-- With an offset, SQL Server 2005 selects from the query without limits, order and flags at its
end, which has behind its projection a column of row numbers in the order that the query has
without limits. It fails when that query does. -/
theorem passage_of_offset (s : Serializer) (hs : s.dialect.IsSqlServer2005) {q : Query Expr}
    (hjoins : q.joins ≠ []) {offset : UInt64} (hoffset : q.modifiers.offset = some offset)
    (hflags : q.flags.all Flag.isText = true)
    (hkeys : ∀ key ∈ q.orderBy, key.target.isFactoryFree = true) (projection : Option String) :
    ((∃ e, s.passage { q with modifiers := {} } projection = .error e) ∧
      ∃ e, s.passage q projection = .error e) ∨
    ∃ front behind keys,
      (s.setup.keyList (s.setup.orderOperands q.orderBy)).passage {} = .ok keys ∧
      q.NumberedAs (s.passage · projection) offset front behind keys := by
  have hstyle := hs.placeholders
  have hplain : s.passage { q with modifiers := {} } projection = (s.setup.query
      { s.setup.queryOperands q with modifiers := {} } false projection).passage {} := by
    rw [← Setup.queryOperands_modifiers, ← passage_eq s hstyle]
  have htext : (s.setup.queryOperands q).flags.all Flag.isText = true := by
    cases q
    exact (Setup.isText_flagOperands _).trans hflags
  have hagree : ∀ key ∈ (s.setup.queryOperands q).orderBy,
      key.target.Agree true false key.target := by
    rw [Setup.queryOperands_eq_map]
    refine List.forall_mem_map.mpr fun key hkey ↦ ?_
    exact Setup.agree_of_isFactoryFree (hkeys key hkey)
  have horder : (s.setup.queryOperands q).orderBy = s.setup.orderOperands q.orderBy := by
    cases q
    rfl
  have hmodifiers : (s.setup.queryOperands q).modifiers = q.modifiers := by
    cases q
    rfl
  rw [hplain, passage_eq s hstyle q, ← horder]
  rcases Setup.exists_numberedAs (numbersInOrder_setup hs)
    (s.setup.joins_queryOperands_ne_nil hjoins) (hmodifiers ▸ hoffset) htext hagree projection
    with hfails | ⟨front, behind, keys, hkeyList, hnumbered⟩
  · exact .inl hfails
  refine .inr ⟨front, behind, keys, hkeyList, fun columns ↦ ?_, ?_, ?_⟩
  · rw [passage_unordered s hstyle, hnumbered.unordered, Setup.queryOperands_eq_map,
      Query.textAt_map]
  · rw [hplain, hnumbered.ordered, Setup.queryOperands_eq_map, Query.textAt_map,
      Query.textAt_map, Query.keyed_map]
  · rw [passage_eq s hstyle, hnumbered.numbered, hmodifiers, Setup.queryOperands_eq_map,
      Query.textAt_map, Query.textAt_map, Query.keyed_map]

/-- The page is written with the keys and the flags of the query, behind an offset of three. -/
theorem passage_lockedPage : ∃ s : Serializer, s.dialect.IsSqlServer2005 ∧
    s.dialect.capabilities.nullsOrdering = true ∧ lockedPage.joins ≠ [] ∧
    lockedPage.modifiers.offset = some 3 ∧ lockedPage.flags.all Flag.isText = true ∧
    (∀ key ∈ lockedPage.orderBy, key.target.isFactoryFree = true) ∧
    ∃ front behind keys,
      (s.setup.keyList (s.setup.orderOperands lockedPage.orderBy)).passage {} = .ok keys ∧
      lockedPage.NumberedAs (s.passage · none) 3 front behind keys := by
  have hmem : ("sql_server_2005", Dialect.sqlServer2005) ∈ Dialect.known := by
    simp [Dialect.known]
  obtain ⟨known, hknown⟩ := Dialect.exists_of_mem_known _ hmem
  have hs : (known.withCapabilities ({ · with nullsOrdering := true })).IsSqlServer2005 :=
    ⟨known, true, hknown ▸ hmem, rfl⟩
  have hkeys : ∀ key ∈ lockedPage.orderBy, key.target.isFactoryFree = true := by
    simp [lockedPage, Expr.isFactoryFree, Path.isFactoryFree, lockedNames, Flag.isText,
      Path.entity]
  refine ⟨{ dialect := _ }, hs, rfl, by simp [lockedPage], rfl, rfl, hkeys, ?_⟩
  refine (passage_of_offset _ hs (by simp [lockedPage]) rfl rfl hkeys none).resolve_left ?_
  rintro ⟨⟨e, hfails⟩, _⟩
  obtain ⟨chunks, hchunks⟩ :=
    Setup.succeeds_lockedPage (numbersInOrder_setup (s := { dialect := _ }) hs) {}
  rw [passage_eq _ hs.placeholders, Setup.queryOperands_modifiers, Rendering.passage, hchunks]
    at hfails
  cases hfails

end Serializer

end TypedQuery
