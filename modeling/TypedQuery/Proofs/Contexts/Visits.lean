import TypedQuery.Proofs.Contexts.Selects
import TypedQuery.Statement

/-!
# Visits

A visit of an expression, a path or a query runs the writers of all its parts on one context. It
comes to the same as putting the whole rendering into the context. So a visit that succeeds leaves
the flags as they were, whatever its parts do to them in between, and only adds text and bindings;
visits of the empty context write statements.
-/

namespace TypedQuery

namespace Visitor

mutual

/-- The draft of an expression, made from the drafts of its parts. -/
def draft (v : Visitor) : Expr → Draft
  | .constant c => v.constant c
  | .param p => v.param p
  | .path p => v.pathDraft p
  | .operation type operator args => v.operation type operator (v.drafts args)
  | .subQuery identity type q =>
      let drafts := v.queryDrafts q
      .subQuery (.subQuery identity type q) (v.query drafts false)
  | .factory type maker args => factory type maker (v.drafts args)
  | .template type t args => v.template type t (v.drafts args)

def pathDraft (v : Visitor) : Path → Draft
  | .root type name => v.rootStep type name
  | .property type parent name => v.propertyStep type parent (v.pathDraft parent) name
  | .listValue type parent index =>
      v.step (.listValue type parent index) [v.pathDraft parent, v.draft index]
  | .listIndex type parent index =>
      v.step (.listIndex type parent index) [v.pathDraft parent, v.count index]
  | .mapValue type parent key =>
      v.step (.mapValue type parent key) [v.pathDraft parent, v.draft key]
  | .mapKey type parent key =>
      v.step (.mapKey type parent key) [v.pathDraft parent, v.value key]
  | .collectionAny type parent => v.step (.collectionAny type parent) [v.pathDraft parent]

def drafts (v : Visitor) : List Expr → List Draft
  | [] => []
  | e :: es => v.draft e :: v.drafts es

def draft? (v : Visitor) : Option Expr → Option Draft
  | none => none
  | some e => some (v.draft e)

def joinDrafts (v : Visitor) : List (Join Expr) → List (Join Draft)
  | [] => []
  | ⟨kind, target, condition, fetch, fetchAll⟩ :: joins =>
      ⟨kind, v.draft target, v.draft? condition, fetch, fetchAll⟩ :: v.joinDrafts joins

def orderDrafts (v : Visitor) : List (OrderKey Expr) → List (OrderKey Draft)
  | [] => []
  | ⟨target, direction, nulls⟩ :: keys =>
      ⟨v.draft target, direction, nulls⟩ :: v.orderDrafts keys

def flagDrafts (v : Visitor) : List (Flag Expr) → List (Flag Draft)
  | [] => []
  | ⟨position, .text text⟩ :: flags => ⟨position, .text text⟩ :: v.flagDrafts flags
  | ⟨position, .expr e⟩ :: flags => ⟨position, .expr (v.draft e)⟩ :: v.flagDrafts flags

/-- A query over the drafts of its expressions. -/
def queryDrafts (v : Visitor) : Query Expr → Query Draft
  | ⟨projection, joins, filter, groupBy, having, orderBy, modifiers, distinct, unique, flags,
      params⟩ =>
      { projection := v.drafts projection
        joins := v.joinDrafts joins
        filter := v.draft? filter
        groupBy := v.drafts groupBy
        having := v.draft? having
        orderBy := v.orderDrafts orderBy
        modifiers, distinct, unique
        flags := v.flagDrafts flags
        params }

end

variable {v : Visitor}

theorem drafts_eq_map (es : List Expr) : v.drafts es = es.map v.draft := by
  induction es with
  | nil => rfl
  | cons e es ih => simp [drafts, ih]

theorem queryDrafts_eq_map (q : Query Expr) : v.queryDrafts q = q.map v.draft := by
  have hoption : ∀ e, v.draft? e = e.map v.draft := by
    intro e
    cases e <;> rfl
  have hjoins : ∀ js, v.joinDrafts js = js.map (Join.map v.draft) := by
    intro js
    induction js with
    | nil => rfl
    | cons j js ih => simp [joinDrafts, Join.map, ih, hoption]
  have hkeys : ∀ keys, v.orderDrafts keys = keys.map (OrderKey.map v.draft) := by
    intro keys
    induction keys with
    | nil => rfl
    | cons key keys ih => simp [orderDrafts, OrderKey.map, ih]
  have hflags : ∀ flags, v.flagDrafts flags = flags.map (Flag.map v.draft) := by
    intro flags
    induction flags with
    | nil => rfl
    | cons flag flags ih =>
        obtain ⟨position, content⟩ := flag
        cases content <;> simp [flagDrafts, Flag.map, FlagContent.map, ih]
  cases q
  simp [queryDrafts, Query.map, drafts_eq_map, hoption, hjoins, hkeys, hflags]

/-! ## Visits put renderings in as a whole -/

/-- Whether the draft of an expression is that of its operand. -/
def IsDrafted (v : Visitor) (e : Expr) : Prop :=
  v.draft e = (v.toSetup.operand e).draft v.placeholders

theorem map_draft_of_isDrafted {es : List Expr} (h : ∀ e ∈ es, v.IsDrafted e) :
    v.drafts es = (v.toSetup.operands es).map (Operand.draft v.placeholders) := by
  rw [drafts_eq_map, Setup.operands_eq_map, List.map_map]
  exact List.map_congr_left h

theorem query_map_congr {ε δ : Type} {f g : ε → δ} {q : Query ε} (h : q.Each fun e ↦ f e = g e) :
    q.map f = q.map g := by
  have hjoins : q.joins.map (Join.map f) = q.joins.map (Join.map g) := by
    refine List.map_congr_left fun j hj ↦ ?_
    rw [Join.map, (h.joins j hj).1, Option.map_congr (h.joins j hj).2]
    rfl
  have hkeys : q.orderBy.map (OrderKey.map f) = q.orderBy.map (OrderKey.map g) := by
    refine List.map_congr_left fun key hkey ↦ ?_
    rw [OrderKey.map, h.orderBy key hkey]
    rfl
  have hflags : q.flags.map (Flag.map f) = q.flags.map (Flag.map g) := by
    refine List.map_congr_left fun flag hflag ↦ ?_
    obtain ⟨position, content⟩ := flag
    cases content with
    | text text => rfl
    | expr e => rw [Flag.map, FlagContent.map, h.flags _ hflag e rfl]; rfl
  simp only [Query.map, List.map_congr_left h.projection, List.map_congr_left h.groupBy,
    Option.map_congr h.filter, Option.map_congr h.having, hjoins, hkeys, hflags]

theorem hereditary_isDrafted : Hereditary v.IsDrafted
    fun p ↦ v.pathDraft p = (v.toSetup.pathOperand p).draft v.placeholders where
  constant c := (v.draft_constant c).symm
  param p := (draft_param p).symm
  path p h := h
  operation type operator args h := by
    rw [IsDrafted, draft, map_draft_of_isDrafted h, Setup.operand, draft_operation]
  subQuery identity type q h := by
    have hquery : v.queryDrafts q =
        (v.toSetup.queryOperands q).map (Operand.draft v.placeholders) := by
      rw [queryDrafts_eq_map, Setup.queryOperands_eq_map, Query.map_map]
      exact query_map_congr h
    rw [IsDrafted, draft, Setup.operand, Operand.draft, hquery]
    congr 1
    funext projection
    exact (writer_query _ false projection).symm
  factory type maker args h := by
    rw [IsDrafted, draft, map_draft_of_isDrafted h, Setup.operand, draft_factory]
  template type t args h := by
    rw [IsDrafted, draft, map_draft_of_isDrafted h, Setup.operand, draft_template]
  root type name := (draft_rootStep type name).symm
  property type parent name h := by
    rw [pathDraft, h, Setup.pathOperand, draft_propertyStep]
  listValue type parent index h hi := by
    rw [pathDraft, h, hi, Setup.pathOperand, draft_step]
    rfl
  listIndex type parent index h := by
    rw [pathDraft, h, Setup.pathOperand, draft_step, ← draft_count]
    rfl
  mapValue type parent key h hk := by
    rw [pathDraft, h, hk, Setup.pathOperand, draft_step]
    rfl
  mapKey type parent key h := by
    rw [pathDraft, h, Setup.pathOperand, draft_step, ← draft_value]
    rfl
  collectionAny type parent h := by
    rw [pathDraft, h, Setup.pathOperand, draft_step]
    rfl

theorem draft_eq (e : Expr) : v.draft e = (v.toSetup.operand e).draft v.placeholders :=
  hereditary_isDrafted.of_expr e

theorem pathDraft_eq (p : Path) :
    v.pathDraft p = (v.toSetup.pathOperand p).draft v.placeholders :=
  hereditary_isDrafted.of_path p

theorem queryDrafts_eq (q : Query Expr) :
    v.queryDrafts q = (v.toSetup.queryOperands q).map (Operand.draft v.placeholders) := by
  rw [queryDrafts_eq_map, Setup.queryOperands_eq_map, Query.map_map]
  exact query_map_congr (hereditary_isDrafted.of_query q)

end Visitor

/-! ## Visits -/

/-- What can be visited on its own. -/
inductive Piece
  | expr (e : Expr)
  | path (p : Path)
  | query (q : Query Expr) (forCount : Bool) (projection : Option String)

def Piece.rendering (s : Setup) : Piece → Rendering
  | expr e => s.expr e
  | path p => (s.pathOperand p).render
  | query q forCount projection => s.query (s.queryOperands q) forCount projection

namespace Visitor

variable {v : Visitor}

def visit (v : Visitor) : Piece → Writer
  | .expr e => (v.draft e).write
  | .path p => (v.pathDraft p).write
  | .query q forCount projection => v.query (v.queryDrafts q) forCount projection

/-- A visit puts the rendering of a piece into the context as a whole. -/
theorem visit_eq (piece : Piece) :
    v.visit piece = (piece.rendering v.toSetup).writer v.placeholders := by
  cases piece with
  | expr e => rw [visit, draft_eq, Operand.write_draft]; rfl
  | path p => rw [visit, pathDraft_eq, Operand.write_draft]; rfl
  | query q forCount projection => rw [visit, queryDrafts_eq, ← writer_query]; rfl

theorem visit_of_rendering {piece : Piece} {c : Context} {chunks : List Chunk}
    (h : piece.rendering v.toSetup c.toScope = .ok chunks) :
    v.visit piece c = .ok (c.puts v.placeholders chunks) := by
  rw [visit_eq, Rendering.writer_of_ok h]

/-- A visit that succeeds, in any context, leaves the flags as they were and only adds to the text
and to the bindings; labels keep their bindings. What it adds are the chunks of the rendering. -/
theorem frame_visit {piece : Piece} {c later : Context} (h : v.visit piece c = .ok later) :
    c.Frame later ∧ ∃ chunks,
      piece.rendering v.toSetup c.toScope = .ok chunks ∧ later = c.puts v.placeholders chunks := by
  rw [visit_eq] at h
  obtain ⟨chunks, hchunks, rfl⟩ : ∃ chunks, piece.rendering v.toSetup c.toScope = .ok chunks ∧
      c.puts v.placeholders chunks = later := by
    unfold Rendering.writer at h
    cases hrendering : piece.rendering v.toSetup c.toScope with
    | error e =>
        rw [hrendering] at h
        cases h
    | ok chunks =>
        rw [hrendering] at h
        exact ⟨chunks, rfl, Except.ok.inj h⟩
  exact ⟨c.frame_puts v.placeholders chunks, chunks, hchunks, rfl⟩

end Visitor

namespace Serializer

variable (s : Serializer)

def visitor : Visitor := { toSetup := s.setup, placeholders := s.dialect.placeholders }

/-- The statement for a piece is what a visit writes into the empty context. -/
theorem statement_eq_visit (m : Modifiers) (piece : Piece) :
    s.statement m (piece.rendering s.setup) =
      (s.visitor.visit piece {}).map fun c ↦ ⟨c.text, c.bindings.ordered, m⟩ := by
  rw [Visitor.visit_eq]
  show s.statement m (piece.rendering s.setup) =
    ((piece.rendering s.setup {}).map (Context.puts s.dialect.placeholders {})).map _
  unfold statement
  cases piece.rendering s.setup {} with
  | error e => rfl
  | ok chunks =>
      simp only [Except.map]
      rw [← Context.puts_layout]

/-- A row in the projection of a sub-query, which is visited inside an operator for elements and
behind a parameter that it repeats. -/
theorem frame_visit_row :
    let least : Param := ⟨.i32, "least"⟩
    let most : Param := ⟨.i32, "most"⟩
    let row : Query Expr :=
      { projection := [.factory (.entity "Pair") .tuple [.param least, .param most]] }
    let before := ((({ wrapElements := true } : Context).write "x = ").bind (.numbered '$') .i32
      (.param least)).write " and (x, y) in "
    ∃ (d : Dialect) (later : Context),
      Dialect.build "own" .sql [.placeholders (.numbered '$')] = .ok d ∧
      ({ dialect := d } : Serializer).visitor.visit (.expr (.subQuery 0 (.entity "Pair") row))
        before = .ok later ∧
      before.Frame later ∧ later.text = "x = $1 and (x, y) in (select $1, $2)" ∧
      later.bindings.ordered = [.param least, .param most] := by
  intro least most row before
  have hreadable : ∀ setting ∈ [Setting.placeholders (.numbered '$')], setting.IsReadable := by
    simp [Setting.IsReadable]
  obtain ⟨d, hbuild⟩ := Dialect.exists_build "own" .sql hreadable
  have hfamily : d.family = .sql := Dialect.family_of_build hbuild
  have hplaceholders : d.placeholders = .numbered '$' := Dialect.placeholders_of_build hbuild
  let s : Serializer := { dialect := d }
  let piece : Piece := .expr (.subQuery 0 (.entity "Pair") row)
  have hrendering : piece.rendering s.setup ⟨false, true⟩ = .ok
      [.text "(", .text "select ", .placeholder .i32 (.param least), .text ", ",
        .placeholder .i32 (.param most), .text ")"] := by
    obtain ⟨⟨name, family, registry, quote, escape, listStyle, pagination, _, _, _, _, _⟩, _⟩ := d
    obtain rfl : family = .sql := hfamily
    cases pagination <;> rfl
  have hvisit := Visitor.visit_of_rendering (v := s.visitor) (c := before) hrendering
  have hstyle : s.visitor.placeholders = .numbered '$' := hplaceholders
  refine ⟨d, _, hbuild, hvisit, (Visitor.frame_visit hvisit).1, ?_, ?_⟩
  · rw [hstyle]
    decide +kernel
  · rw [hstyle]
    rfl

end Serializer

end TypedQuery
