import TypedQuery.Proofs.Building
import TypedQuery.Proofs.Errors.Selects
import TypedQuery.Statement

/-!
# Errors of well-formed statements

A statement is well-formed when its operations have as many arguments as their operators accept and
its templates have an argument for each slot, which is what building them checks. In the known
dialects a well-formed statement is written, or fails for one of four causes: a missing template, a
missing source, a feature that the dialect does not have, or an argument that it cannot use.
-/

namespace TypedQuery

/-! ## Well-formed expressions -/

mutual

/-- Whether operators are given arguments that they accept, and slots have arguments. -/
def Expr.isWellFormed : Expr → Bool
  | .constant _ | .param _ => true
  | .path p => p.isWellFormed
  | .operation _ operator args =>
      operator.arity.all (·.accepts args.length) && areWellFormed args
  | .subQuery _ _ q => q.isWellFormed
  | .factory _ _ args => areWellFormed args
  | .template _ t args => t.maxIndex.all (· < args.length) && areWellFormed args

def Path.isWellFormed : Path → Bool
  | .root _ _ => true
  | .property _ parent _ | .listIndex _ parent _ | .mapKey _ parent _
  | .collectionAny _ parent => parent.isWellFormed
  | .listValue _ parent index | .mapValue _ parent index =>
      parent.isWellFormed && index.isWellFormed

def areWellFormed : List Expr → Bool
  | [] => true
  | e :: es => e.isWellFormed && areWellFormed es

def isWellFormed? : Option Expr → Bool
  | none => true
  | some e => e.isWellFormed

def wellFormedJoins : List (Join Expr) → Bool
  | [] => true
  | ⟨_, target, condition, _, _⟩ :: joins =>
      target.isWellFormed && isWellFormed? condition && wellFormedJoins joins

def wellFormedKeys : List (OrderKey Expr) → Bool
  | [] => true
  | ⟨target, _, _⟩ :: keys => target.isWellFormed && wellFormedKeys keys

def wellFormedFlags : List (Flag Expr) → Bool
  | [] => true
  | ⟨_, .text _⟩ :: flags => wellFormedFlags flags
  | ⟨_, .expr e⟩ :: flags => e.isWellFormed && wellFormedFlags flags

def Query.isWellFormed : Query Expr → Bool
  | ⟨projection, joins, filter, groupBy, having, orderBy, _, _, _, flags, _⟩ =>
      areWellFormed projection && wellFormedJoins joins && isWellFormed? filter &&
        areWellFormed groupBy && isWellFormed? having && wellFormedKeys orderBy &&
        wellFormedFlags flags

end

@[simp] theorem areWellFormed_eq_all (es : List Expr) :
    areWellFormed es = es.all Expr.isWellFormed := by
  induction es with
  | nil => rfl
  | cons e es ih => simp [areWellFormed, ih]

theorem isWellFormed_of_mkOperation {type : ValueType} {operator : Operator} {args : List Expr}
    {e : Expr} (hargs : args.all Expr.isWellFormed = true)
    (h : Expr.mkOperation type operator args = .ok e) : e.isWellFormed = true := by
  unfold Expr.mkOperation at h
  split at h
  · split at h
    · obtain rfl := Except.ok.inj h
      simp_all [Expr.isWellFormed]
    · cases h
  · obtain rfl := Except.ok.inj h
    simp_all [Expr.isWellFormed]

theorem isWellFormed_of_mkTemplate {type : ValueType} {pattern : String} {args : List Expr}
    {e : Expr} (hargs : args.all Expr.isWellFormed = true)
    (h : Expr.mkTemplate type pattern args = .ok e) : e.isWellFormed = true := by
  obtain ⟨t, _, h⟩ := exists_of_bind h
  split at h
  · rename_i hslots
    obtain rfl := Except.ok.inj h
    rw [Expr.isWellFormed, hslots, areWellFormed_eq_all, hargs]
    rfl
  · cases h

namespace RowSource

def isWellFormed : RowSource → Bool
  | rows rs => rs.all (·.all Expr.isWellFormed)
  | query q => q.isWellFormed

end RowSource

namespace Request

/-- Whether all expressions of a request are well-formed. Of columns only the names are written. -/
def isWellFormed : Request → Bool
  | query q _ _ | delete q => q.isWellFormed
  | expr e => e.isWellFormed
  | update q assignments =>
      q.isWellFormed && assignments.all fun a ↦ a.1.isWellFormed && a.2.isWellFormed
  | insert _ _ source | merge _ _ _ source => source.isWellFormed

end Request

open Rendering

namespace Setup

variable {s : Setup}

/-! ## Expressions -/

mutual

theorem isSafe_operand (hs : s.profile.IsFitting) :
    ∀ e : Expr, e.isWellFormed = true → (s.operand e).IsSafe
  | .constant c, _ => isSafe_constant c
  | .param p, _ => .leaf (isClosed_isSafe.placeholder _ _)
  | .path p, h => isSafe_pathOperand hs p h
  | .operation type operator args, h => by
      simp only [Expr.isWellFormed, Bool.and_eq_true] at h
      have hargs := isSafe_operands hs args h.2
      rw [operand]
      refine isSafe_operation hs type ?_ hargs
      rw [operands_eq_map, List.length_map]
      exact h.1
  | .subQuery identity type q, h => by
      have hq := isSafe_queryOperands hs q h
      exact .subQuery fun projection ↦ isSafe_query hs hq false projection
  | .factory type maker args, h =>
      isSafe_factory type maker fun a ha ↦ (isSafe_operands hs args h a ha).render
  | .template type t args, h => by
      simp only [Expr.isWellFormed, Bool.and_eq_true] at h
      have hargs := isSafe_operands hs args h.2
      refine isSafe_template hs type ?_ fun a ha ↦ (hargs a ha).render
      rw [operands_eq_map, List.length_map, Template.isWithin_eq_maxIndex]
      exact h.1

theorem isSafe_pathOperand (hs : s.profile.IsFitting) :
    ∀ p : Path, p.isWellFormed = true → (s.pathOperand p).IsSafe
  | .root type name, _ => isSafe_rootStep hs type name
  | .property type parent name, h =>
      isSafe_propertyStep hs type parent (isSafe_pathOperand hs parent h).render name
  | .listValue type parent index, h => by
      simp only [Path.isWellFormed, Bool.and_eq_true] at h
      have hparent := (isSafe_pathOperand hs parent h.1).render
      have hindex := (isSafe_operand hs index h.2).render
      exact isSafe_step hs _ rfl (by simpa using ⟨hparent, hindex⟩)
  | .listIndex type parent index, h => by
      have hparent := (isSafe_pathOperand hs parent h).render
      exact isSafe_step hs _ rfl (by simpa using ⟨hparent, isSafe_value _⟩)
  | .mapValue type parent key, h => by
      simp only [Path.isWellFormed, Bool.and_eq_true] at h
      have hparent := (isSafe_pathOperand hs parent h.1).render
      have hkey := (isSafe_operand hs key h.2).render
      exact isSafe_step hs _ rfl (by simpa using ⟨hparent, hkey⟩)
  | .mapKey type parent key, h => by
      have hparent := (isSafe_pathOperand hs parent h).render
      exact isSafe_step hs _ rfl (by simpa using ⟨hparent, isSafe_value _⟩)
  | .collectionAny type parent, h => by
      have hparent := (isSafe_pathOperand hs parent h).render
      exact isSafe_step hs _ rfl (by simpa using hparent)

theorem isSafe_operands (hs : s.profile.IsFitting) :
    ∀ es : List Expr, areWellFormed es = true → ∀ a ∈ s.operands es, a.IsSafe
  | [], _ => fun _ ha ↦ nomatch ha
  | e :: es, h => by
      simp only [areWellFormed, Bool.and_eq_true] at h
      intro a ha
      rcases List.mem_cons.mp ha with rfl | ha
      · exact isSafe_operand hs e h.1
      · exact isSafe_operands hs es h.2 a ha

theorem isSafe_operand? (hs : s.profile.IsFitting) :
    ∀ e : Option Expr, isWellFormed? e = true → ∀ a ∈ s.operand? e, a.render.IsSafe
  | none, _ => fun _ ha ↦ nomatch ha
  | some e, h => by
      intro a ha
      obtain rfl := Option.some.inj ha
      exact (isSafe_operand hs e h).render

theorem isSafe_joinOperands (hs : s.profile.IsFitting) :
    ∀ js : List (Join Expr), wellFormedJoins js = true → ∀ j ∈ s.joinOperands js,
      j.target.render.IsSafe ∧ ∀ c ∈ j.condition, c.render.IsSafe
  | [], _ => fun _ hj ↦ nomatch hj
  | ⟨kind, target, condition, fetch, fetchAll⟩ :: js, h => by
      simp only [wellFormedJoins, Bool.and_eq_true] at h
      intro j hj
      rcases List.mem_cons.mp hj with rfl | hj
      · exact ⟨(isSafe_operand hs target h.1.1).render, isSafe_operand? hs condition h.1.2⟩
      · exact isSafe_joinOperands hs js h.2 j hj

theorem isSafe_orderOperands (hs : s.profile.IsFitting) :
    ∀ keys : List (OrderKey Expr), wellFormedKeys keys = true →
      ∀ key ∈ s.orderOperands keys, key.target.render.IsSafe
  | [], _ => fun _ hkey ↦ nomatch hkey
  | ⟨target, direction, nulls⟩ :: keys, h => by
      simp only [wellFormedKeys, Bool.and_eq_true] at h
      intro key hkey
      rcases List.mem_cons.mp hkey with rfl | hkey
      · exact (isSafe_operand hs target h.1).render
      · exact isSafe_orderOperands hs keys h.2 key hkey

theorem isSafe_flagOperands (hs : s.profile.IsFitting) :
    ∀ flags : List (Flag Expr), wellFormedFlags flags = true →
      ∀ f ∈ s.flagOperands flags, f.render.IsSafe
  | [], _ => fun _ hf ↦ nomatch hf
  | ⟨position, .text text⟩ :: flags, h => by
      intro f hf
      rcases List.mem_cons.mp hf with rfl | hf
      · exact isSafe_text text
      · exact isSafe_flagOperands hs flags h f hf
  | ⟨position, .expr e⟩ :: flags, h => by
      simp only [wellFormedFlags, Bool.and_eq_true] at h
      intro f hf
      rcases List.mem_cons.mp hf with rfl | hf
      · exact (isSafe_operand hs e h.1).render
      · exact isSafe_flagOperands hs flags h.2 f hf

theorem isSafe_queryOperands (hs : s.profile.IsFitting) :
    ∀ q : Query Expr, q.isWellFormed = true → (s.queryOperands q).IsSafe
  | ⟨projection, joins, filter, groupBy, having, orderBy, modifiers, distinct, unique, flags,
      params⟩, h => by
      simp only [Query.isWellFormed, Bool.and_eq_true] at h
      obtain ⟨⟨⟨⟨⟨⟨hprojection, hjoins⟩, hfilter⟩, hgroupBy⟩, hhaving⟩, horderBy⟩, hflags⟩ := h
      exact
        { projection := fun a ha ↦ (isSafe_operands hs projection hprojection a ha).render
          joins := isSafe_joinOperands hs joins hjoins
          filter := isSafe_operand? hs filter hfilter
          groupBy := fun a ha ↦ (isSafe_operands hs groupBy hgroupBy a ha).render
          having := isSafe_operand? hs having hhaving
          orderBy := isSafe_orderOperands hs orderBy horderBy
          flags := isSafe_flagOperands hs flags hflags }

end

/-! ## Statements that change data -/

theorem isSafe_whereClause (hs : s.profile.IsFitting) {q : Query Expr}
    (h : q.isWellFormed = true) : (s.whereClause q).IsSafe := by
  have hfilter : isWellFormed? q.filter = true := by
    cases q
    simp only [Query.isWellFormed, Bool.and_eq_true] at h
    exact h.1.1.1.1.2
  have hsafe := isSafe_clause "\nwhere " (isSafe_operand? hs q.filter hfilter)
  rwa [operand?_eq_map, Option.map_map] at hsafe

theorem isSafe_target (hs : s.profile.IsFitting) {q : Query Expr} (h : q.isWellFormed = true)
    {j : Join Expr} {js : List (Join Expr)} (hjoins : q.joins = j :: js) :
    (s.source (s.operand j.target)).IsSafe := by
  have htarget : j.target.isWellFormed = true := by
    cases q
    obtain rfl : _ = j :: js := hjoins
    simp only [Query.isWellFormed, wellFormedJoins, Bool.and_eq_true] at h
    exact h.1.1.1.1.1.2.1.1
  exact isSafe_source (isSafe_operand hs j.target htarget).render

theorem isSafe_delete (hs : s.profile.IsFitting) {q : Query Expr} (h : q.isWellFormed = true) :
    (s.delete q).IsSafe := by
  unfold delete
  split
  · exact isSafe_fail rfl
  · rename_i j js hjoins
    exact ((isSafe_text _).append (isSafe_target hs h hjoins)).append (isSafe_whereClause hs h)

theorem isSafe_assignment (hs : s.profile.IsFitting) {a : Path × Expr}
    (hpath : a.1.isWellFormed = true) (hvalue : a.2.isWellFormed = true) :
    (s.assignment a).IsSafe := by
  unfold assignment
  refine ((isSafe_pathOperand hs a.1 hpath).render.append (isSafe_text _)).append ?_
  split
  · exact isSafe_text _
  · exact (isSafe_operand hs a.2 hvalue).render

theorem isSafe_update (hs : s.profile.IsFitting) {q : Query Expr} (h : q.isWellFormed = true)
    {assignments : List (Path × Expr)}
    (hassignments : ∀ a ∈ assignments, a.1.isWellFormed = true ∧ a.2.isWellFormed = true) :
    (s.update q assignments).IsSafe := by
  unfold update
  split
  · exact isSafe_fail rfl
  · rename_i j js hjoins
    split
    · exact isSafe_fail rfl
    · have hset : (commas (assignments.map s.assignment)).IsSafe := by
        refine isClosed_isSafe.separated ", " fun r hr ↦ ?_
        obtain ⟨a, ha, rfl⟩ := List.mem_map.mp hr
        exact isSafe_assignment hs (hassignments a ha).1 (hassignments a ha).2
      exact ((((isSafe_text _).append (isSafe_target hs h hjoins)).append (isSafe_text _)).append
        hset).append (isSafe_whereClause hs h)

theorem isSafe_columns (before : String) (root : Path) (ps : List Path) :
    (s.columns before root ps).IsSafe := by
  unfold columns
  split
  · exact isSafe_empty
  · refine IsSafe.between (isClosed_isSafe.separated ", " fun r hr ↦ ?_) _ _
    obtain ⟨p, _, rfl⟩ := List.mem_map.mp hr
    unfold column
    split
    · exact isSafe_text _
    · exact isSafe_fail rfl

theorem isSafe_rowSource (hs : s.profile.IsFitting) {source : RowSource}
    (h : source.isWellFormed = true) : (s.rowSource source).IsSafe := by
  cases source with
  | rows rows =>
      unfold rowSource
      dsimp only
      split
      · exact isSafe_fail rfl
      · refine (isSafe_text _).append (isClosed_isSafe.separated ", " fun r hr ↦ ?_)
        obtain ⟨row, hrow, rfl⟩ := List.mem_map.mp hr
        refine IsSafe.between (isClosed_isSafe.separated ", " fun r hr ↦ ?_) _ _
        obtain ⟨e, he, rfl⟩ := List.mem_map.mp hr
        have hwell := List.all_eq_true.mp (List.all_eq_true.mp h row hrow) e he
        exact (isSafe_operand hs e hwell).render
  | query q =>
      exact (isSafe_text _).append (isSafe_query hs (isSafe_queryOperands hs q h) false none)

theorem isSafe_insert (hs : s.profile.IsFitting) (root : Path) (columns : List Path)
    {source : RowSource} (h : source.isWellFormed = true) :
    (s.insert root columns source).IsSafe := by
  unfold insert
  split
  · exact isSafe_fail rfl
  · exact ((isSafe_text _).append (isSafe_columns _ root columns)).append (isSafe_rowSource hs h)

theorem isSafe_merge (hs : s.profile.IsFitting) (root : Path) (keys columns : List Path)
    {source : RowSource} (h : source.isWellFormed = true) :
    (s.merge root keys columns source).IsSafe := by
  unfold merge
  split
  · exact (((isSafe_text _).append (isSafe_columns _ root columns)).append
      (isSafe_columns _ root keys)).append (isSafe_rowSource hs h)
  · exact isSafe_fail rfl

theorem isSafe_rendering (hs : s.profile.IsFitting) {r : Request} (h : r.isWellFormed = true) :
    (r.rendering s).IsSafe := by
  cases r with
  | query q forCount projection =>
      exact isSafe_query hs (isSafe_queryOperands hs q h) forCount projection
  | expr e => exact (isSafe_operand hs e h).render
  | delete q => exact isSafe_delete hs h
  | update q assignments =>
      simp only [Request.isWellFormed, Bool.and_eq_true, List.all_eq_true] at h
      exact isSafe_update hs h.1 h.2
  | insert root columns source => exact isSafe_insert hs root columns h
  | merge root keys columns source => exact isSafe_merge hs root keys columns h

end Setup

namespace Serializer

/-- In the known dialects, a well-formed request fails only for a missing template, a missing
source, an unsupported feature, or an argument that cannot be used. -/
theorem isExpected_of_serialize {s : Serializer} (hknown : s.dialect.IsKnown) {r : Request}
    (hr : r.isWellFormed = true) {e : Error} (h : s.serialize r = .error e) :
    e.isExpected = true := by
  have hs : s.setup.profile.IsFitting := hknown.isFitting
  rw [serialize_eq, statement] at h
  cases hrender : r.rendering s.setup {} with
  | error e' =>
      rw [hrender] at h
      obtain rfl := Except.error.inj h
      exact Setup.isSafe_rendering hs hr {} e' hrender
  | ok chunks =>
      rw [hrender] at h
      cases h

/-- A cast whose target is no type. -/
def castToText : Request :=
  .expr (.operation .i32 (.op .numCast)
    [.path (.property .string (.entity "Cat" "cat") "name"), .ofValue (.string "i32")])

theorem serialize_castToText (s : Serializer) :
    s.serialize castToText = .error (.invalidArgument .castTarget) := by
  obtain ⟨⟨⟨_, family, _, _, _, _, _, _, _, _, _, _⟩, _⟩, _, _⟩ := s
  cases family <;> rfl

theorem isExpected_of_serialize_castToText : ∃ d, ("h2", .ok d) ∈ Dialect.known ∧
    castToText.isWellFormed = true ∧
    { dialect := d : Serializer }.serialize castToText = .error (.invalidArgument .castTarget) ∧
    Error.isExpected (.invalidArgument .castTarget) = true := by
  obtain ⟨d, hmem, _⟩ := Dialect.exists_h2
  have hwell : castToText.isWellFormed = true := by decide
  have hfails := serialize_castToText { dialect := d }
  exact ⟨d, hmem, hwell, hfails, isExpected_of_serialize ⟨"h2", hmem⟩ hwell hfails⟩

end Serializer

end TypedQuery
