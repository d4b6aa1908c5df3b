import TypedQuery.Proofs.Injection.Safety
import TypedQuery.Proofs.Templates

/-!
# Isolation of sub-queries

A select sets the scope of its parts by itself. A query whose flags are texts is therefore written
in the same way wherever it stands: as a statement, or in parentheses as a part of another one.
-/

namespace TypedQuery

namespace Rendering

/-- The same in every scope. -/
def IsScopeFree (r : Rendering) : Prop := ∀ scope scope', r scope = r scope'

variable {a b r : Rendering}

theorem isScopeFree_text (t : String) : (text t).IsScopeFree := fun _ _ ↦ rfl

theorem isScopeFree_fail (e : Error) : (fail e).IsScopeFree := fun _ _ ↦ rfl

theorem isScopeFree_empty : empty.IsScopeFree := fun _ _ ↦ rfl

theorem IsScopeFree.append (ha : a.IsScopeFree) (hb : b.IsScopeFree) : (a ++ b).IsScopeFree := by
  intro scope scope'
  rw [append_apply, append_apply, ha scope scope', hb scope scope']

theorem isClosed_isScopeFree : IsClosed IsScopeFree where
  empty := isScopeFree_empty
  text := isScopeFree_text
  placeholder _ _ _ _ := rfl
  append := IsScopeFree.append

theorem IsScopeFree.within (h : r.IsScopeFree) (change : Scope → Scope) :
    (r.within change).IsScopeFree := fun scope scope' ↦ h (change scope) (change scope')

theorem isScopeFree_within_const (r : Rendering) (scope : Scope) :
    (r.within fun _ ↦ scope).IsScopeFree := fun _ _ ↦ rfl

end Rendering

open Rendering

namespace Setup

variable {s : Setup} {q : Query Operand} {args : List Operand}

/-! ## Templates -/

theorem isScopeFree_entry_apply {operation : Op → List Operand → Operand}
    (hop : Keeps IsScopeFree operation) (hargs : ∀ a ∈ args, a.render.IsScopeFree)
    (e : TemplateEntry) : (entry.apply s operation args e).IsScopeFree := by
  refine isClosed_isScopeFree.concat fun r hr ↦ ?_
  obtain ⟨slot, _, rfl⟩ := List.mem_map.mp hr
  exact element_of_isClosed isClosed_isScopeFree (.inr hop) (.inr (isScopeFree_fail _)) hargs _

theorem isScopeFree_entry {operation : Op → List Operand → Operand}
    (hop : Keeps IsScopeFree operation) (hargs : ∀ a ∈ args, a.render.IsScopeFree)
    (operator : Operator) : (s.entry operation operator args).IsScopeFree := by
  unfold entry
  split
  · exact isScopeFree_fail _
  · split
    · split
      · exact isScopeFree_entry_apply hop hargs _
      · exact isScopeFree_fail _
    · exact isScopeFree_entry_apply hop hargs _

theorem isScopeFree_textOperation (depth : Nat) (op : Op)
    (hargs : ∀ a ∈ args, a.render.IsScopeFree) :
    (s.textOperation depth op args).render.IsScopeFree := by
  induction depth generalizing op args with
  | zero => exact isScopeFree_fail _
  | succ depth ih =>
      have hkeeps : Keeps IsScopeFree (s.textOperation depth) := keeps_of_forall fun op _ ↦ ih op
      exact (isScopeFree_entry hkeeps hargs (.op op)).within _

theorem isScopeFree_apply (t : Template) (precedence : Int)
    (hargs : ∀ a ∈ args, a.render.IsScopeFree) : (s.apply t precedence args).IsScopeFree := by
  have hkeeps : Keeps IsScopeFree (s.textOperation expansionDepth) :=
    keeps_of_forall fun op _ ↦ isScopeFree_textOperation expansionDepth op
  refine isClosed_isScopeFree.concat fun r hr ↦ ?_
  obtain ⟨slot, _, rfl⟩ := List.mem_map.mp hr
  exact element_of_isClosed isClosed_isScopeFree (.inr hkeeps) (.inr (isScopeFree_fail _)) hargs _

/-! ## Selects -/

theorem flagsAt_addFlag {position : Position} (added : Position) (h : added ≠ position)
    (content : FlagContent Operand) :
    (q.addFlag ⟨added, content⟩).flagsAt position = q.flagsAt position := by
  unfold Query.addFlag
  split
  · rfl
  · simp [Query.flagsAt, h]

theorem flagsAt_removeFlagsAt {position removed : Position} (h : position ≠ removed) :
    (q.removeFlagsAt removed).flagsAt position = q.flagsAt position := by
  simp only [Query.flagsAt, Query.removeFlagsAt, List.filter_filter]
  refine List.filter_congr fun f _ ↦ ?_
  by_cases hf : f.position = position
  · simp [hf, h]
  · simp [hf]

theorem isScopeFree_flagText {position : Position}
    (h : (q.flagsAt position).all Flag.isText = true) : (q.flagText position).IsScopeFree := by
  refine isClosed_isScopeFree.concat fun r hr ↦ ?_
  obtain ⟨flag, hflag, rfl⟩ := List.mem_map.mp hr
  have htext := List.all_eq_true.mp h flag hflag
  unfold Flag.isText at htext
  unfold Flag.render
  split
  · exact isScopeFree_text _
  · rename_i hcontent
    simp [hcontent] at htext

/-- Only the flags at the start see the scope in which a select stands. -/
theorem isScopeFree_select (h : (q.flagsAt .start).all Flag.isText = true) (forCount : Bool)
    (projection : Option String) : (s.select q forCount projection).IsScopeFree := by
  unfold select
  split
  · exact isScopeFree_fail _
  · -- whatever stands behind these flags has a scope of its own
    exact (((isScopeFree_flagText h).within _).append (isScopeFree_within_const _ _)).append
      (isScopeFree_within_const _ _)

theorem isScopeFree_rowNumbered (hstart : (q.flagsAt .start).all Flag.isText = true)
    (hfinish : (q.flagsAt .finish).all Flag.isText = true) (top : Template)
    (forms : LimitForms Template) (projection : Option String) :
    (s.rowNumbered top forms q projection).IsScopeFree := by
  have hselect : ∀ {q' : Query Operand}, q'.flagsAt .start = q.flagsAt .start →
      (s.select q' false projection).IsScopeFree := by
    intro q' hflags
    exact isScopeFree_select (by rw [hflags]; exact hstart) false projection
  -- flags are added within the projection only
  have hinner : Query.flagsAt { q.removeFlagsAt .finish with modifiers := {} } .start =
      q.flagsAt .start := flagsAt_removeFlagsAt (by decide)
  have hcounts : ∀ (t : Template) (ns : List UInt64),
      (s.apply t (-1) (ns.map s.count)).IsScopeFree := by
    intro t ns
    refine isScopeFree_apply t (-1) fun a ha ↦ ?_
    obtain ⟨n, _, rfl⟩ := List.mem_map.mp ha
    exact value_of_isClosed isClosed_isScopeFree _
  unfold rowNumbered
  refine IsScopeFree.append ?_ (isScopeFree_flagText hfinish)
  dsimp only
  split
  · exact hselect ((flagsAt_addFlag .afterSelect (by decide) _).trans hinner)
  · refine (((isScopeFree_text _).append (hselect ?_)).append (isScopeFree_text _)).append ?_
    · exact (flagsAt_addFlag .afterProjection (by decide) _).trans hinner
    · split
      · exact hcounts _ [_, _]
      · exact hcounts _ [_]
  · exact hselect hinner

/-- A query with texts as flags is written in the same way in every scope. -/
theorem isScopeFree_query (h : q.flags.all Flag.isText = true) (forCount : Bool)
    (projection : Option String) : (s.query q forCount projection).IsScopeFree := by
  have hat : ∀ position, (q.flagsAt position).all Flag.isText = true := by
    intro position
    rw [List.all_eq_true] at h ⊢
    exact fun flag hflag ↦ h flag (List.mem_of_mem_filter hflag)
  unfold query
  split
  · split
    · exact isScopeFree_rowNumbered (hat .start) (hat .finish) _ _ projection
    · exact isScopeFree_select (hat .start) forCount projection
  · exact isScopeFree_select (hat .start) forCount projection

end Setup

/-! ## Layouts -/

namespace Layout

theorem anonymous_append (before chunks : List Chunk) :
    anonymous (before ++ chunks) = ((anonymous before).1 ++ (anonymous chunks).1,
      (anonymous before).2 ++ (anonymous chunks).2) := by
  induction before with
  | nil => rfl
  | cons c before ih => cases c <;> simp [anonymous, ih]

theorem anonymous_layout_append (before chunks : List Chunk) :
    layout .anonymous (before ++ chunks) =
      ((layout .anonymous before).1 ++ (layout .anonymous chunks).1,
        (layout .anonymous before).2 ++ (layout .anonymous chunks).2) := by
  simp [layout, anonymous_append]

theorem anonymous_layout_text (t : String) : layout .anonymous [.text t] = (t, []) := by
  simp [layout, anonymous]

end Layout

namespace Serializer

/-- In every scope and behind any chunks, a sub-query whose flags are texts fails with the error of
its own statement, or adds the text of that statement in parentheses and its bindings. -/
theorem subQuery_isolated (s : Serializer) (hs : s.dialect.placeholders = .anonymous)
    (identity : Nat) (type : ValueType) {q : Query Expr} (hq : q.flags.all Flag.isText = true)
    (scope : Scope) (before : List Chunk) :
    match s.query q false none with
    | .error e => s.setup.expr (.subQuery identity type q) scope = .error e
    | .ok statement =>
        ∃ chunks, s.setup.expr (.subQuery identity type q) scope = .ok chunks ∧
          layout s.dialect.placeholders (before ++ chunks) =
            ((layout s.dialect.placeholders before).1 ++ "(" ++ statement.text ++ ")",
              (layout s.dialect.placeholders before).2 ++ statement.bindings) := by
  have hflags : (s.setup.queryOperands q).flags.all Flag.isText = true := by
    cases q
    exact (Setup.isText_flagOperands _).trans hq
  have hfree := Setup.isScopeFree_query (s := s.setup) hflags false none scope {}
  have hexpr : s.setup.expr (.subQuery identity type q) scope =
      ((s.setup.query (s.setup.queryOperands q) false none) {}).map fun chunks ↦
        [.text "("] ++ chunks ++ [.text ")"] := by
    show (text "(" ++ s.setup.query (s.setup.queryOperands q) false none ++ text ")") scope = _
    rw [append_apply, append_apply, hfree]
    cases s.setup.query (s.setup.queryOperands q) false none {} <;> rfl
  rw [hexpr, query, statement]
  cases hrender : s.setup.query (s.setup.queryOperands q) false none {} with
  | error e => rfl
  | ok chunks =>
      refine ⟨_, rfl, ?_⟩
      rw [hs, Layout.anonymous_layout_append, Layout.anonymous_layout_append,
        Layout.anonymous_layout_append, Layout.anonymous_layout_text, Layout.anonymous_layout_text]
      simp [String.append_assoc]

/-- The names of all cats, locked for changes. -/
def lockedNames : Query Expr :=
  { projection := [.path (.property .string (.entity "Cat" "cat") "name")]
    joins := [{ kind := .listed, target := .path (.entity "Cat" "cat") }]
    flags := [⟨.finish, .text "\nfor update"⟩] }

theorem subQuery_isolated_lockedNames : ∃ d, ("h2", .ok d) ∈ Dialect.known ∧
    match { dialect := d : Serializer }.query lockedNames false none with
    | .error e =>
        { dialect := d : Serializer }.setup.expr (.subQuery 0 .string lockedNames) ⟨true, true⟩ =
          .error e
    | .ok statement =>
        ∃ chunks,
          { dialect := d : Serializer }.setup.expr (.subQuery 0 .string lockedNames)
            ⟨true, true⟩ = .ok chunks ∧
          layout d.placeholders ([.placeholder .i32 (.value (.i32 1)), .text " = "] ++ chunks) =
            ("? = " ++ "(" ++ statement.text ++ ")",
              [.value (.i32 1)] ++ statement.bindings) := by
  obtain ⟨d, hmem, _⟩ := Dialect.exists_h2
  have hanonymous : d.placeholders = .anonymous :=
    (Dialect.placeholders_eq_anonymous_iff hmem).mpr (by decide)
  have h := subQuery_isolated { dialect := d } hanonymous 0 .string (q := lockedNames) rfl
    ⟨true, true⟩ [.placeholder .i32 (.value (.i32 1)), .text " = "]
  refine ⟨d, hmem, ?_⟩
  have hbefore : layout d.placeholders
      [.placeholder .i32 (.value (.i32 1)), .text " = "] = ("? = ", [.value (.i32 1)]) := by
    rw [hanonymous]
    rfl
  rw [hbefore] at h
  exact h

end Serializer

end TypedQuery
