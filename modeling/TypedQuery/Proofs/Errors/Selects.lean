import TypedQuery.Proofs.Errors.Operations
import TypedQuery.Rendering.Select

/-!
# Errors of selects

The parts of a select fail only as their expressions do, or for a missing source. The templates for
limits and for numbered rows are given as many arguments as they have slots.
-/

namespace TypedQuery

open Rendering

/-- A query whose expressions are safe to write. -/
structure Query.IsSafe (q : Query Operand) : Prop where
  projection : ∀ e ∈ q.projection, e.render.IsSafe
  joins : ∀ j ∈ q.joins, j.target.render.IsSafe ∧ ∀ c ∈ j.condition, c.render.IsSafe
  filter : ∀ e ∈ q.filter, e.render.IsSafe
  groupBy : ∀ e ∈ q.groupBy, e.render.IsSafe
  having : ∀ e ∈ q.having, e.render.IsSafe
  orderBy : ∀ key ∈ q.orderBy, key.target.render.IsSafe
  flags : ∀ f ∈ q.flags, f.render.IsSafe

namespace Query

variable {q : Query Operand}

theorem IsSafe.flagText (h : q.IsSafe) (position : Position) : (q.flagText position).IsSafe := by
  refine isClosed_isSafe.concat fun r hr ↦ ?_
  obtain ⟨f, hf, rfl⟩ := List.mem_map.mp hr
  exact h.flags f (List.mem_filter.mp hf).1

theorem isSafe_items {es : List Operand} (h : ∀ e ∈ es, e.render.IsSafe) : (items es).IsSafe := by
  refine isClosed_isSafe.separated ", " fun r hr ↦ ?_
  obtain ⟨e, he, rfl⟩ := List.mem_map.mp hr
  exact h e he

theorem IsSafe.addFlag (h : q.IsSafe) {flag : Flag Operand} (hflag : flag.render.IsSafe) :
    (q.addFlag flag).IsSafe := by
  unfold Query.addFlag
  split
  · exact h
  · refine { h with flags := fun f hf ↦ ?_ }
    rcases List.mem_append.mp hf with hf | hf
    · exact h.flags f hf
    · obtain rfl := List.mem_singleton.mp hf
      exact hflag

theorem IsSafe.withoutFinish (h : q.IsSafe) :
    IsSafe { q.removeFlagsAt .finish with modifiers := {} } :=
  { h with flags := fun f hf ↦ h.flags f (List.mem_filter.mp hf).1 }

theorem IsSafe.withoutOrder (h : q.IsSafe) : IsSafe { q with orderBy := [] } :=
  { h with orderBy := fun _ hkey ↦ nomatch hkey }

end Query

namespace Setup

variable {s : Setup} {q : Query Operand}

/-! ## Sources -/

theorem isSafe_source {target : Operand} (h : target.render.IsSafe) : (s.source target).IsSafe := by
  unfold source
  split
  · split
    · exact (isSafe_text _).append h
    · exact h
  · exact h

theorem isSafe_joined (forCount : Bool) {j : Join Operand} (htarget : j.target.render.IsSafe)
    (hcondition : ∀ c ∈ j.condition, c.render.IsSafe) : (s.joined forCount j).IsSafe := by
  unfold joined
  refine (((isSafe_text _).append (isSafe_source htarget)).append (isSafe_text _)).append ?_
  split
  · rename_i c hc
    exact (isSafe_text _).append (hcondition c hc)
  · exact isSafe_empty

theorem isSafe_sources (forCount : Bool) {js : List (Join Operand)}
    (h : ∀ j ∈ js, j.target.render.IsSafe ∧ ∀ c ∈ j.condition, c.render.IsSafe) :
    (s.sources forCount js).IsSafe := by
  have hjoined : ∀ j ∈ js, (s.joined forCount j).IsSafe := fun j hj ↦
    isSafe_joined forCount (h j hj).1 (h j hj).2
  cases js with
  | nil => exact isSafe_empty
  | cons j js =>
      refine (hjoined j List.mem_cons_self).append (isClosed_isSafe.concat fun r hr ↦ ?_)
      obtain ⟨j', hj', rfl⟩ := List.mem_map.mp hr
      exact (isSafe_text _).append (hjoined j' (List.mem_cons_of_mem _ hj'))

/-! ## The select -/

theorem isSafe_orderKey {key : OrderKey Operand} (h : key.target.render.IsSafe) :
    (s.orderKey key).IsSafe :=
  h.append (isSafe_text _)

theorem isSafe_counts (hs : s.profile.IsFitting) {t : Template} (ns : List UInt64)
    (hwithin : t.isWithin ns.length = true) : (s.apply t (-1) (ns.map s.count)).IsSafe := by
  refine isSafe_apply hs (by rwa [List.length_map]) (-1) fun a ha ↦ ?_
  obtain ⟨n, _, rfl⟩ := List.mem_map.mp ha
  exact isSafe_value _

theorem isSafe_limits (hs : s.profile.IsFitting) (m : Modifiers) : (s.limits m).IsSafe := by
  have hpagination := hs.pagination
  unfold limits
  split
  case h_3 => exact isSafe_empty
  case h_1 | h_2 =>
    rename_i forms hforms
    rw [hforms] at hpagination
    simp only [Pagination.isFitting, Bool.and_eq_true] at hpagination
    obtain ⟨⟨hlimit, hoffset⟩, hboth⟩ := hpagination
    split
    · exact isSafe_counts hs [_] hlimit
    · exact isSafe_counts hs [_] hoffset
    · exact isSafe_counts hs [_, _] hboth
    · exact isSafe_empty

theorem isSafe_countTarget (hq : q.IsSafe) : (s.countTarget q).IsSafe := by
  unfold countTarget
  split
  · exact isSafe_text "*"
  · exact Query.isSafe_items hq.projection
  · split
    · split
      · exact isSafe_fail rfl
      · rename_i j js hjoins
        exact (hq.joins j (hjoins ▸ List.mem_cons_self)).1
    · exact Query.isSafe_items hq.projection

theorem isSafe_projected (hq : q.IsSafe) : (s.projected q).IsSafe := by
  unfold projected
  split
  · exact isSafe_text "*"
  · exact isSafe_fail rfl
  · rename_i j js _ _ hjoins
    exact (hq.joins j (hjoins ▸ List.mem_cons_self)).1
  · exact Query.isSafe_items hq.projection

theorem isSafe_selectWord (hq : q.IsSafe) : (selectWord q).IsSafe := by
  unfold selectWord
  split
  · exact isSafe_text _
  · exact hq.flagText _

theorem isSafe_head (hq : q.IsSafe) (forCount : Bool) (projection : Option String) :
    (s.head q forCount projection).IsSafe := by
  unfold head
  split
  · exact isSafe_text _
  · exact (isSafe_countTarget hq).between _ _
  · exact ((isSafe_selectWord hq).append (hq.flagText _)).append (isSafe_projected hq)

theorem isSafe_clause (keyword : String) {e : Option Operand} (h : ∀ a ∈ e, a.render.IsSafe) :
    (clause keyword (e.map Operand.render)).IsSafe := by
  cases e with
  | none => exact isSafe_empty
  | some a => exact (isSafe_text keyword).append (h a rfl)

theorem isSafe_listClause (keyword separator : String) {rs : List Rendering}
    (h : ∀ r ∈ rs, r.IsSafe) : (listClause keyword separator rs).IsSafe := by
  unfold listClause
  split
  · exact isSafe_empty
  · exact (isSafe_text keyword).append (isClosed_isSafe.separated separator h)

theorem isSafe_clauses (hq : q.IsSafe) (forCount : Bool) : (s.clauses q forCount).IsSafe := by
  have hfrom : (clause "\nfrom "
      (if q.joins.isEmpty then none else some (s.sources forCount q.joins))).IsSafe := by
    split
    · exact isSafe_empty
    · exact (isSafe_text _).append (isSafe_sources forCount hq.joins)
  have hgroup : ∀ r ∈ q.groupBy.map Operand.render, r.IsSafe := by
    intro r hr
    obtain ⟨e, he, rfl⟩ := List.mem_map.mp hr
    exact hq.groupBy e he
  refine isClosed_isSafe.concat ?_
  simp only [List.forall_mem_cons]
  exact ⟨hfrom, hq.flagText _, isSafe_clause _ hq.filter, hq.flagText _, hq.flagText _,
    isSafe_listClause _ _ hgroup, hq.flagText _, hq.flagText _, isSafe_clause _ hq.having,
    hq.flagText _, List.forall_mem_nil _⟩

theorem isSafe_ordering (hs : s.profile.IsFitting) (hq : q.IsSafe) : (s.ordering q).IsSafe := by
  have hkeys : ∀ r ∈ q.orderBy.map s.orderKey, r.IsSafe := by
    intro r hr
    obtain ⟨key, hkey, rfl⟩ := List.mem_map.mp hr
    exact isSafe_orderKey (hq.orderBy key hkey)
  refine isClosed_isSafe.concat ?_
  simp only [List.forall_mem_cons]
  exact ⟨hq.flagText _, isSafe_listClause _ _ hkeys, hq.flagText _, isSafe_limits hs _,
    List.forall_mem_nil _⟩

theorem isSafe_select (hs : s.profile.IsFitting) (hq : q.IsSafe) (forCount : Bool)
    (projection : Option String) : (s.select q forCount projection).IsSafe := by
  unfold select
  split
  · exact isSafe_fail rfl
  · have hordering : (if forCount then Rendering.empty else s.ordering q).IsSafe := by
      split
      · exact isSafe_empty
      · exact isSafe_ordering hs hq
    have hhead : (s.head q forCount projection).IsSafe := isSafe_head hq forCount projection
    have hclauses : (s.clauses q forCount).IsSafe := isSafe_clauses hq forCount
    have hprojection := hhead.append (hq.flagText .afterProjection)
    have hrest := (hclauses.append hordering).append (hq.flagText .finish)
    exact (((hq.flagText .start).within _).append (hprojection.within _)).append (hrest.within _)

/-! ## Numbered rows -/

theorem isWithin_numberingElements (nullsOrdering : Bool) (keys : List (OrderKey Operand))
    (index : Nat) (before : String) :
    ∀ slot ∈ numberingElements nullsOrdering index before keys,
      slot.isWithin (index + keys.length) = true := by
  induction keys generalizing index before with
  | nil =>
      intro slot hslot
      obtain rfl := List.mem_singleton.mp hslot
      rfl
  | cons key keys ih =>
      intro slot hslot
      unfold numberingElements at hslot
      rcases List.mem_cons.mp hslot with rfl | hslot
      · rfl
      rcases List.mem_cons.mp hslot with rfl | hslot
      · simp [Element.isWithin, Element.index?]
      · -- the slots for the other keys start one argument later
        have h := ih (index + 1) _ slot hslot
        rw [List.length_cons]
        rwa [Nat.add_assoc, Nat.add_comm 1] at h

theorem isSafe_rowNumber (hs : s.profile.IsFitting) {keys : List (OrderKey Operand)}
    (h : ∀ key ∈ keys, key.target.render.IsSafe) : (s.rowNumber keys).IsSafe := by
  refine isSafe_template hs _ (List.all_eq_true.mpr fun slot hslot ↦ ?_) fun a ha ↦ ?_
  · have hwithin := isWithin_numberingElements _ keys 0 _ slot hslot
    rwa [Nat.zero_add, ← List.length_map OrderKey.target] at hwithin
  · obtain ⟨key, hkey, rfl⟩ := List.mem_map.mp ha
    exact h key hkey

theorem isSafe_rowNumberColumn (hs : s.profile.IsFitting) {keys : List (OrderKey Operand)}
    (h : ∀ key ∈ keys, key.target.render.IsSafe) : (s.rowNumberColumn keys).IsSafe := by
  have haliased : ∀ a ∈ [s.rowNumber keys, s.rootStep .i64 "row_number"], a.IsSafe := by
    simpa using ⟨isSafe_rowNumber hs h, isSafe_rootStep hs .i64 "row_number"⟩
  refine isSafe_template hs .i64 rfl fun a ha ↦ ?_
  obtain rfl := List.mem_singleton.mp ha
  exact (isSafe_operation hs .i64 rfl haliased).render

theorem isSafe_rowNumbered (hs : s.profile.IsFitting) (hq : q.IsSafe) {top : Template}
    {forms : LimitForms Template} (htop : top.isWithin 1 = true)
    (hoffset : forms.offset.isWithin 1 = true) (hboth : forms.both.isWithin 2 = true)
    (projection : Option String) : (s.rowNumbered top forms q projection).IsSafe := by
  have hinner := hq.withoutFinish
  unfold rowNumbered
  refine IsSafe.append ?_ (hq.flagText .finish)
  dsimp only
  split
  · refine isSafe_select hs (hinner.addFlag ?_) false projection
    exact isSafe_counts hs [_] htop
  · have hcolumn : (Flag.render ⟨.afterProjection, .expr (s.rowNumberColumn q.orderBy)⟩).IsSafe :=
      (isSafe_rowNumberColumn hs hq.orderBy).render
    refine (((isSafe_text _).append (isSafe_select hs
      (hinner.addFlag hcolumn).withoutOrder false projection)).append (isSafe_text _)).append ?_
    split
    · exact isSafe_counts hs [_, _] hboth
    · exact isSafe_counts hs [_] hoffset
  · exact isSafe_select hs hinner false projection

theorem isSafe_query (hs : s.profile.IsFitting) (hq : q.IsSafe) (forCount : Bool)
    (projection : Option String) : (s.query q forCount projection).IsSafe := by
  have hselect := isSafe_select hs hq forCount projection
  have hpagination := hs.pagination
  unfold query
  split
  · rename_i top forms hforms
    rw [hforms] at hpagination
    simp only [Pagination.isFitting, Bool.and_eq_true] at hpagination
    obtain ⟨⟨htop, hoffset⟩, hboth⟩ := hpagination
    split
    · exact isSafe_rowNumbered hs hq htop hoffset hboth projection
    · exact hselect
  · exact hselect

end Setup

end TypedQuery
