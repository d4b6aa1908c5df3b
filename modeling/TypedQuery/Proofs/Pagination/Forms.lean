import TypedQuery.Proofs.KnownDialects
import TypedQuery.Rendering.Select

/-!
# How the known SQL dialects write limits

Most write clauses with placeholders behind a query, one writes the numbers out, and one writes a
limit alone behind the word `select` and numbers the rows otherwise.
-/

namespace TypedQuery

/-! ## The last pagination -/

def Setting.pagination? : Setting → Option (Pagination String)
  | .pagination forms => some forms
  | _ => none

namespace Dialect

variable {d d' : Dialect} {settings : List Setting} {forms : Pagination String}

theorem pagination_of_set {setting : Setting} (h : d.set setting = .ok d') :
    (∀ forms, setting.pagination? = some forms → forms.parse = .ok d'.pagination) ∧
      (setting.pagination? = none → d'.pagination = d.pagination) := by
  cases setting with
  | template | templateAt | custom | escape =>
      obtain ⟨r, _, rfl⟩ := exists_of_withRegistry h
      simp [Setting.pagination?]
  | pagination forms =>
      obtain ⟨parsed, hparsed, h⟩ := exists_of_bind h
      cases h
      simpa [Setting.pagination?] using hparsed
  | _ =>
      cases h
      exact ⟨nofun, fun _ ↦ rfl⟩

def lastPagination? (settings : List Setting) : Option (Pagination String) :=
  settings.reverse.findSome? Setting.pagination?

theorem pagination_of_foldlM_set (h : settings.foldlM set d = .ok d')
    (hforms : lastPagination? settings = some forms) : forms.parse = .ok d'.pagination := by
  induction settings using List.reverseRecOn generalizing d' with
  | nil => cases hforms
  | append_singleton settings setting ih =>
      rw [List.foldlM_append] at h
      obtain ⟨middle, hbefore, hlast⟩ := exists_of_bind h
      simp only [List.foldlM_cons, List.foldlM_nil, bind_pure] at hlast
      obtain ⟨hsome, hnone⟩ := pagination_of_set hlast
      cases hs : setting.pagination? with
      | some own =>
          obtain rfl : own = forms := by simpa [lastPagination?, hs] using hforms
          exact hsome _ hs
      | none =>
          rw [hnone hs]
          exact ih hbefore (by simpa [lastPagination?, hs] using hforms)

theorem pagination_of_build {name : String} {family : Family}
    (h : build name family settings = .ok d) (hforms : lastPagination? settings = some forms) :
    forms.parse = .ok d.pagination := by
  obtain ⟨first, _, hfold⟩ := exists_of_build h
  exact pagination_of_foldlM_set hfold hforms

/-- Without a setting that speaks of it, pagination is left to whoever runs a statement. -/
theorem external_of_build {name : String} {family : Family} (h : build name family settings = .ok d)
    (hfree : ∀ setting ∈ settings, setting.pagination? = none) : d.pagination = .external := by
  obtain ⟨first, hstart, hfold⟩ := exists_of_build h
  obtain ⟨_, _, hstart⟩ := exists_of_bind hstart
  obtain ⟨_, _, hstart⟩ := exists_of_bind hstart
  obtain ⟨_, _, hstart⟩ := exists_of_bind hstart
  obtain rfl := Except.ok.inj hstart
  exact foldlM_set_eq (·.pagination) settings
    (fun setting hsetting _ _ hset ↦ (pagination_of_set hset).2 (hfree setting hsetting)) hfold

end Dialect

/-! ## The forms -/

namespace LimitForms

/-- Clauses with placeholders. -/
def clauses : LimitForms Template :=
  ⟨⟨"\nlimit {0}", [.text "\nlimit ", .arg 0]⟩, ⟨"\noffset {0}", [.text "\noffset ", .arg 0]⟩,
    ⟨"\nlimit {0}\noffset {1}", [.text "\nlimit ", .arg 0, .text "\noffset ", .arg 1]⟩⟩

/-- Clauses with the numbers written out. -/
def fetching : LimitForms Template :=
  ⟨⟨"\nfetch first {0s} rows only", [.text "\nfetch first ", .inlined 0, .text " rows only"]⟩,
    ⟨"\noffset {0s} rows", [.text "\noffset ", .inlined 0, .text " rows"]⟩,
    ⟨"\noffset {1s} rows fetch next {0s} rows only",
      [.text "\noffset ", .inlined 1, .text " rows fetch next ", .inlined 0, .text " rows only"]⟩⟩

/-- Conditions on numbered rows. -/
def windows : LimitForms Template :=
  ⟨⟨"row_number <= {0}", [.text "row_number <= ", .arg 0]⟩,
    ⟨"row_number > {0}", [.text "row_number > ", .arg 0]⟩,
    ⟨"row_number > {0} and row_number <= {1}",
      [.text "row_number > ", .arg 0, .text " and row_number <= ", .arg 1]⟩⟩

end LimitForms

/-- The word for a limit behind `select`. -/
def Template.top : Template := ⟨"top ({0}) ", [.text "top (", .arg 0, .text ") "]⟩

namespace Dialect

/-- The three ways in which the known SQL dialects write limits. The latter two have anonymous
placeholders. -/
inductive Paginates (d : Dialect) : Prop
  | clauses (h : d.pagination = .limitOffset .clauses)
  | fetching (h : d.pagination = .fetchFirst .fetching) (hstyle : d.placeholders = .anonymous)
  | numbering (h : d.pagination = .topRowNumber .top .windows)
      (hstyle : d.placeholders = .anonymous)

theorem IsKnown.paginates {d : Dialect} (h : d.IsKnown) (hsql : d.family = .sql) : d.Paginates := by
  obtain ⟨r, hr, hbuild⟩ := h.exists_recipe
  have hfamily := (family_of_build hbuild).symm.trans hsql
  have hstyle := placeholders_of_build hbuild
  have hforms : ∀ forms, lastPagination? r.2.2 = some forms → forms.parse = .ok d.pagination :=
    fun _ ↦ pagination_of_build hbuild
  simp only [recipes, List.mem_cons, List.not_mem_nil, or_false] at hr
  rcases hr with rfl | rfl | rfl | rfl | rfl | rfl | rfl | rfl
  · cases hfamily
  · cases hfamily
  · exact .clauses (Except.ok.inj (hforms _ rfl)).symm
  · exact .clauses (Except.ok.inj (hforms _ rfl)).symm
  · exact .clauses (Except.ok.inj (hforms _ rfl)).symm
  · exact .clauses (Except.ok.inj (hforms _ rfl)).symm
  · exact .fetching (Except.ok.inj (hforms _ rfl)).symm hstyle
  · exact .numbering (Except.ok.inj (hforms _ rfl)).symm hstyle

/-- The known object query languages have no way of their own to write limits. -/
theorem IsKnown.external {d : Dialect} (h : d.IsKnown) (hjpql : d.family = .jpql) :
    d.pagination = .external := by
  have hfree : ∀ r ∈ recipes, r.2.1 = .jpql →
      ∀ setting ∈ r.2.2, setting.pagination? = none := by decide
  obtain ⟨r, hr, hbuild⟩ := h.exists_recipe
  exact external_of_build hbuild (hfree r hr ((family_of_build hbuild).symm.trans hjpql))

end Dialect

end TypedQuery
