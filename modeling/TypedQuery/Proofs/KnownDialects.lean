import TypedQuery.Proofs.Registration

/-!
# Templates of the known dialects

A known dialect starts from the templates of its family and changes some of them. All others are the
same in every known dialect: the paths, and the operators that no family and no dialect registers
again.
-/

namespace TypedQuery

namespace Registry

theorem nodup_baseOps : (baseOps.map Prod.fst).Nodup := by decide

theorem exists_of_registerBase {r r' : Registry} (h : r.registerBase = .ok r') :
    ∃ ops root, r.registerOps baseOps = .ok ops ∧
      ops.registerWith (.path .root) "{0s}" (-1) = .ok root ∧
      root.registerWith (.path .property) "{0}.{1s}" (-1) = .ok r' := by
  obtain ⟨ops, hops, h⟩ := exists_of_bind h
  obtain ⟨root, hroot, h⟩ := exists_of_bind h
  exact ⟨ops, root, hops, hroot, h⟩

/-- The operators that a family registers for itself. -/
def familyOps : Family → List Op
  | .jpql => .concat :: jpqlOps.map Prod.fst
  | .sql => sqlOps.map Prod.fst

theorem get?_of_registerFamily {r r' : Registry} {family : Family}
    (h : r.registerFamily family = .ok r') {operator : Operator}
    (hfree : ∀ op ∈ familyOps family, operator ≠ .op op) :
    r'.get? operator = r.get? operator := by
  have hnot : ∀ entries : List (Op × String), (∀ e ∈ entries, operator ≠ .op e.1) →
      operator ∉ entries.map fun e ↦ Operator.op e.1 := by
    intro entries hentries hin
    obtain ⟨e, he, heq⟩ := List.mem_map.mp hin
    exact hentries e he heq.symm
  cases family with
  | jpql =>
      obtain ⟨ops, hops, h⟩ := exists_of_bind h
      rw [get?_of_registerWith h (hfree .concat (by simp [familyOps])),
        get?_of_registerOps hops (hnot _ fun e he ↦ hfree e.1 ?_), get?_layer]
      exact List.mem_cons_of_mem _ (List.mem_map_of_mem he)
  | sql =>
      rw [get?_of_registerOps h (hnot _ fun e he ↦ hfree e.1 (List.mem_map_of_mem he)),
        get?_layer]

end Registry

namespace Dialect

/-- The steps by which a family's dialect without settings comes about. -/
theorem exists_of_start {name : String} {family : Family} {d : Dialect}
    (h : start name family = .ok d) :
    ∃ base like last, (Registry.empty.layer "base").registerBase = .ok base ∧
      (base.layer "like").registerLike family.escape = .ok like ∧
      like.registerFamily family = .ok last ∧ d.registry = last.layer name ∧
      d.family = family ∧ d.placeholders = family.placeholders ∧ d.quote = none := by
  obtain ⟨base, hbase, h⟩ := exists_of_bind h
  obtain ⟨like, hlike, h⟩ := exists_of_bind h
  obtain ⟨last, hlast, h⟩ := exists_of_bind h
  cases h
  exact ⟨base, like, last, hbase, hlike, hlast, rfl, rfl, rfl, rfl⟩

/-- What neither the LIKE templates nor those of the family concern is looked up in the base. -/
theorem get?_of_start {name : String} {family : Family} {d : Dialect}
    (h : start name family = .ok d) {operator : Operator}
    (hlike : ∀ op ∈ Registry.likeOps.map Prod.fst, operator ≠ .op op)
    (hfamily : ∀ op ∈ Registry.familyOps family, operator ≠ .op op) :
    ∃ base, (Registry.empty.layer "base").registerBase = .ok base ∧
      d.registry.get? operator = base.get? operator := by
  obtain ⟨base, like, last, hbase, hregister, hlast, hregistry, _⟩ := exists_of_start h
  refine ⟨base, hbase, ?_⟩
  have hnot : operator ∉ (Registry.likePatterns family.escape).map fun e ↦ Operator.op e.1 := by
    intro hin
    obtain ⟨e, he, heq⟩ := List.mem_map.mp hin
    refine hlike e.1 ?_ heq.symm
    rw [← Registry.map_fst_likePatterns family.escape]
    exact List.mem_map_of_mem he
  rw [hregistry, Registry.get?_layer, Registry.get?_of_registerFamily hlast hfamily,
    Registry.get?_of_registerOps hregister hnot, Registry.get?_layer]

theorem family_of_build {name : String} {family : Family} {settings : List Setting} {d : Dialect}
    (h : build name family settings = .ok d) : d.family = family := by
  obtain ⟨first, hstart, hfold⟩ := exists_of_build h
  obtain ⟨_, _, _, _, _, _, _, hfamily, _⟩ := exists_of_start hstart
  rw [foldlM_set_eq (·.family) settings (fun _ _ _ _ hset ↦ family_of_set hset) hfold, hfamily]

theorem placeholders_of_build {name : String} {family : Family} {settings : List Setting}
    {d : Dialect} (h : build name family settings = .ok d) :
    d.placeholders = lastPlaceholders family.placeholders settings := by
  obtain ⟨first, hstart, hfold⟩ := exists_of_build h
  obtain ⟨_, _, _, _, _, _, _, _, hplaceholders, _⟩ := exists_of_start hstart
  rw [placeholders_of_foldlM_set hfold, hplaceholders]

/-- A dialect whose settings speak of no quote has none. -/
theorem quote_of_build {name : String} {family : Family} {settings : List Setting} {d : Dialect}
    (h : build name family settings = .ok d) (hfree : settings.any Setting.isQuote = false) :
    d.quote = none := by
  obtain ⟨first, hstart, hfold⟩ := exists_of_build h
  obtain ⟨_, _, _, _, _, _, _, _, _, hquote⟩ := exists_of_start hstart
  rw [List.any_eq_false] at hfree
  rw [foldlM_set_eq (·.quote) settings ?_ hfold, hquote]
  intro setting hsetting _ _ hset
  exact quote_of_set hset (by simpa using hfree setting hsetting)

theorem wrapElements_of_build {name : String} {family : Family} {settings : List Setting}
    {d : Dialect} (h : build name family settings = .ok d)
    (hfree : settings.any Setting.isWrapping = false) : d.wrapElements = [] := by
  obtain ⟨first, hstart, hfold⟩ := exists_of_build h
  obtain ⟨_, _, hstart⟩ := exists_of_bind hstart
  obtain ⟨_, _, hstart⟩ := exists_of_bind hstart
  obtain ⟨_, _, hstart⟩ := exists_of_bind hstart
  obtain rfl := Except.ok.inj hstart
  rw [List.any_eq_false] at hfree
  refine foldlM_set_eq (·.wrapElements) settings (fun setting hsetting _ _ hset ↦ ?_) hfold
  exact wrapElements_of_set hset (by simpa using hfree setting hsetting)

/-- A quote that only the first setting speaks of is that of the dialect. -/
theorem quote_of_build_cons {name : String} {family : Family} {c : Char} {settings : List Setting}
    {d : Dialect} (h : build name family (.quote c :: settings) = .ok d)
    (hfree : settings.any Setting.isQuote = false) : d.quote = some c := by
  obtain ⟨first, _, hfold⟩ := exists_of_build h
  rw [List.foldlM_cons] at hfold
  obtain ⟨quoting, hquoting, hrest⟩ := exists_of_bind hfold
  obtain rfl := Except.ok.inj hquoting
  rw [List.any_eq_false] at hfree
  refine foldlM_set_eq (·.quote) settings (fun setting hsetting _ _ hset ↦ ?_) hrest
  exact quote_of_set hset (by simpa using hfree setting hsetting)

/-! ## The known dialects -/

/-- The known dialects as they are built. -/
def recipes : List (String × Family × List Setting) :=
  [("jpql", .jpql, []), ("hql", .jpql, Setting.hql), ("postgres", .sql, Setting.postgres),
    ("mysql", .sql, Setting.mysql), ("sqlite", .sql, Setting.sqlite), ("h2", .sql, Setting.h2),
    ("derby", .sql, Setting.derby), ("sql_server_2005", .sql, Setting.sqlServer2005)]

theorem known_eq_map_recipes : known = recipes.map fun r ↦ (r.1, build r.1 r.2.1 r.2.2) := rfl

def IsKnown (d : Dialect) : Prop := ∃ name, (name, Except.ok d) ∈ known

theorem exists_recipe_of_mem {name : String} {d : Dialect} (h : (name, Except.ok d) ∈ known) :
    ∃ r ∈ recipes, r.1 = name ∧ build r.1 r.2.1 r.2.2 = .ok d := by
  rw [known_eq_map_recipes] at h
  obtain ⟨r, hr, heq⟩ := List.mem_map.mp h
  rw [Prod.mk.injEq] at heq
  exact ⟨r, hr, heq⟩

theorem IsKnown.exists_recipe {d : Dialect} (h : d.IsKnown) :
    ∃ r ∈ recipes, build r.1 r.2.1 r.2.2 = .ok d := by
  obtain ⟨name, hmem⟩ := h
  obtain ⟨r, hr, _, hbuild⟩ := exists_recipe_of_mem hmem
  exact ⟨r, hr, hbuild⟩

/-- Two of the known dialects are object query languages. -/
theorem family_of_mem {name : String} {d : Dialect} (h : (name, Except.ok d) ∈ known) :
    d.family = if name ∈ ["jpql", "hql"] then .jpql else .sql := by
  obtain ⟨r, hr, rfl, hbuild⟩ := exists_recipe_of_mem h
  have hfamilies : ∀ r ∈ recipes, r.2.1 = if r.1 ∈ ["jpql", "hql"] then .jpql else .sql := by
    decide
  rw [family_of_build hbuild, hfamilies r hr]

/-- Whether neither the LIKE templates, the family nor the settings of a dialect speak of an
operator. -/
def isInherited (family : Family) (settings : List Setting) (operator : Operator) : Bool :=
  Registry.likeOps.all (fun e ↦ decide (operator ≠ .op e.1)) &&
    (Registry.familyOps family).all (fun op ↦ decide (operator ≠ .op op)) &&
    (lastRegistered? operator settings).isNone

theorem get?_of_isInherited {name : String} {family : Family} {settings : List Setting}
    {d : Dialect} (h : build name family settings = .ok d) {operator : Operator}
    (hinherited : isInherited family settings operator = true) :
    ∃ base, (Registry.empty.layer "base").registerBase = .ok base ∧
      d.registry.get? operator = base.get? operator := by
  simp only [isInherited, Bool.and_eq_true, List.all_eq_true, decide_eq_true_eq,
    Option.isNone_iff_eq_none] at hinherited
  obtain ⟨⟨hlike, hfamily⟩, hsettings⟩ := hinherited
  obtain ⟨start, hstart, hfold⟩ := exists_of_build h
  rw [(registered_of_foldlM_set hfold operator).2 hsettings]
  refine get?_of_start hstart ?_ hfamily
  intro op hop
  obtain ⟨e, he, rfl⟩ := List.mem_map.mp hop
  exact hlike e he

/-- An operator that a dialect inherits has the template of the base. -/
theorem get?_op_of_isInherited {name : String} {family : Family} {settings : List Setting}
    {d : Dialect} (h : build name family settings = .ok d) {op : Op} {pattern : String}
    (hmem : (op, pattern) ∈ Registry.baseOps)
    (hinherited : isInherited family settings (.op op) = true) :
    ∃ t, Template.parse pattern = .ok t ∧
      d.registry.get? (.op op) = some ⟨t, op.precedence, none⟩ := by
  obtain ⟨base, hbase, hget⟩ := get?_of_isInherited h hinherited
  obtain ⟨ops, root, hops, hroot, hproperty⟩ := Registry.exists_of_registerBase hbase
  obtain ⟨t, hparse, ht⟩ :=
    Registry.get?_of_mem_registerOps hops Registry.nodup_baseOps hmem
  refine ⟨t, hparse, ?_⟩
  rw [hget, Registry.get?_of_registerWith hproperty (by simp),
    Registry.get?_of_registerWith hroot (by simp), ht]

/-- An operator has the template that is registered for it last, and else inherits that of the
base. -/
theorem get?_op_of_registered {name : String} {family : Family} {settings : List Setting}
    {d : Dialect} (h : build name family settings = .ok d) {op : Op} {t : Template}
    {precedence : Int} (hparse : Template.parse t.pattern = .ok t)
    (hregistered : lastRegistered? (.op op) settings = some (t.pattern, precedence, none) ∨
      precedence = op.precedence ∧ (op, t.pattern) ∈ Registry.baseOps ∧
        isInherited family settings (.op op) = true) :
    d.registry.get? (.op op) = some ⟨t, precedence, none⟩ := by
  have hread : Registered d (.op op) (t.pattern, precedence, none) := by
    rcases hregistered with hown | ⟨rfl, hbase, hinherited⟩
    · obtain ⟨start, _, hfold⟩ := exists_of_build h
      exact (registered_of_foldlM_set hfold _).1 _ hown
    · exact get?_op_of_isInherited h hbase hinherited
  obtain ⟨t', hparse', hget⟩ := hread
  obtain rfl := Except.ok.inj (hparse.symm.trans hparse')
  exact hget

/-- An operator that no setting registers has the template of the object query languages. -/
theorem get?_op_of_mem_jpqlOps {name : String} {settings : List Setting} {d : Dialect}
    (h : build name .jpql settings = .ok d) {op : Op} {pattern : String}
    (hmem : (op, pattern) ∈ Registry.jpqlOps) (hconcat : op ≠ .concat)
    (hsettings : lastRegistered? (.op op) settings = none) :
    ∃ t, Template.parse pattern = .ok t ∧
      d.registry.get? (.op op) = some ⟨t, op.precedence, none⟩ := by
  obtain ⟨start, hstart, hfold⟩ := exists_of_build h
  obtain ⟨base, like, last, _, _, hlast, hregistry, _⟩ := exists_of_start hstart
  obtain ⟨ops, hops, hconcats⟩ := exists_of_bind hlast
  have hnodup : (Registry.jpqlOps.map Prod.fst).Nodup := by decide
  obtain ⟨t, hparse, hget⟩ := Registry.get?_of_mem_registerOps hops hnodup hmem
  refine ⟨t, hparse, ?_⟩
  rw [(registered_of_foldlM_set hfold _).2 hsettings, hregistry, Registry.get?_layer,
    Registry.get?_of_registerWith hconcats (by simpa using hconcat), hget]

/-- The base has templates for variables and their properties, but for no other path. -/
theorem get?_path_of_isInherited {name : String} {family : Family} {settings : List Setting}
    {d : Dialect} (h : build name family settings = .ok d) {kind : PathKind}
    (hroot : kind ≠ .root) (hproperty : kind ≠ .property)
    (hinherited : isInherited family settings (.path kind) = true) :
    d.registry.get? (.path kind) = none := by
  obtain ⟨base, hbase, hget⟩ := get?_of_isInherited h hinherited
  obtain ⟨ops, root, hops, hwith, hlast⟩ := Registry.exists_of_registerBase hbase
  rw [hget, Registry.get?_of_registerWith hlast (by simpa using hproperty),
    Registry.get?_of_registerWith hwith (by simpa using hroot),
    Registry.get?_of_registerOps hops (by simp), Registry.get?_layer, Registry.get?_empty]

/-- An operator without a template in the base has none where it is inherited. -/
theorem get?_op_eq_none_of_isInherited {name : String} {family : Family} {settings : List Setting}
    {d : Dialect} (h : build name family settings = .ok d) {op : Op}
    (hbase : op ∉ Registry.baseOps.map Prod.fst)
    (hinherited : isInherited family settings (.op op) = true) :
    d.registry.get? (.op op) = none := by
  obtain ⟨base, hregister, hget⟩ := get?_of_isInherited h hinherited
  obtain ⟨ops, root, hops, hroot, hproperty⟩ := Registry.exists_of_registerBase hregister
  have hfree : Operator.op op ∉ Registry.baseOps.map fun e ↦ Operator.op e.1 := by
    simpa using hbase
  rw [hget, Registry.get?_of_registerWith hproperty (by simp),
    Registry.get?_of_registerWith hroot (by simp), Registry.get?_of_registerOps hops hfree,
    Registry.get?_layer, Registry.get?_empty]

/-- Whether all known dialects have the template of the base for an operator. -/
def isShared (operator : Operator) : Bool :=
  recipes.all fun r ↦ isInherited r.2.1 r.2.2 operator

/-- The entry of an operator that all known dialects render alike. -/
theorem IsKnown.get?_op {d : Dialect} (h : d.IsKnown) {op : Op} {pattern : String}
    (hmem : (op, pattern) ∈ Registry.baseOps) (hshared : isShared (.op op) = true) :
    ∃ t, Template.parse pattern = .ok t ∧
      d.registry.get? (.op op) = some ⟨t, op.precedence, none⟩ := by
  obtain ⟨r, hr, hbuild⟩ := h.exists_recipe
  exact get?_op_of_isInherited hbuild hmem (List.all_eq_true.mp hshared r hr)

theorem parse_root : Template.parse "{0s}" = .ok ⟨"{0s}", [.inlined 0]⟩ := rfl

theorem parse_property :
    Template.parse "{0}.{1s}" = .ok ⟨"{0}.{1s}", [.arg 0, .text ".", .inlined 1]⟩ := rfl

theorem get?_root_of_isInherited {name : String} {family : Family} {settings : List Setting}
    {d : Dialect} (h : build name family settings = .ok d)
    (hinherited : isInherited family settings (.path .root) = true) :
    d.registry.get? (.path .root) = some ⟨⟨"{0s}", [.inlined 0]⟩, -1, none⟩ := by
  obtain ⟨base, hbase, hget⟩ := get?_of_isInherited h hinherited
  obtain ⟨ops, root, _, hroot, hproperty⟩ := Registry.exists_of_registerBase hbase
  obtain ⟨t, hparse, rfl⟩ := Registry.exists_of_registerWith hroot
  obtain rfl := Except.ok.inj (parse_root.symm.trans hparse)
  rw [hget, Registry.get?_of_registerWith hproperty (by simp), Registry.get?_insert_self]

theorem get?_property_of_isInherited {name : String} {family : Family} {settings : List Setting}
    {d : Dialect} (h : build name family settings = .ok d)
    (hinherited : isInherited family settings (.path .property) = true) :
    d.registry.get? (.path .property) =
      some ⟨⟨"{0}.{1s}", [.arg 0, .text ".", .inlined 1]⟩, -1, none⟩ := by
  obtain ⟨base, hbase, hget⟩ := get?_of_isInherited h hinherited
  obtain ⟨ops, root, _, _, hproperty⟩ := Registry.exists_of_registerBase hbase
  obtain ⟨t, hparse, rfl⟩ := Registry.exists_of_registerWith hproperty
  obtain rfl := Except.ok.inj (parse_property.symm.trans hparse)
  rw [hget, Registry.get?_insert_self]

theorem IsKnown.get?_root {d : Dialect} (h : d.IsKnown) :
    d.registry.get? (.path .root) = some ⟨⟨"{0s}", [.inlined 0]⟩, -1, none⟩ := by
  have hshared : isShared (.path .root) = true := by decide
  obtain ⟨r, hr, hbuild⟩ := h.exists_recipe
  exact get?_root_of_isInherited hbuild (List.all_eq_true.mp hshared r hr)

theorem IsKnown.get?_property {d : Dialect} (h : d.IsKnown) :
    d.registry.get? (.path .property) =
      some ⟨⟨"{0}.{1s}", [.arg 0, .text ".", .inlined 1]⟩, -1, none⟩ := by
  have hshared : isShared (.path .property) = true := by decide
  obtain ⟨r, hr, hbuild⟩ := h.exists_recipe
  exact get?_property_of_isInherited hbuild (List.all_eq_true.mp hshared r hr)

end Dialect

end TypedQuery
