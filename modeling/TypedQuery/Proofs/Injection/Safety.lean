import TypedQuery.Proofs.Building
import TypedQuery.Proofs.Injection.Statements

/-!
# String constants never reach the text

The known dialects with anonymous placeholders bind every string constant of a guarded request.
Other strings in place of these lead to the same text with as many bindings, or to the same error.
-/

namespace TypedQuery

/-! ## The text of blank chunks -/

namespace Layout

theorem texts_map_blank (chunks : List Chunk) :
    (anonymous (chunks.map Chunk.blank)).1 = (anonymous chunks).1 := by
  induction chunks with
  | nil => rfl
  | cons c chunks ih => cases c <;> simp [anonymous, Chunk.blank, ih]

theorem length_bindings_map_blank (chunks : List Chunk) :
    (anonymous (chunks.map Chunk.blank)).2.length = (anonymous chunks).2.length := by
  induction chunks with
  | nil => rfl
  | cons c chunks ih => cases c <;> simp [anonymous, Chunk.blank, ih]

end Layout

/-! ## Known dialects -/

/-- Whether a pattern, if it can be read, binds every constant. -/
def Template.patternBinds (pattern : String) : Bool :=
  match Template.parse pattern with
  | .ok t => t.bindsAll
  | .error _ => true

theorem Template.bindsAll_of_patternBinds {pattern : String} (h : patternBinds pattern = true)
    {t : Template} (ht : Template.parse pattern = .ok t) : t.bindsAll = true := by
  unfold patternBinds at h
  rw [ht] at h
  exact h

namespace Dialect

theorem bindsAll_of_get? {d : Dialect} {operator : Operator} {e : TemplateEntry}
    (hget : d.registry.get? operator = some e) (h : e.template.bindsAll = true) :
    d.registry.bindsAll operator = true := by
  unfold Registry.bindsAll
  rw [hget]
  exact h

/-- An operator of the base binds every constant if its pattern there does, and the pattern of the
last setting that registers it. -/
theorem bindsAll_of_build {name : String} {family : Family} {settings : List Setting}
    {d : Dialect} (h : build name family settings = .ok d) {op : Op} {pattern : String}
    (hmem : (op, pattern) ∈ Registry.baseOps) (hfree : isInherited family [] (.op op) = true)
    (hbase : Template.patternBinds pattern = true)
    (hlast : ((lastRegistered? (.op op) settings).all fun r ↦ Template.patternBinds r.1) = true) :
    d.registry.bindsAll (.op op) = true := by
  cases hr : lastRegistered? (.op op) settings with
  | some r =>
      obtain ⟨first, _, hfold⟩ := exists_of_build h
      obtain ⟨t, ht, hget⟩ := (registered_of_foldlM_set hfold (.op op)).1 r hr
      rw [hr] at hlast
      exact bindsAll_of_get? hget (Template.bindsAll_of_patternBinds hlast ht)
  | none =>
      have hinherited : isInherited family settings (.op op) = true := by
        simp only [isInherited, Bool.and_eq_true] at hfree ⊢
        exact ⟨hfree.1, by rw [hr]; rfl⟩
      obtain ⟨t, ht, hget⟩ := get?_op_of_isInherited h hmem hinherited
      exact bindsAll_of_get? hget (Template.bindsAll_of_patternBinds hbase ht)

/-- The known dialects with anonymous placeholders. -/
def anonymousRecipes : List (String × Family × List Setting) :=
  recipes.filter fun r ↦ lastPlaceholders r.2.1.placeholders r.2.2 = .anonymous

theorem anonymousRecipes_eq : anonymousRecipes =
    [("mysql", .sql, Setting.mysql), ("sqlite", .sql, Setting.sqlite), ("h2", .sql, Setting.h2),
      ("derby", .sql, Setting.derby), ("sql_server_2005", .sql, Setting.sqlServer2005)] := rfl

theorem anonymousRecipes_bind : ∀ r ∈ anonymousRecipes, r.2.1 = .sql ∧
    (∀ op ∈ [Op.lower, .upper, .concat, .aliased],
      ((lastRegistered? (.op op) r.2.2).all fun e ↦ Template.patternBinds e.1) = true) ∧
    ∀ kind ∈ [PathKind.listValue, .mapValue, .mapKey],
      isInherited r.2.1 r.2.2 (.path kind) = true := by
  rw [anonymousRecipes_eq]
  decide +kernel

/-- The patterns of the base for the operations that slots and numbered rows make. -/
theorem exists_pattern : ∀ op ∈ [Op.lower, .upper, .concat, .aliased],
    ∃ pattern, (op, pattern) ∈ Registry.baseOps ∧ Template.patternBinds pattern = true := by
  intro op hop
  simp only [List.mem_cons, List.not_mem_nil, or_false] at hop
  rcases hop with rfl | rfl | rfl | rfl
  · exact ⟨"lower({0})", by simp [Registry.baseOps], by rfl⟩
  · exact ⟨"upper({0})", by simp [Registry.baseOps], by rfl⟩
  · exact ⟨"{0} || {1}", by simp [Registry.baseOps], by rfl⟩
  · exact ⟨"{0} as {1}", by simp [Registry.baseOps], by rfl⟩

theorem parse_cast : Template.parse "cast({0} as {1s})" =
    .ok ⟨"cast({0} as {1s})",
      [.text "cast(", .arg 0, .text " as ", .inlined 1, .text ")"]⟩ := by rfl

theorem IsKnown.mem_anonymousRecipes {d : Dialect} (h : d.IsKnown)
    (hd : d.placeholders = .anonymous) :
    ∃ r ∈ anonymousRecipes, build r.1 r.2.1 r.2.2 = .ok d := by
  obtain ⟨r, hr, hbuild⟩ := h.exists_recipe
  refine ⟨r, List.mem_filter.mpr ⟨hr, ?_⟩, hbuild⟩
  rw [← placeholders_of_build hbuild, hd]
  rfl

/-- The names under which dialects with anonymous placeholders are known. -/
def anonymousNames : List String := ["mysql", "sqlite", "h2", "derby", "sql_server_2005"]

theorem placeholders_eq_anonymous_iff {name : String} {d : Dialect}
    (h : (name, Except.ok d) ∈ known) :
    d.placeholders = .anonymous ↔ name ∈ anonymousNames := by
  obtain ⟨r, hr, hname, hbuild⟩ := exists_recipe_of_mem h
  have hnames : ∀ r ∈ recipes,
      (lastPlaceholders r.2.1.placeholders r.2.2 = .anonymous ↔ r.1 ∈ anonymousNames) := by
    decide
  rw [placeholders_of_build hbuild, ← hname]
  exact hnames r hr

theorem IsKnown.bindsStrings {d : Dialect} (h : d.IsKnown) (hd : d.placeholders = .anonymous) :
    d.toProfile.BindsStrings := by
  obtain ⟨r, hr, hbuild⟩ := h.mem_anonymousRecipes hd
  obtain ⟨hsql, hown, hpath⟩ := anonymousRecipes_bind r hr
  refine ⟨(family_of_build hbuild).trans hsql, ?_, ?_, ?_⟩
  · intro op hop
    obtain ⟨pattern, hmem, hpattern⟩ := exists_pattern op hop
    have hfree : ∀ op ∈ [Op.lower, .upper, .concat, .aliased],
        isInherited .sql [] (.op op) = true := by decide
    exact bindsAll_of_build hbuild hmem (hsql ▸ hfree op hop) hpattern (hown op hop)
  · intro e he i hi
    have hmem : (Op.cast, "cast({0} as {1s})") ∈ Registry.baseOps := by simp [Registry.baseOps]
    obtain ⟨t, ht, hget⟩ := h.get?_op hmem (by decide)
    obtain rfl := Except.ok.inj (parse_cast.symm.trans ht)
    obtain rfl := Option.some.inj (hget.symm.trans he)
    simpa using hi
  · intro kind hkind
    have hne : kind ≠ .root ∧ kind ≠ .property := by
      simp only [List.mem_cons, List.not_mem_nil, or_false] at hkind
      rcases hkind with rfl | rfl | rfl <;> exact ⟨by decide, by decide⟩
    have hnone := get?_path_of_isInherited hbuild hne.1 hne.2 (hpath kind hkind)
    unfold Registry.bindsAll
    rw [hnone]
    rfl

end Dialect

/-! ## Statements -/

theorem Request.modifiers_masked (r : Request) : r.masked.modifiers = r.modifiers := by
  cases r with
  | query q forCount projection => cases q; rfl
  | _ => rfl

/-- Two outcomes that tell nothing apart but what is bound: the same error, or statements of one
text with as many bindings. -/
inductive SameText : Except Error Statement → Except Error Statement → Prop
  | error (e : Error) : SameText (.error e) (.error e)
  | ok {a b : Statement} (text : a.text = b.text)
      (bindings : a.bindings.length = b.bindings.length) (modifiers : a.modifiers = b.modifiers) :
      SameText (.ok a) (.ok b)

namespace Serializer

theorem sameText_statement {s : Serializer} (hs : s.dialect.placeholders = .anonymous)
    {a b : Rendering} (h : a.Alike b) (modifiers : Modifiers) :
    SameText (s.statement modifiers a) (s.statement modifiers b) := by
  have houtcome := h.apply {}
  unfold statement
  rw [hs]
  cases ha : a {} <;> cases hb : b {} <;> rw [ha, hb] at houtcome
  · obtain rfl := Except.error.inj houtcome
    exact .error _
  · cases houtcome
  · cases houtcome
  · rename_i chunks chunks'
    have hblank : chunks.map Chunk.blank = chunks'.map Chunk.blank := Except.ok.inj houtcome
    refine .ok ?_ ?_ rfl
    · simp only [layout]
      rw [← Layout.texts_map_blank chunks, hblank, Layout.texts_map_blank]
    · simp only [layout]
      rw [← Layout.length_bindings_map_blank chunks, hblank, Layout.length_bindings_map_blank]

/-- In the known dialects with anonymous placeholders, no string constant of a guarded request
reaches the text: with any other strings in place of its own the outcome has the same text. -/
theorem sameText_of_masked_eq {s : Serializer} (hknown : s.dialect.IsKnown)
    (hanonymous : s.dialect.placeholders = .anonymous) {r r' : Request}
    (hmasked : r.masked = r'.masked) (hguarded : r.isGuarded s.dialect.registry = true) :
    SameText (s.serialize r) (s.serialize r') := by
  have hs : s.setup.profile.BindsStrings := hknown.bindsStrings hanonymous
  have hmodifiers : r.modifiers = r'.modifiers := by
    rw [← r.modifiers_masked, hmasked, r'.modifiers_masked]
  rw [serialize_eq, serialize_eq, hmodifiers]
  exact sameText_statement hanonymous (Setup.alike_rendering hs hmasked hguarded) _

/-- A test of a name against a text. -/
def nameIs (text : String) : Request :=
  .expr (.operation .bool (.op .eq)
    [.path (.property .string (.root (.entity "Cat") "cat") "name"), .ofValue (.string text)])

/-- A text that would end a literal leads to the same statement as a harmless one. -/
theorem sameText_nameIs : ∃ d, ("h2", .ok d) ∈ Dialect.known ∧
    (nameIs "Bob").isGuarded d.registry = true ∧
    SameText ({ dialect := d : Serializer }.serialize (nameIs "Bob"))
      ({ dialect := d : Serializer }.serialize (nameIs "' or 1 = 1 --")) := by
  obtain ⟨d, hmem, _⟩ := Dialect.exists_h2
  have hknown : d.IsKnown := ⟨"h2", hmem⟩
  have hguarded : (nameIs "Bob").isGuarded d.registry = true := by
    have heq : (Op.eq, "{0} = {1}") ∈ Registry.baseOps := by simp [Registry.baseOps]
    obtain ⟨t, ht, hget⟩ := hknown.get?_op heq (by decide)
    have hbinds := Dialect.bindsAll_of_get? hget (Template.bindsAll_of_patternBinds (by rfl) ht)
    simp [nameIs, Request.isGuarded, Expr.isGuarded, guardedExprs, Path.isGuarded, hbinds,
      Expr.ofValue]
  refine ⟨d, hmem, hguarded, ?_⟩
  exact sameText_of_masked_eq (s := { dialect := d }) hknown
    ((Dialect.placeholders_eq_anonymous_iff hmem).mpr (by decide)) rfl hguarded

end Serializer

end TypedQuery
