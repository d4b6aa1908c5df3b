import TypedQuery.Proofs.KnownDialects

/-!
# Building the known dialects

A dialect comes about when all of its patterns can be read and every core operator has a template.
The patterns of the base, of the families and of the settings of the known dialects can be read.
Core operators never lose a template, since settings only replace them.
-/

namespace TypedQuery

theorem bind_of_ok {ε α β : Type} {x : Except ε α} {a : α} (h : x = .ok a) (f : α → Except ε β) :
    (x >>= f) = f a := by
  rw [h]
  rfl

theorem exists_bind {ε α β : Type} {x : Except ε α} {f : α → Except ε β}
    (hx : ∃ a, x = .ok a) (hf : ∀ a, ∃ b, f a = .ok b) : ∃ b, (x >>= f) = .ok b := by
  obtain ⟨a, rfl⟩ := hx
  exact hf a

theorem exists_foldlM {ε α β : Type} {f : β → α → Except ε β} {xs : List α}
    (hf : ∀ x ∈ xs, ∀ b, ∃ b', f b x = .ok b') (b : β) : ∃ b', xs.foldlM f b = .ok b' := by
  induction xs generalizing b with
  | nil => exact ⟨b, rfl⟩
  | cons x xs ih =>
      rw [List.foldlM_cons]
      exact exists_bind (hf x List.mem_cons_self b) fun middle ↦
        ih (fun y hy ↦ hf y (List.mem_cons_of_mem x hy)) middle

/-! ## Readable patterns -/

namespace Registry

def IsReadable (arity : Option Arity) (pattern : String) : Prop :=
  ∃ t, readFor arity pattern = .ok t

/-- Whether characters read as a pattern whose slots fit an arity. -/
def readsChars (arity : Option Arity) (cs : List Char) : Bool :=
  match Element.readText [] cs with
  | .ok elements => arity.all (Template.fits ⟨.ofList cs, elements⟩)
  | .error _ => false

theorem isReadable_ofList {arity : Option Arity} {cs : List Char}
    (h : readsChars arity cs = true) : IsReadable arity (.ofList cs) := by
  unfold readsChars at h
  cases hread : Element.readText [] cs with
  | error e => simp [hread] at h
  | ok elements =>
      rw [hread] at h
      refine ⟨⟨.ofList cs, elements⟩, ?_⟩
      have hparse : Template.parse (.ofList cs) = .ok ⟨.ofList cs, elements⟩ := by
        simp only [Template.parse, Template.read, String.toList_ofList, hread]
        rfl
      simp only [readFor, hparse, bind, Except.bind, h, if_true]
      rfl

theorem exists_registerWith (r : Registry) {operator : Operator} {pattern : String}
    (h : IsReadable operator.arity pattern) (precedence : Int) :
    ∃ r', r.registerWith operator pattern precedence = .ok r' :=
  exists_bind h fun _ ↦ ⟨_, rfl⟩

theorem exists_registerOps (r : Registry) {entries : List (Op × String)}
    (h : ∀ e ∈ entries, IsReadable (Operator.op e.1).arity e.2) :
    ∃ r', r.registerOps entries = .ok r' :=
  exists_foldlM (fun e he r ↦ r.exists_registerWith (h e he) _) r

theorem isReadable_baseOps : ∀ e ∈ baseOps, IsReadable (Operator.op e.1).arity e.2 := by
  simp only [baseOps, List.forall_mem_cons]
  and_intros
  all_goals first | exact isReadable_ofList rfl | exact List.forall_mem_nil _

theorem isReadable_jpqlOps : ∀ e ∈ jpqlOps, IsReadable (Operator.op e.1).arity e.2 := by
  simp only [jpqlOps, List.forall_mem_cons]
  and_intros
  all_goals first | exact isReadable_ofList rfl | exact List.forall_mem_nil _

theorem isReadable_sqlOps : ∀ e ∈ sqlOps, IsReadable (Operator.op e.1).arity e.2 := by
  simp only [sqlOps, List.forall_mem_cons]
  and_intros
  all_goals first | exact isReadable_ofList rfl | exact List.forall_mem_nil _

theorem escapeClause_eq (c : Char) : " escape '" ++ c.toString ++ "'" =
    .ofList [' ', 'e', 's', 'c', 'a', 'p', 'e', ' ', '\'', c, '\''] := by
  have hlist : [' ', 'e', 's', 'c', 'a', 'p', 'e', ' ', '\'', c, '\''] =
      [' ', 'e', 's', 'c', 'a', 'p', 'e', ' ', '\''] ++ [c] ++ ['\''] := rfl
  rw [hlist, String.ofList_append, String.ofList_append]
  rfl

theorem isReadable_append {arity : Option Arity} {cs ds : List Char}
    (h : readsChars arity (cs ++ ds) = true) : IsReadable arity (.ofList cs ++ .ofList ds) := by
  rw [← String.ofList_append]
  exact isReadable_ofList h

theorem isReadable_likePatterns {escape : Char} (hopen : escape ≠ '{') (hclose : escape ≠ '}') :
    ∀ e ∈ likePatterns escape, IsReadable (Operator.op e.1).arity e.2 := by
  simp only [likePatterns, likeOps, List.map_cons, List.map_nil, List.forall_mem_cons,
    escapeClause_eq]
  and_intros
  all_goals
    first
      | exact List.forall_mem_nil _
      | refine isReadable_append ?_
        simp [readsChars, Element.readText, Element.readSlot, hopen, hclose]
        rfl

theorem exists_registerBase (r : Registry) : ∃ r', r.registerBase = .ok r' := by
  have hroot : IsReadable (Operator.path .root).arity "{0s}" := isReadable_ofList rfl
  have hproperty : IsReadable (Operator.path .property).arity "{0}.{1s}" := isReadable_ofList rfl
  refine exists_bind (r.exists_registerOps isReadable_baseOps) fun ops ↦ ?_
  exact exists_bind (ops.exists_registerWith hroot _) fun root ↦
    root.exists_registerWith hproperty _

theorem exists_registerFamily (r : Registry) (family : Family) :
    ∃ r', r.registerFamily family = .ok r' := by
  cases family with
  | sql => exact (r.layer "sql").exists_registerOps isReadable_sqlOps
  | jpql =>
      have hconcat : IsReadable (Operator.op .concat).arity "concat({0},{1})" :=
        isReadable_ofList rfl
      exact exists_bind ((r.layer "jpql").exists_registerOps isReadable_jpqlOps) fun ops ↦
        ops.exists_registerWith hconcat _

end Registry

/-! ## Settings -/

namespace Pagination

def patterns : Pagination String → List String
  | external => []
  | limitOffset forms | fetchFirst forms => [forms.limit, forms.offset, forms.both]
  | topRowNumber top filter => [top, filter.limit, filter.offset, filter.both]

theorem exists_parse {p : Pagination String}
    (h : ∀ pattern ∈ p.patterns, Registry.IsReadable none pattern) :
    ∃ parsed, p.parse = .ok parsed := by
  have hread : ∀ pattern ∈ p.patterns, ∃ t, Template.parse pattern = .ok t := by
    intro pattern hpattern
    obtain ⟨t, ht⟩ := h pattern hpattern
    exact ⟨t, Registry.readFor_eq_ok ht⟩
  have hforms : ∀ forms : LimitForms String, (∃ t, Template.parse forms.limit = .ok t) →
      (∃ t, Template.parse forms.offset = .ok t) → (∃ t, Template.parse forms.both = .ok t) →
      ∃ parsed, forms.parse = .ok parsed := fun forms hlimit hoffset hboth ↦
    exists_bind hlimit fun _ ↦ exists_bind hoffset fun _ ↦ exists_bind hboth fun _ ↦ ⟨_, rfl⟩
  cases p with
  | external => exact ⟨_, rfl⟩
  | limitOffset forms | fetchFirst forms =>
      obtain ⟨parsed, hparsed⟩ := hforms forms (hread _ (by simp [patterns]))
        (hread _ (by simp [patterns])) (hread _ (by simp [patterns]))
      exact ⟨_, by rw [parse, hparsed]; rfl⟩
  | topRowNumber top filter =>
      refine exists_bind (hread _ (by simp [patterns])) fun _ ↦ exists_bind ?_ fun _ ↦ ⟨_, rfl⟩
      exact hforms filter (hread _ (by simp [patterns])) (hread _ (by simp [patterns]))
        (hread _ (by simp [patterns]))

end Pagination

/-- Whether all patterns of a setting can be read. -/
def Setting.IsReadable : Setting → Prop
  | .template operator pattern | .templateAt _ operator pattern =>
      Registry.IsReadable operator.arity pattern
  | .custom _ arity pattern _ => Registry.IsReadable (some arity) pattern
  | .escape c => ∀ e ∈ Registry.likePatterns c, Registry.IsReadable (Operator.op e.1).arity e.2
  | .pagination forms => ∀ pattern ∈ forms.patterns, Registry.IsReadable none pattern
  | _ => True

namespace Dialect

theorem exists_withRegistry (d : Dialect) {registry : Except Error Registry}
    (h : ∃ r, registry = .ok r) : ∃ d', d.withRegistry registry = .ok d' := by
  obtain ⟨r, rfl⟩ := h
  exact ⟨_, rfl⟩

theorem exists_set (d : Dialect) {setting : Setting} (h : setting.IsReadable) :
    ∃ d', d.set setting = .ok d' := by
  cases setting with
  | template operator pattern =>
      exact exists_withRegistry d (d.registry.exists_registerWith h _)
  | templateAt precedence operator pattern =>
      exact exists_withRegistry d (d.registry.exists_registerWith h _)
  | custom name arity pattern precedence =>
      exact exists_withRegistry d (exists_bind h fun _ ↦ ⟨_, rfl⟩)
  | escape c => exact exists_withRegistry _ (d.registry.exists_registerOps h)
  | pagination forms => exact exists_bind (Pagination.exists_parse h) fun _ ↦ ⟨_, rfl⟩
  | _ => exact ⟨_, rfl⟩

theorem exists_start (name : String) (family : Family) : ∃ d, start name family = .ok d := by
  have hlike : ∀ e ∈ Registry.likePatterns family.escape,
      Registry.IsReadable (Operator.op e.1).arity e.2 := by
    cases family <;> exact Registry.isReadable_likePatterns (by decide) (by decide)
  refine exists_bind (Registry.exists_registerBase _) fun base ↦ ?_
  refine exists_bind ((base.layer "like").exists_registerOps hlike) fun like ↦ ?_
  exact exists_bind (like.exists_registerFamily family) fun _ ↦ ⟨_, rfl⟩

theorem isReadable_bracedCall {arity : Option Arity} {call : List Char}
    (h : Registry.readsChars arity (['{', '{', 'f', 'n', ' '] ++ call ++ ['}', '}']) = true) :
    Registry.IsReadable arity (Setting.bracedCall (.ofList call)) := by
  have hcall : Setting.bracedCall (.ofList call) =
      .ofList (['{', '{', 'f', 'n', ' '] ++ call ++ ['}', '}']) := by
    rw [String.ofList_append, String.ofList_append]
    rfl
  rw [hcall]
  exact Registry.isReadable_ofList h

theorem isReadable_recipes : ∀ r ∈ recipes, ∀ setting ∈ r.2.2, setting.IsReadable := by
  simp only [recipes, List.forall_mem_cons, Setting.hql, Setting.postgres, Setting.mysql,
    Setting.sqlite, Setting.h2, Setting.derby, Setting.sqlServer2005, Setting.op, Setting.opAt,
    Setting.limitClauses, Setting.IsReadable, Pagination.patterns]
  and_intros
  all_goals
    first
      | trivial
      | (with_reducible refine isReadable_bracedCall ?_); rfl
      | exact Registry.isReadable_ofList rfl
      | exact Registry.isReadable_likePatterns (by decide) (by decide)
      | exact List.forall_mem_nil _

/-! ## Core operators -/

theorem contains_of_get? {r : Registry} {operator : Operator} {e : TemplateEntry}
    (h : r.get? operator = some e) : r.contains operator = true := by
  unfold Registry.contains
  rw [h]
  rfl

theorem contains_of_get?_eq {r r' : Registry} {operator : Operator}
    (h : r'.get? operator = r.get? operator) (hr : r.contains operator = true) :
    r'.contains operator = true := by
  unfold Registry.contains at *
  rw [h, hr]

theorem contains_of_registerBase {r r' : Registry} (h : r.registerBase = .ok r') :
    r'.contains (.path .root) = true ∧ r'.contains (.path .property) = true ∧
      ∀ op ∈ Registry.baseOps.map Prod.fst, r'.contains (.op op) = true := by
  obtain ⟨ops, root, hops, hroot, hproperty⟩ := Registry.exists_of_registerBase h
  obtain ⟨t, _, rfl⟩ := Registry.exists_of_registerWith hroot
  have hlast : ∀ operator ≠ .path .property,
      r'.get? operator = (ops.insert (.path .root) ⟨t, -1, none⟩).get? operator :=
    fun operator hne ↦ Registry.get?_of_registerWith hproperty hne
  refine ⟨?_, ?_, ?_⟩
  · refine contains_of_get?_eq (hlast _ (by simp)) ?_
    exact contains_of_get? (Registry.get?_insert_self _ _ _)
  · obtain ⟨t', _, rfl⟩ := Registry.exists_of_registerWith hproperty
    exact contains_of_get? (Registry.get?_insert_self _ _ _)
  · intro op hop
    obtain ⟨e, he, rfl⟩ := List.mem_map.mp hop
    obtain ⟨t', _, ht'⟩ := Registry.get?_of_mem_registerOps hops Registry.nodup_baseOps he
    refine contains_of_get?_eq (hlast _ (by simp)) ?_
    exact contains_of_get? ((Registry.get?_insert_of_ne _ (by simp) _).trans ht')

theorem core_cases : ∀ operator ∈ Registry.coreOperators,
    (operator = .op .like ∨ operator = .path .root ∨ operator = .path .property ∨
      ∃ op ∈ Registry.baseOps.map Prod.fst, operator = .op op ∧
        op ∉ Registry.likeOps.map Prod.fst) ∧
    ∀ family ∈ [Family.jpql, .sql], ∀ op ∈ Registry.familyOps family, operator ≠ .op op := by
  decide

theorem contains_of_start {name : String} {family : Family} {d : Dialect}
    (h : start name family = .ok d) :
    ∀ operator ∈ Registry.coreOperators, d.registry.contains operator = true := by
  intro operator hcore
  obtain ⟨base, like, last, hbase, hlike, hlast, hregistry, _⟩ := exists_of_start h
  obtain ⟨hcases, hfamily⟩ := core_cases operator hcore
  obtain ⟨hroot, hproperty, hops⟩ := contains_of_registerBase hbase
  have hfamily := hfamily family (by cases family <;> simp)
  rw [hregistry]
  refine contains_of_get?_eq (Registry.get?_layer _ _ _) ?_
  refine contains_of_get?_eq (Registry.get?_of_registerFamily hlast hfamily) ?_
  -- the LIKE templates are the only ones that the layers above the base add
  have hbelow : operator ∉ (Registry.likePatterns family.escape).map (fun e ↦ Operator.op e.1) →
      base.contains operator = true → like.contains operator = true := by
    intro hnot hcontains
    refine contains_of_get?_eq (Registry.get?_of_registerOps hlike hnot) ?_
    exact contains_of_get?_eq (Registry.get?_layer _ _ _) hcontains
  rcases hcases with rfl | rfl | rfl | ⟨op, hop, rfl, hnot⟩
  · have hnodup : ((Registry.likePatterns family.escape).map Prod.fst).Nodup := by
      rw [Registry.map_fst_likePatterns]
      decide
    obtain ⟨t, _, ht⟩ := Registry.get?_of_mem_registerOps hlike hnodup List.mem_cons_self
    exact contains_of_get? ht
  · exact hbelow (by simp) hroot
  · exact hbelow (by simp) hproperty
  · refine hbelow ?_ (hops op hop)
    intro hin
    obtain ⟨e, he, heq⟩ := List.mem_map.mp hin
    rw [← Registry.map_fst_likePatterns family.escape] at hnot
    exact hnot (Operator.op.inj heq ▸ List.mem_map_of_mem he)

/-- An operator that has a template keeps one through any settings. -/
theorem contains_of_foldlM_set {settings : List Setting} {d d' : Dialect}
    (h : settings.foldlM set d = .ok d') {operator : Operator}
    (hd : d.registry.contains operator = true) : d'.registry.contains operator = true := by
  obtain ⟨hsome, hnone⟩ := registered_of_foldlM_set h operator
  cases hlast : lastRegistered? operator settings with
  | none => exact contains_of_get?_eq (hnone hlast) hd
  | some r =>
      obtain ⟨t, _, hget⟩ := hsome r hlast
      exact contains_of_get? hget

theorem finished_of_contains {d : Dialect}
    (h : ∀ operator ∈ Registry.coreOperators, d.registry.contains operator = true) :
    d.finished = .ok d := by
  have hfind : Registry.coreOperators.find? (!d.registry.contains ·) = none := by
    rw [List.find?_eq_none]
    intro operator hcore
    simp [h operator hcore]
  simp only [finished, Registry.require, hfind]
  rfl

/-- A dialect whose settings can be read can be built. -/
theorem exists_build (name : String) (family : Family) {settings : List Setting}
    (h : ∀ setting ∈ settings, setting.IsReadable) : ∃ d, build name family settings = .ok d := by
  obtain ⟨first, hfirst⟩ := exists_start name family
  obtain ⟨last, hlast⟩ := exists_foldlM (fun setting hsetting d ↦ exists_set d (h setting hsetting))
    first
  have hcore := fun operator hoperator ↦
    contains_of_foldlM_set hlast (contains_of_start hfirst operator hoperator)
  have hfinished := (bind_of_ok hlast finished).trans (finished_of_contains hcore)
  exact ⟨last, (bind_of_ok hfirst _).trans hfinished⟩

/-- All known dialects can be built. -/
theorem exists_of_mem_known : ∀ e ∈ known, ∃ d, e.2 = .ok d := by
  intro e he
  rw [known_eq_map_recipes] at he
  obtain ⟨r, hr, rfl⟩ := List.mem_map.mp he
  exact exists_build r.1 r.2.1 (isReadable_recipes r hr)

theorem exists_jpql : ∃ d, jpql = .ok d :=
  exists_build "jpql" .jpql (List.forall_mem_nil _)

/-- A known dialect whose settings speak of no quote has none. -/
theorem exists_unquoted {r : String × Family × List Setting} (hr : r ∈ recipes)
    (hfree : r.2.2.any Setting.isQuote = false) :
    ∃ d, (r.1, .ok d) ∈ known ∧ d.quote = none := by
  have hmem : (r.1, build r.1 r.2.1 r.2.2) ∈ known := by
    rw [known_eq_map_recipes]
    exact List.mem_map.mpr ⟨r, hr, rfl⟩
  obtain ⟨d, hd⟩ := exists_of_mem_known _ hmem
  have hbuild : build r.1 r.2.1 r.2.2 = .ok d := hd
  exact ⟨d, hbuild ▸ hmem, quote_of_build hbuild hfree⟩

/-- One of the known dialects has no quotes. -/
theorem exists_h2 : ∃ d, ("h2", .ok d) ∈ known ∧ d.quote = none :=
  exists_unquoted (r := ("h2", .sql, Setting.h2)) (by simp [recipes]) rfl

end Dialect

end TypedQuery
