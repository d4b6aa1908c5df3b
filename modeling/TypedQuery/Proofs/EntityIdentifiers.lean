import TypedQuery.Proofs.Building
import TypedQuery.Proofs.Labels.Sharing
import TypedQuery.Proofs.Memberships
import TypedQuery.Proofs.Patterns.LikeTests

/-!
# Entities by their identifiers

Where a dialect does not compare entities, a test of an entity path among constant entities becomes
a test of its identifying property among their identifiers. The bound list holds the first of all
identifiers that are identical, in the order of the entities. Equal identifiers that are not
identical are JSON trees whose members stand in another order; all of these are bound.
-/

namespace TypedQuery

/-! ## First items -/

/-- The items that no related one stands in front of, in their order. They stand for all others. -/
structure AreFirsts {α : Type} (R : α → α → Bool) (all firsts : List α) : Prop where
  sublist : firsts.Sublist all
  complete : ∀ a ∈ all, ∃ b ∈ firsts, R b a = true
  distinct : firsts.Pairwise fun a b ↦ R a b = false
  first : ∀ a ∈ firsts, ∃ front back, all = front ++ a :: back ∧ ∀ b ∈ front, R b a = false

namespace AreFirsts

variable {α : Type} {R E : α → α → Bool} {all firsts : List α} {a : α}

theorem append_old (h : AreFirsts R all firsts) (hold : ∃ b ∈ firsts, R b a = true) :
    AreFirsts R (all ++ [a]) firsts where
  sublist := h.sublist.trans (List.sublist_append_left all [a])
  complete := by
    intro c hc
    rcases List.mem_append.mp hc with hc | hc
    · exact h.complete c hc
    · obtain rfl := List.mem_singleton.mp hc
      exact hold
  distinct := h.distinct
  first := by
    intro c hc
    obtain ⟨front, back, rfl, hfront⟩ := h.first c hc
    exact ⟨front, back ++ [a], by simp, hfront⟩

theorem append_new (hrefl : ∀ a, R a a = true) (hR : JoinsUp R) (h : AreFirsts R all firsts)
    (hnew : ∀ b ∈ firsts, R b a = false) : AreFirsts R (all ++ [a]) (firsts ++ [a]) where
  sublist := h.sublist.append_right [a]
  complete := by
    intro c hc
    rcases List.mem_append.mp hc with hc | hc
    · obtain ⟨b, hb, hbc⟩ := h.complete c hc
      exact ⟨b, List.mem_append_left _ hb, hbc⟩
    · obtain rfl := List.mem_singleton.mp hc
      exact ⟨c, List.mem_append_right _ hc, hrefl c⟩
  distinct := by
    rw [List.pairwise_append]
    exact ⟨h.distinct, List.pairwise_singleton _ _, by simpa using hnew⟩
  first := by
    intro c hc
    rcases List.mem_append.mp hc with hc | hc
    · obtain ⟨front, back, rfl, hfront⟩ := h.first c hc
      exact ⟨front, back ++ [a], by simp, hfront⟩
    · obtain rfl := List.mem_singleton.mp hc
      refine ⟨all, [], rfl, fun b hb ↦ Bool.eq_false_iff.mpr fun hbc ↦ ?_⟩
      obtain ⟨d, hd, hdb⟩ := h.complete b hb
      exact Bool.eq_false_iff.mp (hnew d hd) (hR.trans hrefl hdb hbc)

/-- The first items are found by taking in, one by one, what nothing taken in is related to. -/
theorem foldl (hrefl : ∀ a, R a a = true) (hR : JoinsUp R) (all : List α) :
    AreFirsts R all
      (all.foldl (fun acc a ↦ if acc.any (R · a) then acc else acc ++ [a]) []) := by
  induction all using List.reverseRecOn with
  | nil => exact ⟨.slnil, by simp, .nil, by simp⟩
  | append_singleton all a ih =>
      rw [List.foldl_append, List.foldl_cons, List.foldl_nil]
      split
      · rename_i hany
        exact ih.append_old (List.any_eq_true.mp hany)
      · rename_i hany
        refine ih.append_new hrefl hR fun b hb ↦ Bool.eq_false_iff.mpr fun hba ↦ hany ?_
        exact List.any_eq_true.mpr ⟨b, hb, hba⟩

/-- The first items are told apart by a coarser relation just when it relates no more items. -/
theorem pairwise_iff (hR : JoinsUp R) (hrefl : ∀ a, R a a = true) (hE : JoinsUp E)
    (hRE : ∀ a b, R a b = true → E a b = true) (h : AreFirsts R all firsts) :
    firsts.Pairwise (fun a b ↦ E a b = false) ↔
      ∀ a ∈ all, ∀ b ∈ all, E a b = true → R a b = true := by
  have hrefl' : ∀ a, E a a = true := fun a ↦ hRE a a (hrefl a)
  constructor
  · intro hpairwise a ha b hb hab
    obtain ⟨c, hc, hca⟩ := h.complete a ha
    obtain ⟨d, hd, hdb⟩ := h.complete b hb
    have hcd : E c d = true :=
      hE.trans hrefl' (hRE c a hca) (hE.trans hrefl' hab (hE.symm hrefl' (hRE d b hdb)))
    have hsame : c = d := by
      by_contra hne
      have : Std.Symm fun x y ↦ E x y = false := ⟨fun x y hxy ↦
        Bool.eq_false_iff.mpr fun hyx ↦ Bool.eq_false_iff.mp hxy (hE.symm hrefl' hyx)⟩
      have hfalse := hpairwise.forall hc hd hne
      simp [hcd] at hfalse
    subst hsame
    exact hR.trans hrefl (hR.symm hrefl hca) hdb
  · intro hall
    refine h.distinct.imp_of_mem fun {a b} ha hb hab ↦ Bool.eq_false_iff.mpr fun hE' ↦ ?_
    have hrelated := hall a (h.sublist.subset ha) b (h.sublist.subset hb) hE'
    simp [hab] at hrelated

end AreFirsts

theorem areFirsts_distinctValues (vs : List Value) :
    AreFirsts Value.identical vs (Setup.distinctValues vs) :=
  AreFirsts.foldl Value.identical_refl Value.joinsUp_identical vs

theorem exists_beq_first_iff {identify : Value → Option Value} {vs ids : List Value}
    (h : AreFirsts Value.identical (vs.filterMap identify) ids) (i : Value) :
    (∃ j ∈ ids, (j == i) = true) ↔ ∃ v ∈ vs, ∃ j, identify v = some j ∧ (j == i) = true := by
  constructor
  · rintro ⟨j, hj, hji⟩
    obtain ⟨v, hv, hidentify⟩ := List.mem_filterMap.mp (h.sublist.subset hj)
    exact ⟨v, hv, j, hidentify, hji⟩
  · rintro ⟨v, hv, j, hidentify, hji⟩
    obtain ⟨k, hk, hkj⟩ := h.complete j (List.mem_filterMap.mpr ⟨v, hv, hidentify⟩)
    exact ⟨k, hk, Value.joinsUp_beq.trans Value.beq_self (Value.beq_of_identical hkj) hji⟩

/-! ## Tests of entities -/

namespace Setting

/-- The settings of a dialect that compares entities by their identifiers. -/
def byIdentifier (style : ListStyle) : List Setting := [.pathInEntities false, .listStyle style]

end Setting

namespace Dialect

variable {name : String} {style : ListStyle} {d : Dialect}

theorem exists_byIdentifier (name : String) (style : ListStyle) :
    ∃ d, build name .jpql (Setting.byIdentifier style) = .ok d :=
  exists_build name .jpql (by simp [Setting.byIdentifier, Setting.IsReadable])

theorem fields_byIdentifier (h : build name .jpql (Setting.byIdentifier style) = .ok d) :
    d.capabilities.pathInEntities = false ∧ d.listStyle = style ∧ d.wrapElements = [] := by
  obtain ⟨first, hstart, hfold⟩ := exists_of_build h
  obtain ⟨base, _, hstart⟩ := exists_of_bind hstart
  obtain ⟨like, _, hstart⟩ := exists_of_bind hstart
  obtain ⟨last, _, hstart⟩ := exists_of_bind hstart
  obtain rfl := Except.ok.inj hstart
  obtain rfl := Except.ok.inj hfold
  exact ⟨rfl, rfl, rfl⟩

end Dialect

def amongOp (present : Bool) : Op := if present then .isIn else .notIn

/-- The test whether a path is among constants, or that it is not. -/
def amongConstants (present : Bool) (type listType : ValueType) (p : Path) (vs : List Value) :
    Expr :=
  .operation type (.op (amongOp present)) [.path p, .constant ⟨listType, .list vs⟩]

def amongWord (present : Bool) : String := if present then " in " else " not in "

def ListStyle.written : ListStyle → String → String
  | .wrapped, placeholder => "(" ++ placeholder ++ ")"
  | _, placeholder => placeholder

theorem get?_amongOp {name : String} {style : ListStyle} {d : Dialect}
    (h : Dialect.build name .jpql (Setting.byIdentifier style) = .ok d) (present : Bool) :
    ∃ pattern, d.registry.get? (.op (amongOp present)) =
      some ⟨⟨pattern, [.arg 0, .text (amongWord present), .arg 1]⟩, 20, none⟩ := by
  cases present with
  | true =>
      have hmem : (Op.isIn, "{0} in {1}") ∈ Registry.baseOps := by simp [Registry.baseOps]
      obtain ⟨t, hparse, hget⟩ := Dialect.get?_op_of_isInherited h hmem rfl
      obtain rfl := Except.ok.inj hparse
      exact ⟨_, hget⟩
  | false =>
      have hmem : (Op.notIn, "{0} not in {1}") ∈ Registry.baseOps := by simp [Registry.baseOps]
      obtain ⟨t, hparse, hget⟩ := Dialect.get?_op_of_isInherited h hmem rfl
      obtain rfl := Except.ok.inj hparse
      exact ⟨_, hget⟩

namespace Setup

variable {s : Setup} {p : Path} {idName : String} {idType : ValueType}

/-- A list is one placeholder, in parentheses or not, unless its items are written. -/
theorem exists_chunks_list (hstyle : s.profile.listStyle ≠ .expanded) (ids : List Value)
    (scope : Scope) : ∃ before behind : List String,
      (s.value (.list ids)).render scope = .ok (before.map Chunk.text ++
        .placeholder (Value.list ids).valueType (.value (.list ids)) ::
          behind.map Chunk.text) ∧
      ∀ placeholder, String.join before ++ placeholder ++ String.join behind =
        s.profile.listStyle.written placeholder := by
  have hrender : (s.value (.list ids)).render =
      Rendering.constant s.profile.listStyle (.ofValue (.list ids)) := rfl
  rw [hrender]
  cases hs : s.profile.listStyle with
  | bare => exact ⟨[], [], rfl, by simp [ListStyle.written]⟩
  | wrapped => exact ⟨["("], [")"], rfl, by simp [ListStyle.written]⟩
  | expanded => exact absurd hs hstyle

theorem operand_amongConstants (hfamily : s.profile.family = .jpql) (present : Bool)
    (type listType : ValueType) (vs : List Value) :
    (s.operand (amongConstants present type listType p vs)).render =
      s.inside (amongOp present) (s.entityIn (amongOp present) p ⟨listType, .list vs⟩
        (s.operand (.path p)) (s.operand (.constant ⟨listType, .list vs⟩))) := by
  have hmembership : ∀ op member, s.membership op member (s.operand (.path p))
      (s.operand (.constant ⟨listType, .list vs⟩)) =
        s.entityIn op p ⟨listType, .list vs⟩ (s.operand (.path p))
          (s.operand (.constant ⟨listType, .list vs⟩)) := by
    intro op member
    unfold membership
    rw [expr_operand, expr_operand]
  change s.operationRendering (.op (amongOp present)) _ = _
  unfold operationRendering
  rw [hfamily]
  cases present with
  | true => exact congrArg (s.inside .isIn) (hmembership .isIn .memberOf)
  | false => exact congrArg (s.inside .notIn) (hmembership .notIn .notMemberOf)

/-- A test of an entity path is one of its identifying property, if all identifiers are known. -/
theorem entityIn_cases {identify : Value → Option Value} (hidentify : s.identify = some identify)
    (hby : s.profile.capabilities.pathInEntities = false) (hentity : p.type.isEntity = true)
    (hid : (s.metamodel.entity? p.type).bind EntityInfo.id = some (idName, idType)) (op : Op)
    (listType : ValueType) (vs : List Value) (y : Operand) :
    (s.entityIn op p ⟨listType, .list vs⟩ (s.operand (.path p)) y = s.plain (.op op)
          [s.operand (.path (.property idType p idName)),
            s.value (.list (distinctValues (vs.filterMap identify)))] ∧
        ∀ v ∈ vs, (identify v).isSome = true) ∨
      ∃ v ∈ vs, identify v = none ∧ s.entityIn op p ⟨listType, .list vs⟩ (s.operand (.path p)) y =
        .fail (.invalidArgument (.noIdentifier v)) := by
  have hcompares : s.ComparesIdentifiers p identify :=
    ⟨hentity, hby, by rw [hid]; rfl, hidentify⟩
  obtain ⟨name, type, hid', hentityIn⟩ := entityIn_of_comparesIdentifiers hcompares op
    ⟨listType, .list vs⟩ (s.operand (.path p)) y
  obtain ⟨rfl, rfl⟩ : idName = name ∧ idType = type := by simpa [hid] using hid'
  have helements : Value.elements (.list vs) = vs := rfl
  rw [hentityIn, helements]
  cases hfind : vs.find? fun v ↦ (identify v).isNone with
  | none =>
      refine .inl ⟨rfl, ?_⟩
      simpa [Option.isSome_iff_ne_none] using List.find?_eq_none.mp hfind
  | some v =>
      have hnone : identify v = none := by simpa using List.find?_some hfind
      exact .inr ⟨v, List.mem_of_find?_eq_some hfind, hnone, rfl⟩

end Setup

namespace Serializer

/-- A property among the values of one bound list. -/
theorem statement_amongList {s : Serializer} (hpaths : s.setup.HasPaths)
    (hstyle : s.dialect.listStyle ≠ .expanded) (hwraps : s.dialect.wrapElements = []) {op : Op}
    {pattern word : String} {precedence : Int}
    (hget : s.dialect.registry.get? (.op op) =
      some ⟨⟨pattern, [.arg 0, .text word, .arg 1]⟩, precedence, none⟩)
    {q : Path} (hq : q.isPlain = true) (ids : List Value) :
    s.statement {} (s.setup.inside op
        (s.setup.plain (.op op) [s.setup.operand (.path q), s.setup.value (.list ids)])) =
      .ok
        { text := s.setup.pathText q ++ word ++
            s.dialect.listStyle.written s.dialect.placeholders.first
          bindings := [.value (.list ids)]
          modifiers := {} } := by
  have hscope : s.setup.profile.wrapsElements op = false := by
    have hnone : s.setup.profile.wrapElements = [] := hwraps
    simp [Profile.wrapsElements, hnone]
  obtain ⟨texts, htexts, hjoin⟩ := Setup.exists_texts_of_isPlain hpaths hq {}
  obtain ⟨before, behind, hlist, hwritten⟩ :=
    Setup.exists_chunks_list (s := s.setup) hstyle ids {}
  have hargument : s.setup.argument precedence (s.setup.value (.list ids)) =
      (s.setup.value (.list ids)).render := Setup.argument_leaf precedence _ _
  have htested : s.setup.testedText q {} = s.setup.pathText q := rfl
  have hchunks : s.setup.inside op (s.setup.plain (.op op)
      [s.setup.operand (.path q), s.setup.value (.list ids)]) {} =
        .ok ((texts ++ word :: before).map Chunk.text ++
          .placeholder (Value.list ids).valueType (.value (.list ids)) ::
            behind.map Chunk.text) := by
    rw [Setup.plain_eq hget, Setup.apply_binary, Setup.argument_path, hargument, Setup.inside,
      Rendering.within, hscope]
    simp only [Rendering.append_apply, htexts, hlist]
    simp [Rendering.text, Rendering.empty, Except.bind, Except.map]
  have hplaceholder : s.dialect.listStyle.written s.dialect.placeholders.first =
      String.join before ++ s.dialect.placeholders.first ++ String.join behind :=
    (hwritten s.dialect.placeholders.first).symm
  rw [statement_placeholder_texts behind hchunks, String.join_append, hjoin, htested,
    String.join_cons, hplaceholder]
  simp only [String.append_assoc]

variable {name : String} {style : ListStyle} {d : Dialect} {m : Metamodel} {p : Path}
  {idName : String} {idType : ValueType}

/-- A test among entities that all have identifiers, or one of them that has none. -/
theorem serialize_amongConstants_cases
    (hbuild : Dialect.build name .jpql (Setting.byIdentifier style) = .ok d)
    (hstyle : style ≠ .expanded) (hp : p.isPlain = true) (hentity : p.type.isEntity = true)
    (hid : (m.entity? p.type).bind EntityInfo.id = some (idName, idType)) (present : Bool)
    (type listType : ValueType) (vs : List Value) :
    let s : Serializer := { dialect := d, metamodel := m, identify := some m.identifier? }
    let statement := s.serialize (.expr (amongConstants present type listType p vs))
    (statement =
        .ok
          { text := s.setup.pathText (.property idType p idName) ++ amongWord present ++
              style.written "?1"
            bindings := [.value (.list (Setup.distinctValues (vs.filterMap m.identifier?)))]
            modifiers := {} } ∧
        ∀ v ∈ vs, (m.identifier? v).isSome = true) ∨
      ∃ v ∈ vs, m.identifier? v = none ∧
        statement = .error (.invalidArgument (.noIdentifier v)) := by
  intro s statement
  obtain ⟨hby, hlist, hwraps⟩ := Dialect.fields_byIdentifier hbuild
  have hpaths := (hasPaths_of_build (s := s) hbuild
    (by simp [Setting.byIdentifier, Setting.sparesPatterns])).1
  have hmark : s.dialect.placeholders = .numbered '?' := Dialect.placeholders_of_build hbuild
  have hfirst : s.dialect.placeholders.first = "?1" := by
    rw [hmark]
    rfl
  obtain ⟨pattern, hget⟩ := get?_amongOp hbuild present
  have hrendering : s.setup.expr (amongConstants present type listType p vs) = _ :=
    Setup.operand_amongConstants (Dialect.family_of_build hbuild) present type listType vs
  have hstatement : statement = s.statement {} (s.setup.expr
    (amongConstants present type listType p vs)) := rfl
  rw [hrendering] at hstatement
  rcases Setup.entityIn_cases (s := s.setup) rfl hby hentity hid (amongOp present) listType vs
      (s.setup.operand (.constant ⟨listType, .list vs⟩)) with
    ⟨hplain, hall⟩ | ⟨v, hv, hnone, hfail⟩
  · have hwritten := statement_amongList hpaths (hlist ▸ hstyle) hwraps hget
      (q := .property idType p idName) hp (Setup.distinctValues (vs.filterMap m.identifier?))
    refine .inl ⟨?_, hall⟩
    rw [hstatement, hplain, hwritten, hfirst]
    exact hlist ▸ rfl
  · refine .inr ⟨v, hv, hnone, ?_⟩
    rw [hstatement, hfail]
    rfl

/-- Where entities are not compared, a test of an entity path among constant entities is refused
when one of them has no identifier. Otherwise it is a test of the identifying property, among the
first of all identical identifiers. That list has an identifier just when some entity has it, and
has it once unless entities have equal identifiers that are not identical. -/
theorem serialize_amongEntities (name : String) (style : ListStyle) (hstyle : style ≠ .expanded)
    (m : Metamodel) {p : Path} (hp : p.isPlain = true) (hentity : p.type.isEntity = true)
    {idName : String} {idType : ValueType}
    (hid : (m.entity? p.type).bind EntityInfo.id = some (idName, idType)) (present : Bool)
    (type listType : ValueType) (vs : List Value) :
    ∃ d, Dialect.build name .jpql (Setting.byIdentifier style) = .ok d ∧
      let s : Serializer := { dialect := d, metamodel := m, identify := some m.identifier? }
      let statement := s.serialize (.expr (amongConstants present type listType p vs))
      ((∃ v ∈ vs, m.identifier? v = none) →
        ∃ v ∈ vs, m.identifier? v = none ∧
          statement = .error (.invalidArgument (.noIdentifier v))) ∧
      ((∀ v ∈ vs, (m.identifier? v).isSome = true) →
        ∃ ids,
          statement = .ok
            { text := s.setup.pathText (.property idType p idName) ++ amongWord present ++
                style.written "?1"
              bindings := [.value (.list ids)]
              modifiers := {} } ∧
          AreFirsts Value.identical (vs.filterMap m.identifier?) ids ∧
          (∀ i, (∃ j ∈ ids, (j == i) = true) ↔
            ∃ v ∈ vs, ∃ j, m.identifier? v = some j ∧ (j == i) = true) ∧
          (ids.Pairwise (fun i j ↦ (i == j) = false) ↔
            ∀ i ∈ vs.filterMap m.identifier?, ∀ j ∈ vs.filterMap m.identifier?,
              (i == j) = true → i.identical j = true)) := by
  obtain ⟨d, hbuild⟩ := Dialect.exists_byIdentifier name style
  refine ⟨d, hbuild, ?_⟩
  intro s statement
  rcases serialize_amongConstants_cases hbuild hstyle hp hentity hid present type listType vs with
    ⟨hwritten, hall⟩ | ⟨v, hv, hnone, herror⟩
  · have hfirsts := areFirsts_distinctValues (vs.filterMap m.identifier?)
    refine ⟨fun ⟨v, hv, hnone⟩ ↦ ?_, fun _ ↦ ⟨_, hwritten, hfirsts,
      exists_beq_first_iff hfirsts, ?_⟩⟩
    · have hsome := hall v hv
      simp [hnone] at hsome
    · exact hfirsts.pairwise_iff Value.joinsUp_identical Value.identical_refl Value.joinsUp_beq
        fun _ _ ↦ Value.beq_of_identical
  · refine ⟨fun _ ↦ ⟨v, hv, hnone, herror⟩, fun hall ↦ ?_⟩
    have hsome := hall v hv
    simp [hnone] at hsome

/-! ### Cats by their identifiers -/

def catPath : Path := .root (.entity "Cat") "cat"

def catWithId (i : Value) : Value := .entity "Cat" [("id", i)]

/-- A metamodel in which cats have identifiers, and nothing else has. -/
def catIds (type : ValueType) : Metamodel := ({} : Metamodel).id "Cat" "id" type

theorem id_catIds (type : ValueType) :
    ((catIds type).entity? catPath.type).bind EntityInfo.id = some ("id", type) := rfl

theorem identifier?_catWithId (type : ValueType) (i : Value) :
    (catIds type).identifier? (catWithId i) = some i := rfl

theorem pathText_catId {s : Serializer}
    (hbuild : Dialect.build name .jpql (Setting.byIdentifier style) = .ok s.dialect)
    (idType : ValueType) : s.setup.pathText (.property idType catPath "id") = "cat.id" := by
  have hquote : s.setup.profile.quote = none := Dialect.quote_of_build hbuild rfl
  have hfamily : s.setup.profile.family = .jpql := Dialect.family_of_build hbuild
  simp only [Setup.pathText, catPath, Setup.columnName, Profile.quoteIdent, hquote, hfamily]
  rfl

/-- Two cats with equal identifiers, of which both are bound. -/
theorem serialize_reorderedIdentifiers :
    (reorderedObject.1 == reorderedObject.2) = true ∧
      ∃ d, Dialect.build "jpql" .jpql (Setting.byIdentifier .bare) = .ok d ∧
        ({ dialect := d, metamodel := catIds .json, identify := some (catIds .json).identifier? } :
            Serializer).serialize (.expr (amongConstants true .bool
              (.collection (.entity "Cat")) catPath
              [catWithId reorderedObject.1, catWithId reorderedObject.2])) =
          .ok ⟨"cat.id in ?1", [.value (.list [reorderedObject.1, reorderedObject.2])], {}⟩ := by
  refine ⟨by decide, ?_⟩
  obtain ⟨d, hbuild⟩ := Dialect.exists_byIdentifier "jpql" .bare
  refine ⟨d, hbuild, ?_⟩
  have hdistinct : Setup.distinctValues
      ([catWithId reorderedObject.1, catWithId reorderedObject.2].filterMap
        (catIds .json).identifier?) = [reorderedObject.1, reorderedObject.2] := rfl
  rcases serialize_amongConstants_cases hbuild (by decide) rfl rfl (id_catIds .json) true .bool
      (.collection (.entity "Cat")) [catWithId reorderedObject.1, catWithId reorderedObject.2] with
    ⟨hwritten, _⟩ | ⟨v, hv, hnone, _⟩
  · rw [hwritten, hdistinct, pathText_catId hbuild]
    rfl
  · simp only [List.mem_cons, List.not_mem_nil, or_false] at hv
    rcases hv with rfl | rfl <;> simp [identifier?_catWithId] at hnone

/-- A cat that is listed twice is tested once, and a dog among the cats is refused. -/
theorem exists_amongCats :
    let cats := [catWithId (.i32 1), catWithId (.i32 2), catWithId (.i32 1)]
    let dog : Value := .entity "Dog" [("id", .i32 3)]
    ∃ (d : Dialect) (ids : List Value),
      Dialect.build "jpql" .jpql (Setting.byIdentifier .wrapped) = .ok d ∧
      let s : Serializer :=
        { dialect := d, metamodel := catIds .i32, identify := some (catIds .i32).identifier? }
      s.serialize (.expr (amongConstants false .bool .object catPath cats)) =
          .ok ⟨"cat.id not in (?1)", [.value (.list ids)], {}⟩ ∧
        AreFirsts Value.identical [.i32 1, .i32 2, .i32 1] ids ∧
        ∃ v ∈ cats ++ [dog], (catIds .i32).identifier? v = none ∧
          s.serialize (.expr (amongConstants false .bool .object catPath (cats ++ [dog]))) =
            .error (.invalidArgument (.noIdentifier v)) := by
  intro cats dog
  obtain ⟨d, hbuild, _, hids⟩ := serialize_amongEntities "jpql" .wrapped (by decide)
    (catIds .i32) (p := catPath) rfl rfl (id_catIds .i32) false .bool .object cats
  obtain ⟨d', hbuild', hrefused, _⟩ := serialize_amongEntities "jpql" .wrapped (by decide)
    (catIds .i32) (p := catPath) rfl rfl (id_catIds .i32) false .bool .object (cats ++ [dog])
  obtain rfl := Except.ok.inj (hbuild.symm.trans hbuild')
  obtain ⟨ids, hwritten, hfirsts, _⟩ := hids (by simp [cats, identifier?_catWithId])
  refine ⟨d, ids, hbuild, ?_, hfirsts, hrefused ⟨dog, by simp, rfl⟩⟩
  rw [hwritten, pathText_catId hbuild]
  rfl

end Serializer

end TypedQuery
