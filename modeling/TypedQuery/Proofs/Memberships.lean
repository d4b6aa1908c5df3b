import TypedQuery.Proofs.Pagination.Queries

/-!
# Comparisons with some element

The object query languages write a comparison with some element of a collection as a membership
test. Equality becomes membership and means the same. Inequality becomes absence, which says that
all elements differ: where some but not all of them do, and where there are none, that is another
truth value than that of the comparison.
-/

namespace TypedQuery

/-! ## Values on a row -/

/-- The values that a constant stands for as the operand of a membership test. -/
def Value.elements (v : Value) : List Value := v.list?.getD [v]

/-- What operands stand for on one row of a database. The values are those that the database
compares, so that several constants may denote the same one. -/
structure RowValues (α : Type) where
  denote : Value → α
  value : Expr → α
  /-- The values of a collection or of a sub-query. -/
  members : Expr → List α
  /-- How a collection property holds a value. -/
  stored : Path → α → α
  identifier : α → α
  denote_eq {v w : Value} (h : v.identical w = true) : denote v = denote w
  value_constant (c : Constant) : value (.constant c) = denote c.value
  members_constant (c : Constant) : members (.constant c) = c.value.elements.map denote

/-- The form in which a constant is compared with a collection property. -/
def Setup.storedForm (s : Setup) (collection : Path) (v : Value) : Value :=
  match v with
  | .enum _ name ordinal =>
      if s.profile.capabilities.enumInPath then v
      else
        match s.encodingOf collection with
        | .ordinal => .i32 (.ofNat (min ordinal.toNat (UInt32.size / 2 - 1)))
        | .name => .string name
  | v => v

namespace RowValues

variable {α : Type} (r : RowValues α)

/-- What is looked for among the stored values of a collection: a constant as it is, the value of
another operand in the form in which it is stored. -/
def sought (collection : Path) : Expr → α
  | .constant c => r.denote c.value
  | x => r.stored collection (r.value x)

def IsStoredIn (x : Expr) : Expr → Prop
  | .path collection =>
      r.sought collection x ∈ (r.members (.path collection)).map (r.stored collection)
  | _ => False

/-- The truth value of a membership test. -/
def Holds (op : Op) (x y : Expr) : Prop :=
  match op with
  | .isIn => r.value x ∈ r.members y
  | .notIn => r.value x ∉ r.members y
  | .memberOf => r.IsStoredIn x y
  | .notMemberOf => ¬ r.IsStoredIn x y
  | _ => False

/-- Collections hold constants in their stored form, and entities have the identifiers that are read
from them. Neither makes values equal that are not. -/
structure Fits (s : Setup) (x y : Expr) : Prop where
  stores : ∀ collection c, y = .path collection → x = .constant c →
    r.stored collection (r.denote c.value) = r.denote (s.storedForm collection c.value)
  stored_inj : ∀ collection, y = .path collection → ∀ a ∈ r.members y,
    r.stored collection (r.value x) = r.stored collection a → r.value x = a
  identifies : ∀ p name type identify, x = .path p → p.type.isEntity = true →
    (s.metamodel.entity? p.type).bind EntityInfo.id = some (name, type) →
      s.identify = some identify →
        r.value (.path (.property type p name)) = r.identifier (r.value x) ∧
          ∀ v i, identify v = some i → r.identifier (r.denote v) = r.denote i
  identifier_inj : ∀ p, x = .path p → p.type.isEntity = true → ∀ a ∈ r.members y,
    r.identifier (r.value x) = r.identifier a → r.value x = a

end RowValues

/-! ## Constants in collection properties -/

namespace Setup

variable {s : Setup} {α : Type} {r : RowValues α} {x y : Expr}

theorem exists_encoded (s : Setup) (collection : Path) (c : Constant) :
    ∃ c' : Constant, s.encoded collection (s.operand (.constant c)) = s.operand (.constant c') ∧
      c'.value = s.storedForm collection c.value := by
  obtain ⟨type, v⟩ := c
  have hvalue : (s.operand (.constant ⟨type, v⟩)).value? = some v := by
    rw [Operand.value?, expr_operand]
    rfl
  unfold encoded storedForm
  rw [hvalue]
  by_cases henum : s.profile.capabilities.enumInPath = true
  · exact ⟨_, by rw [if_pos henum], by cases v <;> simp [henum]⟩
  · cases v with
    | enum typeName name ordinal =>
        rw [if_neg henum]
        dsimp only
        rw [if_neg henum]
        cases s.encodingOf collection with
        | ordinal => exact ⟨.ofValue _, rfl, rfl⟩
        | name => exact ⟨.ofValue _, rfl, rfl⟩
    | _ => exact ⟨_, by rw [if_neg henum], rfl⟩

theorem encoded_eq (collection : Path) (hx : x.isConstant = false) :
    s.encoded collection (s.operand x) = s.operand x := by
  have hvalue : (s.operand x).value? = none := by
    rw [Operand.value?, expr_operand]
    cases x <;> simp_all [Expr.isConstant, Expr.value?]
  unfold encoded
  rw [hvalue, ite_self]

/-- What is looked for in a collection property is written in the form it is stored in there. -/
theorem exists_sought (s : Setup) (collection : Path) (x : Expr) :
    ∃ x', s.encoded collection (s.operand x) = s.operand x' ∧
      ∀ {α : Type} (r : RowValues α), r.Fits s x (.path collection) →
        r.sought collection x' = r.stored collection (r.value x) := by
  cases x with
  | constant c =>
      obtain ⟨c', hencoded, hvalue⟩ := exists_encoded s collection c
      refine ⟨.constant c', hencoded, fun r hfits ↦ ?_⟩
      rw [RowValues.sought, hvalue, ← hfits.stores collection c rfl rfl, r.value_constant]
  | _ => exact ⟨_, encoded_eq collection rfl, fun r _ ↦ rfl⟩

/-- The value is stored, and no other member has the same stored form. -/
theorem isStoredIn_of_sought {collection : Path} {x' : Expr}
    (hfits : r.Fits s x (.path collection))
    (hsought : r.sought collection x' = r.stored collection (r.value x)) :
    r.IsStoredIn x' (.path collection) ↔ r.value x ∈ r.members (.path collection) := by
  rw [RowValues.IsStoredIn, hsought, List.mem_map]
  constructor
  · rintro ⟨a, ha, hstored⟩
    rwa [hfits.stored_inj collection rfl a ha hstored.symm]
  · intro hmem
    exact ⟨_, hmem, rfl⟩

/-! ## Constant entities -/

/-- Leaving out values that are identical to earlier ones takes away nothing that is denoted. -/
theorem mem_map_distinctValues (vs : List Value) (a : α) :
    a ∈ (distinctValues vs).map r.denote ↔ a ∈ vs.map r.denote := by
  have hfold : ∀ acc : List Value,
      a ∈ (vs.foldl (fun acc v ↦ if acc.any (·.identical v) then acc else acc ++ [v]) acc).map
        r.denote ↔ a ∈ acc.map r.denote ∨ a ∈ vs.map r.denote := by
    induction vs with
    | nil => simp
    | cons v vs ih =>
        intro acc
        rw [List.foldl_cons, ih, List.map_cons, List.mem_cons]
        split
        · rename_i hany
          obtain ⟨w, hw, hidentical⟩ := List.any_eq_true.mp hany
          have hv : r.denote v ∈ acc.map r.denote :=
            List.mem_map.mpr ⟨w, hw, r.denote_eq hidentical⟩
          constructor
          · rintro (h | h)
            · exact .inl h
            · exact .inr (.inr h)
          · rintro (h | rfl | h)
            · exact .inl h
            · exact .inl hv
            · exact .inr h
        · rw [List.map_append, List.mem_append, or_assoc]
          simp
  rw [distinctValues, hfold]
  simp

theorem mapM_identify (identify : Value → Option Value) {f : Value → Except Error Value}
    (hsome : ∀ v i, identify v = some i → f v = .ok i)
    (hnone : ∀ v, identify v = none → f v = .error (.invalidArgument (.noIdentifier v)))
    (entities : List Value) :
    entities.mapM f =
      match entities.find? fun v ↦ (identify v).isNone with
      | none => .ok (entities.filterMap identify)
      | some v => .error (.invalidArgument (.noIdentifier v)) := by
  induction entities with
  | nil => rfl
  | cons v entities ih =>
      rw [List.mapM_cons, List.find?_cons]
      cases hv : identify v with
      | none =>
          rw [hnone v hv]
          rfl
      | some i =>
          rw [hsome v i hv, ih, List.filterMap_cons_some hv]
          dsimp only [Option.isNone_some]
          cases entities.find? fun v ↦ (identify v).isNone <;> rfl

/-- The identifiers of entities, up to the first entity without one. -/
theorem identifiers_eq (identify : Value → Option Value) (entities : List Value) :
    identifiers identify entities =
      match entities.find? fun v ↦ (identify v).isNone with
      | none => .ok (distinctValues (entities.filterMap identify))
      | some v => .error (.invalidArgument (.noIdentifier v)) := by
  unfold identifiers
  rw [mapM_identify identify]
  · cases entities.find? fun v ↦ (identify v).isNone <;> rfl
  · intro v i hv
    rw [hv]
  · intro v hv
    rw [hv]

/-- An entity path is compared with constant entities by identifier: the dialect compares no
entities, and their identifiers can be read. -/
structure ComparesIdentifiers (s : Setup) (p : Path) (identify : Value → Option Value) : Prop where
  isEntity : p.type.isEntity = true
  comparesNoEntities : s.profile.capabilities.pathInEntities = false
  hasIdentifier : ((s.metamodel.entity? p.type).bind EntityInfo.id).isSome = true
  reads : s.identify = some identify

theorem entityIn_of_comparesIdentifiers {p : Path} {identify : Value → Option Value}
    (h : s.ComparesIdentifiers p identify) (op : Op) (c : Constant) (a b : Operand) :
    ∃ name type, (s.metamodel.entity? p.type).bind EntityInfo.id = some (name, type) ∧
      s.entityIn op p c a b =
        match c.value.elements.find? fun v ↦ (identify v).isNone with
        | none => s.plain (.op op) [s.propertyStep type p a name,
            s.value (.list (distinctValues (c.value.elements.filterMap identify)))]
        | some v => .fail (.invalidArgument (.noIdentifier v)) := by
  obtain ⟨⟨name, type⟩, hid⟩ := Option.isSome_iff_exists.mp h.hasIdentifier
  have helements : c.value.list?.getD [c.value] = c.value.elements := rfl
  refine ⟨name, type, hid, ?_⟩
  unfold entityIn
  rw [h.reads, hid, helements]
  simp only [h.isEntity, h.comparesNoEntities, identifiers_eq]
  cases c.value.elements.find? fun v ↦ (identify v).isNone <;> rfl

theorem entityIn_of_not_comparesIdentifiers {p : Path}
    (h : ∀ identify, ¬ s.ComparesIdentifiers p identify) (op : Op) (c : Constant)
    (a b : Operand) : s.entityIn op p c a b = s.plain (.op op) [a, b] := by
  unfold entityIn
  split
  · rename_i identify name type hidentify hid
    apply if_pos
    by_contra hby
    simp only [Bool.or_eq_true, not_or, Bool.not_eq_true, Bool.not_eq_false'] at hby
    exact h identify ⟨hby.2, hby.1, by rw [hid]; rfl, hidentify⟩
  · rfl

/-- A value is the first constant entity that has to be compared by identifier and has none. -/
def LacksIdentifier (s : Setup) (x y : Expr) (v : Value) : Prop :=
  ∃ p c identify, x = .path p ∧ y = .constant c ∧ s.ComparesIdentifiers p identify ∧
    c.value.elements.find? (fun entity ↦ (identify entity).isNone) = some v

theorem mem_identifiers {p : Path} {c : Constant} {name : String} {type : ValueType}
    {identify : Value → Option Value} (hentity : p.type.isEntity = true)
    (hid : (s.metamodel.entity? p.type).bind EntityInfo.id = some (name, type))
    (hidentify : s.identify = some identify) (hfits : r.Fits s (.path p) (.constant c))
    (hall : ∀ v ∈ c.value.elements, (identify v).isSome = true) :
    r.value (.path (.property type p name)) ∈
        (c.value.elements.filterMap identify).map r.denote ↔
      r.value (.path p) ∈ r.members (.constant c) := by
  obtain ⟨hproperty, hread⟩ := hfits.identifies p name type identify rfl hentity hid hidentify
  rw [hproperty]
  simp only [List.mem_map, List.mem_filterMap]
  constructor
  · rintro ⟨i, ⟨v, hv, hi⟩, heq⟩
    have hmem : r.denote v ∈ r.members (.constant c) := by
      rw [r.members_constant]
      exact List.mem_map_of_mem hv
    rw [← hread v i hi] at heq
    rwa [hfits.identifier_inj p rfl hentity _ hmem heq.symm]
  · intro hmem
    have hmem' := hmem
    rw [r.members_constant, List.mem_map] at hmem'
    obtain ⟨v, hv, heq⟩ := hmem'
    obtain ⟨i, hi⟩ := Option.isSome_iff_exists.mp (hall v hv)
    exact ⟨i, ⟨v, hv, hi⟩, by rw [← hread v i hi, heq]⟩

/-! ## Membership tests -/

theorem membership_of_lacksIdentifier {v : Value} (h : s.LacksIdentifier x y v) (op member : Op) :
    s.membership op member (s.operand x) (s.operand y) =
      .fail (.invalidArgument (.noIdentifier v)) := by
  obtain ⟨p, c, identify, rfl, rfl, hby, hfind⟩ := h
  obtain ⟨name, type, -, hentityIn⟩ := entityIn_of_comparesIdentifiers hby op c
    (s.operand (.path p)) (s.operand (.constant c))
  unfold membership
  rw [expr_operand, expr_operand]
  dsimp only
  rw [hentityIn, hfind]

/-- A test of an entity path against constants that all have identifiers keeps its meaning, whether
these are compared or not. -/
theorem exists_entityIn (s : Setup) (op : Op) (p : Path) (c : Constant)
    (hlacks : ∀ v, ¬ s.LacksIdentifier (.path p) (.constant c) v) :
    ∃ x' y', s.entityIn op p c (s.operand (.path p)) (s.operand (.constant c)) =
        s.plain (.op op) [s.operand x', s.operand y'] ∧
      ∀ {α : Type} (r : RowValues α), r.Fits s (.path p) (.constant c) →
        (r.value x' ∈ r.members y' ↔ r.value (.path p) ∈ r.members (.constant c)) := by
  by_cases hby : ∃ identify, s.ComparesIdentifiers p identify
  · obtain ⟨identify, hby⟩ := hby
    obtain ⟨name, type, hid, hentityIn⟩ := entityIn_of_comparesIdentifiers hby op c
      (s.operand (.path p)) (s.operand (.constant c))
    have hfind : c.value.elements.find? (fun v ↦ (identify v).isNone) = none := by
      by_contra hfind
      obtain ⟨v, hv⟩ := Option.ne_none_iff_exists'.mp hfind
      exact hlacks v ⟨p, c, identify, rfl, rfl, hby, hv⟩
    have hall : ∀ v ∈ c.value.elements, (identify v).isSome = true := by
      simpa [Option.isSome_iff_ne_none] using List.find?_eq_none.mp hfind
    rw [hfind] at hentityIn
    refine ⟨.path (.property type p name),
      .constant (.ofValue (.list (distinctValues (c.value.elements.filterMap identify)))),
      hentityIn, fun r hfits ↦ ?_⟩
    rw [r.members_constant]
    change _ ∈ (distinctValues (c.value.elements.filterMap identify)).map r.denote ↔ _
    rw [mem_map_distinctValues]
    exact mem_identifiers hby.isEntity hid hby.reads hfits hall
  · rw [not_exists] at hby
    exact ⟨_, _, entityIn_of_not_comparesIdentifiers hby op c _ _, fun r _ ↦ Iff.rfl⟩

/-- A membership test that is not refused keeps its meaning, whatever it is rewritten to. -/
theorem membership_cases (s : Setup) (op member : Op) (x y : Expr)
    (hlacks : ∀ v, ¬ s.LacksIdentifier x y v) :
    (∃ x' y', s.membership op member (s.operand x) (s.operand y) =
          s.plain (.op op) [s.operand x', s.operand y'] ∧
        ∀ {α : Type} (r : RowValues α), r.Fits s x y →
          (r.value x' ∈ r.members y' ↔ r.value x ∈ r.members y)) ∨
      ∃ x' y', s.membership op member (s.operand x) (s.operand y) =
          s.plain (.op member) [s.operand x', s.operand y'] ∧
        ∀ {α : Type} (r : RowValues α), r.Fits s x y →
          (r.IsStoredIn x' y' ↔ r.value x ∈ r.members y) := by
  unfold membership
  rw [expr_operand, expr_operand]
  split
  · rename_i collection
    obtain ⟨x', hencoded, hsought⟩ := exists_sought s collection x
    refine .inr ⟨x', .path collection, by rw [hencoded], fun r hfits ↦ ?_⟩
    exact isStoredIn_of_sought hfits (hsought r hfits)
  · rename_i p c
    exact .inl (exists_entityIn s op p c hlacks)
  · exact .inl ⟨x, y, rfl, fun r _ ↦ Iff.rfl⟩

/-- How a comparison with some element is written. For a constant entity that has to be compared by
identifier and has none it is refused. Otherwise it is a membership test of two expressions by one
of two operators, with the truth value that is given for each row. -/
structure WritesTest (s : Setup) (x y : Expr) (outer op member : Op)
    (truth : ∀ {α : Type}, RowValues α → Prop) (rendering : Rendering) : Prop where
  refused : ∀ v, s.LacksIdentifier x y v →
    rendering = .fail (.invalidArgument (.noIdentifier v))
  written : (∀ v, ¬ s.LacksIdentifier x y v) → ∃ test x' y', test ∈ [op, member] ∧
    rendering = s.inside outer
      (s.inside op (s.plain (.op test) [s.operand x', s.operand y'])) ∧
    ∀ {α : Type} (r : RowValues α), r.Fits s x y → (r.Holds test x' y' ↔ truth r)

/-- The comparison of an expression with some element of another one. -/
def someComparison (s : Setup) (op : Op) (type anyType : ValueType) (x y : Expr)
    (others : List Expr) : Rendering :=
  (s.operand (.operation type (.op op) [x, .operation anyType (.op .any) (y :: others)])).render

theorem someComparison_eq (hfamily : s.profile.family = .jpql) (type anyType : ValueType)
    (x y : Expr) (others : List Expr) :
    s.someComparison .eq type anyType x y others =
        s.inside .eq (s.inside .isIn (s.membership .isIn .memberOf (s.operand x) (s.operand y))) ∧
      s.someComparison .ne type anyType x y others =
        s.inside .ne
          (s.inside .notIn (s.membership .notIn .notMemberOf (s.operand x) (s.operand y))) := by
  constructor
  · change s.operationRendering (.op .eq) _ = _
    unfold operationRendering
    rw [hfamily]
    rfl
  · change s.operationRendering (.op .ne) _ = _
    unfold operationRendering
    rw [hfamily]
    rfl

/-- Two operators that make a truth value out of membership write a test with that value. -/
theorem writesTest_membership (s : Setup) (outer op member : Op) (x y : Expr)
    {truth : ∀ {α : Type}, RowValues α → Prop}
    (hop : ∀ {α : Type} (r : RowValues α) (x' y' : Expr),
      (r.value x' ∈ r.members y' ↔ r.value x ∈ r.members y) → (r.Holds op x' y' ↔ truth r))
    (hmember : ∀ {α : Type} (r : RowValues α) (x' y' : Expr),
      (r.IsStoredIn x' y' ↔ r.value x ∈ r.members y) → (r.Holds member x' y' ↔ truth r)) :
    s.WritesTest x y outer op member truth
      (s.inside outer (s.inside op (s.membership op member (s.operand x) (s.operand y)))) := by
  constructor
  · intro v hlacks
    rw [membership_of_lacksIdentifier hlacks]
    rfl
  · intro hlacks
    rcases membership_cases s op member x y hlacks with
      ⟨x', y', hplain, hholds⟩ | ⟨x', y', hplain, hholds⟩
    · exact ⟨op, x', y', by simp, by rw [hplain], fun r hfits ↦ hop r _ _ (hholds r hfits)⟩
    · exact ⟨member, x', y', by simp, by rw [hplain],
        fun r hfits ↦ hmember r _ _ (hholds r hfits)⟩

theorem writesTest_isIn (s : Setup) (outer : Op) (x y : Expr) :
    s.WritesTest x y outer .isIn .memberOf (fun r ↦ ∃ a ∈ r.members y, r.value x = a)
      (s.inside outer
        (s.inside .isIn (s.membership .isIn .memberOf (s.operand x) (s.operand y)))) := by
  apply writesTest_membership
  · intro α r x' y' h
    simpa [RowValues.Holds] using h
  · intro α r x' y' h
    simpa [RowValues.Holds] using h

theorem writesTest_notIn (s : Setup) (outer : Op) (x y : Expr) :
    s.WritesTest x y outer .notIn .notMemberOf (fun r ↦ ∀ a ∈ r.members y, r.value x ≠ a)
      (s.inside outer
        (s.inside .notIn (s.membership .notIn .notMemberOf (s.operand x) (s.operand y)))) := by
  have hall : ∀ {α : Type} (r : RowValues α),
      r.value x ∉ r.members y ↔ ∀ a ∈ r.members y, r.value x ≠ a := fun r ↦
    ⟨fun h a ha heq ↦ h (heq ▸ ha), fun h hmem ↦ h _ hmem rfl⟩
  apply writesTest_membership
  · intro α r x' y' h
    exact (not_congr h).trans (hall r)
  · intro α r x' y' h
    exact (not_congr h).trans (hall r)

theorem absent_iff_some_ne {α : Type} {l : List α} {b : α} :
    ((∀ a ∈ l, b ≠ a) ↔ ∃ a ∈ l, b ≠ a) ↔ l ≠ [] ∧ (b ∈ l → ∀ a ∈ l, b = a) := by
  constructor
  · intro h
    refine ⟨?_, fun hb a ha ↦ ?_⟩
    · rintro rfl
      simp at h
    · by_contra hne
      exact h.mpr ⟨a, ha, hne⟩ b hb rfl
  · rintro ⟨hnonempty, hsame⟩
    obtain ⟨c, hc⟩ := List.exists_mem_of_ne_nil l hnonempty
    constructor
    · intro hall
      exact ⟨c, hc, hall c hc⟩
    · rintro ⟨a, ha, hne⟩ d hd rfl
      exact hne (hsame hd a ha)

/-- In the object query languages equality with some element is written as a test with the same
truth value. Inequality is written as a test that all elements differ. The two have one truth value
just where there are elements, and where none of them is equal unless all are. -/
theorem someComparison_writesTest (s : Setup) (hfamily : s.profile.family = .jpql)
    (type anyType : ValueType) (x y : Expr) (others : List Expr) :
    s.WritesTest x y .eq .isIn .memberOf (fun r ↦ ∃ a ∈ r.members y, r.value x = a)
        (s.someComparison .eq type anyType x y others) ∧
      s.WritesTest x y .ne .notIn .notMemberOf (fun r ↦ ∀ a ∈ r.members y, r.value x ≠ a)
        (s.someComparison .ne type anyType x y others) ∧
      ∀ {α : Type} (r : RowValues α),
        ((∀ a ∈ r.members y, r.value x ≠ a) ↔ ∃ a ∈ r.members y, r.value x ≠ a) ↔
          r.members y ≠ [] ∧
            (r.value x ∈ r.members y → ∀ a ∈ r.members y, r.value x = a) := by
  obtain ⟨heq, hne⟩ := someComparison_eq hfamily type anyType x y others
  rw [heq, hne]
  exact ⟨writesTest_isIn s .eq x y, writesTest_notIn s .ne x y, fun _ ↦ absent_iff_some_ne⟩

/-! ### An example -/

/-- The name of an enumeration constant, or a text. -/
def colorName : Value → String
  | .enum _ name _ => name
  | .string name => name
  | _ => ""

theorem colorName_eq {v w : Value} (h : v.identical w = true) : colorName v = colorName w := by
  unfold Value.identical Value.eqvBy at h
  split at h <;> simp_all [colorName]

/-- A black cat that has been red. -/
def blackCat : RowValues String where
  denote := colorName
  value
    | .constant c => colorName c.value
    | _ => "BLACK"
  members
    | .constant c => c.value.elements.map colorName
    | _ => ["RED", "BLACK"]
  stored _ name := name
  identifier name := name
  denote_eq := colorName_eq
  value_constant _ := rfl
  members_constant _ := rfl

def catColor : Path := .property (.enum "Color") (.entity "Cat" "cat") "color"

def catColors : Path := .property (.collection (.enum "Color")) (.entity "Cat" "cat") "colors"

def black : Expr := .ofValue (.enum "Color" "BLACK" 1)

theorem fits_black {s : Setup} (hencoding : s.encodingOf catColors = .name) :
    blackCat.Fits s black (.path catColors) where
  stores := by
    rintro collection c ⟨⟩ ⟨⟩
    change "BLACK" = colorName (s.storedForm catColors (.enum "Color" "BLACK" 1))
    simp only [storedForm, hencoding]
    split <;> rfl
  stored_inj := fun _ _ _ _ h ↦ h
  identifies := by
    rintro p name type identify ⟨⟩
  identifier_inj := fun _ _ _ _ _ h ↦ h

/-- In a dialect that compares collections with stored forms, the test whether some color of a black
cat is black holds. -/
theorem exists_writesTest_black :
    ∃ (d : Dialect) (test : Op) (x y : Expr), Dialect.hql = .ok d ∧
      test ∈ [Op.isIn, Op.memberOf] ∧
      let s : Setup :=
        { profile := d.toProfile, metamodel := ({} : Metamodel).encoding "Cat" "colors" .name }
      s.someComparison .eq .bool (.collection (.enum "Color")) black (.path catColors) [] =
          s.inside .eq (s.inside .isIn (s.plain (.op test) [s.operand x, s.operand y])) ∧
        blackCat.Fits s black (.path catColors) ∧ blackCat.Holds test x y := by
  obtain ⟨d, hbuild⟩ := Dialect.exists_of_mem_known ("hql", Dialect.hql) (by simp [Dialect.known])
  have hfits : blackCat.Fits
      { profile := d.toProfile, metamodel := ({} : Metamodel).encoding "Cat" "colors" .name }
      black (.path catColors) := fits_black rfl
  obtain ⟨hwrites, _⟩ := someComparison_writesTest
    { profile := d.toProfile, metamodel := ({} : Metamodel).encoding "Cat" "colors" .name }
    (Dialect.family_of_build hbuild) .bool (.collection (.enum "Color")) black (.path catColors) []
  obtain ⟨test, x, y, htest, hrendering, hholds⟩ := hwrites.written (by
    rintro v ⟨_, _, _, ⟨⟩, _⟩)
  refine ⟨d, test, x, y, hbuild, htest, hrendering, hfits, (hholds blackCat hfits).mpr ?_⟩
  exact ⟨"BLACK", by simp [blackCat], rfl⟩

/-- A black cat that has been red differs from some of its colors, but not from all of them. -/
theorem exists_notMemberOf_color :
    ∃ d : Dialect, Dialect.jpql = .ok d ∧
      let s : Setup := { profile := d.toProfile }
      s.someComparison .ne .bool (.collection (.enum "Color")) (.path catColor) (.path catColors)
            [] =
          s.inside .ne (s.inside .notIn (s.plain (.op .notMemberOf)
            [s.operand (.path catColor), s.operand (.path catColors)])) ∧
        blackCat.Fits s (.path catColor) (.path catColors) ∧
        ¬ blackCat.Holds .notMemberOf (.path catColor) (.path catColors) ∧
        ∃ a ∈ blackCat.members (.path catColors), blackCat.value (.path catColor) ≠ a := by
  obtain ⟨d, hbuild⟩ := Dialect.exists_jpql
  refine ⟨d, hbuild, ?_, ⟨?_, fun _ _ _ _ h ↦ h, ?_, fun _ _ _ _ _ h ↦ h⟩, ?_, "RED", ?_, ?_⟩
  · rw [(someComparison_eq (Dialect.family_of_build hbuild) _ _ _ _ _).2]
    have hencoded := encoded_eq (s := { profile := d.toProfile }) (x := .path catColor) catColors
      rfl
    change inside _ _ (inside _ _ (plain _ _ [encoded _ catColors _, _])) = _
    rw [hencoded]
  · rintro collection c ⟨⟩ ⟨⟩
  · rintro p name type identify ⟨⟩ hentity
    cases hentity
  · simp [RowValues.Holds, RowValues.IsStoredIn, RowValues.sought, blackCat]
  · simp [blackCat]
  · simp [blackCat]

end Setup

end TypedQuery
