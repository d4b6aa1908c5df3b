import TypedQuery.Proofs.Filters.Conditions
import TypedQuery.Proofs.Reading.Connectives

/-!
# Predicates as trees of connectives

The filter of a predicate is built along its connectives, and its leaves have filters of their own.
What the filter of a plain predicate means is what the predicate makes of the meaning of its leaves.
-/

namespace TypedQuery

open Document Reading

/-- The connectives of a predicate, above everything that is none. -/
def Expr.tree : Expr → OpTree Connective Expr
  | .operation _ (.op .and) [lhs, rhs] => .binary .and lhs.tree rhs.tree
  | .operation _ (.op .or) [lhs, rhs] => .binary .or lhs.tree rhs.tree
  | .operation _ (.op .not) [inner] => .unary inner.tree
  | e => .atom e

namespace DocumentStore

variable {d : DocumentStore} {e inner : Expr} {doc : Document}

/-- A leaf with a filter is a path, or an operation with a condition. -/
theorem exists_of_filter_leaf (hleaf : e.tree = .atom e) (h : d.filter e = .ok doc) :
    (∃ p key, e = .path p ∧ d.key p = .ok key ∧ doc = single key (.bool true)) ∨
      ∃ type op args, e = .operation type (.op op) args ∧
        d.elementCondition type op args = .ok doc := by
  unfold filter at h
  split at h
  · rename_i p
    split at h
    · cases hkey : d.key p with
      | error _ =>
          rw [hkey] at h
          cases h
      | ok key =>
          rw [hkey] at h
          exact .inl ⟨p, key, rfl, hkey, (Except.ok.inj h).symm⟩
    · cases h
  case h_2 | h_3 | h_4 => simp [Expr.tree] at hleaf
  · rename_i type op args _ _ _
    split at h
    case h_4 => exact .inr ⟨type, op, args, rfl, h⟩
    all_goals cases h
  · cases h

/-- The filter of a predicate over flat constants is regular. -/
theorem isRegular_filter (hflat : IsFlat e) (h : d.filter e = .ok doc) : doc.IsRegular := by
  induction e using Expr.tree.induct generalizing doc with
  | case1 type lhs rhs ihl ihr =>
      rw [filter] at h
      obtain ⟨left, hleft, h⟩ := exists_of_bind h
      obtain ⟨right, hright, h⟩ := exists_of_bind h
      obtain rfl := Except.ok.inj h
      exact isRegular_and (ihl (hflat.arg (by simp)) hleft) (ihr (hflat.arg (by simp)) hright)
  | case2 type lhs rhs ihl ihr =>
      rw [filter] at h
      obtain ⟨left, _, h⟩ := exists_of_bind h
      obtain ⟨right, _, h⟩ := exists_of_bind h
      obtain rfl := Except.ok.inj h
      exact isRegular_single _ rfl
  | case3 type inner ih =>
      rw [filter] at h
      exact isRegular_negation (hflat.arg (by simp)) h
  | case4 e hand hor hnot =>
      rcases exists_of_filter_leaf (Expr.tree.eq_4 e hand hor hnot) h with
        ⟨p, key, rfl, _, rfl⟩ | ⟨type, op, args, rfl, hcondition⟩
      · exact isRegular_single key rfl
      · exact isRegular_elementCondition (fun a ha ↦ hflat.arg ha) hcondition

end DocumentStore

/-! ## Plain documents -/

namespace Document

variable {doc left right : Document}

/-- Keys occur once. No member is a condition on one element, and what stands under an operator is
a list. -/
structure IsPlain (doc : Document) : Prop where
  nodup : (doc.map Prod.fst).Nodup
  element : ∀ key value, (key, value) ∈ doc → elementMatch? value = none
  list : ∀ key value, (key, value) ∈ doc → key.startsWith "$" = true →
    ∃ items, value = .array items

theorem IsPlain.listsUnder (h : doc.IsPlain) {name : String} (hname : name.startsWith "$" = true) :
    doc.ListsUnder name := by
  rintro value rfl
  exact h.list name value List.mem_cons_self hname

theorem isPlain_list (name : String) (items : List Json) :
    (single name (.array items)).IsPlain := by
  constructor <;> simp [single, elementMatch?]

theorem isPlain_field {key : String} (hkey : ¬ key.startsWith "$" = true) {value : Json}
    (hvalue : elementMatch? value = none) : (single key value).IsPlain := by
  constructor
  · simp [single]
  · simp [single, hvalue]
  · intro k v hmem hk
    obtain ⟨rfl, rfl⟩ : k = key ∧ v = value := by simpa [single] using hmem
    exact absurd hk hkey

theorem IsCondition.isPlain (h : doc.IsCondition fun key ↦ ¬ key.startsWith "$" = true) :
    doc.IsPlain := by
  cases h with
  | field hkey hvalue => exact isPlain_field hkey hvalue
  | list items => exact isPlain_list "$or" items

theorem lookup_eq_none_of_canJoin (hright : right.IsPlain) (hjoin : right.all (canJoin left) = true)
    {key : String} {value : Json} (h : right.lookup key = some value) : left.lookup key = none := by
  have hmem := (lookup_eq_some_iff hright.nodup).mp h
  rcases canJoin_cases (List.all_eq_true.mp hjoin _ hmem) with hnone | ⟨_, _, _, _, _, hextra⟩
  · exact hnone
  · rw [hright.element key value hmem] at hextra
    cases hextra

/-- The members of plain documents stay apart when one of them joins the other. -/
theorem lookup_foldl_join_of_isPlain (hright : right.IsPlain)
    (hjoin : right.all (canJoin left) = true) (key : String) :
    List.lookup key (right.foldl join left) = (right.lookup key).or (left.lookup key) := by
  rw [lookup_foldl_join left hright.nodup]
  cases hvalue : right.lookup key with
  | none => rfl
  | some value => simp [joined, lookup_eq_none_of_canJoin hright hjoin hvalue]

theorem isPlain_and (hleft : left.IsPlain) (hright : right.IsPlain) :
    (Document.and left right).IsPlain := by
  unfold Document.and
  split
  · rename_i hjoin
    have hnodup := nodup_foldl_join hleft.nodup right
    have hcases : ∀ key value, (key, value) ∈ right.foldl join left →
        (key, value) ∈ left ∨ (key, value) ∈ right := by
      intro key value hmem
      rw [← lookup_eq_some_iff hnodup, lookup_foldl_join_of_isPlain hright hjoin,
        Option.or_eq_some_iff] at hmem
      rw [← lookup_eq_some_iff hleft.nodup, ← lookup_eq_some_iff hright.nodup]
      tauto
    refine ⟨hnodup, fun key value hmem ↦ ?_, fun key value hmem ↦ ?_⟩
    · rcases hcases key value hmem with hmem | hmem
      · exact hleft.element key value hmem
      · exact hright.element key value hmem
    · rcases hcases key value hmem with hmem | hmem
      · exact hleft.list key value hmem
      · exact hright.list key value hmem
  · exact isPlain_list _ _

end Document

namespace DataModel

variable {δ : Type} {m : DataModel δ} {x : δ} {left right : Document}

theorem satisfies_and (hleft : left.IsPlain) (hright : right.IsPlain) :
    m.satisfies x (Document.and left right) = (m.satisfies x left && m.satisfies x right) := by
  unfold Document.and
  split
  · rename_i hjoin
    have hlookup := lookup_foldl_join_of_isPlain hright hjoin
    rw [Bool.eq_iff_iff, Bool.and_eq_true,
      satisfies_iff_forall_lookup (nodup_foldl_join hleft.nodup right),
      satisfies_iff_forall_lookup hleft.nodup, satisfies_iff_forall_lookup hright.nodup]
    constructor
    · intro h
      refine ⟨fun key value hvalue ↦ h key value ?_, fun key value hvalue ↦ h key value ?_⟩
      · cases hother : right.lookup key with
        | none => rw [hlookup, hother, hvalue]; rfl
        | some other =>
            rw [lookup_eq_none_of_canJoin hright hjoin hother] at hvalue
            cases hvalue
      · rw [hlookup, hvalue]; rfl
    · rintro ⟨hl, hr⟩ key value hvalue
      rw [hlookup, Option.or_eq_some_iff] at hvalue
      rcases hvalue with hvalue | ⟨_, hvalue⟩
      · exact hr key value hvalue
      · exact hl key value hvalue
  · have hname : ("$and").startsWith "$" = true := by simp
    exact satisfies_listed_and (hleft.listsUnder hname) (hright.listsUnder hname)

end DataModel

/-! ## Plain predicates -/

namespace DocumentStore

variable {d : DocumentStore} {e inner : Expr} {doc : Document} {δ : Type} {m : DataModel δ} {x : δ}

/-- The paths of a predicate take no step to some element and have no keys that look like operators,
and its constants are flat. -/
structure IsPlain (d : DocumentStore) (e : Expr) : Prop where
  flat : IsFlat e
  key : ∀ p key, .path p ∈ e.terms → d.key p = .ok key → ¬ key.startsWith "$" = true
  noElement : ∀ p, .path p ∈ e.terms → ∀ q ∈ p.ancestry, q.kind ≠ .collectionAny

theorem IsPlain.arg {type : ValueType} {operator : Operator} {args : List Expr}
    (h : d.IsPlain (.operation type operator args)) {a : Expr} (ha : a ∈ args) : d.IsPlain a where
  flat := h.flat.arg ha
  key p key hp := h.key p key (Expr.terms_subset ha hp)
  noElement p hp := h.noElement p (Expr.terms_subset ha hp)

theorem IsPlain.admits (h : d.IsPlain e) : d.Admits (fun key ↦ ¬ key.startsWith "$" = true) e where
  flat := h.flat
  key p key hp hkey := by
    have hplain := h.key p key hp hkey
    refine ⟨hplain, fun rest ↦ ?_⟩
    cases hchars : key.toList with
    | nil => simp [String.startsWith_string_iff, hchars]
    | cons c cs =>
        rw [String.startsWith_string_iff, hchars] at hplain
        simp only [String.startsWith_string_iff, String.toList_append, hchars]
        simpa using hplain

theorem splitAtElement?_eq_none {p : Path} (h : ∀ q ∈ p.ancestry, q.kind ≠ .collectionAny) :
    p.splitAtElement? = none := by
  induction p using Path.splitAtElement?.induct with
  | case1 => rfl
  | case2 type parent => exact absurd rfl (h _ List.mem_cons_self)
  | case3 type parent _ ih | case4 type parent _ ih | case5 type parent _ ih =>
      rw [Path.splitAtElement?, ih fun q hq ↦ h q (List.mem_cons_of_mem _ hq)]
      rfl
  | case6 type parent _ ih | case7 type parent _ ih =>
      rw [Path.splitAtElement?, ih fun q hq ↦ h q (List.mem_cons_of_mem _ hq)]

theorem IsPlain.elementCondition_eq {type : ValueType} {op : Op} {args : List Expr}
    (h : d.IsPlain (.operation type (.op op) args)) :
    d.elementCondition type op args = d.condition type op args := by
  unfold elementCondition
  split
  · rename_i p others
    have hp : Expr.path p ∈ (Expr.operation type (.op op) (.path p :: others)).terms :=
      Expr.terms_subset List.mem_cons_self (by simp [Expr.terms_path])
    have hsplit := splitAtElement?_eq_none (h.noElement p hp)
    have hbelow : p.belowElement? = none := by
      unfold Path.belowElement?
      split
      · rfl
      · exact hsplit
    rw [hbelow]
  · rfl

theorem isPlain_filter_leaf (h : d.IsPlain e) (hleaf : e.tree = .atom e)
    (hfilter : d.filter e = .ok doc) : doc.IsPlain := by
  rcases exists_of_filter_leaf hleaf hfilter with
    ⟨p, key, rfl, hkey, rfl⟩ | ⟨type, op, args, rfl, hcondition⟩
  · exact isPlain_field (h.key p key (by simp [Expr.terms_path]) hkey) rfl
  · rw [h.elementCondition_eq] at hcondition
    exact (isCondition_condition (fun a ha ↦ (h.arg ha).admits) hcondition).isPlain

/-! ## Negations -/

/-- One condition on a key is met where the other one is not. -/
def Opposite (key : String) (condition other : Json) : Prop :=
  elementMatch? condition = none ∧ elementMatch? other = none ∧
    ∀ {δ : Type} (m : DataModel δ) (x : δ), m.meets x key other = !m.meets x key condition

theorem opposite_ne (key : String) {value : Json} (h : value.isObject = false) :
    Opposite key value (operator "$ne" value) :=
  ⟨elementMatch?_of_isObject h, elementMatch?_operator_ne (by decide) value,
    fun m x ↦ m.meets_ne x key value h⟩

theorem opposite_absent (key : String) : Opposite key (existence true) (existence false) :=
  ⟨elementMatch?_operator_ne (by decide) _, elementMatch?_operator_ne (by decide) _,
    fun m x ↦ m.meets_absent x key⟩

theorem Opposite.symm {key : String} {condition other : Json} (h : Opposite key condition other) :
    Opposite key other condition :=
  ⟨h.2.1, h.1, fun m x ↦ by rw [h.2.2 m x, Bool.not_not]⟩

/-- Two results that are errors alike, or opposite conditions on one key. -/
inductive Opposed : Except Error Document → Except Error Document → Prop
  | field {key : String} {condition other : Json} (hkey : ¬ key.startsWith "$" = true)
      (hother : Opposite key condition other) :
      Opposed (.ok (single key condition)) (.ok (single key other))
  | error (e : Error) : Opposed (.error e) (.error e)

theorem Opposed.symm {r r' : Except Error Document} (h : Opposed r r') : Opposed r' r := by
  cases h with
  | field hkey hother => exact .field hkey hother.symm
  | error e => exact .error e

theorem opposed_compare {path value : Expr} (hpath : d.IsPlain path) (hvalue : d.IsPlain value) :
    Opposed (d.compareEqual path value) (d.compare "$ne" path value) := by
  rw [compareEqual, compare]
  cases hkey : d.pathKey path with
  | error e => exact .error e
  | ok key =>
      cases hjson : d.constantJson value with
      | error e => exact .error e
      | ok json =>
          exact .field (hpath.admits.pathKey hkey).1
            (opposite_ne key (hvalue.admits.constantJson hjson))

theorem opposed_exists? {path : Expr} (hpath : d.IsPlain path) :
    Opposed (d.exists? path true) (d.exists? path false) := by
  rw [exists?, exists?]
  cases hkey : d.pathKey path with
  | error e => exact .error e
  | ok key => exact .field (hpath.admits.pathKey hkey).1 (opposite_absent key)

/-- A negation is the opposite of the negated condition, or lists it. -/
theorem negation_cases (h : d.IsPlain inner) :
    Opposed (d.filter inner) (d.negation inner (d.filter inner)) ∨
      d.negation inner (d.filter inner) =
        (d.filter inner).map fun doc ↦ single "$nor" (.array [.object doc]) := by
  unfold negation
  -- the first four are the tests with a negation of their own
  split
  · rename_i type p value
    have hfilter : d.filter (.operation type (.op .eq) [.path p, value]) =
        d.compareEqual (.path p) value := h.elementCondition_eq
    rw [hfilter]
    exact .inl (opposed_compare (h.arg (by simp)) (h.arg (by simp)))
  · rename_i type p value
    have hfilter : d.filter (.operation type (.op .ne) [.path p, value]) =
        d.compare "$ne" (.path p) value := h.elementCondition_eq
    rw [hfilter]
    exact .inl (opposed_compare (h.arg (by simp)) (h.arg (by simp))).symm
  · rename_i type path
    have hfilter : d.filter (.operation type (.op .isNull) [path]) = d.exists? path false :=
      h.elementCondition_eq
    rw [hfilter]
    exact .inl (opposed_exists? (h.arg (by simp))).symm
  · rename_i type path
    have hfilter : d.filter (.operation type (.op .isNotNull) [path]) = d.exists? path true :=
      h.elementCondition_eq
    rw [hfilter]
    exact .inl (opposed_exists? (h.arg (by simp)))
  · exact .inr rfl

/-- A negation has a filter when the negated predicate has one, and is met when that one is not. -/
theorem exists_negation (h : d.IsPlain inner) (hfilter : d.filter inner = .ok doc) :
    ∃ negated, d.negation inner (d.filter inner) = .ok negated ∧ negated.IsPlain ∧
      ∀ {δ : Type} (m : DataModel δ) (x : δ), m.satisfies x negated = !m.satisfies x doc := by
  rcases negation_cases h with hopposed | hlisted
  · generalize d.negation inner (d.filter inner) = result at hopposed ⊢
    rw [hfilter] at hopposed
    cases hopposed with
    | @field key condition other hkey hother =>
        refine ⟨_, rfl, isPlain_field hkey hother.2.1, fun m x ↦ ?_⟩
        have hnot : key ∉ ["$and", "$or", "$nor"] := by
          intro hmem
          simp only [List.mem_cons, List.not_mem_nil, or_false] at hmem
          rcases hmem with rfl | rfl | rfl <;> simp at hkey
        rw [DataModel.satisfies_single, DataModel.satisfies_single,
          DataModel.satisfiesMember_eq_meets m x hnot hother.1,
          DataModel.satisfiesMember_eq_meets m x hnot hother.2.1, hother.2.2]
  · refine ⟨single "$nor" (.array [.object doc]), ?_, isPlain_list _ _, fun m x ↦ ?_⟩
    · rw [hlisted, hfilter]
      rfl
    · rw [DataModel.satisfies_single, DataModel.satisfiesMember_nor]
      simp [DataModel.satisfiesSome]

theorem exists_of_negation (h : d.IsPlain inner) {negated : Document}
    (hnegation : d.negation inner (d.filter inner) = .ok negated) :
    ∃ doc, d.filter inner = .ok doc := by
  rcases negation_cases h with hopposed | hlisted
  · rw [hnegation] at hopposed
    generalize d.filter inner = result at hopposed
    cases hopposed
    exact ⟨_, rfl⟩
  · rw [hlisted] at hnegation
    cases hresult : d.filter inner with
    | error e =>
        rw [hresult] at hnegation
        cases hnegation
    | ok doc => exact ⟨doc, rfl⟩

/-! ## The meaning of a tree -/

/-- Whether the filter of a leaf is satisfied. -/
def isMet (d : DocumentStore) (m : DataModel δ) (x : δ) (leaf : Expr) : Bool :=
  match d.filter leaf with
  | .ok doc => m.satisfies x doc
  | .error _ => false

/-- A document that means what a predicate does. -/
structure Means (d : DocumentStore) (e : Expr) (doc : Document) : Prop where
  plain : doc.IsPlain
  satisfies : ∀ {δ : Type} (m : DataModel δ) (x : δ),
    m.satisfies x doc = e.tree.holds (d.isMet m x)

/-- A predicate has a filter, which means what it does, when all leaves have one. -/
theorem exists_filter (h : d.IsPlain e)
    (hleaves : ∀ leaf ∈ e.tree.atoms, ∃ doc, d.filter leaf = .ok doc) :
    ∃ doc, d.filter e = .ok doc ∧ d.Means e doc := by
  -- the documents of both sides are plain, so that a conjunction of them loses nothing
  induction e using Expr.tree.induct with
  | case1 type lhs rhs ihl ihr =>
      simp only [Expr.tree, OpTree.atoms, List.mem_append] at hleaves
      obtain ⟨left, hleft, hl⟩ := ihl (h.arg (by simp)) fun leaf hleaf ↦ hleaves leaf (.inl hleaf)
      obtain ⟨right, hright, hr⟩ := ihr (h.arg (by simp)) fun leaf hleaf ↦ hleaves leaf (.inr hleaf)
      refine ⟨Document.and left right, ?_, isPlain_and hl.plain hr.plain, fun m x ↦ ?_⟩
      · rw [filter, hleft, hright]
        rfl
      · rw [DataModel.satisfies_and hl.plain hr.plain, hl.satisfies, hr.satisfies]
        rfl
  | case2 type lhs rhs ihl ihr =>
      simp only [Expr.tree, OpTree.atoms, List.mem_append] at hleaves
      obtain ⟨left, hleft, hl⟩ := ihl (h.arg (by simp)) fun leaf hleaf ↦ hleaves leaf (.inl hleaf)
      obtain ⟨right, hright, hr⟩ := ihr (h.arg (by simp)) fun leaf hleaf ↦ hleaves leaf (.inr hleaf)
      have hname : ("$or").startsWith "$" = true := by simp
      refine ⟨Document.or left right, ?_, isPlain_list _ _, fun m x ↦ ?_⟩
      · rw [filter, hleft, hright]
        rfl
      · rw [DataModel.satisfies_or (hl.plain.listsUnder hname) (hr.plain.listsUnder hname),
          hl.satisfies, hr.satisfies]
        rfl
  | case3 type inner ih =>
      have hinner : d.IsPlain inner := h.arg (by simp)
      obtain ⟨doc, hdoc, hmeans⟩ := ih hinner hleaves
      obtain ⟨negated, hnegated, hplain, hsatisfies⟩ := exists_negation hinner hdoc
      refine ⟨negated, by rw [filter]; exact hnegated, hplain, fun m x ↦ ?_⟩
      rw [hsatisfies, hmeans.satisfies]
      rfl
  | case4 e hand hor hnot =>
      have hleaf := Expr.tree.eq_4 e hand hor hnot
      obtain ⟨doc, hdoc⟩ := hleaves e (by simp [hleaf, OpTree.atoms])
      refine ⟨doc, hdoc, isPlain_filter_leaf h hleaf hdoc, fun m x ↦ ?_⟩
      rw [hleaf]
      simp [OpTree.holds, OpTree.fold, isMet, hdoc]

/-- A predicate without a filter has a leaf without one. -/
theorem exists_filter_of_mem_atoms (h : d.IsPlain e) (hfilter : d.filter e = .ok doc) {leaf : Expr}
    (hleaf : leaf ∈ e.tree.atoms) : ∃ doc, d.filter leaf = .ok doc := by
  induction e using Expr.tree.induct generalizing doc with
  | case1 type lhs rhs ihl ihr | case2 type lhs rhs ihl ihr =>
      rw [filter] at hfilter
      obtain ⟨left, hleft, hfilter⟩ := exists_of_bind hfilter
      obtain ⟨right, hright, _⟩ := exists_of_bind hfilter
      simp only [Expr.tree, OpTree.atoms, List.mem_append] at hleaf
      rcases hleaf with hleaf | hleaf
      · exact ihl (h.arg (by simp)) hleft hleaf
      · exact ihr (h.arg (by simp)) hright hleaf
  | case3 type inner ih =>
      rw [filter] at hfilter
      have hinner : d.IsPlain inner := h.arg (by simp)
      obtain ⟨doc, hdoc⟩ := exists_of_negation hinner hfilter
      exact ih hinner hdoc hleaf
  | case4 e hand hor hnot =>
      rw [Expr.tree.eq_4 e hand hor hnot] at hleaf
      obtain rfl := List.mem_singleton.mp hleaf
      exact ⟨doc, hfilter⟩

/-- Filters preserve the structure of a predicate: it has one exactly when every leaf does, and then
it is satisfied exactly when the tree holds of the filters of the leaves. -/
theorem filter_preserves_tree (h : d.IsPlain e) :
    ((∃ doc, d.filter e = .ok doc) ↔
        ∀ leaf ∈ e.tree.atoms, ∃ doc, d.filter leaf = .ok doc) ∧
      ∀ doc, d.filter e = .ok doc → ∀ {δ : Type} (m : DataModel δ) (x : δ),
        m.satisfies x doc = e.tree.holds (d.isMet m x) := by
  have hleaves : ∀ doc, d.filter e = .ok doc →
      ∀ leaf ∈ e.tree.atoms, ∃ doc, d.filter leaf = .ok doc := fun doc hdoc leaf hleaf ↦
    exists_filter_of_mem_atoms h hdoc hleaf
  refine ⟨⟨?_, fun hall ↦ ?_⟩, fun doc hdoc δ m x ↦ ?_⟩
  · rintro ⟨doc, hdoc⟩
    exact hleaves doc hdoc
  · obtain ⟨doc, hdoc, _⟩ := exists_filter h hall
    exact ⟨doc, hdoc⟩
  · obtain ⟨found, hfound, hmeans⟩ := exists_filter h (hleaves doc hdoc)
    obtain rfl := Except.ok.inj (hdoc.symm.trans hfound)
    exact hmeans.satisfies m x

/-! ### An example -/

def userProperty (type : ValueType) (name : String) : Path :=
  .property type (.entity "User" "user") name

theorem key_userProperty (type : ValueType) (name : String) :
    ({} : DocumentStore).key (userProperty type name) = .ok name := by
  have hcolumn : ({} : Metamodel).column? (.entity "User") name = none := rfl
  simp [key, userProperty, Path.entity, keyParts, Path.type, Except.map, hcolumn]

theorem kind_ne_of_mem_userProperty {type : ValueType} {name : String} {q : Path}
    (h : q ∈ (userProperty type name).ancestry) : q.kind ≠ .collectionAny := by
  simp only [userProperty, Path.entity, Path.ancestry, List.mem_cons, List.not_mem_nil,
    or_false] at h
  rcases h with rfl | rfl <;> simp [Path.kind]

/-- Neither over thirty nor an inactive Ann. -/
def neitherOldNorInactiveAnn : Expr :=
  .operation .bool (.op .not)
    [.operation .bool (.op .or)
      [.operation .bool (.op .gt) [.path (userProperty .i32 "age"), .ofValue (.i32 30)],
        .operation .bool (.op .and)
          [.operation .bool (.op .eq)
              [.path (userProperty .string "name"), .ofValue (.string "Ann")],
            .operation .bool (.op .not) [.path (userProperty .bool "active")]]]]

theorem isPlain_neitherOldNorInactiveAnn :
    ({} : DocumentStore).IsPlain neitherOldNorInactiveAnn := by
  have hterms : neitherOldNorInactiveAnn.terms =
      [.path (userProperty .i32 "age"), .ofValue (.i32 30), .path (userProperty .string "name"),
        .ofValue (.string "Ann"), .path (userProperty .bool "active")] := rfl
  have hpaths : ∀ p, .path p ∈ neitherOldNorInactiveAnn.terms →
      ∃ type name, p = userProperty type name ∧ name ∈ ["age", "name", "active"] := by
    intro p hp
    rw [hterms] at hp
    simp only [Expr.ofValue, List.mem_cons, Expr.path.injEq, reduceCtorEq, List.not_mem_nil,
      or_false, false_or] at hp
    rcases hp with rfl | rfl | rfl <;> exact ⟨_, _, rfl, by decide⟩
  refine ⟨fun c hc ↦ ?_, fun p key hp hkey ↦ ?_, fun p hp q hq ↦ ?_⟩
  · have hc : c = .ofValue (.i32 30) ∨ c = .ofValue (.string "Ann") := by
      simpa [hterms, Expr.ofValue] using hc
    rcases hc with rfl | rfl <;> rfl
  · obtain ⟨type, name, rfl, hname⟩ := hpaths p hp
    obtain rfl := Except.ok.inj ((key_userProperty type name).symm.trans hkey)
    simp only [List.mem_cons, List.not_mem_nil, or_false] at hname
    rcases hname with rfl | rfl | rfl <;> simp
  · obtain ⟨type, name, rfl, _⟩ := hpaths p hp
    exact kind_ne_of_mem_userProperty hq

theorem satisfies_neitherOldNorInactiveAnn :
    ({} : DocumentStore).IsPlain neitherOldNorInactiveAnn ∧
      ∃ doc, ({} : DocumentStore).filter neitherOldNorInactiveAnn = .ok doc ∧
        ∀ data, DataModel.json.satisfies data doc =
          !(({} : DocumentStore).isMet .json data
              (.operation .bool (.op .gt) [.path (userProperty .i32 "age"), .ofValue (.i32 30)]) ||
            ({} : DocumentStore).isMet .json data (.operation .bool (.op .eq)
              [.path (userProperty .string "name"), .ofValue (.string "Ann")]) &&
            !({} : DocumentStore).isMet .json data (.path (userProperty .bool "active"))) := by
  obtain ⟨_, hmeans⟩ := filter_preserves_tree isPlain_neitherOldNorInactiveAnn
  obtain ⟨doc, hdoc⟩ : ∃ doc, ({} : DocumentStore).filter neitherOldNorInactiveAnn = .ok doc :=
    ⟨_, rfl⟩
  exact ⟨isPlain_neitherOldNorInactiveAnn, doc, hdoc, fun data ↦ hmeans doc hdoc .json data⟩

end DocumentStore

end TypedQuery
