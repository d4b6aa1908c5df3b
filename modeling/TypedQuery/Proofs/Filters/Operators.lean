import TypedQuery.Proofs.Filters.DynamicSteps
import TypedQuery.Proofs.Labels.Equality

/-!
# Operators of comparisons

A comparison of a path with constants is written under the key of the path, as an object of the
operators of its kind. Only a test for equality is written as the bare value. So comparisons of
different kinds have one filter just when one of them tests for equality with an object of the very
operators of the other one.
-/

namespace TypedQuery

open Document

/-- Whether every step of a path has a name in a document. -/
def Path.isNamed (p : Path) : Bool :=
  p.ancestry.all fun q ↦ q.kind != .collectionAny && !q.isDynamic

namespace Path

variable {p : Path}

theorem hasDynamicStep_of_isNamed (h : p.isNamed = true) : p.hasDynamicStep = false := by
  rw [hasDynamicStep, List.any_eq_false]
  intro q hq
  have hstep := List.all_eq_true.mp h q hq
  simp only [Bool.and_eq_true, Bool.not_eq_true'] at hstep
  simp [hstep.2]

theorem belowElement?_of_isNamed (h : p.isNamed = true) : p.belowElement? = none := by
  rcases splitAtElement?_cases p with ⟨hnone, _⟩ | ⟨type, above, below, _, hdrop, _⟩
  · exact belowElement?_eq_none hnone
  · have helement : collectionAny type above ∈ p.ancestry :=
      (List.dropWhile_sublist _).subset (hdrop ▸ List.mem_cons_self)
    have hstep := List.all_eq_true.mp h _ helement
    simp [kind] at hstep

end Path

/-! ## Members of equivalent objects -/

namespace Json

theorem mem_keys_iff {key : String} {members : List (String × Json)} :
    key ∈ members.map Prod.fst ↔ valuesUnderKey key members ≠ [] := by
  simp only [valuesUnderKey, ne_eq, List.map_eq_nil_iff, List.filter_eq_nil_iff, List.mem_map]
  push Not
  simp

theorem mem_keys_of_equivalent {as bs : List (String × Json)}
    (h : (object as).equivalent (object bs) = true) (key : String) :
    key ∈ as.map Prod.fst ↔ key ∈ bs.map Prod.fst := by
  have hvalues := (equivalent_object_iff.mp h key).length_eq
  rw [mem_keys_iff, mem_keys_iff, ne_eq, ne_eq, ← List.length_eq_zero_iff, hvalues,
    List.length_eq_zero_iff]

theorem equivalent_single_iff {k l : String} {v w : Json} :
    (object (single k v)).equivalent (object (single l w)) = true ↔
      k = l ∧ v.equivalent w = true := by
  by_cases hkey : l = k
  · subst hkey
    simp [single, equivalent, membersWithin]
  · have hne : (k == l) = false := by simpa using Ne.symm hkey
    simp [single, equivalent, membersWithin, List.lookup_cons, hne, Ne.symm hkey]

/-- Whether a tree is an object with an operator among its keys. -/
def hasOperator : Json → Bool
  | object members => members.any fun m ↦ m.1.startsWith "$"
  | _ => false

end Json

/-! ## Comparisons -/

/-- The comparisons of a path with constants. -/
inductive ConstantTest
  | eq (c : Constant)
  | ne (c : Constant)
  | lt (c : Constant)
  | loe (c : Constant)
  | gt (c : Constant)
  | goe (c : Constant)
  | between (low high : Constant)
  | isIn (c : Constant)
  | notIn (c : Constant)
  | isNull

namespace ConstantTest

def op : ConstantTest → Op
  | eq _ => .eq
  | ne _ => .ne
  | lt _ => .lt
  | loe _ => .loe
  | gt _ => .gt
  | goe _ => .goe
  | between _ _ => .between
  | isIn _ => .isIn
  | notIn _ => .notIn
  | isNull => .isNull

def constants : ConstantTest → List Constant
  | eq c | ne c | lt c | loe c | gt c | goe c | isIn c | notIn c => [c]
  | between low high => [low, high]
  | isNull => []

def on (t : ConstantTest) (type : ValueType) (p : Path) : Expr :=
  .operation type (.op t.op) (.path p :: t.constants.map .constant)

/-- The items of a list, and anything else as a list of one. -/
def choices : Json → List Json
  | .array items => items
  | value => [value]

/-- What a comparison other than a test for equality asks for, operator by operator. -/
def operators : ConstantTest → Document
  | eq _ => []
  | ne c => single "$ne" c.value.toJson
  | lt c => single "$lt" c.value.toJson
  | loe c => single "$lte" c.value.toJson
  | gt c => single "$gt" c.value.toJson
  | goe c => single "$gte" c.value.toJson
  | between low high => [("$gte", low.value.toJson), ("$lte", high.value.toJson)]
  | isIn c => single "$in" (.array (choices c.value.toJson))
  | notIn c => single "$nin" (.array (choices c.value.toJson))
  | isNull => single "$exists" (.bool false)

/-- What stands under the key of a path that is compared. -/
def condition : ConstantTest → Json
  | eq c => c.value.toJson
  | t => .object t.operators

/-- Whether a comparison is a test for equality with an object of the operators of another one. -/
def Spells (a b : ConstantTest) : Prop :=
  ∃ c, a = eq c ∧ c.value.toJson.equivalent (.object b.operators) = true

def operatorNames : Op → List String
  | .ne => ["$ne"]
  | .lt => ["$lt"]
  | .loe => ["$lte"]
  | .gt => ["$gt"]
  | .goe => ["$gte"]
  | .between => ["$gte", "$lte"]
  | .isIn => ["$in"]
  | .notIn => ["$nin"]
  | .isNull => ["$exists"]
  | _ => []

def kinds : List Op := [.eq, .ne, .lt, .loe, .gt, .goe, .between, .isIn, .notIn, .isNull]

theorem op_mem_kinds (t : ConstantTest) : t.op ∈ kinds := by
  cases t <;> simp [op, kinds]

theorem map_fst_operators (t : ConstantTest) : t.operators.map Prod.fst = operatorNames t.op := by
  cases t <;> rfl

theorem eq_of_operatorNames : ∀ o ∈ kinds, ∀ o' ∈ kinds,
    operatorNames o ⊆ operatorNames o' → operatorNames o' ⊆ operatorNames o → o = o' := by
  decide

/-- The operators tell the kind of a comparison. -/
theorem op_eq_of_equivalent {a b : ConstantTest}
    (h : (Json.object a.operators).equivalent (.object b.operators) = true) : a.op = b.op := by
  have hnames : ∀ name, name ∈ operatorNames a.op ↔ name ∈ operatorNames b.op := by
    intro name
    rw [← map_fst_operators, ← map_fst_operators]
    exact Json.mem_keys_of_equivalent h name
  exact eq_of_operatorNames _ a.op_mem_kinds _ b.op_mem_kinds (fun name ↦ (hnames name).mp)
    (fun name ↦ (hnames name).mpr)

theorem condition_eq_operators {t : ConstantTest} (h : t.op ≠ .eq) :
    t.condition = .object t.operators := by
  cases t with
  | eq c => exact absurd rfl h
  | _ => rfl

theorem not_spells {a b : ConstantTest} (h : a.op ≠ .eq) : ¬ a.Spells b := by
  rintro ⟨c, rfl, _⟩
  exact h rfl

theorem exists_eq {t : ConstantTest} (h : t.op = .eq) : ∃ c, t = eq c := by
  cases t with
  | eq c => exact ⟨c, rfl⟩
  | _ => cases h

/-- What is compared tells the kind of a comparison, unless it is spelled by a value. -/
theorem equivalent_condition_iff {a b : ConstantTest} (h : a.op ≠ b.op) :
    a.condition.equivalent b.condition = true ↔ a.Spells b ∨ b.Spells a := by
  by_cases ha : a.op = .eq
  · obtain ⟨c, rfl⟩ := exists_eq ha
    have hb : b.op ≠ .eq := Ne.symm h
    rw [condition_eq_operators hb, or_iff_left (not_spells hb)]
    exact ⟨fun hc ↦ ⟨c, rfl, hc⟩, fun ⟨_, hsame, hc⟩ ↦ by cases hsame; exact hc⟩
  rw [or_iff_right (not_spells ha)]
  rw [condition_eq_operators ha]
  by_cases hb : b.op = .eq
  · obtain ⟨c, rfl⟩ := exists_eq hb
    have hsymm : ∀ {v w : Json}, v.equivalent w = true → w.equivalent v = true :=
      Json.joinsUp_equivalent.symm Json.equivalent_refl
    exact ⟨fun hc ↦ ⟨c, rfl, hsymm hc⟩, fun ⟨_, hsame, hc⟩ ↦ by cases hsame; exact hsymm hc⟩
  · rw [condition_eq_operators hb]
    exact ⟨fun hsame ↦ absurd (op_eq_of_equivalent hsame) h, fun hspells ↦
      absurd hspells (not_spells hb)⟩

theorem exists_operatorName : ∀ o ∈ kinds, o ≠ .eq →
    ∃ name ∈ operatorNames o, name.startsWith "$" = true := by
  simp [kinds, operatorNames, String.startsWith_string_iff]

/-- A value that spells a comparison has operators inside. -/
theorem Spells.hasOperator {a b : ConstantTest} (h : a.Spells b) (hop : a.op ≠ b.op) :
    ∃ c, a = eq c ∧ c.value.toJson.hasOperator = true := by
  obtain ⟨c, rfl, hvalue⟩ := h
  refine ⟨c, rfl, ?_⟩
  obtain ⟨name, hname, hstart⟩ := exists_operatorName _ b.op_mem_kinds (Ne.symm hop)
  cases hjson : c.value.toJson with
  | object members =>
      rw [hjson] at hvalue
      rw [← map_fst_operators, ← Json.mem_keys_of_equivalent hvalue] at hname
      obtain ⟨m, hm, rfl⟩ := List.mem_map.mp hname
      exact List.any_eq_true.mpr ⟨m, hm, hstart⟩
  | _ =>
      rw [hjson] at hvalue
      cases hvalue

end ConstantTest

namespace DocumentStore

variable {d : DocumentStore} {p : Path}

theorem condition_constantTest (type : ValueType) (t : ConstantTest) (p : Path) :
    d.condition type t.op (.path p :: t.constants.map .constant) =
      (d.key p).map fun key ↦ single key t.condition := by
  have hpath : d.pathKey (.path p) = d.key p := rfl
  cases t <;>
    simp only [ConstantTest.op, ConstantTest.constants, List.map_cons, List.map_nil, condition,
      compare, compareEqual, compareList, exists?, hpath] <;>
    cases d.key p <;> rfl

theorem exists_filter_constantTest (hp : p.isNamed = true) (type : ValueType) (t : ConstantTest) :
    ∃ key, d.key p = .ok key ∧ d.filter (t.on type p) = .ok (single key t.condition) := by
  obtain ⟨key, hkey⟩ := exists_key (d := d) (Path.hasDynamicStep_of_isNamed hp)
  have hop : t.op ≠ .and ∧ t.op ≠ .or ∧ t.op ≠ .not := by
    cases t <;> simp [ConstantTest.op]
  refine ⟨key, hkey, ?_⟩
  rw [ConstantTest.on, filter_path_operation hop,
    elementCondition_of_belowElement?_eq_none (Path.belowElement?_of_isNamed hp),
    condition_constantTest, hkey]
  rfl

/-- Comparisons of different kinds have the same filter, up to the order of members, exactly when
they are of the same key and one of them tests for equality with the operators of the other one.
Such a value is an object with an operator among its keys. -/
theorem equivalent_filter_iff (d : DocumentStore) (p q : Path) (hp : p.isNamed = true)
    (hq : q.isNamed = true) (type type' : ValueType) (a b : ConstantTest) (h : a.op ≠ b.op) :
    ∃ left right, d.filter (a.on type p) = .ok left ∧ d.filter (b.on type' q) = .ok right ∧
      ((Json.object left).equivalent (.object right) = true ↔
        d.key p = d.key q ∧ (a.Spells b ∨ b.Spells a)) ∧
      ((Json.object left).equivalent (.object right) = true →
        ∃ c, (a = .eq c ∨ b = .eq c) ∧ c.value.toJson.hasOperator = true) := by
  obtain ⟨k, hk, hleft⟩ := exists_filter_constantTest (d := d) hp type a
  obtain ⟨l, hl, hright⟩ := exists_filter_constantTest (d := d) hq type' b
  have hsame : (Json.object (single k a.condition)).equivalent (.object (single l b.condition)) =
      true ↔ d.key p = d.key q ∧ (a.Spells b ∨ b.Spells a) := by
    rw [Json.equivalent_single_iff, ConstantTest.equivalent_condition_iff h, hk, hl,
      Except.ok.injEq]
  refine ⟨_, _, hleft, hright, hsame, fun hequivalent ↦ ?_⟩
  rcases (hsame.mp hequivalent).2 with hspells | hspells
  · obtain ⟨c, hc, hvalue⟩ := hspells.hasOperator h
    exact ⟨c, .inl hc, hvalue⟩
  · obtain ⟨c, hc, hvalue⟩ := hspells.hasOperator (Ne.symm h)
    exact ⟨c, .inr hc, hvalue⟩

def userAge : Path := .property .i32 (.root (.entity "User") "user") "age"

/-- A test for equality with an object that has the operator for difference is written as a test for
difference. -/
theorem filter_userAge_eq_ne :
    ({} : DocumentStore).filter ((ConstantTest.eq ⟨.json, .json (operator "$ne" (.ofInt 3))⟩).on
        .bool userAge) = .ok (single "age" (operator "$ne" (.ofInt 3))) ∧
      ({} : DocumentStore).filter ((ConstantTest.ne ⟨.i32, .i32 3⟩).on .bool userAge) =
        .ok (single "age" (operator "$ne" (.ofInt 3))) :=
  ⟨rfl, rfl⟩

/-- Operators in another order spell an interval as well. A test for equality with a number is told
from every other comparison with it. -/
theorem exists_filter_userAge :
    (∃ left right,
      ({} : DocumentStore).filter ((ConstantTest.eq ⟨.json,
          .json (.object [("$lte", .ofInt 7), ("$gte", .ofInt 3)])⟩).on .bool userAge) = .ok left ∧
        ({} : DocumentStore).filter
          ((ConstantTest.between ⟨.i32, .i32 3⟩ ⟨.i32, .i32 7⟩).on .bool userAge) = .ok right ∧
        (Json.object left).equivalent (.object right) = true) ∧
      ∃ left right,
        ({} : DocumentStore).filter ((ConstantTest.eq ⟨.i32, .i32 3⟩).on .bool userAge) =
            .ok left ∧
          ({} : DocumentStore).filter ((ConstantTest.lt ⟨.i32, .i32 3⟩).on .bool userAge) =
            .ok right ∧
          (Json.object left).equivalent (.object right) = false := by
  constructor
  · obtain ⟨left, right, hleft, hright, hsame, _⟩ := equivalent_filter_iff {} userAge userAge rfl
      rfl .bool .bool (.eq ⟨.json, .json (.object [("$lte", .ofInt 7), ("$gte", .ofInt 3)])⟩)
      (.between ⟨.i32, .i32 3⟩ ⟨.i32, .i32 7⟩) (by decide)
    refine ⟨left, right, hleft, hright, hsame.mpr ⟨rfl, .inl ⟨_, rfl, ?_⟩⟩⟩
    decide +kernel
  · obtain ⟨left, right, hleft, hright, _, hsmuggled⟩ := equivalent_filter_iff {} userAge userAge
      rfl rfl .bool .bool (.eq ⟨.i32, .i32 3⟩) (.lt ⟨.i32, .i32 3⟩) (by decide)
    refine ⟨left, right, hleft, hright, Bool.eq_false_iff.mpr fun hsame ↦ ?_⟩
    obtain ⟨c, hc, hvalue⟩ := hsmuggled hsame
    rcases hc with hc | hc <;> cases hc
    cases hvalue

end DocumentStore

end TypedQuery
