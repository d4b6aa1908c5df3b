import TypedQuery.Proofs.Filters.Predicates

/-!
# Conjunctions over collections

Two conditions on elements of one collection become one condition on one element. It implies both of
them, unless they are about the same field: then the condition on the left is gone.
-/

namespace TypedQuery

open Document

namespace Document

/-- A condition on a field of some element of a collection. -/
def elementField (key field : String) (condition : Json) : Document :=
  single key (operator "$elemMatch" (.object (single field condition)))

theorem elementConditions_elementField (key field : String) (condition : Json) (k : String) :
    (elementField key field condition).elementConditions k =
      if k = key then some (single field condition) else none := by
  rw [elementConditions, elementField, single, lookup_cons_eq]
  split <;> simp

theorem canJoin_elementField (key field other : String) (before behind : Json) :
    (elementField key other behind).all (canJoin (elementField key field before)) = true := by
  simp [elementField, single, canJoin]

/-- Of two conditions on one field of an element, only the one on the right is left. -/
theorem and_elementField (key field : String) (before behind : Json) :
    Document.and (elementField key field before) (elementField key field behind) =
      elementField key field behind := by
  rw [Document.and, if_pos (canJoin_elementField key field field before behind)]
  simp [elementField, single, join, insertAll, Json.insertMember]

theorem overwrites_elementField_iff {key field other : String} {before behind : Json} :
    (elementField key field before).Overwrites (elementField key other behind) ↔
      field = other ∧ before ≠ behind := by
  constructor
  · rintro ⟨_, k, conditions, extra, f, b, b', hconditions, hextra, hbefore, hbehind, hne⟩
    rw [elementConditions_elementField] at hconditions hextra
    split at hconditions
    · rename_i hk
      rw [if_pos hk] at hextra
      obtain rfl := Option.some.inj hconditions
      obtain rfl := Option.some.inj hextra
      simp only [single, lookup_cons_eq, List.lookup_nil, Option.ite_none_right_eq_some,
        Option.some.injEq] at hbefore hbehind
      obtain ⟨rfl, rfl⟩ := hbefore
      obtain ⟨rfl, rfl⟩ := hbehind
      exact ⟨rfl, hne⟩
    · cases hconditions
  · rintro ⟨rfl, hne⟩
    refine ⟨canJoin_elementField key field field before behind, key, single field before,
      single field behind, field, before, behind, ?_, ?_, ?_, ?_, hne⟩
    · simp [elementConditions_elementField]
    · simp [elementConditions_elementField]
    · simp [single]
    · simp [single]

theorem listsUnder_of_ne {name key : String} (h : key ≠ name) (value : Json) :
    (single key value).ListsUnder name := by
  intro v hv
  simp [single, h] at hv

end Document

namespace DocumentStore

variable {d : DocumentStore} {p q : Expr} {left right : Document}

/-- A conjunction implies its right side, and its left side unless a condition of that one is
overwritten. -/
theorem satisfies_of_filter_and (type : ValueType) (hp : IsFlat p) (hq : IsFlat q)
    (hleft : d.filter p = .ok left) (hright : d.filter q = .ok right)
    (hl : left.ListsUnder "$and") (hr : right.ListsUnder "$and") :
    ∃ both, d.filter (.operation type (.op .and) [p, q]) = .ok both ∧
      ∀ {δ : Type} (m : DataModel δ) (x : δ), m.satisfies x both = true →
        m.satisfies x right = true ∧ (¬ left.Overwrites right → m.satisfies x left = true) := by
  have hleftRegular := isRegular_filter hp hleft
  have hrightRegular := isRegular_filter hq hright
  refine ⟨Document.and left right, by rw [filter, hleft, hright]; rfl, fun m x hboth ↦ ?_⟩
  unfold Document.and at hboth
  split at hboth
  · rename_i hjoin
    exact ⟨DataModel.satisfies_right_of_join hleftRegular hrightRegular hjoin hboth,
      fun hkeep ↦ DataModel.satisfies_left_of_join hleftRegular hrightRegular hjoin hkeep hboth⟩
  · rw [DataModel.satisfies_listed_and hl hr, Bool.and_eq_true] at hboth
    exact ⟨hboth.2, fun _ ↦ hboth.1⟩

/-- A comparison of a number in some item of an order. -/
def someItem (op : Op) (field : String) (bound : Int32) : Expr :=
  .operation .bool (.op op)
    [.path (.property .i32
      (.any (.property (.collection (.entity "Item")) (.entity "User" "user") "items")) field),
      .ofValue (.i32 bound)]

theorem isFlat_someItem (op : Op) (field : String) (bound : Int32) :
    IsFlat (someItem op field bound) := by
  intro c hc
  obtain rfl : c = .ofValue (.i32 bound) := by
    simpa [someItem, Expr.terms, Expr.termsOf, Expr.ofValue] using hc
  rfl

theorem filter_someItem_gt (field : String) (bound : Int32) :
    ({} : DocumentStore).filter (someItem .gt field bound) =
      .ok (elementField "items" field (operator "$gt" (.ofInt bound.toInt))) :=
  rfl

theorem filter_someItem_lt (field : String) (bound : Int32) :
    ({} : DocumentStore).filter (someItem .lt field bound) =
      .ok (elementField "items" field (operator "$lt" (.ofInt bound.toInt))) :=
  rfl

/-- An order of items with the given quantities. -/
def order (quantities : List Int) : Json :=
  .object [("items", .array (quantities.map fun n ↦ .object [("qty", .ofInt n)]))]

/-- An order of a single item satisfies the filter for an item of more than two and one of less than
ten, but not the one for an item of more than two. -/
theorem not_satisfies_left_of_filter_and :
    ({} : DocumentStore).filter (.operation .bool (.op .and)
        [someItem .gt "qty" 2, someItem .lt "qty" 10]) =
          .ok (elementField "items" "qty" (operator "$lt" (.ofInt 10))) ∧
      ({} : DocumentStore).filter (someItem .gt "qty" 2) =
        .ok (elementField "items" "qty" (operator "$gt" (.ofInt 2))) ∧
      DataModel.json.satisfies (order [1])
        (elementField "items" "qty" (operator "$lt" (.ofInt 10))) = true ∧
      DataModel.json.satisfies (order [1])
        (elementField "items" "qty" (operator "$gt" (.ofInt 2))) = false := by
  refine ⟨?_, filter_someItem_gt "qty" 2, by decide, by decide⟩
  rw [filter, filter_someItem_gt, filter_someItem_lt]
  exact congrArg Except.ok (and_elementField "items" "qty" _ _)

/-- Conditions on different fields both stay. -/
theorem satisfies_of_filter_and_someItem :
    ∃ both, ({} : DocumentStore).filter (.operation .bool (.op .and)
        [someItem .gt "qty" 2, someItem .lt "price" 10]) = .ok both ∧
      ∀ data, DataModel.json.satisfies data both = true →
        DataModel.json.satisfies data
            (elementField "items" "price" (operator "$lt" (.ofInt 10))) = true ∧
          DataModel.json.satisfies data
            (elementField "items" "qty" (operator "$gt" (.ofInt 2))) = true := by
  obtain ⟨both, hfilter, hboth⟩ := satisfies_of_filter_and .bool (isFlat_someItem .gt "qty" 2)
    (isFlat_someItem .lt "price" 10) (filter_someItem_gt "qty" 2) (filter_someItem_lt "price" 10)
    (listsUnder_of_ne (by decide) _) (listsUnder_of_ne (by decide) _)
  refine ⟨both, hfilter, fun data hdata ↦ ?_⟩
  obtain ⟨hright, hleft⟩ := hboth .json data hdata
  refine ⟨hright, hleft ?_⟩
  rw [overwrites_elementField_iff]
  simp

end DocumentStore

end TypedQuery
