import TypedQuery.Proofs.Filters.Meaning

/-!
# Conjunctions of filters

The conjunction of two filters is one document where their keys allow it. Under a key of both sides,
the conditions on one element are put together, and of two conditions on one field of the element
the one on the right stays. Nothing else is lost: the right side always follows from a conjunction,
and the left one unless a field of it is overwritten.
-/

namespace TypedQuery

namespace Document

/-! ## Members and their keys -/

theorem lookup_cons_eq (key : String) (value : Json) (doc : Document) (k : String) :
    List.lookup k ((key, value) :: doc) = if k = key then some value else doc.lookup k := by
  by_cases hk : k = key
  · simp [hk]
  · have hne : (k == key) = false := by simpa using hk
    simp [List.lookup_cons, hne, hk]

theorem lookup_insertMember (key : String) (value : Json) (doc : Document) (k : String) :
    List.lookup k (Json.insertMember key value doc) =
      if k = key then some value else doc.lookup k := by
  induction doc with
  | nil => exact lookup_cons_eq key value [] k
  | cons member doc ih =>
      obtain ⟨name, old⟩ := member
      unfold Json.insertMember
      split
      · rename_i hname
        subst hname
        simp only [lookup_cons_eq]
        split <;> rfl
      · rename_i hname
        simp only [lookup_cons_eq, ih]
        by_cases hk : k = name
        · have hkey : k ≠ key := fun h ↦ hname (hk.symm.trans h)
          simp [hk, hk ▸ hkey]
        · simp [hk]

theorem mem_keys_insertMember {key : String} {value : Json} {doc : Document} {k : String} :
    k ∈ (Json.insertMember key value doc).map Prod.fst ↔ k = key ∨ k ∈ doc.map Prod.fst := by
  induction doc with
  | nil => simp [Json.insertMember]
  | cons member doc ih =>
      obtain ⟨name, old⟩ := member
      unfold Json.insertMember
      by_cases hname : name = key
      · simp [hname]
      · simp only [hname, if_false, List.map_cons, List.mem_cons, ih]
        tauto

theorem nodup_insertMember (key : String) (value : Json) {doc : Document}
    (h : (doc.map Prod.fst).Nodup) :
    ((Json.insertMember key value doc).map Prod.fst).Nodup := by
  induction doc with
  | nil => simp [Json.insertMember]
  | cons member doc ih =>
      obtain ⟨name, old⟩ := member
      rw [List.map_cons, List.nodup_cons] at h
      unfold Json.insertMember
      split
      · exact List.nodup_cons.mpr h
      · rename_i hname
        rw [List.map_cons, List.nodup_cons, mem_keys_insertMember, not_or]
        exact ⟨⟨hname, h.1⟩, ih h.2⟩

theorem lookup_eq_none_of_notMem {doc : Document} {key : String}
    (h : key ∉ doc.map Prod.fst) : doc.lookup key = none := by
  rw [List.lookup_eq_none_iff]
  intro member hmember
  have hne : key ≠ member.1 := fun heq ↦ h (heq ▸ List.mem_map_of_mem hmember)
  simpa using hne

theorem lookup_eq_some_iff {doc : Document} (h : (doc.map Prod.fst).Nodup) {key : String}
    {value : Json} : doc.lookup key = some value ↔ (key, value) ∈ doc := by
  induction doc with
  | nil => simp
  | cons member doc ih =>
      obtain ⟨name, first⟩ := member
      rw [List.map_cons, List.nodup_cons] at h
      rw [lookup_cons_eq, List.mem_cons, Prod.mk.injEq]
      by_cases hkey : key = name
      · have hnot : (name, value) ∉ doc := fun hmem ↦ h.1 (List.mem_map.mpr ⟨_, hmem, rfl⟩)
        simp [hkey, hnot, eq_comm]
      · simp [hkey, ih h.2]

theorem nodup_insertAll {target : Document} (h : (target.map Prod.fst).Nodup)
    (extra : Document) : ((insertAll target extra).map Prod.fst).Nodup := by
  unfold insertAll
  induction extra generalizing target with
  | nil => exact h
  | cons member extra ih => exact ih (nodup_insertMember member.1 member.2 h)

/-- Of two members with one key, the added one stays. -/
theorem lookup_insertAll (target : Document) {extra : Document}
    (h : (extra.map Prod.fst).Nodup) (k : String) :
    List.lookup k (insertAll target extra) = (extra.lookup k).or (target.lookup k) := by
  unfold insertAll
  induction extra generalizing target with
  | nil => rfl
  | cons member extra ih =>
      obtain ⟨key, value⟩ := member
      rw [List.map_cons, List.nodup_cons] at h
      rw [List.foldl_cons, ih _ h.2, lookup_insertMember, lookup_cons_eq]
      by_cases hk : k = key
      · have hnone : extra.lookup k = none := lookup_eq_none_of_notMem (hk ▸ h.1)
        simp [hk, hk ▸ hnone]
      · simp [hk]

/-! ## Conditions on one element -/

@[simp] theorem elementMatch?_operator (conditions : Document) :
    elementMatch? (operator "$elemMatch" (.object conditions)) = some conditions := by
  simp [elementMatch?, operator]

@[simp] theorem addElementMatch_operator (left right : Document) :
    addElementMatch (operator "$elemMatch" (.object left))
        (operator "$elemMatch" (.object right)) =
      operator "$elemMatch" (.object (insertAll left right)) := by
  simp [addElementMatch, elementMatch?, operator, Json.insertMember]

/-- Keys occur once. A value with a condition on one element is nothing else, and the keys of that
condition occur once. -/
structure IsRegular (doc : Document) : Prop where
  nodup : (doc.map Prod.fst).Nodup
  element : ∀ key value, (key, value) ∈ doc → ∀ conditions, elementMatch? value = some conditions →
    value = operator "$elemMatch" (.object conditions) ∧ (conditions.map Prod.fst).Nodup

theorem IsRegular.element_of_lookup {doc : Document} (h : doc.IsRegular) {key : String}
    {value : Json} (hlookup : doc.lookup key = some value) {conditions : Document}
    (hvalue : elementMatch? value = some conditions) :
    value = operator "$elemMatch" (.object conditions) ∧ (conditions.map Prod.fst).Nodup :=
  h.element key value ((lookup_eq_some_iff h.nodup).mp hlookup) conditions hvalue

theorem isRegular_single (key : String) {value : Json} (h : elementMatch? value = none) :
    (single key value).IsRegular where
  nodup := by simp [single]
  element k v hmem conditions hv := by
    obtain ⟨rfl, rfl⟩ : k = key ∧ v = value := by simpa [single] using hmem
    rw [h] at hv
    cases hv

theorem isRegular_elementMatch (key : String) {conditions : Document}
    (h : (conditions.map Prod.fst).Nodup) :
    (single key (operator "$elemMatch" (.object conditions))).IsRegular where
  nodup := by simp [single]
  element k v hmem found hv := by
    obtain ⟨rfl, rfl⟩ : k = key ∧ v = operator "$elemMatch" (.object conditions) := by
      simpa [single] using hmem
    obtain rfl : conditions = found := by simpa using hv
    exact ⟨rfl, h⟩

/-! ## Joining members -/

/-- What a document holds under the key of a member that joined it. -/
def joined (left : Document) (member : String × Json) : Json :=
  match left.lookup member.1 with
  | none => member.2
  | some existing => addElementMatch existing member.2

theorem join_eq (left : Document) (member : String × Json) :
    join left member = Json.insertMember member.1 (joined left member) left := by
  unfold join joined
  cases left.lookup member.1 <;> rfl

theorem lookup_foldl_join (left : Document) {right : Document} (h : (right.map Prod.fst).Nodup)
    (k : String) :
    List.lookup k (right.foldl join left) =
      match right.lookup k with
      | none => left.lookup k
      | some value => some (joined left (k, value)) := by
  induction right generalizing left with
  | nil => rfl
  | cons member right ih =>
      obtain ⟨key, value⟩ := member
      rw [List.map_cons, List.nodup_cons] at h
      rw [List.foldl_cons, ih _ h.2, lookup_cons_eq, join_eq]
      by_cases hk : k = key
      · have hnone : right.lookup k = none := lookup_eq_none_of_notMem (hk ▸ h.1)
        simp [hk, hk ▸ hnone, lookup_insertMember]
      · simp [hk, joined, lookup_insertMember]

theorem nodup_foldl_join {left : Document} (h : (left.map Prod.fst).Nodup) (right : Document) :
    ((right.foldl join left).map Prod.fst).Nodup := by
  induction right generalizing left with
  | nil => exact h
  | cons member right ih =>
      refine ih ?_
      rw [join_eq]
      exact nodup_insertMember _ _ h

/-- A member that can join has a new key, or is a condition on one element as the old one is. -/
theorem canJoin_cases {left : Document} {key : String} {value : Json}
    (h : canJoin left (key, value) = true) :
    left.lookup key = none ∨ ∃ existing conditions extra, left.lookup key = some existing ∧
      elementMatch? existing = some conditions ∧ elementMatch? value = some extra := by
  unfold canJoin at h
  cases hlookup : left.lookup key with
  | none => exact .inl rfl
  | some existing =>
      simp only [hlookup, Bool.and_eq_true, Option.isSome_iff_exists] at h
      obtain ⟨⟨conditions, hconditions⟩, extra, hextra⟩ := h
      exact .inr ⟨existing, conditions, extra, rfl, hconditions, hextra⟩

/-- Two conditions on one element of the same collection, once joined. -/
theorem joined_eq_operator {left right : Document} (hl : left.IsRegular) (hr : right.IsRegular)
    {key : String} {existing value : Json} {conditions extra : Document}
    (hleft : left.lookup key = some existing) (hright : right.lookup key = some value)
    (hconditions : elementMatch? existing = some conditions)
    (hextra : elementMatch? value = some extra) :
    joined left (key, value) = operator "$elemMatch" (.object (insertAll conditions extra)) := by
  obtain ⟨rfl, _⟩ := hl.element_of_lookup hleft hconditions
  obtain ⟨rfl, _⟩ := hr.element_of_lookup hright hextra
  simp [joined, hleft]

theorem isRegular_foldl_join {left right : Document} (hl : left.IsRegular) (hr : right.IsRegular)
    (hjoin : right.all (canJoin left) = true) : (right.foldl join left).IsRegular := by
  have hnodup := nodup_foldl_join hl.nodup right
  refine ⟨hnodup, fun key value hmem conditions hvalue ↦ ?_⟩
  rw [← lookup_eq_some_iff hnodup, lookup_foldl_join left hr.nodup] at hmem
  cases hright : right.lookup key with
  | none =>
      rw [hright] at hmem
      exact hl.element_of_lookup hmem hvalue
  | some added =>
      rw [hright] at hmem
      obtain rfl := Option.some.inj hmem
      have hadded := (lookup_eq_some_iff hr.nodup).mp hright
      rcases canJoin_cases (List.all_eq_true.mp hjoin _ hadded) with
        hnone | ⟨existing, before, extra, hleft, hbefore, hextra⟩
      · simp only [joined, hnone] at hvalue ⊢
        exact hr.element_of_lookup hright hvalue
      · rw [joined_eq_operator hl hr hleft hright hbefore hextra] at hvalue ⊢
        obtain rfl : insertAll before extra = conditions := by simpa using hvalue
        exact ⟨rfl, nodup_insertAll (hl.element_of_lookup hleft hbefore).2 extra⟩

theorem isRegular_and {left right : Document} (hl : left.IsRegular) (hr : right.IsRegular) :
    (Document.and left right).IsRegular := by
  unfold Document.and
  split
  · rename_i hjoin
    exact isRegular_foldl_join hl hr hjoin
  · exact isRegular_single _ rfl

/-! ## Listed branches -/

/-- Whatever stands alone under the name of a listing operator is a list. -/
def ListsUnder (name : String) (doc : Document) : Prop :=
  ∀ value, doc = [(name, value)] → ∃ items, value = .array items

theorem branches_cases {name : String} {doc : Document} (h : doc.ListsUnder name) :
    branches name doc = [.object doc] ∨
      ∃ items, doc = [(name, .array items)] ∧ branches name doc = items := by
  unfold branches
  split
  · rename_i key value
    split
    · rename_i hkey
      subst hkey
      obtain ⟨items, rfl⟩ := h value rfl
      exact .inr ⟨items, rfl, rfl⟩
    · exact .inl rfl
  · exact .inl rfl

/-- The conditions on one element under a key, if there are any. -/
def elementConditions (doc : Document) (key : String) : Option Document :=
  (doc.lookup key).bind elementMatch?

/-- Joining two documents replaces a condition on a field of an element by another one. -/
def Overwrites (left right : Document) : Prop :=
  right.all (canJoin left) = true ∧
    ∃ key conditions extra field before behind, left.elementConditions key = some conditions ∧
      right.elementConditions key = some extra ∧ conditions.lookup field = some before ∧
      extra.lookup field = some behind ∧ before ≠ behind

end Document

namespace DataModel

open Document

variable {δ : Type} {m : DataModel δ} {x : δ} {left right : Document}

theorem satisfies_iff_forall_mem {doc : Document} :
    m.satisfies x doc = true ↔
      ∀ key value, (key, value) ∈ doc → m.satisfiesMember x key value = true := by
  induction doc with
  | nil => simp
  | cons member doc ih =>
      obtain ⟨name, value⟩ := member
      rw [satisfies_cons, Bool.and_eq_true, ih]
      constructor
      · rintro ⟨hfirst, hrest⟩ key v hmem
        rcases List.mem_cons.mp hmem with heq | hmem
        · obtain ⟨rfl, rfl⟩ := Prod.mk.inj heq
          exact hfirst
        · exact hrest key v hmem
      · intro hall
        exact ⟨hall name value List.mem_cons_self,
          fun key v hmem ↦ hall key v (List.mem_cons_of_mem _ hmem)⟩

theorem satisfies_iff_forall_lookup {doc : Document} (h : (doc.map Prod.fst).Nodup) :
    m.satisfies x doc = true ↔
      ∀ key value, doc.lookup key = some value → m.satisfiesMember x key value = true := by
  simp only [lookup_eq_some_iff h]
  exact satisfies_iff_forall_mem

theorem satisfiesAll_branches (h : left.ListsUnder "$and") :
    m.satisfiesAll x (branches "$and" left) = m.satisfies x left := by
  rcases branches_cases h with hbranches | ⟨items, rfl, hbranches⟩
  · simp [hbranches, satisfiesAll]
  · simp [hbranches, satisfiesMember_and]

theorem satisfiesSome_branches (h : left.ListsUnder "$or") :
    m.satisfiesSome x (branches "$or" left) = m.satisfies x left := by
  rcases branches_cases h with hbranches | ⟨items, rfl, hbranches⟩
  · simp [hbranches, satisfiesSome]
  · simp [hbranches, satisfiesMember_or]

theorem satisfies_listed_and (hl : left.ListsUnder "$and") (hr : right.ListsUnder "$and") :
    m.satisfies x (listed "$and" left right) = (m.satisfies x left && m.satisfies x right) := by
  rw [listed, satisfies_single, satisfiesMember_and, satisfiesAll_append,
    satisfiesAll_branches hl, satisfiesAll_branches hr]

theorem satisfies_or (hl : left.ListsUnder "$or") (hr : right.ListsUnder "$or") :
    m.satisfies x (Document.or left right) = (m.satisfies x left || m.satisfies x right) := by
  rw [Document.or, listed, satisfies_single, satisfiesMember_or, satisfiesSome_append,
    satisfiesSome_branches hl, satisfiesSome_branches hr]

/-! ## Joined documents -/

/-- The right one of two conditions on an element follows from both. -/
theorem satisfies_of_insertAll (hr : (right.map Prod.fst).Nodup)
    (hl : (left.map Prod.fst).Nodup) (h : m.satisfies x (insertAll left right) = true) :
    m.satisfies x right = true := by
  rw [satisfies_iff_forall_lookup (nodup_insertAll hl right)] at h
  rw [satisfies_iff_forall_lookup hr]
  intro key value hvalue
  exact h key value (by rw [lookup_insertAll left hr, hvalue]; rfl)

/-- The left one does where the right one has no other condition on the same field. -/
theorem satisfies_left_of_insertAll (hr : (right.map Prod.fst).Nodup)
    (hl : (left.map Prod.fst).Nodup)
    (hkeep : ∀ field before behind, left.lookup field = some before →
      right.lookup field = some behind → before = behind)
    (h : m.satisfies x (insertAll left right) = true) : m.satisfies x left = true := by
  rw [satisfies_iff_forall_lookup (nodup_insertAll hl right)] at h
  rw [satisfies_iff_forall_lookup hl]
  intro field before hbefore
  refine h field before ?_
  rw [lookup_insertAll left hr]
  cases hbehind : right.lookup field with
  | none => exact hbefore
  | some behind => rw [hkeep field before behind hbefore hbehind]; rfl

theorem satisfies_right_of_join (hl : left.IsRegular) (hr : right.IsRegular)
    (hjoin : right.all (canJoin left) = true)
    (h : m.satisfies x (right.foldl join left) = true) : m.satisfies x right = true := by
  rw [satisfies_iff_forall_lookup (nodup_foldl_join hl.nodup right)] at h
  rw [satisfies_iff_forall_lookup hr.nodup]
  intro key value hright
  have hmember := h key (joined left (key, value))
    (by rw [lookup_foldl_join left hr.nodup, hright])
  have hmem := (lookup_eq_some_iff hr.nodup).mp hright
  rcases canJoin_cases (List.all_eq_true.mp hjoin _ hmem) with
    hnone | ⟨existing, conditions, extra, hleft, hconditions, hextra⟩
  · simpa only [joined, hnone] using hmember
  · rw [joined_eq_operator hl hr hleft hright hconditions hextra,
      satisfiesMember_elementMatch, List.any_eq_true] at hmember
    obtain ⟨rfl, hnodup⟩ := hr.element_of_lookup hright hextra
    rw [satisfiesMember_elementMatch, List.any_eq_true]
    obtain ⟨y, hy, hmatch⟩ := hmember
    exact ⟨y, hy, satisfies_of_insertAll hnodup
      (hl.element_of_lookup hleft hconditions).2 hmatch⟩

theorem satisfies_left_of_join (hl : left.IsRegular) (hr : right.IsRegular)
    (hjoin : right.all (canJoin left) = true) (hkeep : ¬ left.Overwrites right)
    (h : m.satisfies x (right.foldl join left) = true) : m.satisfies x left = true := by
  rw [satisfies_iff_forall_lookup (nodup_foldl_join hl.nodup right)] at h
  rw [satisfies_iff_forall_lookup hl.nodup]
  intro key existing hleft
  cases hright : right.lookup key with
  | none => exact h key existing (by rw [lookup_foldl_join left hr.nodup, hright, hleft])
  | some value =>
      have hmember := h key (joined left (key, value))
        (by rw [lookup_foldl_join left hr.nodup, hright])
      have hmem := (lookup_eq_some_iff hr.nodup).mp hright
      rcases canJoin_cases (List.all_eq_true.mp hjoin _ hmem) with
        hnone | ⟨found, conditions, extra, hfound, hconditions, hextra⟩
      · simp [hnone] at hleft
      · -- both sides are conditions on one element: the element that meets the joined one meets
        -- the left one, because none of its fields is overwritten
        obtain rfl := Option.some.inj (hleft.symm.trans hfound)
        rw [joined_eq_operator hl hr hleft hright hconditions hextra,
          satisfiesMember_elementMatch, List.any_eq_true] at hmember
        obtain ⟨y, hy, hmatch⟩ := hmember
        have hnodup := (hr.element_of_lookup hright hextra).2
        obtain ⟨rfl, hnodup'⟩ := hl.element_of_lookup hleft hconditions
        rw [satisfiesMember_elementMatch, List.any_eq_true]
        refine ⟨y, hy, satisfies_left_of_insertAll hnodup hnodup' ?_ hmatch⟩
        intro field before behind hbefore hbehind
        by_contra hne
        refine hkeep ⟨hjoin, key, conditions, extra, field, before, behind, ?_, ?_, hbefore,
          hbehind, hne⟩
        · simp [elementConditions, hleft, hconditions]
        · simp [elementConditions, hright, hextra]

end DataModel

end TypedQuery
