import TypedQuery.Proofs.Building
import TypedQuery.Proofs.KnownDialects
import TypedQuery.Proofs.Labels.Equality
import TypedQuery.Proofs.Placeholders

/-!
# Shared labels

Numbered placeholders with one label stand for equal items. Equal items share a label as long as no
item differs from the first; from then on only items whose JSON trees also have one text do.
-/

namespace TypedQuery

open List (Forall₂)

namespace Binding

theorem joinsUp_eqv : JoinsUp eqv := by
  intro a b c hac hbc
  cases a <;> cases c <;> try cases hac
  · cases b with
    | value => exact Value.joinsUp_beq _ _ _ hac hbc
    | param => cases hbc
  · cases b with
    | value => cases hbc
    | param => simp_all [eqv]

theorem joinsUp_identical : JoinsUp identical := by
  intro a b c hac hbc
  cases a <;> cases c <;> try cases hac
  · cases b with
    | value => exact Value.joinsUp_identical _ _ _ hac hbc
    | param => cases hbc
  · cases b with
    | value => cases hbc
    | param => simp_all [identical]

theorem identical_refl (b : Binding) : b.identical b = true := by
  cases b with
  | value v => exact v.identical_refl
  | param p => simp [identical]

def isFreeOfJson : Binding → Bool
  | value v => v.isFreeOfJson
  | param _ => true

theorem identical_of_eqv {a b : Binding} (h : a.eqv b = true) (hfree : a.isFreeOfJson = true) :
    a.identical b = true := by
  cases a <;> cases b
  · exact Value.identical_of_beq _ _ h hfree
  · cases h
  · cases h
  · exact h

end Binding

namespace Labelled

variable {keys items : List Labelled} {a b item : Labelled} {p q : Nat}

theorem joinsUp_eqv : JoinsUp eqv := by
  intro a b c hac hbc
  simp only [eqv, Bool.and_eq_true, beq_iff_eq] at hac hbc ⊢
  exact ⟨hac.1.trans hbc.1.symm, Binding.joinsUp_eqv _ _ _ hac.2 hbc.2⟩

theorem joinsUp_identical : JoinsUp identical := by
  intro a b c hac hbc
  simp only [identical, Bool.and_eq_true, beq_iff_eq] at hac hbc ⊢
  exact ⟨hac.1.trans hbc.1.symm, Binding.joinsUp_identical _ _ _ hac.2 hbc.2⟩

theorem identical_refl (a : Labelled) : a.identical a = true := by
  simp [identical, Binding.identical_refl]

theorem identical_of_eqv (h : a.eqv b = true) (hfree : a.2.isFreeOfJson = true) :
    a.identical b = true := by
  simp only [eqv, identical, Bool.and_eq_true] at h ⊢
  exact ⟨h.1, Binding.identical_of_eqv h.2 hfree⟩

/-! ## Keys -/

/-- Keys of which none is identical to an earlier one. -/
def Distinct (keys : List Labelled) : Prop := keys.Pairwise fun a b ↦ b.identical a = false

theorem not_identical_of_find? (h : find? keys item = none) :
    ∀ key ∈ keys, item.identical key = false := by
  intro key hkey
  unfold find? at h
  split at h
  · rename_i only
    obtain rfl := List.mem_singleton.mp hkey
    rw [← Bool.not_eq_true]
    intro hidentical
    rw [if_pos (eqv_of_identical hidentical)] at h
    cases h
  · exact List.findIdx?_eq_none_iff.mp h key hkey

theorem Distinct.allot (h : Distinct keys) (item : Labelled) :
    Distinct (Labelled.allot keys item).2 := by
  unfold Labelled.allot
  split
  · exact h
  · rename_i hnew
    exact List.pairwise_append.mpr
      ⟨h, List.pairwise_singleton _ _, by simpa using not_identical_of_find? hnew⟩

/-- A place at which a key identical to an item stands. -/
def Finds (keys : List Labelled) (place : Nat) (item : Labelled) : Prop :=
  ∃ key, keys[place]? = some key ∧ item.identical key = true

theorem Finds.mono {later : List Labelled} (h : Finds keys p item) (hkept : keys <+: later) :
    Finds later p item := by
  obtain ⟨key, hkey, hidentical⟩ := h
  obtain ⟨rest, rfl⟩ := hkept
  have hlt := (List.getElem?_eq_some_iff.mp hkey).1
  exact ⟨key, by rw [List.getElem?_append_left hlt, hkey], hidentical⟩

/-- Items that find keys share a place just when they are identical. -/
theorem Distinct.place_eq_iff (h : Distinct keys) (ha : Finds keys p a) (hb : Finds keys q b) :
    p = q ↔ a.identical b = true := by
  obtain ⟨k, hk, hak⟩ := ha
  obtain ⟨l, hl, hbl⟩ := hb
  constructor
  · rintro rfl
    obtain rfl := Option.some.inj (hk.symm.trans hl)
    exact joinsUp_identical a b k hak hbl
  · intro hab
    have hal : a.identical l = true := joinsUp_identical.trans identical_refl hab hbl
    have hkl : k.identical l = true :=
      joinsUp_identical.trans identical_refl (joinsUp_identical.symm identical_refl hak) hal
    obtain ⟨hp, hk⟩ := List.getElem?_eq_some_iff.mp hk
    obtain ⟨hq, hl⟩ := List.getElem?_eq_some_iff.mp hl
    subst hk hl
    rcases Nat.lt_trichotomy p q with hlt | heq | hgt
    · have hnot := List.pairwise_iff_getElem.mp h p q hp hq hlt
      rw [joinsUp_identical.symm identical_refl hkl] at hnot
      cases hnot
    · exact heq
    · have hnot := List.pairwise_iff_getElem.mp h q p hq hp hgt
      rw [hkl] at hnot
      cases hnot

/-! ## Places of items -/

/-- The places that items get one after the other, and all keys then. -/
def allotAll (keys : List Labelled) : List Labelled → List Nat × List Labelled
  | [] => ([], keys)
  | item :: items =>
      let allotted := allot keys item
      let rest := allotAll allotted.2 items
      (allotted.1 :: rest.1, rest.2)

theorem prefix_allotAll (keys items : List Labelled) : keys <+: (allotAll keys items).2 := by
  induction items generalizing keys with
  | nil => exact List.prefix_rfl
  | cons item items ih => exact (prefix_allot keys item).trans (ih _)

theorem Distinct.allotAll (h : Distinct keys) (items : List Labelled) :
    Distinct (Labelled.allotAll keys items).2 := by
  induction items generalizing keys with
  | nil => exact h
  | cons item items ih => exact ih (h.allot item)

theorem length_allotAll (keys items : List Labelled) :
    (allotAll keys items).1.length = items.length := by
  induction items generalizing keys with
  | nil => rfl
  | cons item items ih => simp [allotAll, ih]

theorem finds_allot (hkeys : keys.length ≠ 1) (item : Labelled) :
    Finds (allot keys item).2 (allot keys item).1 item := by
  unfold allot
  split
  · rename_i place hfound
    unfold find? at hfound
    split at hfound
    · exact absurd rfl hkeys
    · obtain ⟨hplace, hidentical, _⟩ := List.findIdx?_eq_some_iff_getElem.mp hfound
      exact ⟨_, List.getElem?_eq_getElem hplace, hidentical⟩
  · exact ⟨item, by simp, item.identical_refl⟩

/-- The item at an index gets the place of a key that is identical to another item. -/
def FindsAt (keys items : List Labelled) (i : Nat) (looked : Labelled) : Prop :=
  ∃ place, (allotAll keys items).1[i]? = some place ∧
    Finds (allotAll keys items).2 place looked

theorem findsAt_zero {looked : Labelled}
    (h : Finds (allot keys item).2 (allot keys item).1 looked) (items : List Labelled) :
    FindsAt keys (item :: items) 0 looked :=
  ⟨_, rfl, h.mono (prefix_allotAll _ items)⟩

theorem FindsAt.succ {i : Nat} {looked : Labelled}
    (h : FindsAt (allot keys item).2 items i looked) :
    FindsAt keys (item :: items) (i + 1) looked := h

/-- With two keys or more, each item is looked up as itself. -/
theorem findsAt_of_two (hkeys : 2 ≤ keys.length) {i : Nat} (hi : i < items.length) :
    FindsAt keys items i items[i] := by
  induction items generalizing keys i with
  | nil => cases hi
  | cons item items ih =>
      cases i with
      | zero => exact findsAt_zero (finds_allot (by omega) item) items
      | succ i =>
          have hlonger := (prefix_allot keys item).length_le
          exact (ih (by omega) (Nat.lt_of_succ_lt_succ hi)).succ

/-- With one key, an item is looked up as this key as long as no item differs from it. -/
theorem findsAt_of_one (first : Labelled) {i : Nat} (hi : i < items.length) :
    FindsAt [first] items i
      (if (items.take (i + 1)).all (·.eqv first) then first else items[i]) := by
  induction items generalizing i with
  | nil => cases hi
  | cons item items ih =>
      cases heqv : item.eqv first with
      | true =>
          have hallot : allot [first] item = (0, [first]) := by simp [allot, find?, heqv]
          cases i with
          | zero =>
              refine findsAt_zero ?_ items
              rw [hallot]
              simpa [heqv] using ⟨first, rfl, first.identical_refl⟩
          | succ i =>
              refine FindsAt.succ ?_
              rw [hallot]
              simpa only [List.take_succ_cons, List.all_cons, heqv, Bool.true_and,
                List.getElem_cons_succ] using ih (Nat.lt_of_succ_lt_succ hi)
      | false =>
          have hallot : allot [first] item = (1, [first, item]) := by simp [allot, find?, heqv]
          rw [if_neg (by simp [heqv])]
          cases i with
          | zero =>
              refine findsAt_zero ?_ items
              rw [hallot]
              exact ⟨item, rfl, item.identical_refl⟩
          | succ i =>
              refine FindsAt.succ ?_
              rw [hallot]
              exact findsAt_of_two (by simp) (Nat.lt_of_succ_lt_succ hi)

/-- What the item at an index is looked up as: the first one, as long as no item up to there differs
from it, and otherwise itself. -/
def lookedUpAs (items : List Labelled) (i : Fin items.length) : Labelled :=
  let first := items.get ⟨0, i.pos⟩
  if (items.take (i + 1)).all (·.eqv first) then first else items.get i

theorem findsAt_lookedUpAs (items : List Labelled) (i : Fin items.length) :
    FindsAt [] items i (lookedUpAs items i) := by
  obtain ⟨i, hi⟩ := i
  cases items with
  | nil => cases hi
  | cons first items =>
      cases i with
      | zero =>
          exact findsAt_zero (by simpa [lookedUpAs] using ⟨first, rfl, first.identical_refl⟩) _
      | succ i =>
          have hi' : i < items.length := Nat.lt_of_succ_lt_succ hi
          have hlooked : lookedUpAs (first :: items) ⟨i + 1, hi⟩ =
              if (items.take (i + 1)).all (·.eqv first) then first else items[i] := by
            simp only [lookedUpAs, List.take_succ_cons, List.all_cons, List.get_eq_getElem,
              List.getElem_cons_zero, eqv_refl, Bool.true_and]
            rfl
          have hallot : allot [] first = (0, [first]) := rfl
          refine FindsAt.succ ?_
          rw [hlooked, hallot]
          exact findsAt_of_one first hi'

theorem eqv_lookedUpAs (items : List Labelled) (i : Fin items.length) :
    (items.get i).eqv (lookedUpAs items i) = true := by
  unfold lookedUpAs
  dsimp only
  split
  · rename_i hall
    exact List.all_eq_true.mp hall _ (List.mem_take_iff_getElem.mpr ⟨i, by omega, rfl⟩)
  · exact eqv_refl _

theorem lookedUpAs_mem (items : List Labelled) (i : Fin items.length) :
    lookedUpAs items i ∈ items := by
  unfold lookedUpAs
  dsimp only
  split
  · exact List.getElem_mem i.pos
  · exact List.getElem_mem i.isLt

end Labelled

namespace Layout

/-- The items that the placeholders in chunks stand for. -/
def items : List Chunk → List Labelled
  | [] => []
  | .text _ :: chunks => items chunks
  | .placeholder type binding :: chunks => (type, binding) :: items chunks

theorem labels_eq_allotAll (keys : List Labelled) (chunks : List Chunk) :
    labels keys chunks = (Labelled.allotAll keys (items chunks)).1.map (· + 1) := by
  induction chunks generalizing keys with
  | nil => rfl
  | cons c chunks ih =>
      cases c with
      | text s => exact ih keys
      | placeholder type binding => simp only [labels, items, Labelled.allotAll, List.map_cons, ih]

/-- Labels of items of which each has one. -/
abbrev Labelling (items : List Labelled) := Fin items.length → Nat

/-- Labels that two items share just when they are looked up as identical ones. -/
def SharedAsLookedUp {items : List Labelled} (label : Labelling items) : Prop :=
  ∀ i j, label i = label j ↔
    (Labelled.lookedUpAs items i).identical (Labelled.lookedUpAs items j) = true

/-- Labels that two items share just when they are equal. -/
def SharedAsEqual {items : List Labelled} (label : Labelling items) : Prop :=
  ∀ i j, label i = label j ↔ (items.get i).eqv (items.get j) = true

theorem exists_labelling (chunks : List Chunk) :
    ∃ label : Labelling (items chunks), List.ofFn label = labels [] chunks ∧
      SharedAsLookedUp label := by
  have hlength : (Labelled.allotAll [] (items chunks)).1.length = (items chunks).length :=
    Labelled.length_allotAll [] (items chunks)
  have hdistinct : Labelled.Distinct (Labelled.allotAll [] (items chunks)).2 :=
    Labelled.Distinct.allotAll List.Pairwise.nil _
  refine ⟨fun i ↦ (Labelled.allotAll [] (items chunks)).1[i] + 1, ?_, fun i j ↦ ?_⟩
  · rw [labels_eq_allotAll]
    refine List.ext_getElem (by simp [hlength]) fun i _ _ ↦ ?_
    simp
  · obtain ⟨p, hp, hfindsi⟩ := Labelled.findsAt_lookedUpAs (items chunks) i
    obtain ⟨q, hq, hfindsj⟩ := Labelled.findsAt_lookedUpAs (items chunks) j
    obtain ⟨_, rfl⟩ := List.getElem?_eq_some_iff.mp hp
    obtain ⟨_, rfl⟩ := List.getElem?_eq_some_iff.mp hq
    rw [← hdistinct.place_eq_iff hfindsi hfindsj]
    exact Nat.succ_inj

theorem eqv_of_same {items : List Labelled} {label : Labelling items} (h : SharedAsLookedUp label)
    {i j : Fin items.length} (hsame : label i = label j) :
    (items.get i).eqv (items.get j) = true := by
  have hlooked := Labelled.eqv_of_identical ((h i j).mp hsame)
  have hi := Labelled.eqv_lookedUpAs items i
  have hj := Labelled.eqv_lookedUpAs items j
  exact Labelled.joinsUp_eqv _ _ _ (Labelled.joinsUp_eqv.trans Labelled.eqv_refl hi hlooked) hj

theorem sharedAsEqual_iff {items : List Labelled} {label : Labelling items}
    (h : SharedAsLookedUp label) : SharedAsEqual label ↔
      ∀ i j, (items.get i).eqv (items.get j) = true →
        (Labelled.lookedUpAs items i).identical (Labelled.lookedUpAs items j) = true :=
  ⟨fun hequal i j heqv ↦ (h i j).mp ((hequal i j).mpr heqv),
    fun hidentical i j ↦ ⟨eqv_of_same h, fun heqv ↦ (h i j).mpr (hidentical i j heqv)⟩⟩

/-- Items without JSON trees share labels just when they are equal. -/
theorem sharedAsEqual_of_isFreeOfJson {items : List Labelled} {label : Labelling items}
    (h : SharedAsLookedUp label) (hfree : ∀ item ∈ items, item.2.isFreeOfJson = true) :
    SharedAsEqual label := by
  refine (sharedAsEqual_iff h).mpr fun i j heqv ↦ ?_
  have hi := Labelled.joinsUp_eqv.symm Labelled.eqv_refl (Labelled.eqv_lookedUpAs items i)
  have hj := Labelled.eqv_lookedUpAs items j
  refine Labelled.identical_of_eqv ?_ (hfree _ (Labelled.lookedUpAs_mem items i))
  exact Labelled.joinsUp_eqv.trans Labelled.eqv_refl hi
    (Labelled.joinsUp_eqv.trans Labelled.eqv_refl heqv hj)

end Layout

namespace Serializer

/-- Labels are shared by items that are looked up as identical ones. So a shared label stands for
equal items, and equal items share one unless they are looked up as items of different texts. -/
theorem serialize_labels (s : Serializer) (mark : Char) (r : Request) :
    (∃ e, r.rendering s.setup {} = .error e ∧
        (s.withPlaceholders (.numbered mark)).serialize r = .error e) ∨
      ∃ chunks, ∃ label : Layout.Labelling (Layout.items chunks),
        r.rendering s.setup {} = .ok chunks ∧
          (s.withPlaceholders (.numbered mark)).serialize r =
            .ok ⟨Layout.interleave (Layout.literals chunks).1
              ((List.ofFn label).map fun l ↦ mark.toString ++ toString l)
              (Layout.literals chunks).2, (layout (.numbered mark) chunks).2, r.modifiers⟩ ∧
          Layout.SharedAsLookedUp label ∧
          (∀ i j, label i = label j →
            ((Layout.items chunks).get i).eqv ((Layout.items chunks).get j) = true) ∧
          (Layout.SharedAsEqual label ↔ ∀ i j,
            ((Layout.items chunks).get i).eqv ((Layout.items chunks).get j) = true →
            (Labelled.lookedUpAs _ i).identical (Labelled.lookedUpAs _ j) = true) := by
  rw [serialize_eq]
  have hsetup : (s.withPlaceholders (.numbered mark)).setup = s.setup := rfl
  rw [hsetup]
  unfold statement
  cases hrendering : r.rendering s.setup {} with
  | error e => exact .inl ⟨e, rfl, rfl⟩
  | ok chunks =>
      obtain ⟨label, hlabels, hshared⟩ := Layout.exists_labelling chunks
      refine .inr ⟨chunks, label, rfl, ?_, hshared, fun i j ↦ Layout.eqv_of_same hshared,
        Layout.sharedAsEqual_iff hshared⟩
      rw [hlabels, ← Layout.join_numbered]
      rfl

/-- A JSON object with its members in two orders. -/
def reorderedObject : Value × Value :=
  (.json (.object [("a", .ofInt 1), ("b", .ofInt 2)]),
    .json (.object [("b", .ofInt 2), ("a", .ofInt 1)]))

/-- Two equal objects get labels of their own behind a number. -/
theorem serialize_reorderedObject : ∃ d, Dialect.jpql = .ok d ∧
    d.placeholders = .numbered '?' ∧ (reorderedObject.1 == reorderedObject.2) = true ∧
    reorderedObject.1.valueType = reorderedObject.2.valueType ∧
    { dialect := d : Serializer }.serialize (.expr (.tuple
        [.ofValue (.i32 5), .ofValue reorderedObject.1, .ofValue reorderedObject.2])) =
      .ok ⟨"(?1, ?2, ?3)",
        [.value (.i32 5), .value reorderedObject.1, .value reorderedObject.2], {}⟩ := by
  obtain ⟨d, hbuild⟩ := Dialect.exists_jpql
  have hstyle : d.placeholders = .numbered '?' := Dialect.placeholders_of_build hbuild
  have hrendering : Request.rendering { profile := d.toProfile } (.expr (.tuple
        [.ofValue (.i32 5), .ofValue reorderedObject.1, .ofValue reorderedObject.2])) {} =
      .ok [.text "(", .placeholder .i32 (.value (.i32 5)), .text ", ",
        .placeholder .json (.value reorderedObject.1), .text ", ",
        .placeholder .json (.value reorderedObject.2), .text ")"] := rfl
  refine ⟨d, hbuild, hstyle, by decide, rfl, ?_⟩
  rw [serialize_eq, statement, setup, hrendering]
  simp only [Except.map, hstyle]
  rfl

end Serializer

end TypedQuery
