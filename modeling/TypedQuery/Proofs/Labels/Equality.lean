import Mathlib.Data.List.Forall2
import TypedQuery.Rendering.Basic

/-!
# Equality of what placeholders stand for

Objects are equal when the values under each key are, one by one, so that the order in which keys
stand does not matter. What equals the same item is equal: with reflexivity, equality is an
equivalence, and so is the finer one that also compares the texts of JSON trees.
-/

namespace TypedQuery

open List (Forall₂)

/-- Items related to the same one are related. -/
def JoinsUp {α : Type} (R : α → α → Bool) : Prop :=
  ∀ a b c, R a c = true → R b c = true → R a b = true

namespace JoinsUp

variable {α : Type} {R : α → α → Bool} {a b c : α}

theorem symm (h : JoinsUp R) (hrefl : ∀ a, R a a = true) (hab : R a b = true) : R b a = true :=
  h b a b (hrefl b) hab

theorem trans (h : JoinsUp R) (hrefl : ∀ a, R a a = true) (hab : R a b = true)
    (hbc : R b c = true) : R a c = true :=
  h a c b hab (h.symm hrefl hbc)

end JoinsUp

theorem forall₂_joinsUp {α : Type} {R : α → α → Prop} {as bs cs : List α}
    (hR : ∀ a ∈ as, ∀ b c, R a c → R b c → R a b) (ha : Forall₂ R as cs) (hb : Forall₂ R bs cs) :
    Forall₂ R as bs := by
  induction ha generalizing bs with
  | nil =>
      cases hb
      exact .nil
  | cons hac _ ih =>
      cases hb with
      | cons hbc hbs =>
          exact .cons (hR _ List.mem_cons_self _ _ hac hbc)
            (ih (fun a ha ↦ hR a (List.mem_cons_of_mem _ ha)) hbs)

/-! ## JSON trees -/

namespace JsonNumber

def isZero : JsonNumber → Bool
  | whole _ => false
  | float x =>
      match x.datum with
      | .finite _ 0 _ => true
      | _ => false

theorem same_iff {m n : JsonNumber} :
    m.same n = true ↔ m = n ∨ (m.isZero = true ∧ n.isZero = true) := by
  cases m with
  | whole m => cases n <;> simp [same, isZero]
  | float x =>
      cases n with
      | whole n => simp [same, isZero]
      | float y =>
          simp only [same, isZero]
          split
          · simp [*]
          · rename_i hnot
            simp only [beq_iff_eq, float.injEq, iff_self_or]
            rintro ⟨hx, hy⟩
            split at hx
            · rename_i hxd
              split at hy
              · rename_i hyd
                exact absurd hyd (hnot _ _ _ _ hxd)
              · cases hy
            · cases hx

theorem joinsUp_same : JoinsUp same := by
  intro a b c hac hbc
  rw [same_iff] at hac hbc ⊢
  obtain rfl | ⟨ha, hc⟩ := hac
  · obtain rfl | ⟨hb, ha⟩ := hbc
    · exact .inl rfl
    · exact .inr ⟨ha, hb⟩
  · obtain rfl | ⟨hb, _⟩ := hbc
    · exact .inr ⟨ha, hc⟩
    · exact .inr ⟨ha, hb⟩

end JsonNumber

namespace Json

/-- The trees directly inside a tree. -/
def parts : Json → List Json
  | .array items => items
  | .object members => members.map Prod.snd
  | _ => []

theorem sizeOf_lt_of_mem_parts {part j : Json} (h : part ∈ j.parts) : sizeOf part < sizeOf j := by
  cases j with
  | array items =>
      have hitem : sizeOf part < sizeOf items := List.sizeOf_lt_of_mem h
      rw [Json.array.sizeOf_spec]
      omega
  | object members =>
      obtain ⟨⟨key, value⟩, hmember, rfl⟩ := List.mem_map.mp h
      have hpair := List.sizeOf_lt_of_mem hmember
      rw [Prod.mk.sizeOf_spec] at hpair
      rw [Json.object.sizeOf_spec]
      change sizeOf value < _
      omega
  | _ => cases h

theorem induction_parts {P : Json → Prop} (step : ∀ j, (∀ part ∈ j.parts, P part) → P j)
    (j : Json) : P j :=
  step j fun part hpart ↦
    have := sizeOf_lt_of_mem_parts hpart
    induction_parts step part
termination_by sizeOf j

theorem equivalentItems_iff {as bs : List Json} :
    equivalentItems as bs = true ↔ Forall₂ (fun a b ↦ a.equivalent b = true) as bs := by
  induction as generalizing bs with
  | nil => cases bs <;> simp [equivalentItems]
  | cons a as ih => cases bs <;> simp [equivalentItems, ih]

/-- The values under a key, in their order. -/
def valuesUnderKey (key : String) (members : List (String × Json)) : List Json :=
  (members.filter (·.1 == key)).map Prod.snd

theorem mem_parts_of_valuesUnderKey {key : String} {members : List (String × Json)} {value : Json}
    (h : value ∈ valuesUnderKey key members) : value ∈ (Json.object members).parts := by
  obtain ⟨m, hm, rfl⟩ := List.mem_map.mp h
  exact List.mem_map_of_mem (List.mem_of_mem_filter hm)

/-- What a key finds in members, and what is left when the first member of the key is taken out. -/
theorem lookup_cases (key : String) (members : List (String × Json)) :
    (members.lookup key = none ∧ valuesUnderKey key members = []) ∨
      ∃ value, members.lookup key = some value ∧
        valuesUnderKey key members =
          value :: valuesUnderKey key (members.eraseP (·.1 == key)) ∧
        (∀ other ≠ key, valuesUnderKey other members =
          valuesUnderKey other (members.eraseP (·.1 == key))) ∧
        members.length = (members.eraseP (·.1 == key)).length + 1 := by
  induction members with
  | nil => exact .inl ⟨rfl, rfl⟩
  | cons m members ih =>
      obtain ⟨k, v⟩ := m
      by_cases hk : k = key
      · subst hk
        refine .inr ⟨v, by simp, by simp [valuesUnderKey], fun other hother ↦ ?_, by simp⟩
        simp [valuesUnderKey, Ne.symm hother]
      · have hlookup : ((k, v) :: members).lookup key = members.lookup key := by
          have hne : (key == k) = false := by simpa using Ne.symm hk
          simp [List.lookup_cons, hne]
        have hvalues : valuesUnderKey key ((k, v) :: members) = valuesUnderKey key members := by
          simp [valuesUnderKey, hk]
        have herase : ((k, v) :: members).eraseP (·.1 == key) =
            (k, v) :: members.eraseP (·.1 == key) := by
          simp [hk]
        rw [hlookup, hvalues, herase]
        obtain hmissing | ⟨value, hfound, hfirst, hothers, hlength⟩ := ih
        · exact .inl hmissing
        · refine .inr ⟨value, hfound, ?_, fun other hother ↦ ?_, by simp [hlength]⟩
          · simpa [valuesUnderKey, hk] using hfirst
          · have hrest := hothers other hother
            by_cases hother' : k = other <;> simp_all [valuesUnderKey]

/-- Objects are equal when the values under each key are. -/
theorem membersWithin_iff {as bs : List (String × Json)} :
    (as.length = bs.length ∧ membersWithin as bs = true) ↔
      ∀ key, Forall₂ (fun a b ↦ a.equivalent b = true) (valuesUnderKey key as)
        (valuesUnderKey key bs) := by
  induction as generalizing bs with
  | nil =>
      cases bs with
      | nil => simp [membersWithin, valuesUnderKey]
      | cons b bs =>
          refine ⟨fun h ↦ absurd h.1 (by simp), fun h ↦ ?_⟩
          have hkey := h b.1
          simp [valuesUnderKey] at hkey
  | cons a as ih =>
      obtain ⟨key, value⟩ := a
      have hown : valuesUnderKey key ((key, value) :: as) = value :: valuesUnderKey key as := by
        simp [valuesUnderKey]
      have hrest : ∀ other ≠ key, valuesUnderKey other ((key, value) :: as) =
          valuesUnderKey other as := by
        intro other hother
        simp [valuesUnderKey, Ne.symm hother]
      obtain ⟨hnone, hvalues⟩ | ⟨found, hfound, hvalues, hothers, hlength⟩ := lookup_cases key bs
      · refine ⟨fun h ↦ ?_, fun h ↦ ?_⟩
        · simp [membersWithin, hnone] at h
        · have hkey := h key
          simp [hown, hvalues] at hkey
      · have hih := @ih (bs.eraseP (·.1 == key))
        constructor
        · rintro ⟨hlengths, hwithin⟩
          simp only [membersWithin, hfound, Bool.and_eq_true] at hwithin
          have hrests := hih.mp ⟨by simp only [List.length_cons] at hlengths; omega, hwithin.2⟩
          intro other
          by_cases hother : other = key
          · subst hother
            rw [hown, hvalues]
            exact .cons hwithin.1 (hrests other)
          · rw [hrest other hother, hothers other hother]
            exact hrests other
        · intro h
          have hfirst := h key
          rw [hown, hvalues, List.forall₂_cons] at hfirst
          obtain ⟨hlengths, hwithin⟩ := hih.mpr fun other ↦ by
            by_cases hother : other = key
            · subst hother
              exact hfirst.2
            · rw [← hothers other hother, ← hrest other hother]
              exact h other
          refine ⟨by simp only [List.length_cons]; omega, ?_⟩
          simp only [membersWithin, hfound, Bool.and_eq_true]
          exact ⟨hfirst.1, hwithin⟩

theorem equivalent_object_iff {as bs : List (String × Json)} :
    (object as).equivalent (object bs) = true ↔
      ∀ key, Forall₂ (fun a b ↦ a.equivalent b = true) (valuesUnderKey key as)
        (valuesUnderKey key bs) := by
  rw [← membersWithin_iff, equivalent, Bool.and_eq_true, beq_iff_eq]

theorem joinsUp_equivalent : JoinsUp equivalent := by
  intro a
  induction a using induction_parts with
  | step a ih =>
      intro b c hac hbc
      cases a with
      | number =>
          cases c <;> try cases hac
          cases b <;> try cases hbc
          exact JsonNumber.joinsUp_same _ _ _ hac hbc
      | array as =>
          cases c <;> try cases hac
          cases b <;> try cases hbc
          rw [equivalent, equivalentItems_iff] at hac hbc ⊢
          exact forall₂_joinsUp ih hac hbc
      | object as =>
          cases c <;> try cases hac
          cases b <;> try cases hbc
          rw [equivalent_object_iff] at hac hbc ⊢
          exact fun key ↦ forall₂_joinsUp
            (fun value hvalue ↦ ih value (mem_parts_of_valuesUnderKey hvalue)) (hac key) (hbc key)
      | _ => cases c <;> cases b <;> simp_all [equivalent]

theorem joinsUp_identical : JoinsUp identical := by
  intro a b c hac hbc
  simp only [identical, Bool.and_eq_true, beq_iff_eq] at hac hbc ⊢
  exact ⟨joinsUp_equivalent a b c hac.1 hbc.1, hac.2.trans hbc.2.symm⟩

theorem identical_refl (j : Json) : j.identical j = true := by
  simp [identical, equivalent_refl]

end Json

/-! ## Values -/

namespace Value

variable {json : Json → Json → Bool} {v w : Value}

/-- Whether a value has no values and no JSON tree inside. -/
def isAtom : Value → Bool
  | .json _ | entity _ _ | list _ | tuple _ => false
  | _ => true

theorem eq_of_eqvBy_atom : ∀ v w : Value, eqvBy json v w = true → w.isAtom = true → v = w := by
  apply eqvBy.induct (fun v w ↦ eqvBy json v w = true → w.isAtom = true → v = w)
    (fun _ _ ↦ True) (fun _ _ ↦ True)
  all_goals simp_all [eqvBy, isAtom]

theorem exists_of_eqvBy_json {b : Json} (h : eqvBy json v (.json b) = true) :
    ∃ a, v = .json a ∧ json a b = true := by
  cases v with
  | json a => exact ⟨a, rfl, by simpa only [eqvBy] using h⟩
  | _ => simp [eqvBy] at h

theorem exists_of_eqvBy_entity {t : String} {gs : List (String × Value)}
    (h : eqvBy json v (entity t gs) = true) :
    ∃ fs, v = entity t fs ∧ fieldsEqvBy json fs gs = true := by
  cases v with
  | entity t' fs =>
      simp only [eqvBy, Bool.and_eq_true, beq_iff_eq] at h
      exact ⟨fs, by rw [h.1], h.2⟩
  | _ => simp [eqvBy] at h

theorem exists_of_eqvBy_list {ws : List Value} (h : eqvBy json v (list ws) = true) :
    ∃ vs, v = list vs ∧ itemsEqvBy json vs ws = true := by
  cases v with
  | list vs => exact ⟨vs, rfl, by simpa only [eqvBy] using h⟩
  | _ => simp [eqvBy] at h

theorem exists_of_eqvBy_tuple {ws : List Value} (h : eqvBy json v (tuple ws) = true) :
    ∃ vs, v = tuple vs ∧ itemsEqvBy json vs ws = true := by
  cases v with
  | tuple vs => exact ⟨vs, rfl, by simpa only [eqvBy] using h⟩
  | _ => simp [eqvBy] at h

mutual

theorem eqvBy_of_common (hjson : JoinsUp json) (hrefl : ∀ j, json j j = true) : (w : Value) →
    ∀ u v, eqvBy json u w = true → eqvBy json v w = true → eqvBy json u v = true
  | null | bool _ | i8 _ | i16 _ | i32 _ | i64 _ | f32 _ | f64 _ | string _ | date _ | time _
  | timestamp _ | uuid _ | enum _ _ _ | typeRef _ => fun u v hu hv ↦ by
      rw [eq_of_eqvBy_atom u _ hu rfl, eq_of_eqvBy_atom v _ hv rfl]
      exact eqvBy_refl hrefl _
  | .json c => fun u v hu hv ↦ by
      obtain ⟨a, rfl, ha⟩ := exists_of_eqvBy_json hu
      obtain ⟨b, rfl, hb⟩ := exists_of_eqvBy_json hv
      simpa only [eqvBy] using hjson a b c ha hb
  | entity _ hs => fun u v hu hv ↦ by
      obtain ⟨fs, rfl, hfs⟩ := exists_of_eqvBy_entity hu
      obtain ⟨gs, rfl, hgs⟩ := exists_of_eqvBy_entity hv
      simpa [eqvBy] using fieldsEqvBy_of_common hjson hrefl hs fs gs hfs hgs
  | list ws => fun u v hu hv ↦ by
      obtain ⟨us, rfl, hus⟩ := exists_of_eqvBy_list hu
      obtain ⟨vs, rfl, hvs⟩ := exists_of_eqvBy_list hv
      simpa only [eqvBy] using itemsEqvBy_of_common hjson hrefl ws us vs hus hvs
  | tuple ws => fun u v hu hv ↦ by
      obtain ⟨us, rfl, hus⟩ := exists_of_eqvBy_tuple hu
      obtain ⟨vs, rfl, hvs⟩ := exists_of_eqvBy_tuple hv
      simpa only [eqvBy] using itemsEqvBy_of_common hjson hrefl ws us vs hus hvs

theorem itemsEqvBy_of_common (hjson : JoinsUp json) (hrefl : ∀ j, json j j = true) :
    (ws : List Value) → ∀ us vs, itemsEqvBy json us ws = true → itemsEqvBy json vs ws = true →
      itemsEqvBy json us vs = true
  | [], [], [], _, _ => rfl
  | w :: ws, u :: us, v :: vs, hus, hvs => by
      simp only [itemsEqvBy, Bool.and_eq_true] at hus hvs ⊢
      exact ⟨eqvBy_of_common hjson hrefl w u v hus.1 hvs.1,
        itemsEqvBy_of_common hjson hrefl ws us vs hus.2 hvs.2⟩

theorem fieldsEqvBy_of_common (hjson : JoinsUp json) (hrefl : ∀ j, json j j = true) :
    (hs : List (String × Value)) → ∀ fs gs, fieldsEqvBy json fs hs = true →
      fieldsEqvBy json gs hs = true → fieldsEqvBy json fs gs = true
  | [], [], [], _, _ => rfl
  | (_, w) :: hs, (_, u) :: fs, (_, v) :: gs, hfs, hgs => by
      simp only [fieldsEqvBy, Bool.and_eq_true, beq_iff_eq] at hfs hgs ⊢
      exact ⟨⟨hfs.1.1.trans hgs.1.1.symm, eqvBy_of_common hjson hrefl w u v hfs.1.2 hgs.1.2⟩,
        fieldsEqvBy_of_common hjson hrefl hs fs gs hfs.2 hgs.2⟩

end

theorem joinsUp_eqvBy (hjson : JoinsUp json) (hrefl : ∀ j, json j j = true) :
    JoinsUp (eqvBy json) :=
  fun u v w ↦ eqvBy_of_common hjson hrefl w u v

theorem joinsUp_identical : JoinsUp identical :=
  joinsUp_eqvBy Json.joinsUp_identical Json.identical_refl

theorem joinsUp_beq : JoinsUp fun v w : Value ↦ v == w :=
  joinsUp_eqvBy Json.joinsUp_equivalent Json.equivalent_refl

theorem identical_refl (v : Value) : v.identical v = true := eqvBy_refl Json.identical_refl v

mutual

/-- Whether no JSON tree is in a value. -/
def isFreeOfJson : Value → Bool
  | .json _ => false
  | entity _ fields => fieldsFreeOfJson fields
  | list items | tuple items => itemsFreeOfJson items
  | _ => true

def itemsFreeOfJson : List Value → Bool
  | [] => true
  | v :: vs => v.isFreeOfJson && itemsFreeOfJson vs

def fieldsFreeOfJson : List (String × Value) → Bool
  | [] => true
  | (_, v) :: fields => v.isFreeOfJson && fieldsFreeOfJson fields

end

/-- Without JSON trees there is only one equality. -/
theorem identical_of_beq : ∀ v w : Value, (v == w) = true → v.isFreeOfJson = true →
    v.identical w = true := by
  apply eqvBy.induct
    (fun v w ↦ eqvBy Json.equivalent v w = true → v.isFreeOfJson = true →
      eqvBy Json.identical v w = true)
    (fun vs ws ↦ itemsEqvBy Json.equivalent vs ws = true → itemsFreeOfJson vs = true →
      itemsEqvBy Json.identical vs ws = true)
    (fun fs gs ↦ fieldsEqvBy Json.equivalent fs gs = true → fieldsFreeOfJson fs = true →
      fieldsEqvBy Json.identical fs gs = true)
  all_goals
    simp_all [eqvBy, itemsEqvBy, fieldsEqvBy, isFreeOfJson, itemsFreeOfJson, fieldsFreeOfJson]

end Value

end TypedQuery
