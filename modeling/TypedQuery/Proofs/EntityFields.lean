import TypedQuery.Metamodel
import TypedQuery.Proofs.Filters.SortOrder
import TypedQuery.Value.Text

/-!
# Fields of entities

An entity can name a field several times. Read by its name, the field has the first of its values;
in the JSON object of the entity it has the last one. So the object and the entity agree under a
name just when the first and the last value of the name are the same as JSON.
-/

namespace TypedQuery

open Document (lookup_insertAll_reverse nodup_insertAll)

namespace Value

theorem lookup_fieldsToJson (fields : List (String × Value)) (name : String) :
    (fieldsToJson fields).lookup name = (fields.lookup name).map toJson := by
  induction fields with
  | nil => rfl
  | cons field fields ih =>
      obtain ⟨key, v⟩ := field
      rw [fieldsToJson, List.lookup_cons, List.lookup_cons]
      cases name == key <;> simp [ih]

theorem reverse_fieldsToJson (fields : List (String × Value)) :
    (fieldsToJson fields).reverse = fieldsToJson fields.reverse := by
  have hmap : ∀ fields, fieldsToJson fields = fields.map fun f ↦ (f.1, f.2.toJson) := by
    intro fields
    induction fields with
    | nil => rfl
    | cons field fields ih => rw [fieldsToJson, ih, List.map_cons]
  rw [hmap, hmap, List.map_reverse]

theorem isSome_lookup_iff {β : Type} {entries : List (String × β)} {name : String} :
    (entries.lookup name).isSome = true ↔ name ∈ entries.map Prod.fst := by
  induction entries with
  | nil => simp
  | cons entry entries ih =>
      obtain ⟨key, b⟩ := entry
      rw [List.lookup_cons]
      by_cases hname : name = key
      · simp [hname]
      · have hne : (name == key) = false := by simpa using hname
        simp [hne, hname, ih]

theorem lookup_reverse {β : Type} {entries : List (String × β)}
    (h : (entries.map Prod.fst).Nodup) (name : String) :
    entries.reverse.lookup name = entries.lookup name := by
  induction entries with
  | nil => rfl
  | cons entry entries ih =>
      obtain ⟨key, b⟩ := entry
      rw [List.map_cons, List.nodup_cons] at h
      rw [List.reverse_cons, List.lookup_append, ih h.2]
      by_cases hname : name = key
      · subst hname
        have hnone : entries.lookup name = none := by
          rw [← Option.isNone_iff_eq_none, ← Option.isSome_eq_false_iff, Bool.eq_false_iff,
            ne_eq, isSome_lookup_iff]
          exact h.1
        simp [hnone]
      · have hne : (name == key) = false := by simpa using hname
        simp [List.lookup_cons, hne]

/-- In a JSON object, the last value of a repeated name stays. -/
theorem lookup_members (fields : List (String × Value)) (name : String) :
    (Json.ofMembers (fieldsToJson fields)).lookup name =
      (fields.reverse.lookup name).map toJson := by
  rw [← lookup_fieldsToJson, ← reverse_fieldsToJson]
  exact (lookup_insertAll_reverse [] (fieldsToJson fields) name).trans Option.or_none

/-! ## Agreement under a name -/

/-- Whether some members have a name just when a value has a field of that name, and then have the
JSON of the field under it. -/
def AgreesAt (v : Value) (members : List (String × Json)) (name : String) : Prop :=
  Option.Rel (fun j w ↦ j.equivalent w.toJson = true) (members.lookup name) (v.field? name)

variable (typeName : String) (fields : List (String × Value))

/-- Whichever end the fields are read from, their names are the same. -/
theorem isSome_lookup_reverse (name : String) :
    (fields.reverse.lookup name).isSome = (fields.lookup name).isSome := by
  rw [Bool.eq_iff_iff, isSome_lookup_iff, isSome_lookup_iff]
  simp

theorem agreesAt_iff (name : String) :
    (entity typeName fields).AgreesAt (Json.ofMembers (fieldsToJson fields)) name ↔
      ∀ first ∈ fields.lookup name, ∀ last ∈ fields.reverse.lookup name,
        last.toJson.equivalent first.toJson = true := by
  have hsome := isSome_lookup_reverse fields name
  have hfield : (entity typeName fields).field? name = fields.lookup name := rfl
  rw [AgreesAt, lookup_members, hfield]
  cases hfirst : fields.lookup name with
  | none =>
      rw [hfirst, Option.isSome_none, Option.isSome_eq_false_iff, Option.isNone_iff_eq_none]
        at hsome
      simp [hsome]
  | some first =>
      rw [hfirst, Option.isSome_some, Option.isSome_iff_exists] at hsome
      obtain ⟨last, hlast⟩ := hsome
      simp [hlast]

/-- An entity whose fields have names of their own agrees with its JSON object. -/
theorem agreesAt_of_nodup (h : (fields.map Prod.fst).Nodup) (name : String) :
    (entity typeName fields).AgreesAt (Json.ofMembers (fieldsToJson fields)) name := by
  rw [agreesAt_iff, lookup_reverse h]
  intro first hfirst last hlast
  obtain rfl := Option.mem_unique hfirst hlast
  exact first.toJson.equivalent_refl

/-- The JSON object of an entity has the names of its fields, each once. Under each name it has the
last value that the entity has for it, while the field is the first one: the two agree just when
these values are the same as JSON. -/
theorem toJson_entity :
    ∃ members, (entity typeName fields).toJson = .object members ∧
      (members.map Prod.fst).Nodup ∧
      ∀ name,
        (name ∈ members.map Prod.fst ↔ ((entity typeName fields).field? name).isSome = true) ∧
        members.lookup name = (fields.reverse.lookup name).map toJson ∧
        ((entity typeName fields).AgreesAt members name ↔
          ∀ first ∈ fields.lookup name, ∀ last ∈ fields.reverse.lookup name,
            last.toJson.equivalent first.toJson = true) := by
  have hnodup : ((Json.ofMembers (fieldsToJson fields)).map Prod.fst).Nodup :=
    nodup_insertAll (by simp) _
  refine ⟨_, rfl, hnodup, fun name ↦
    ⟨?_, lookup_members fields name, agreesAt_iff typeName fields name⟩⟩
  have hlookup := lookup_members fields name
  rw [← isSome_lookup_iff, hlookup, Option.isSome_map, isSome_lookup_reverse]
  rfl

/-- A cat with two identifiers: it is identified by the first one and written with the second. -/
theorem not_agreesAt_twoIds :
    let cat := entity "Cat" [("id", i32 1), ("id", i32 2)]
    (({} : Metamodel).id "Cat" "id" .i32).identifier? cat = some (i32 1) ∧
      cat.toJson = .object [("id", .ofInt 2)] ∧
      ¬ cat.AgreesAt [("id", .ofInt 2)] "id" := by
  intro cat
  refine ⟨rfl, rfl, fun hagrees ↦ ?_⟩
  have hfield : cat.field? "id" = some (i32 1) := rfl
  have hmember : List.lookup "id" [("id", Json.ofInt 2)] = some (.ofInt 2) := rfl
  rw [AgreesAt, hfield, hmember, Option.rel_some_some] at hagrees
  exact absurd hagrees (by decide)

end Value

end TypedQuery
