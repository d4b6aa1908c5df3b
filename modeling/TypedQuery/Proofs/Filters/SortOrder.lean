import TypedQuery.Document.Query
import TypedQuery.Proofs.Filters.DynamicSteps
import TypedQuery.Proofs.Filters.Predicates

/-!
# Sort documents

Two documents are compared by the first key of an order that tells them apart. A sort document has
each key once, at the place where it is named first, but in the direction that is named last. So it
keeps the order of two documents just when the key that decides between them is named in one
direction first and last.
-/

namespace TypedQuery

open Document

/-! ## Comparisons key by key -/

/-- A comparison seen in a direction. -/
def Direction.turn : Direction → Ordering → Ordering
  | .ascending, o => o
  | .descending, o => o.swap

/-- A comparison seen in the direction that a sort document states by a number. -/
def Json.turn : Json → Ordering → Ordering
  | .number (.whole 1), o => o
  | .number (.whole (-1)), o => o.swap
  | _, _ => .eq

@[simp] theorem turn_directionNumber (direction : Direction) :
    (DocumentStore.directionNumber direction).turn = direction.turn := by
  cases direction <;> rfl

theorem Direction.turn_eq_iff {direction : Direction} {o : Ordering} :
    direction.turn o = .eq ↔ o = .eq := by
  cases direction <;> cases o <;> decide

theorem Direction.turn_inj {direction direction' : Direction} {o : Ordering} (ho : o ≠ .eq) :
    direction.turn o = direction'.turn o ↔ direction = direction' := by
  cases direction <;> cases direction' <;> cases o <;> first | exact absurd rfl ho | decide

section

variable {β δ : Type} (turn : β → Ordering → Ordering) (order : String → δ → δ → Ordering)
  (x y : δ)

/-- Compares by keys with directions, by a later one only what the earlier ones leave equal. -/
def compareBy : List (String × β) → Ordering
  | [] => .eq
  | (key, direction) :: rest => (turn direction (order key x y)).then (compareBy rest)

/-- The first of some keys that tells two documents apart. -/
def deciding? (keys : List String) : Option String := keys.find? fun key ↦ order key x y != .eq

variable {turn order x y}

/-- A comparison is that by the deciding key, in the direction that it has first. -/
theorem compareBy_eq {entries : List (String × β)}
    (hturn : ∀ e ∈ entries, ∀ o, turn e.2 o = .eq ↔ o = .eq) :
    compareBy turn order x y entries =
      (deciding? order x y (entries.map Prod.fst)).elim .eq fun key ↦
        (entries.lookup key).elim .eq (turn · (order key x y)) := by
  induction entries with
  | nil => rfl
  | cons e entries ih =>
      obtain ⟨key, direction⟩ := e
      rw [List.forall_mem_cons] at hturn
      rw [compareBy, List.map_cons, deciding?, List.find?_cons]
      by_cases heq : order key x y = .eq
      · have hfirst : turn direction (order key x y) = .eq := (hturn.1 _).mpr heq
        rw [hfirst, ih hturn.2]
        simp only [heq, bne_self_eq_false, Ordering.then]
        -- the key that decides is another one
        cases hdeciding : deciding? order x y (entries.map Prod.fst) with
        | none =>
            rw [deciding?] at hdeciding
            rw [hdeciding]
            rfl
        | some other =>
            rw [deciding?] at hdeciding
            have hne : (other == key) = false := by
              have htells := List.find?_some hdeciding
              refine beq_eq_false_iff_ne.mpr ?_
              rintro rfl
              simp [heq] at htells
            rw [hdeciding]
            simp only [Option.elim_some, List.lookup_cons, hne]
      · have hfirst : turn direction (order key x y) ≠ .eq := fun h ↦ heq ((hturn.1 _).mp h)
        have htells : (order key x y != .eq) = true := by simpa using heq
        simp only [htells, Option.elim_some, List.lookup_cons_self]
        cases hturned : turn direction (order key x y) <;> first | rfl | exact absurd hturned hfirst

end

/-! ## Members of a sort document -/

namespace Document

/-- A key that is set again keeps its place. -/
theorem find?_keys_insertAll (p : String → Bool) (target extra : Document) :
    ((insertAll target extra).map Prod.fst).find? p =
      ((target ++ extra).map Prod.fst).find? p := by
  have hinsert : ∀ (m : String × Json) (doc : Document),
      ((Json.insertMember m.1 m.2 doc).map Prod.fst).find? p =
        ((doc ++ [m]).map Prod.fst).find? p := by
    intro m doc
    induction doc with
    | nil => rfl
    | cons member doc ih =>
        obtain ⟨name, old⟩ := member
        unfold Json.insertMember
        split
        · rename_i hname
          subst hname
          cases hp : p m.1 <;> simp [List.find?_append, hp]
        · simp only [List.map_cons, List.cons_append, List.find?_cons, ih]
  unfold insertAll
  induction extra generalizing target with
  | nil => rw [List.append_nil]; rfl
  | cons m extra ih =>
      rw [List.foldl_cons, ih]
      simp only [List.map_append, List.map_cons, List.find?_append] at hinsert ⊢
      rw [hinsert]
      cases hm : p m.1 <;> simp [hm]

/-- A key that is set several times has the last value. -/
theorem lookup_insertAll_reverse (target extra : Document) (k : String) :
    List.lookup k (insertAll target extra) = (extra.reverse.lookup k).or (target.lookup k) := by
  unfold insertAll
  induction extra generalizing target with
  | nil => rfl
  | cons m extra ih =>
      rw [List.foldl_cons, ih, lookup_insertMember, List.reverse_cons, List.lookup_append,
        lookup_cons_eq]
      cases extra.reverse.lookup k with
      | some v => rfl
      | none => by_cases hk : k = m.1 <;> simp [hk]

end Document

namespace DocumentStore

variable {d : DocumentStore} {keys : List (OrderKey Expr)}

/-- The keys that an order names, with their directions. -/
def sortKeys (d : DocumentStore) (keys : List (OrderKey Expr)) :
    Except Error (List (String × Direction)) :=
  keys.mapM fun k ↦ (d.pathKey k.target).map (·, k.direction)

/-- A sort document has the named keys with numbers for their directions as its members. -/
theorem sort_of_sortKeys {named : List (String × Direction)} (h : d.sortKeys keys = .ok named) :
    d.sort keys = .ok (insertAll [] (named.map fun e ↦ (e.1, directionNumber e.2))) := by
  have hmembers : keys.mapM (fun k ↦ (d.pathKey k.target).map (·, directionNumber k.direction)) =
      Except.ok (ε := Error) (named.map fun e ↦ (e.1, directionNumber e.2)) := by
    unfold sortKeys at h
    induction keys generalizing named with
    | nil =>
        obtain rfl := Except.ok.inj h
        rfl
    | cons k keys ih =>
        rw [List.mapM_cons] at h ⊢
        cases hkey : d.pathKey k.target with
        | error e => rw [hkey] at h; cases h
        | ok key =>
            cases hrest : keys.mapM (fun k ↦ (d.pathKey k.target).map (·, k.direction)) with
            | error e => rw [hkey, hrest] at h; cases h
            | ok rest =>
                rw [hkey, hrest] at h
                obtain rfl := Except.ok.inj h
                rw [ih hrest]
                rfl
  rw [sort, collect, hmembers]
  rfl

theorem exists_sortKeys
    (h : ∀ k ∈ keys, ∃ p : Path, k.target = .path p ∧ p.hasDynamicStep = false) :
    ∃ named, d.sortKeys keys = .ok named := by
  induction keys with
  | nil => exact ⟨[], rfl⟩
  | cons k keys ih =>
      rw [List.forall_mem_cons] at h
      obtain ⟨⟨p, hpath, hfixed⟩, hkeys⟩ := h
      obtain ⟨key, hkey⟩ := exists_key (d := d) hfixed
      obtain ⟨named, hnamed⟩ := ih hkeys
      refine ⟨(key, k.direction) :: named, ?_⟩
      unfold sortKeys at hnamed ⊢
      have hfirst : d.pathKey k.target = .ok key := by rw [hpath]; exact hkey
      rw [List.mapM_cons, hfirst, hnamed]
      rfl

theorem lookup_directionNumbers (named : List (String × Direction)) (key : String) :
    (named.map fun e ↦ (e.1, directionNumber e.2)).lookup key =
      (named.lookup key).map directionNumber := by
  induction named with
  | nil => rfl
  | cons e named ih =>
      rw [List.map_cons, List.lookup_cons, List.lookup_cons]
      cases key == e.1 <;> simp [ih]

/-- A sort document compares by the same deciding key, in the direction that it has last. -/
theorem compareBy_insertAll {δ : Type} {order : String → δ → δ → Ordering} {x y : δ}
    (named : List (String × Direction)) :
    compareBy Json.turn order x y
        (insertAll [] (named.map fun e ↦ (e.1, directionNumber e.2))) =
      (deciding? order x y (named.map Prod.fst)).elim .eq fun key ↦
        (named.reverse.lookup key).elim .eq (Direction.turn · (order key x y)) := by
  have hlookup : ∀ key, List.lookup key (insertAll []
      (named.map fun e ↦ (e.1, directionNumber e.2))) =
        (named.reverse.lookup key).map directionNumber := by
    intro key
    rw [lookup_insertAll_reverse, ← List.map_reverse, lookup_directionNumbers]
    exact Option.or_none
  have hkeys : deciding? order x y ((insertAll []
      (named.map fun e ↦ (e.1, directionNumber e.2))).map Prod.fst) =
        deciding? order x y (named.map Prod.fst) := by
    rw [deciding?, find?_keys_insertAll, List.nil_append, List.map_map]
    rfl
  have hnodup : ((insertAll [] (named.map fun e ↦ (e.1, directionNumber e.2))).map
      Prod.fst).Nodup := nodup_insertAll (by simp) _
  rw [compareBy_eq, hkeys]
  · congr 1
    funext key
    rw [hlookup]
    cases named.reverse.lookup key with
    | none => rfl
    | some direction => simp
  · rintro ⟨key, value⟩ hmem o
    have hvalue := (lookup_eq_some_iff hnodup).mpr hmem
    rw [hlookup, Option.map_eq_some_iff] at hvalue
    obtain ⟨direction, _, rfl⟩ := hvalue
    rw [turn_directionNumber]
    exact Direction.turn_eq_iff

/-- Paths without a step by an expression have a sort document, which orders two documents as the
named keys do just when the key that decides between them has one direction first and last. -/
theorem compareBy_sort
    (h : ∀ k ∈ keys, ∃ p : Path, k.target = .path p ∧ p.hasDynamicStep = false) :
    ∃ named doc, d.sortKeys keys = .ok named ∧ d.sort keys = .ok doc ∧
      ∀ {δ : Type} (order : String → δ → δ → Ordering) (x y : δ),
        compareBy Json.turn order x y doc = compareBy Direction.turn order x y named ↔
          ∀ key ∈ deciding? order x y (named.map Prod.fst),
            named.lookup key = named.reverse.lookup key := by
  obtain ⟨named, hnamed⟩ := exists_sortKeys (d := d) h
  refine ⟨named, _, hnamed, sort_of_sortKeys hnamed, fun order x y ↦ ?_⟩
  rw [compareBy_insertAll, compareBy_eq fun e _ o ↦ Direction.turn_eq_iff]
  cases hdeciding : deciding? order x y (named.map Prod.fst) with
  | none => simp
  | some key =>
      have htells : order key x y ≠ .eq := by simpa using List.find?_some hdeciding
      have hmem : key ∈ named.map Prod.fst := List.mem_of_find?_eq_some hdeciding
      -- a key that is named has a direction, whichever end the list is read from
      have hsome : ∀ entries : List (String × Direction), key ∈ entries.map Prod.fst →
          ∃ direction, entries.lookup key = some direction := by
        intro entries hin
        by_contra hnone
        rw [← Option.ne_none_iff_exists', not_not, List.lookup_eq_none_iff] at hnone
        obtain ⟨e, he, rfl⟩ := List.mem_map.mp hin
        simpa using hnone e he
      obtain ⟨first, hfirst⟩ := hsome named hmem
      obtain ⟨last, hlast⟩ := hsome named.reverse (by simpa using hmem)
      simp only [hfirst, hlast, Option.elim_some, Option.mem_some_iff, forall_eq',
        Option.some.injEq]
      rw [Direction.turn_inj htells, eq_comm]

/-! ### Users by age and height -/

/-- The order of the whole numbers under a key, in front of documents without one. -/
def compareNumbers (key : String) (x y : Json) : Ordering :=
  match x.under? key, y.under? key with
  | some (.number (.whole m)), some (.number (.whole n)) => Ord.compare m n
  | some (.number (.whole _)), _ => .lt
  | _, some (.number (.whole _)) => .gt
  | _, _ => .eq

def user (age height : Int) : Json := .object [("age", .ofInt age), ("height", .ofInt height)]

/-- The oldest users first. The heights, which are named in both directions, come second. -/
def oldestFirst : List (OrderKey Expr) :=
  [⟨.path (userProperty .i32 "age"), .descending, .unstated⟩,
    ⟨.path (userProperty .i32 "height"), .ascending, .unstated⟩,
    ⟨.path (userProperty .i32 "age"), .descending, .unstated⟩,
    ⟨.path (userProperty .i32 "height"), .descending, .unstated⟩]

theorem hasDynamicStep_oldestFirst : ∀ k ∈ oldestFirst,
    ∃ p : Path, k.target = .path p ∧ p.hasDynamicStep = false := by
  simp only [oldestFirst, List.forall_mem_cons]
  and_intros
  all_goals first | exact ⟨_, rfl, rfl⟩ | exact List.forall_mem_nil _

theorem sortKeys_oldestFirst : ({} : DocumentStore).sortKeys oldestFirst =
    .ok [("age", .descending), ("height", .ascending), ("age", .descending),
      ("height", .descending)] := by
  simp only [sortKeys, oldestFirst, List.mapM_cons, List.mapM_nil, pathKey, key_userProperty]
  rfl

/-- Users of one age are sorted by the direction of the heights that is named last. -/
theorem compareBy_sort_ne_oldestFirst :
    (∀ k ∈ oldestFirst, ∃ p : Path, k.target = .path p ∧ p.hasDynamicStep = false) ∧
      ∃ named doc, ({} : DocumentStore).sortKeys oldestFirst = .ok named ∧
        ({} : DocumentStore).sort oldestFirst = .ok doc ∧
        doc = [("age", .ofInt (-1)), ("height", .ofInt (-1))] ∧
        compareBy Json.turn compareNumbers (user 30 170) (user 30 180) doc = .gt ∧
        compareBy Direction.turn compareNumbers (user 30 170) (user 30 180) named = .lt :=
  ⟨hasDynamicStep_oldestFirst, _, _, sortKeys_oldestFirst, sort_of_sortKeys sortKeys_oldestFirst,
    rfl, by decide +kernel, by decide +kernel⟩

/-- Users of different ages are sorted as the keys say. -/
theorem compareBy_sort_oldestFirst :
    (∀ k ∈ oldestFirst, ∃ p : Path, k.target = .path p ∧ p.hasDynamicStep = false) ∧
      ∃ named doc, ({} : DocumentStore).sortKeys oldestFirst = .ok named ∧
        ({} : DocumentStore).sort oldestFirst = .ok doc ∧
        compareBy Json.turn compareNumbers (user 30 170) (user 40 180) doc =
          compareBy Direction.turn compareNumbers (user 30 170) (user 40 180) named := by
  obtain ⟨named, doc, hnamed, hdoc, hsame⟩ :=
    compareBy_sort (d := {}) hasDynamicStep_oldestFirst
  refine ⟨hasDynamicStep_oldestFirst, named, doc, hnamed, hdoc, ?_⟩
  obtain rfl := Except.ok.inj (sortKeys_oldestFirst.symm.trans hnamed)
  rw [hsame]
  decide +kernel

end DocumentStore

end TypedQuery
