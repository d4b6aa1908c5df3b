import TypedQuery.Proofs.Filters.Predicates

/-!
# Negations over collections

A test of a field of some element of a collection is a condition on one element. Its negation is the
opposite condition under the dotted key of that field, which looks for the field in every element.
So the negation of a test for equality or presence is its complement. The negation of a test for
difference or absence is its complement only when there are elements and all of them agree.
-/

namespace TypedQuery

open Document

/-! ## Keys below an element -/

namespace DocumentStore

variable {d : DocumentStore} {p collection inner : Path} {parts : List String} {key : String}

/-- The steps to an element are named in front of the steps below it, if there are any. -/
theorem exists_keyParts_split (hsplit : p.splitAtElement? = some (collection, inner))
    (hparts : d.keyParts p = .ok parts) :
    ∃ front back, d.keyParts collection = .ok front ∧ d.keyParts inner = .ok back ∧
      parts = front ++ back ∧ inner.type = p.type ∧ (back = [] → p.kind = .collectionAny) := by
  induction p using Path.splitAtElement?.induct generalizing collection inner parts with
  | case1 type name => cases hsplit
  | case2 type parent =>
      obtain ⟨rfl, rfl⟩ := Prod.mk.inj (Option.some.inj hsplit)
      exact ⟨parts, [], hparts, rfl, by simp, rfl, fun _ ↦ rfl⟩
  | case3 type parent name ih =>
      obtain ⟨⟨_, rest⟩, hrest, hpair⟩ := Option.map_eq_some_iff.mp hsplit
      obtain ⟨rfl, rfl⟩ := Prod.mk.inj hpair
      obtain ⟨found, hfound, rfl⟩ := exists_of_map hparts
      obtain ⟨front, back, hfront, hback, rfl, htype, _⟩ := ih hrest hfound
      exact ⟨front, _, hfront, by rw [keyParts, hback, htype]; rfl, by simp, rfl, by simp⟩
  | case4 type parent step ih | case5 type parent step ih =>
      obtain ⟨⟨_, rest⟩, hrest, hpair⟩ := Option.map_eq_some_iff.mp hsplit
      obtain ⟨rfl, rfl⟩ := Prod.mk.inj hpair
      obtain ⟨found, hfound, rfl⟩ := exists_of_map hparts
      obtain ⟨front, back, hfront, hback, rfl, _⟩ := ih hrest hfound
      exact ⟨front, _, hfront, by rw [keyParts, hback]; rfl, by simp, rfl, by simp⟩
  -- a step by an expression cannot be named
  | case6 type parent step ih | case7 type parent step ih => cases hparts

/-- A path that goes on below some element has a dotted key. -/
theorem exists_key_below (hbelow : p.belowElement? = some (collection, inner))
    (hfield : d.keyParts collection ≠ .ok []) (hkey : d.key p = .ok key) :
    ∃ k r, d.key collection = .ok k ∧ d.key inner = .ok r ∧ key = k ++ "." ++ r := by
  obtain ⟨parts, hparts, rfl⟩ := exists_of_map hkey
  have hsplit : p.kind ≠ .collectionAny ∧ p.splitAtElement? = some (collection, inner) := by
    unfold Path.belowElement? at hbelow
    split at hbelow
    · cases hbelow
    · rename_i hany
      refine ⟨fun hkind ↦ ?_, hbelow⟩
      cases p <;> simp [Path.kind] at hkind hany
  obtain ⟨front, back, hfront, hback, rfl, _, hnamed⟩ := exists_keyParts_split hsplit.2 hparts
  refine ⟨".".intercalate front, ".".intercalate back, by rw [key, hfront]; rfl,
    by rw [key, hback]; rfl, String.intercalate_append_of_ne_nil ?_ ?_⟩
  · rintro rfl
    exact hfield hfront
  · intro hback
    exact hsplit.1 (hnamed hback)

end DocumentStore

/-! ## Tests of a field -/

theorem Value.isFlat_of_isScalar {v : Value} (h : v.isScalar = true) : v.isFlat = true := by
  cases v with
  | list items => cases h
  | _ => exact h

/-- What a test asks for under a key: a value, or that there is one. -/
inductive FieldTest
  | equals (c : Constant)
  | present

namespace FieldTest

def IsScalar : FieldTest → Prop
  | equals c => c.value.isScalar = true
  | present => True

def op : FieldTest → Bool → Op
  | equals _, true => .eq
  | equals _, false => .ne
  | present, true => .isNotNull
  | present, false => .isNull

def operands : FieldTest → List Expr
  | equals c => [.constant c]
  | present => []

/-- The predicate that a path passes a test, or that it fails it. -/
def on (t : FieldTest) (positive : Bool) (type : ValueType) (p : Path) : Expr :=
  .operation type (.op (t.op positive)) (.path p :: t.operands)

/-- The condition that stands for a test under a key. -/
def condition : FieldTest → Bool → Json
  | equals c, true => c.value.toJson
  | equals c, false => operator "$ne" c.value.toJson
  | present, positive => existence positive

/-- Whether what data holds under a key passes a test. -/
def holds {δ : Type} (t : FieldTest) (m : DataModel δ) (key : String) (x : δ) : Bool :=
  m.meets x key (t.condition true)

variable {t : FieldTest}

theorem isObject_of_isScalar {c : Constant} (h : IsScalar (.equals c)) :
    c.value.toJson.isObject = false :=
  Value.isObject_toJson (Value.isFlat_of_isScalar h)

theorem elementMatch?_condition (ht : t.IsScalar) (positive : Bool) :
    elementMatch? (t.condition positive) = none := by
  cases t with
  | present => exact elementMatch?_operator_ne (by decide) _
  | equals c =>
      cases positive with
      | true => exact elementMatch?_of_isObject (isObject_of_isScalar ht)
      | false => exact elementMatch?_operator_ne (by decide) _

theorem condition_ne_array (ht : t.IsScalar) (positive : Bool) (items : List Json) :
    t.condition positive ≠ .array items := by
  cases t with
  | present => simp [condition, existence, operator]
  | equals c =>
      cases positive with
      | false => simp [condition, operator]
      | true =>
          obtain ⟨_, value⟩ := c
          cases value with
          | json j => cases j <;> simp_all [condition, IsScalar, Value.isScalar, Value.toJson]
          | f32 x | f64 x =>
              simp only [condition, Value.toJson, Json.ofBinary64]
              split <;> simp
          | _ => simp_all [condition, IsScalar, Value.isScalar, Value.toJson, Json.ofInt]

end FieldTest

namespace DataModel

variable {δ : Type} (m : DataModel δ) (x : δ) {t : FieldTest}

theorem meets_condition (key : String) (ht : t.IsScalar) (positive : Bool) :
    m.meets x key (t.condition positive) = (t.holds m key x == positive) := by
  cases positive with
  | true => simp [FieldTest.holds]
  | false =>
      cases t with
      | equals c =>
          simpa [FieldTest.condition, FieldTest.holds] using
            m.meets_ne x key _ (FieldTest.isObject_of_isScalar ht)
      | present => simpa [FieldTest.condition, FieldTest.holds] using m.meets_absent x key

theorem satisfies_condition (key : String) (ht : t.IsScalar) (positive : Bool) :
    m.satisfies x (single key (t.condition positive)) = (t.holds m key x == positive) := by
  rw [satisfies_single, satisfiesMember_eq_meets_of_ne_array m x key
    (t.condition_ne_array ht positive) (t.elementMatch?_condition ht positive),
    meets_condition m x key ht]

/-- What a key names behind the key of a collection is looked for in every element. -/
def LooksThrough (k r : String) : Prop :=
  ∀ t : FieldTest, t.IsScalar → t.holds m (k ++ "." ++ r) x = (m.elements x k).any (t.holds m r)

/-- There are elements under a key, and a test of a field gives one answer for all of them. -/
def Agree (t : FieldTest) (k r : String) : Prop :=
  m.elements x k ≠ [] ∧ ∃ answer, ∀ y ∈ m.elements x k, t.holds m r y = answer

theorem any_eq_all_iff {l : List δ} {f : δ → Bool} :
    l.any f = l.all f ↔ l ≠ [] ∧ ∃ answer, ∀ y ∈ l, f y = answer := by
  constructor
  · intro h
    refine ⟨by rintro rfl; simp at h, l.all f, fun y hy ↦ ?_⟩
    cases hall : l.all f with
    | true => exact List.all_eq_true.mp hall y hy
    | false =>
        rw [hall] at h
        simpa using List.any_eq_false.mp h y hy
  · rintro ⟨hne, answer, hanswer⟩
    obtain ⟨y, hy⟩ := List.exists_mem_of_ne_nil l hne
    cases answer with
    | true =>
        rw [List.all_eq_true.mpr hanswer]
        exact List.any_eq_true.mpr ⟨y, hy, hanswer y hy⟩
    | false =>
        rw [List.any_eq_false.mpr fun z hz ↦ by simp [hanswer z hz]]
        exact (List.all_eq_false.mpr ⟨y, hy, by simp [hanswer y hy]⟩).symm

/-- Some element passes a test, and the negated test is a test of the dotted key. -/
theorem complement_iff {k r : String} (ht : t.IsScalar) (hlooks : m.LooksThrough x k r)
    (positive : Bool) :
    (m.satisfies x (single (k ++ "." ++ r) (t.condition !positive)) =
        !m.satisfies x (single k (operator "$elemMatch"
          (.object (single r (t.condition positive)))))) ↔
      positive = true ∨ m.Agree x t k r := by
  -- both sides ask for some element: the one that passes, and the one that does or does not
  rw [satisfies_condition m x _ ht, satisfies_single, satisfiesMember_elementMatch, hlooks t ht]
  simp only [satisfies_condition m _ r ht]
  cases positive with
  | true => simp
  | false =>
      have hall : (!(m.elements x k).any fun y ↦ t.holds m r y == false) =
          (m.elements x k).all (t.holds m r) := by
        simp [List.not_any_eq_all_not]
      rw [hall]
      simpa [Agree] using any_eq_all_iff

end DataModel

namespace DocumentStore

variable {d : DocumentStore} {t : FieldTest} {positive : Bool} {type : ValueType} {p : Path}

theorem condition_fieldTest (t : FieldTest) (positive : Bool) (p : Path) :
    d.condition type (t.op positive) (.path p :: t.operands) =
      (d.key p).map fun key ↦ single key (t.condition positive) := by
  have hpath : d.pathKey (.path p) = d.key p := rfl
  cases t <;> cases positive <;>
    simp only [FieldTest.op, FieldTest.operands, condition, compare, compareEqual, exists?,
      hpath] <;>
    cases d.key p <;> rfl

theorem filter_fieldTest :
    d.filter (t.on positive type p) =
      d.elementCondition type (t.op positive) (.path p :: t.operands) := by
  cases t <;> cases positive <;> rfl

theorem filter_not_fieldTest (type' : ValueType) :
    d.filter (.operation type' (.op .not) [t.on positive type p]) =
      d.condition type (t.op !positive) (.path p :: t.operands) := by
  cases t <;> cases positive <;> rfl

/-- A path that goes on below some element, by the keys of the collection and of the rest. -/
def Below (d : DocumentStore) (p : Path) (k r : String) : Prop :=
  ∃ collection inner, p.belowElement? = some (collection, inner) ∧
    d.key collection = .ok k ∧ d.key inner = .ok r

theorem Below.unique {k k' r r' : String} (h : d.Below p k r) (h' : d.Below p k' r') :
    k = k' ∧ r = r' := by
  obtain ⟨collection, inner, hsplit, hk, hr⟩ := h
  obtain ⟨collection', inner', hsplit', hk', hr'⟩ := h'
  obtain ⟨rfl, rfl⟩ := Prod.mk.inj (Option.some.inj (hsplit.symm.trans hsplit'))
  exact ⟨Except.ok.inj (hk.symm.trans hk'), Except.ok.inj (hr.symm.trans hr')⟩

theorem filter_fieldTest_cases {key : String}
    (hfield : ∀ collection inner, p.belowElement? = some (collection, inner) →
      d.keyParts collection ≠ .ok []) (hkey : d.key p = .ok key) (t : FieldTest)
    (positive : Bool) (type : ValueType) :
    (p.belowElement? = none ∧
        d.filter (t.on positive type p) = .ok (single key (t.condition positive))) ∨
      ∃ k r, d.Below p k r ∧ key = k ++ "." ++ r ∧
        d.filter (t.on positive type p) = .ok (single k (operator "$elemMatch"
          (.object (single r (t.condition positive))))) := by
  rw [filter_fieldTest, elementCondition]
  cases hbelow : p.belowElement? with
  | none =>
      refine .inl ⟨rfl, ?_⟩
      dsimp only
      rw [condition_fieldTest, hkey]
      rfl
  | some split =>
      obtain ⟨collection, inner⟩ := split
      obtain ⟨k, r, hk, hr, rfl⟩ := exists_key_below hbelow (hfield _ _ hbelow) hkey
      refine .inr ⟨k, r, ⟨collection, inner, hbelow, hk, hr⟩, rfl, ?_⟩
      dsimp only
      rw [condition_fieldTest, hk, hr]
      rfl

/-- The negation of a test of a field has a filter when its path has a key, and so has the test. It
is the complement of the test, unless the test is for difference or absence and the path goes on
below some element: then it is so exactly when there are elements and all of them agree. -/
theorem satisfies_filter_not_fieldTest (d : DocumentStore) (t : FieldTest) (positive : Bool)
    (type type' : ValueType) (p : Path) (ht : t.IsScalar)
    (hfield : ∀ collection inner, p.belowElement? = some (collection, inner) →
      d.keyParts collection ≠ .ok []) :
    ((∃ negated, d.filter (.operation type' (.op .not) [t.on positive type p]) = .ok negated) ↔
        ∃ key, d.key p = .ok key) ∧
      ∀ negated, d.filter (.operation type' (.op .not) [t.on positive type p]) = .ok negated →
        ∃ doc, d.filter (t.on positive type p) = .ok doc ∧
          ∀ {δ : Type} (m : DataModel δ) (x : δ),
            (∀ k r, d.Below p k r → m.LooksThrough x k r) →
              (m.satisfies x negated = !m.satisfies x doc ↔
                positive = true ∨ ∀ k r, d.Below p k r → m.Agree x t k r) := by
  rw [filter_not_fieldTest, condition_fieldTest]
  cases hkey : d.key p with
  | error e =>
      refine ⟨⟨fun ⟨_, h⟩ ↦ ?_, fun ⟨_, h⟩ ↦ ?_⟩, fun _ h ↦ ?_⟩ <;> cases h
  | ok key =>
      refine ⟨⟨fun _ ↦ ⟨key, rfl⟩, fun _ ↦ ⟨_, rfl⟩⟩, fun negated hnegated ↦ ?_⟩
      obtain rfl := Except.ok.inj hnegated
      rcases filter_fieldTest_cases hfield hkey t positive type with
        ⟨hbelow, hfilter⟩ | ⟨k, r, hbelow, rfl, hfilter⟩
      · refine ⟨_, hfilter, fun m x _ ↦ ⟨fun _ ↦ .inr ?_, fun _ ↦ ?_⟩⟩
        · rintro k r ⟨collection, inner, hsome, _⟩
          rw [hbelow] at hsome
          cases hsome
        · rw [DataModel.satisfies_condition m x key ht, DataModel.satisfies_condition m x key ht]
          cases t.holds m key x <;> cases positive <;> rfl
      · refine ⟨_, hfilter, fun m x hlooks ↦ ?_⟩
        rw [DataModel.complement_iff m x ht (hlooks k r hbelow)]
        refine or_congr_right ⟨fun hagree k' r' hbelow' ↦ ?_, fun hagree ↦ hagree k r hbelow⟩
        obtain ⟨rfl, rfl⟩ := hbelow.unique hbelow'
        exact hagree

end DocumentStore

/-! ## Arrays of documents -/

namespace Json

def items : Json → List Json
  | .array items => items
  | _ => []

def field? (name : List Char) : Json → Option Json
  | .object members => members.lookup (String.ofList name)
  | _ => none

/-- The values under a name. Behind an array it is looked up in each of the items. -/
def fields (name : List Char) : Json → List Json
  | .array items => items.filterMap (field? name)
  | v => (v.field? name).toList

def valuesUnder : List (List Char) → Json → List Json
  | [], v => [v]
  | name :: names, v => (v.fields name).flatMap (valuesUnder names)

/-- The values under a dotted key. -/
def spread (data : Json) (key : String) : List Json :=
  data.valuesUnder (key.toList.splitOn '.')

theorem valuesUnder_append (names others : List (List Char)) (v : Json) :
    v.valuesUnder (names ++ others) = (v.valuesUnder names).flatMap (valuesUnder others) := by
  induction names generalizing v with
  | nil => simp [valuesUnder]
  | cons name names ih =>
      have ih : valuesUnder (names ++ others) =
          fun v ↦ (v.valuesUnder names).flatMap (valuesUnder others) := funext ih
      rw [List.cons_append, valuesUnder, valuesUnder, List.flatMap_assoc, ih]

theorem fields_documents (name : List Char) (docs : List Document) :
    fields name (.array (docs.map .object)) = (docs.map .object).flatMap (fields name) := by
  simp only [fields, List.flatMap_map, field?, List.filterMap_map]
  induction docs with
  | nil => rfl
  | cons doc docs ih =>
      rw [List.filterMap_cons, List.flatMap_cons, ← ih]
      cases h : doc.lookup (String.ofList name) <;> simp [field?, h]

theorem valuesUnder_documents {names : List (List Char)} (hnames : names ≠ [])
    (docs : List Document) :
    valuesUnder names (.array (docs.map .object)) =
      (docs.map .object).flatMap (valuesUnder names) := by
  obtain ⟨name, names, rfl⟩ := List.exists_cons_of_ne_nil hnames
  simp only [valuesUnder, fields_documents, List.flatMap_assoc]

/-- All that stands under a key are arrays of documents. -/
def HoldsDocuments (data : Json) (key : String) : Prop :=
  ∀ v ∈ data.spread key, ∃ docs : List Document, v = .array (docs.map .object)

theorem spread_dotted {data : Json} {k : String} (h : data.HoldsDocuments k) (r : String) :
    data.spread (k ++ "." ++ r) = ((data.spread k).flatMap items).flatMap (·.spread r) := by
  have hsplit : (k ++ "." ++ r).toList.splitOn '.' =
      k.toList.splitOn '.' ++ r.toList.splitOn '.' := by
    have hdot : (k ++ "." ++ r).toList = k.toList ++ '.' :: r.toList := by
      simp
    rw [hdot]
    exact List.splitOnP_append_cons _ _ (by simp)
  rw [spread, hsplit, valuesUnder_append, List.flatMap_assoc]
  refine List.flatMap_congr fun v hv ↦ ?_
  obtain ⟨docs, rfl⟩ := h v hv
  exact valuesUnder_documents (List.splitOn_ne_nil '.' r.toList) docs

end Json

/-- Documents in JSON, whose arrays are searched by dotted keys. -/
def DataModel.spread : DataModel Json where
  meets data key condition :=
    match condition with
    | .object [("$ne", v)] => !(candidates data key).any (·.equivalent v)
    | .object [("$exists", .bool present)] => (!(data.spread key).isEmpty) == present
    | v => (candidates data key).any (·.equivalent v)
  elements data key := (data.spread key).flatMap Json.items
  meets_ne data key v hv := by
    cases v <;> first | rfl | cases hv
  meets_absent data key := by
    simp [existence, operator]
where
  /-- What a condition on a key is about: the values there, and the items of arrays. -/
  candidates (data : Json) (key : String) : List Json :=
    (data.spread key).flatMap fun v ↦ v :: v.items

namespace FieldTest

/-- Whether a value that stands under a key passes a test. -/
def accepts : FieldTest → Json → Bool
  | equals c, v => (v :: v.items).any (·.equivalent c.value.toJson)
  | present, _ => true

theorem holds_spread {t : FieldTest} (ht : t.IsScalar) (key : String) (data : Json) :
    t.holds .spread key data = (data.spread key).any t.accepts := by
  cases t with
  | present =>
      have hpresent : FieldTest.present.holds .spread key data =
          (!(data.spread key).isEmpty) := by
        cases h : (data.spread key).isEmpty <;>
          simp [holds, condition, existence, operator, DataModel.spread, h]
      rw [hpresent]
      cases data.spread key <;> simp [accepts]
  | equals c =>
      have hequals : (equals c).holds .spread key data =
          (DataModel.spread.candidates data key).any (·.equivalent c.value.toJson) := by
        have hobject := isObject_of_isScalar ht
        simp only [holds, condition, DataModel.spread]
        split
        · rename_i hvalue
          rw [hvalue] at hobject
          cases hobject
        · rename_i hvalue
          rw [hvalue] at hobject
          cases hobject
        · rfl
      rw [hequals, DataModel.spread.candidates, List.any_flatMap]
      rfl

end FieldTest

/-- In documents that hold arrays of documents under a key, what is behind it is looked for in all
of them. -/
theorem DataModel.looksThrough_spread {data : Json} {k : String} (h : data.HoldsDocuments k)
    (r : String) : DataModel.spread.LooksThrough data k r := by
  intro t ht
  rw [FieldTest.holds_spread ht, Json.spread_dotted h, List.any_flatMap]
  exact List.any_congr rfl fun y ↦ (FieldTest.holds_spread ht r y).symm

namespace DocumentStore

/-- The name of some item of a user. -/
def itemName : Path :=
  .property .string
    (.any (.property (.collection (.entity "Item")) (.entity "User" "user") "items")) "name"

/-- The test whether some text is the letter a. -/
def isA : FieldTest := .equals (.ofValue (.string "a"))

def namedItems (names : List String) : Json :=
  .object [("items", .array (names.map fun n ↦ .object [("name", .string n)]))]

theorem below_itemName {k r : String} (h : ({} : DocumentStore).Below itemName k r) :
    k = "items" ∧ r = "name" :=
  h.unique ⟨_, _, rfl, rfl, rfl⟩

theorem holdsDocuments_namedItems (names : List String) :
    (namedItems names).HoldsDocuments "items" := by
  have hspread : (namedItems names).spread "items" =
      [.array ((names.map fun n ↦ [("name", Json.string n)]).map .object)] := by
    have hsplit : ("items" : String).toList.splitOn '.' = ["items".toList] := by decide
    rw [Json.spread, hsplit]
    simp [namedItems, Json.valuesUnder, Json.fields, Json.field?]
  intro v hv
  rw [hspread, List.mem_singleton] at hv
  exact ⟨_, hv⟩

/-- Some item has the name a, or none has. -/
theorem complement_itemName :
    isA.IsScalar ∧ (∀ collection inner, itemName.belowElement? = some (collection, inner) →
        ({} : DocumentStore).keyParts collection ≠ .ok []) ∧
      ∃ negated doc,
        ({} : DocumentStore).filter (.operation .bool (.op .not) [isA.on true .bool itemName]) =
            .ok negated ∧
          ({} : DocumentStore).filter (isA.on true .bool itemName) = .ok doc ∧
          ∀ names, DataModel.spread.satisfies (namedItems names) negated =
            !DataModel.spread.satisfies (namedItems names) doc := by
  have hscalar : isA.IsScalar := rfl
  have hfield : ∀ collection inner, itemName.belowElement? = some (collection, inner) →
      ({} : DocumentStore).keyParts collection ≠ .ok [] := by
    rintro collection inner h
    obtain ⟨rfl, _⟩ := Prod.mk.inj (Option.some.inj h)
    have hparts : ({} : DocumentStore).keyParts (.property (.collection (.entity "Item"))
        (.entity "User" "user") "items") = .ok ["items"] := rfl
    simp [hparts]
  obtain ⟨hexists, hmeaning⟩ :=
    satisfies_filter_not_fieldTest {} isA true .bool .bool itemName hscalar hfield
  obtain ⟨negated, hnegated⟩ := hexists.mpr ⟨"items.name", rfl⟩
  obtain ⟨doc, hdoc, hsatisfies⟩ := hmeaning negated hnegated
  refine ⟨hscalar, hfield, negated, doc, hnegated, hdoc, fun names ↦ ?_⟩
  refine (hsatisfies .spread (namedItems names) fun k r hbelow ↦ ?_).mpr (.inl rfl)
  obtain ⟨rfl, rfl⟩ := below_itemName hbelow
  exact DataModel.looksThrough_spread (holdsDocuments_namedItems names) "name"

/-- With items named a and b, the predicate that some item is not named a holds, and so does its
negation. -/
theorem not_complement_itemName_ne :
    ∃ negated doc,
      ({} : DocumentStore).filter (.operation .bool (.op .not) [isA.on false .bool itemName]) =
          .ok negated ∧
        ({} : DocumentStore).filter (isA.on false .bool itemName) = .ok doc ∧
        DataModel.spread.satisfies (namedItems ["a", "b"]) doc = true ∧
        DataModel.spread.satisfies (namedItems ["a", "b"]) negated = true := by
  refine ⟨single "items.name" (.string "a"),
    single "items" (operator "$elemMatch" (.object (single "name" (operator "$ne" (.string "a"))))),
    rfl, rfl, ?_, ?_⟩
  · decide
  · decide

end DocumentStore

end TypedQuery
