import TypedQuery.Document.Filter

/-!
# Steps by an expression

A step to an item of a list or to a value of a map whose index or key is an expression has no name
in a document. A path with such a step has no key, and a test of the path is refused, unless all of
these steps stand behind the last step to some element. There they are left out, and what is tested
is a shorter path.
-/

namespace TypedQuery

open Document

/-- The condition that one element under a key meets some conditions. -/
def Document.elementMatch (key : String) (conditions : Document) : Document :=
  single key (operator "$elemMatch" (.object conditions))

namespace Path

/-- Whether the last step of a path goes by an expression. -/
def isDynamic : Path → Bool
  | listValue .. | mapValue .. => true
  | _ => false

def hasDynamicStep (p : Path) : Bool := p.ancestry.any isDynamic

/-- The steps that go by an expression, from the last one to the first. -/
def dynamicSteps (p : Path) : List Path := p.ancestry.filter isDynamic

/-- Whether a path goes on below some element, and no step up to the last such element goes by an
expression. -/
def isFixedUpToElement (p : Path) : Bool :=
  p.kind != .collectionAny &&
    match p.ancestry.dropWhile (·.kind != .collectionAny) with
    | element :: _ => !element.hasDynamicStep
    | [] => false

/-- The last step to some element, with what stands above it, and a rest of the path in which no
step goes by an expression. -/
theorem splitAtElement?_cases (p : Path) :
    (p.splitAtElement? = none ∧ p.ancestry.dropWhile (·.kind != .collectionAny) = []) ∨
      ∃ type above below, p.splitAtElement? = some (above, below) ∧
        p.ancestry.dropWhile (·.kind != .collectionAny) =
          collectionAny type above :: above.ancestry ∧
        below.hasDynamicStep = false ∧ below.splitAtElement? = none := by
  induction p using splitAtElement?.induct with
  | case1 type name => exact .inl ⟨rfl, rfl⟩
  | case2 type parent => exact .inr ⟨type, parent, .root type "elem", rfl, rfl, rfl, rfl⟩
  | case3 type parent name ih | case4 type parent index ih | case5 type parent key ih =>
      rcases ih with ⟨hnone, hdrop⟩ | ⟨element, above, below, hsome, hdrop, hfixed, hlast⟩
      · exact .inl ⟨by rw [splitAtElement?, hnone]; rfl, hdrop⟩
      · refine .inr ⟨element, above, _, by rw [splitAtElement?, hsome]; rfl, hdrop, ?_, ?_⟩
        · exact hfixed
        · rw [splitAtElement?, hlast]
          rfl
  -- such a step is in neither part
  | case6 type parent index ih | case7 type parent key ih => exact ih

theorem belowElement?_eq_none {p : Path} (h : p.splitAtElement? = none) :
    p.belowElement? = none := by
  cases p with
  | collectionAny type parent => rfl
  | _ => exact h

theorem belowElement?_eq_splitAtElement? {p : Path} (h : p.kind ≠ .collectionAny) :
    p.belowElement? = p.splitAtElement? := by
  cases p with
  | collectionAny type parent => exact absurd rfl h
  | _ => rfl

/-- A path that is fixed up to its last element is tested below that element. -/
theorem exists_of_isFixedUpToElement {p : Path} (h : p.isFixedUpToElement = true) :
    ∃ above below, p.belowElement? = some (above, below) ∧ above.hasDynamicStep = false ∧
      below.hasDynamicStep = false ∧ below.belowElement? = none := by
  simp only [isFixedUpToElement, Bool.and_eq_true, bne_iff_ne, ne_eq] at h
  obtain ⟨hkind, hfixed⟩ := h
  rcases splitAtElement?_cases p with
    ⟨_, hdrop⟩ | ⟨type, above, below, hsplit, hdrop, hbelow, hlast⟩
  · rw [hdrop] at hfixed
    cases hfixed
  · rw [hdrop] at hfixed
    have habove : above.hasDynamicStep = false := by
      simpa [hasDynamicStep, ancestry, isDynamic] using hfixed
    exact ⟨above, below, (belowElement?_eq_splitAtElement? hkind).trans hsplit, habove, hbelow,
      belowElement?_eq_none hlast⟩

/-- Any other path is tested as a whole, or has a step by an expression above the element. -/
theorem belowElement?_cases {p : Path} (h : p.isFixedUpToElement = false) :
    p.belowElement? = none ∨
      ∃ above below, p.belowElement? = some (above, below) ∧
        above.dynamicSteps ⊆ p.dynamicSteps ∧ above.hasDynamicStep = true := by
  by_cases hkind : p.kind = .collectionAny
  · cases p with
    | collectionAny type parent => exact .inl rfl
    | _ => cases hkind
  · have hbelow := belowElement?_eq_splitAtElement? hkind
    rcases splitAtElement?_cases p with ⟨hnone, _⟩ | ⟨type, above, below, hsplit, hdrop, _⟩
    · exact .inl (hbelow.trans hnone)
    · have hsuffix : above.ancestry <:+ p.ancestry :=
        (List.suffix_cons _ _).trans (hdrop ▸ List.dropWhile_suffix _)
      refine .inr ⟨above, below, hbelow.trans hsplit, (hsuffix.filter _).subset, ?_⟩
      simpa [isFixedUpToElement, hkind, hdrop, hasDynamicStep, ancestry, isDynamic] using h

end Path

namespace DocumentStore

variable {d : DocumentStore} {p : Path} {op : Op} {others : List Expr}

theorem exists_keyParts_eq_error (h : p.hasDynamicStep = true) :
    ∃ step, p.dynamicSteps.head? = some step ∧
      d.keyParts p = .error (d.refusal (.path step)) := by
  induction p using Path.ancestry.induct with
  | case1 type name => cases h
  | case2 type parent name ih | case4 type parent index ih | case6 type parent key ih =>
      obtain ⟨step, hstep, hparts⟩ := ih h
      exact ⟨step, hstep, by rw [keyParts, hparts]; rfl⟩
  | case3 type parent index ih | case5 type parent key ih => exact ⟨_, rfl, rfl⟩
  | case7 type parent ih => exact ih h

theorem exists_keyParts (h : p.hasDynamicStep = false) : ∃ parts, d.keyParts p = .ok parts := by
  induction p using Path.ancestry.induct with
  | case1 type name => exact ⟨[], rfl⟩
  | case2 type parent name ih | case4 type parent index ih | case6 type parent key ih =>
      obtain ⟨parts, hparts⟩ := ih h
      exact ⟨_, by rw [keyParts, hparts]; rfl⟩
  | case3 type parent index ih | case5 type parent key ih => cases h
  | case7 type parent ih => exact ih h

/-- A path has a key unless one of its steps goes by an expression. Then the last such step is
refused. -/
theorem exists_key_eq_error (h : p.hasDynamicStep = true) :
    ∃ step, p.dynamicSteps.head? = some step ∧ d.key p = .error (d.refusal (.path step)) := by
  obtain ⟨step, hstep, hparts⟩ := exists_keyParts_eq_error (d := d) h
  exact ⟨step, hstep, by rw [key, hparts]; rfl⟩

theorem exists_key (h : p.hasDynamicStep = false) : ∃ key, d.key p = .ok key := by
  obtain ⟨parts, hparts⟩ := exists_keyParts (d := d) h
  exact ⟨_, by rw [key, hparts]; rfl⟩

theorem constantJson_cases (d : DocumentStore) (e : Expr) :
    d.constantJson e = .error (d.refusal e) ∨ ∃ json, d.constantJson e = .ok json := by
  cases e with
  | constant c => exact .inr ⟨_, rfl⟩
  | _ => exact .inl rfl

/-- A test of a path without a key is refused as the key is, or for the test or an operand of it. -/
theorem condition_of_key (type : ValueType) (op : Op) (others : List Expr) {e : Error}
    (h : d.key p = .error e) :
    d.condition type op (.path p :: others) = .error e ∨
      ∃ a ∈ .operation type (.op op) (.path p :: others) :: .path p :: others,
        d.condition type op (.path p :: others) = .error (d.refusal a) := by
  have hpath : d.pathKey (.path p) = .error e := h
  -- what a collection is tested against is looked at before the path
  have hholds : ∀ value, d.holds (.path p) value = .error e ∨
      d.holds (.path p) value = .error (d.refusal value) := by
    intro value
    unfold holds
    rw [hpath]
    rcases constantJson_cases d value with hvalue | ⟨json, hvalue⟩ <;> rw [hvalue]
    · exact .inr rfl
    · exact .inl rfl
  unfold condition
  split <;> try cases ‹Expr.path p :: others = _›
  all_goals try simp only [compareEqual, compare, compareList, exists?, matchText, hpath]
  all_goals first
    | exact .inl rfl
    | exact .inr ⟨_, List.mem_cons_self, rfl⟩
    | exact (hholds _).imp_right fun hvalue ↦ ⟨_, by simp, hvalue⟩
    | exact .inr ⟨.path p, by simp, rfl⟩

variable {type : ValueType}

theorem filter_path_operation (hop : op ≠ .and ∧ op ≠ .or ∧ op ≠ .not) :
    d.filter (.operation type (.op op) (.path p :: others)) =
      d.elementCondition type op (.path p :: others) := by
  unfold filter
  split <;> simp_all

theorem elementCondition_of_belowElement? {above below : Path}
    (h : p.belowElement? = some (above, below)) :
    d.elementCondition type op (.path p :: others) = (d.key above).bind fun key ↦
      (d.condition type op (.path below :: others)).map (elementMatch key) := by
  simp only [elementCondition, h]
  rcases d.key above with _ | key
  · rfl
  · cases d.condition type op (.path below :: others) <;> rfl

theorem elementCondition_of_belowElement?_eq_none (h : p.belowElement? = none) :
    d.elementCondition type op (.path p :: others) = d.condition type op (.path p :: others) := by
  simp only [elementCondition, h]

/-- A path with a step by an expression has no key: its last such step is refused. A test of it has
no filter, one of these steps, the test or an operand being refused, unless all these steps stand
behind the last step to some element. Then what is tested is the path without them. -/
theorem filter_of_hasDynamicStep (d : DocumentStore) (p : Path) (h : p.hasDynamicStep = true)
    (type : ValueType) (op : Op) (hop : op ≠ .and ∧ op ≠ .or ∧ op ≠ .not) (others : List Expr) :
    (∃ step, p.dynamicSteps.head? = some step ∧ d.key p = .error (d.refusal (.path step))) ∧
      (p.isFixedUpToElement = false →
        ∃ e ∈ .operation type (.op op) (.path p :: others) :: .path p :: others ++
            p.dynamicSteps.map .path,
          d.filter (.operation type (.op op) (.path p :: others)) = .error (d.refusal e)) ∧
      (p.isFixedUpToElement = true →
        ∃ above below key, p.belowElement? = some (above, below) ∧ d.key above = .ok key ∧
          below.hasDynamicStep = false ∧
          d.filter (.operation type (.op op) (.path p :: others)) =
            (d.filter (.operation type (.op op) (.path below :: others))).map
              (elementMatch key)) := by
  refine ⟨exists_key_eq_error h, fun hfixed ↦ ?_, fun hfixed ↦ ?_⟩
  · rw [filter_path_operation hop]
    rcases Path.belowElement?_cases hfixed with hnone | ⟨above, below, hbelow, hsteps, habove⟩
    · obtain ⟨step, hstep, hkey⟩ := exists_key_eq_error (d := d) h
      rw [elementCondition_of_belowElement?_eq_none hnone]
      rcases condition_of_key type op others hkey with hrefused | ⟨e, he, hrefused⟩
      · refine ⟨.path step, List.mem_append_right _ ?_, hrefused⟩
        exact List.mem_map_of_mem (List.mem_of_head? hstep)
      · exact ⟨e, List.mem_append_left _ he, hrefused⟩
    · obtain ⟨step, hstep, hkey⟩ := exists_key_eq_error (d := d) habove
      refine ⟨.path step, List.mem_append_right _ ?_, ?_⟩
      · exact List.mem_map_of_mem (hsteps (List.mem_of_head? hstep))
      · rw [elementCondition_of_belowElement? hbelow, hkey]
        rfl
  · obtain ⟨above, below, hbelow, habove, hrest, hlast⟩ := Path.exists_of_isFixedUpToElement hfixed
    obtain ⟨key, hkey⟩ := exists_key (d := d) habove
    refine ⟨above, below, key, hbelow, hkey, hrest, ?_⟩
    rw [filter_path_operation hop, filter_path_operation hop,
      elementCondition_of_belowElement? hbelow, hkey,
      elementCondition_of_belowElement?_eq_none hlast]
    rfl

/-- The tags of some item of a user, and one of them by the number of the user. -/
def itemTag : Path :=
  let user := Path.root (.entity "User") "user"
  .listValue .string
    (.property (.collection .string) (.collectionAny (.entity "Item")
      (.property (.collection (.entity "Item")) user "items")) "tags")
    (.path (.property .i32 user "n"))

/-- A test of one tag of some item is written as a test of all of its tags. -/
theorem filter_itemTag :
    itemTag.hasDynamicStep = true ∧
      ({} : DocumentStore).key itemTag = .error (({} : DocumentStore).refusal (.path itemTag)) ∧
      ({} : DocumentStore).filter
          (.operation .bool (.op .eq) [.path itemTag, .constant ⟨.string, .string "a"⟩]) =
        .ok (elementMatch "items" (single "tags" (.string "a"))) :=
  ⟨rfl, rfl, rfl⟩

/-- An item of a user by the number of the user. -/
def numberedItem : Path :=
  let user := Path.root (.entity "User") "user"
  .listValue (.entity "Item") (.property (.collection (.entity "Item")) user "items")
    (.path (.property .i32 user "n"))

/-- The name of some part of the item. -/
def partName : Path :=
  .property .string (.collectionAny (.entity "Part")
    (.property (.collection (.entity "Part")) numberedItem "parts")) "name"

/-- A step by an expression above an element is refused, one below it is left out. -/
theorem filter_partName :
    partName.hasDynamicStep = true ∧ partName.dynamicSteps = [numberedItem] ∧
      ({} : DocumentStore).key partName =
        .error (({} : DocumentStore).refusal (.path numberedItem)) ∧
      (∃ e ∈ [.operation .bool (.op .eq) [.path partName, .constant ⟨.string, .string "a"⟩],
            .path partName, .constant ⟨.string, .string "a"⟩, .path numberedItem],
        ({} : DocumentStore).filter
            (.operation .bool (.op .eq) [.path partName, .constant ⟨.string, .string "a"⟩]) =
          .error (({} : DocumentStore).refusal e)) ∧
      ∃ above below key, itemTag.belowElement? = some (above, below) ∧
        ({} : DocumentStore).key above = .ok key ∧ below.hasDynamicStep = false ∧
        ({} : DocumentStore).filter (.operation .bool (.op .isNull) [.path itemTag]) =
          (({} : DocumentStore).filter (.operation .bool (.op .isNull) [.path below])).map
            (elementMatch key) := by
  obtain ⟨⟨step, hstep, hkey⟩, hrefused, _⟩ := filter_of_hasDynamicStep {} partName rfl .bool .eq
    (by decide) [.constant ⟨.string, .string "a"⟩]
  obtain rfl : numberedItem = step := Option.some.inj hstep
  have htag := filter_of_hasDynamicStep {} itemTag rfl .bool .isNull (by decide) []
  exact ⟨rfl, rfl, hkey, hrefused rfl, htag.2.2 rfl⟩

end DocumentStore

end TypedQuery
