import TypedQuery.Proofs.KnownDialects
import TypedQuery.Proofs.Templates

/-!
# Templates that fit their operators

A registered template has an argument for each of its slots whenever the arity of its operator is
met. In the known dialects this holds of every operator, and the operators that slots make use of
are written without such slots themselves.
-/

namespace TypedQuery

namespace Template

/-- Whether all slots refer to one of the first arguments. -/
def isWithin (n : Nat) (t : Template) : Bool := t.elements.all (Element.isWithin n)

def isPlain (t : Template) : Bool := t.elements.all Element.isPlain

theorem isWithin_iff {n : Nat} {t : Template} :
    t.isWithin n = true ↔ ∀ i ∈ t.elements.filterMap Element.index?, i < n := by
  simp only [isWithin, Element.isWithin, List.all_eq_true, Option.all_eq_true, decide_eq_true_eq,
    List.mem_filterMap]
  constructor
  · rintro h i ⟨slot, hslot, hi⟩
    exact h slot hslot i hi
  · intro h slot hslot i hi
    exact h i ⟨slot, hslot, hi⟩

theorem isWithin_eq_maxIndex (n : Nat) (t : Template) :
    t.isWithin n = t.maxIndex.all (· < n) := by
  rw [Bool.eq_iff_iff, isWithin_iff, maxIndex]
  generalize t.elements.filterMap Element.index? = indices
  cases hmax : indices.max? with
  | none => simp [List.max?_eq_none_iff.mp hmax]
  | some i =>
      obtain ⟨hmem, hle⟩ := List.max?_eq_some_iff.mp hmax
      simp only [Option.all_some, decide_eq_true_eq]
      exact ⟨fun h ↦ h i hmem, fun h j hj ↦ Nat.lt_of_le_of_lt (hle j hj) h⟩

theorem isWithin_mono {n m : Nat} (h : n ≤ m) {t : Template} (ht : t.isWithin n = true) :
    t.isWithin m = true := by
  rw [isWithin_iff] at ht ⊢
  exact fun i hi ↦ Nat.lt_of_lt_of_le (ht i hi) h

end Template

/-! ## Registries -/

/-- The operators that slots apply to their arguments. -/
def slotOperators : List Operator := [.op .lower, .op .upper, .op .concat]

namespace Registry

/-- Whether a pattern, if it can be read, passes a test. -/
def readsAs (test : Template → Bool) (pattern : String) : Bool :=
  match Template.read pattern with
  | .ok t => test t
  | .error _ => true

/-- What a pattern for a built-in operator has to fulfil besides what its registration checks. -/
def suits (operator : Operator) (pattern : String) : Bool :=
  match operator.arity with
  | none => false
  | some (.atLeast _) => readsAs (·.isWithin 0) pattern
  | some (.exact _) => !slotOperators.contains operator || readsAs Template.isPlain pattern

/-- An entry whose slots have arguments whenever the arity of its operator is met. -/
structure Fits (operator : Operator) (e : TemplateEntry) : Prop where
  arity : e.arity = none
  isWithin : ∀ n, operator.arity.all (·.accepts n) = true → e.template.isWithin n = true
  isPlain : operator ∈ slotOperators → e.template.isPlain = true

def IsFitting (r : Registry) : Prop := ∀ operator e, r.get? operator = some e → Fits operator e

theorem readsAs_of_parse {test : Template → Bool} {pattern : String} {t : Template}
    (h : readsAs test pattern = true) (ht : Template.parse pattern = .ok t) : test t = true := by
  unfold readsAs at h
  unfold Template.parse at ht
  cases hread : Template.read pattern with
  | error e =>
      rw [hread] at ht
      cases ht
  | ok u =>
      rw [hread] at h ht
      obtain rfl := Except.ok.inj ht
      exact h

theorem fits_of_readFor {operator : Operator} {pattern : String} {t : Template}
    (hsuits : suits operator pattern = true) (h : readFor operator.arity pattern = .ok t)
    (precedence : Int) : Fits operator ⟨t, precedence, none⟩ := by
  have hparse := readFor_eq_ok h
  have hfits : operator.arity.all t.fits = true := by
    obtain ⟨u, hu, h⟩ := exists_of_bind h
    obtain rfl := Except.ok.inj (hu.symm.trans hparse)
    split at h
    · assumption
    · cases h
  unfold suits at hsuits
  cases harity : operator.arity with
  | none => simp [harity] at hsuits
  | some arity =>
      cases arity with
      | exact m =>
          simp only [harity, Bool.or_eq_true, Bool.not_eq_true', Option.all_some, Template.fits,
            Bool.and_eq_true] at hsuits hfits
          refine ⟨rfl, fun n hn ↦ ?_, fun hslot ↦ ?_⟩
          · obtain rfl : n = m := by simpa [harity, Arity.accepts] using hn
            rw [Template.isWithin_eq_maxIndex]
            exact hfits.2
          · have hcontains : slotOperators.contains operator = true := by simpa using hslot
            exact readsAs_of_parse (hsuits.resolve_left (by simpa using hcontains)) hparse
      | atLeast m =>
          -- registration checks no slots here, so that the pattern must not have any
          simp only [harity] at hsuits
          have hwithin := readsAs_of_parse hsuits hparse
          refine ⟨rfl, fun n _ ↦ Template.isWithin_mono (Nat.zero_le n) hwithin, fun hslot ↦ ?_⟩
          simp only [slotOperators, List.mem_cons, List.not_mem_nil, or_false] at hslot
          rcases hslot with rfl | rfl | rfl <;> cases harity

variable {r r' : Registry}

theorem isFitting_empty : empty.IsFitting := by
  intro operator e h
  cases h

theorem IsFitting.layer (h : r.IsFitting) (name : String) : (r.layer name).IsFitting := by
  intro operator e he
  rw [get?_layer] at he
  exact h operator e he

theorem IsFitting.registerWith (h : r.IsFitting) {operator : Operator} {pattern : String}
    {precedence : Int} (hsuits : suits operator pattern = true)
    (hr : r.registerWith operator pattern precedence = .ok r') : r'.IsFitting := by
  obtain ⟨t, hread, hr⟩ := exists_of_bind hr
  obtain rfl := Except.ok.inj hr
  intro other e he
  by_cases hother : other = operator
  · subst hother
    rw [get?_insert_self] at he
    obtain rfl := Option.some.inj he
    exact fits_of_readFor hsuits hread precedence
  · rw [get?_insert_of_ne r hother] at he
    exact h other e he

theorem IsFitting.registerOps {entries : List (Op × String)} (h : r.IsFitting)
    (hsuits : ∀ e ∈ entries, suits (.op e.1) e.2 = true)
    (hr : r.registerOps entries = .ok r') : r'.IsFitting :=
  foldlM_induction (fun e he _ _ hs ↦ hs.registerWith (hsuits e he)) h hr

theorem suits_baseOps : ∀ e ∈ baseOps, suits (.op e.1) e.2 = true := by decide

theorem suits_familyOps : ∀ e ∈ jpqlOps ++ sqlOps, suits (.op e.1) e.2 = true := by decide

/-- No LIKE operator is applied by slots, so that any escape character will do. -/
theorem suits_likePatterns (escape : Char) :
    ∀ e ∈ likePatterns escape, suits (.op e.1) e.2 = true := by
  intro pattern hpattern
  obtain ⟨e, he, rfl⟩ := List.mem_map.mp hpattern
  have hexact : ∀ e ∈ likeOps, (∃ n, Operator.arity (.op e.1) = some (.exact n)) ∧
      slotOperators.contains (.op e.1) = false := by
    simp [likeOps, slotOperators, Operator.arity, Op.arity, Op.spec]
  obtain ⟨⟨n, harity⟩, hslot⟩ := hexact e he
  rw [suits, harity]
  simp only [hslot, Bool.not_false, Bool.true_or]

end Registry

/-! ## Dialects -/

/-- Whether limit clauses have slots for the counts they are given only. -/
def Pagination.isFitting : Pagination Template → Bool
  | external => true
  | limitOffset forms | fetchFirst forms =>
      forms.limit.isWithin 1 && forms.offset.isWithin 1 && forms.both.isWithin 2
  | topRowNumber top filter =>
      top.isWithin 1 && filter.offset.isWithin 1 && filter.both.isWithin 2

/-- Whether a setting keeps templates fitting. -/
def Setting.suits : Setting → Bool
  | .template operator pattern | .templateAt _ operator pattern =>
      Registry.suits operator pattern
  | .custom .. => false
  | .pagination forms =>
      match forms.parse with
      | .ok parsed => parsed.isFitting
      | .error _ => true
  | _ => true

structure Profile.IsFitting (p : Profile) : Prop where
  registry : p.registry.IsFitting
  pagination : p.pagination.isFitting = true

namespace Dialect

variable {d d' : Dialect}

theorem isFitting_start {name : String} {family : Family} (h : start name family = .ok d) :
    d.toProfile.IsFitting := by
  have hpagination : d.pagination = .external := by
    obtain ⟨_, _, h⟩ := exists_of_bind h
    obtain ⟨_, _, h⟩ := exists_of_bind h
    obtain ⟨_, _, h⟩ := exists_of_bind h
    cases h
    rfl
  obtain ⟨base, like, last, hregister, hlike, hlast, hregistry, _⟩ := exists_of_start h
  obtain ⟨ops, root, hops, hroot, hproperty⟩ := Registry.exists_of_registerBase hregister
  have hbase : base.IsFitting := by
    refine Registry.IsFitting.registerWith ?_ (by decide) hproperty
    refine Registry.IsFitting.registerWith ?_ (by decide) hroot
    exact (Registry.isFitting_empty.layer "base").registerOps Registry.suits_baseOps hops
  have hlikes : like.IsFitting :=
    (hbase.layer "like").registerOps (Registry.suits_likePatterns family.escape) hlike
  have hfamily : last.IsFitting := by
    cases family with
    | jpql =>
        obtain ⟨ops, hops, hconcat⟩ := exists_of_bind hlast
        refine Registry.IsFitting.registerWith ?_ (by decide) hconcat
        exact (hlikes.layer "jpql").registerOps
          (fun e he ↦ Registry.suits_familyOps e (List.mem_append_left _ he)) hops
    | sql =>
        exact (hlikes.layer "sql").registerOps
          (fun e he ↦ Registry.suits_familyOps e (List.mem_append_right _ he)) hlast
  refine ⟨?_, by rw [hpagination]; rfl⟩
  rw [hregistry]
  exact hfamily.layer name

theorem isFitting_set {setting : Setting} (hd : d.toProfile.IsFitting)
    (hsuits : setting.suits = true) (h : d.set setting = .ok d') : d'.toProfile.IsFitting := by
  cases setting with
  | template operator pattern | templateAt precedence operator pattern =>
      obtain ⟨r, hr, rfl⟩ := exists_of_withRegistry h
      exact ⟨hd.registry.registerWith hsuits hr, hd.pagination⟩
  | escape c =>
      obtain ⟨r, hr, rfl⟩ := exists_of_withRegistry h
      exact ⟨hd.registry.registerOps (Registry.suits_likePatterns c) hr, hd.pagination⟩
  | custom name arity pattern precedence => cases hsuits
  | layer name =>
      cases h
      exact ⟨hd.registry.layer name, hd.pagination⟩
  | pagination forms =>
      obtain ⟨parsed, hparsed, h⟩ := exists_of_bind h
      obtain rfl := Except.ok.inj h
      simp only [Setting.suits, hparsed] at hsuits
      exact ⟨hd.registry, hsuits⟩
  | _ =>
      cases h
      exact ⟨hd.registry, hd.pagination⟩

theorem isFitting_foldlM_set {settings : List Setting} (hd : d.toProfile.IsFitting)
    (hsuits : ∀ setting ∈ settings, setting.suits = true)
    (h : settings.foldlM set d = .ok d') : d'.toProfile.IsFitting :=
  foldlM_induction (P := (·.toProfile.IsFitting))
    (fun setting hsetting _ _ hd ↦ isFitting_set hd (hsuits setting hsetting)) hd h

theorem suits_recipes : ∀ r ∈ recipes, ∀ setting ∈ r.2.2, setting.suits = true := by
  decide

/-- All templates of the known dialects fit. -/
theorem IsKnown.isFitting (h : d.IsKnown) : d.toProfile.IsFitting := by
  obtain ⟨r, hr, hbuild⟩ := h.exists_recipe
  obtain ⟨first, hstart, hfold⟩ := exists_of_build hbuild
  exact isFitting_foldlM_set (isFitting_start hstart) (suits_recipes r hr) hfold

end Dialect

end TypedQuery
