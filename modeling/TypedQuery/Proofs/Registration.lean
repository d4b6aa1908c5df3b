import Mathlib.Data.List.Induction
import TypedQuery.Dialect.Profiles

/-!
# Look-up after registration

Registering an operator changes the look-up of this operator only, and so does every setting of a
dialect that registers templates. Hence a dialect renders with the template of its family whatever
none of its settings speaks of.
-/

namespace TypedQuery

/-- A computation that succeeds does so step by step. -/
theorem exists_of_bind {ε α β : Type} {x : Except ε α} {f : α → Except ε β} {b : β}
    (h : (x >>= f) = .ok b) : ∃ a, x = .ok a ∧ f a = .ok b := by
  cases x with
  | error e => cases h
  | ok a => exact ⟨a, rfl, h⟩

theorem exists_of_map {ε α β : Type} {x : Except ε α} {f : α → β} {b : β} (h : x.map f = .ok b) :
    ∃ a, x = .ok a ∧ f a = b := by
  cases x with
  | error e => cases h
  | ok a => exact ⟨a, rfl, Except.ok.inj h⟩

/-- What every step of a successful run keeps is kept by the run. -/
theorem foldlM_induction {ε α β : Type} {P : β → Prop} {f : β → α → Except ε β} {xs : List α}
    (hstep : ∀ x ∈ xs, ∀ b b', P b → f b x = .ok b' → P b')
    {b b' : β} (hb : P b) (h : xs.foldlM f b = .ok b') : P b' := by
  induction xs generalizing b with
  | nil =>
      cases h
      exact hb
  | cons x xs ih =>
      rw [List.foldlM_cons] at h
      obtain ⟨middle, hfirst, hrest⟩ := exists_of_bind h
      exact ih (fun y hy ↦ hstep y (List.mem_cons_of_mem _ hy))
        (hstep x List.mem_cons_self b middle hb hfirst) hrest

namespace Layer

theorem get?_register_self (l : Layer) (operator : Operator) (entry : TemplateEntry) :
    (l.register operator entry).get? operator = some entry := by
  simp [register, get?]

theorem lookup_filter_ne (entries : List (Operator × TemplateEntry)) {operator other : Operator}
    (h : other ≠ operator) :
    (entries.filter (·.1 != operator)).lookup other = entries.lookup other := by
  induction entries with
  | nil => rfl
  | cons e entries ih =>
      obtain ⟨key, entry⟩ := e
      by_cases hkey : key = operator
      · have hother : (other == key) = false := by simpa [hkey] using h
        simp [hkey, List.lookup_cons, ih, hkey ▸ hother]
      · simp [hkey, List.lookup_cons, ih]

theorem get?_register_of_ne (l : Layer) {operator other : Operator} (h : other ≠ operator)
    (entry : TemplateEntry) : (l.register operator entry).get? other = l.get? other := by
  have hother : (other == operator) = false := by simpa using h
  simp only [get?, register, List.lookup_cons, hother]
  exact lookup_filter_ne l.entries h

end Layer

namespace Registry

@[simp] theorem get?_empty (operator : Operator) : empty.get? operator = none := rfl

@[simp] theorem get?_layer (r : Registry) (name : String) (operator : Operator) :
    (r.layer name).get? operator = r.get? operator := by
  simp [layer, get?, Layer.get?, List.findSome?_cons]

theorem get?_insert_self (r : Registry) (operator : Operator) (entry : TemplateEntry) :
    (r.insert operator entry).get? operator = some entry := by
  unfold insert
  split <;> simp [get?, Layer.get?_register_self]

theorem get?_insert_of_ne (r : Registry) {operator other : Operator} (h : other ≠ operator)
    (entry : TemplateEntry) : (r.insert operator entry).get? other = r.get? other := by
  unfold insert
  split
  · rename_i hlayers
    simp only [get?, hlayers, List.findSome?_cons, Layer.get?_register_of_ne _ h]
    rfl
  · rename_i top below hlayers
    simp only [get?, hlayers, List.findSome?_cons, Layer.get?_register_of_ne _ h]

theorem readFor_eq_ok {arity : Option Arity} {pattern : String} {t : Template}
    (h : readFor arity pattern = .ok t) : Template.parse pattern = .ok t := by
  obtain ⟨u, hparse, h⟩ := exists_of_bind h
  split at h
  · cases h
    exact hparse
  · cases h

theorem exists_of_registerWith {r r' : Registry} {operator : Operator} {pattern : String}
    {precedence : Int} (h : r.registerWith operator pattern precedence = .ok r') :
    ∃ t, Template.parse pattern = .ok t ∧ r' = r.insert operator ⟨t, precedence, none⟩ := by
  obtain ⟨t, hread, h⟩ := exists_of_bind h
  exact ⟨t, readFor_eq_ok hread, (Except.ok.inj h).symm⟩

theorem get?_of_registerWith {r r' : Registry} {operator other : Operator} {pattern : String}
    {precedence : Int} (h : r.registerWith operator pattern precedence = .ok r')
    (hne : other ≠ operator) : r'.get? other = r.get? other := by
  obtain ⟨t, _, rfl⟩ := exists_of_registerWith h
  exact get?_insert_of_ne r hne _

theorem exists_of_registerCustom {r r' : Registry} {name : String} {arity : Arity}
    {pattern : String} {precedence : Int}
    (h : r.registerCustom name arity pattern precedence = .ok r') :
    ∃ t, Template.parse pattern = .ok t ∧
      r' = r.insert (.custom name) ⟨t, precedence, some arity⟩ := by
  obtain ⟨t, hread, h⟩ := exists_of_bind h
  exact ⟨t, readFor_eq_ok hread, (Except.ok.inj h).symm⟩

theorem get?_of_registerCustom {r r' : Registry} {name : String} {arity : Arity}
    {pattern : String} {precedence : Int} {other : Operator}
    (h : r.registerCustom name arity pattern precedence = .ok r')
    (hne : other ≠ .custom name) : r'.get? other = r.get? other := by
  obtain ⟨t, _, rfl⟩ := exists_of_registerCustom h
  exact get?_insert_of_ne r hne _

theorem registerOps_cons {r r' : Registry} {e : Op × String} {entries : List (Op × String)}
    (h : r.registerOps (e :: entries) = .ok r') :
    ∃ middle, r.register (.op e.1) e.2 = .ok middle ∧ middle.registerOps entries = .ok r' := by
  unfold registerOps at h
  rw [List.foldlM_cons] at h
  exact exists_of_bind h

theorem get?_of_registerOps {r r' : Registry} {entries : List (Op × String)}
    (h : r.registerOps entries = .ok r') {other : Operator}
    (hfree : other ∉ entries.map fun e ↦ Operator.op e.1) : r'.get? other = r.get? other := by
  refine foldlM_induction (P := fun s ↦ s.get? other = r.get? other) ?_ rfl h
  intro e he s s' hkept hr
  have hne : other ≠ .op e.1 := fun heq ↦ hfree (List.mem_map.mpr ⟨e, he, heq.symm⟩)
  rw [get?_of_registerWith hr hne, hkept]

/-- Among entries for different operators, each is found after all are registered. -/
theorem get?_of_mem_registerOps {r r' : Registry} {entries : List (Op × String)}
    (h : r.registerOps entries = .ok r') (hnodup : (entries.map Prod.fst).Nodup)
    {op : Op} {pattern : String} (hmem : (op, pattern) ∈ entries) :
    ∃ t, Template.parse pattern = .ok t ∧
      r'.get? (.op op) = some ⟨t, op.precedence, none⟩ := by
  induction entries generalizing r with
  | nil => cases hmem
  | cons e entries ih =>
      obtain ⟨middle, hfirst, hrest⟩ := registerOps_cons h
      rw [List.map_cons, List.nodup_cons] at hnodup
      rcases List.mem_cons.mp hmem with rfl | hmem
      · obtain ⟨t, hparse, rfl⟩ := exists_of_registerWith hfirst
        refine ⟨t, hparse, ?_⟩
        have hfree : Operator.op op ∉ entries.map fun e ↦ Operator.op e.1 := by
          intro hin
          obtain ⟨e, he, heq⟩ := List.mem_map.mp hin
          cases heq
          exact hnodup.1 (List.mem_map.mpr ⟨e, he, rfl⟩)
        rw [get?_of_registerOps hrest hfree]
        exact get?_insert_self r _ _
      · exact ih hrest hnodup.2 hmem

theorem map_fst_likePatterns (escape : Char) :
    (likePatterns escape).map Prod.fst = likeOps.map Prod.fst := by
  simp [likePatterns]

end Registry

/-! ## Settings -/

/-- How a setting registers an operator: the pattern, its precedence and the arity of a custom
operator. -/
def Setting.registers? (operator : Operator) : Setting → Option (String × Int × Option Arity)
  | .template o pattern => if operator = o then some (pattern, o.precedence, none) else none
  | .templateAt precedence o pattern =>
      if operator = o then some (pattern, precedence, none) else none
  | .custom name arity pattern precedence =>
      if operator = .custom name then some (pattern, precedence, some arity) else none
  | .escape c =>
      ((Registry.likePatterns c).find? fun e ↦ decide (operator = .op e.1)).map fun e ↦
        (e.2, e.1.precedence, none)
  | _ => none

def Setting.placeholders? : Setting → Option PlaceholderStyle
  | .placeholders style => some style
  | _ => none

def Setting.isQuote : Setting → Bool
  | .quote _ => true
  | _ => false

def Setting.isWrapping : Setting → Bool
  | .wrapElements _ => true
  | _ => false

namespace Dialect

theorem exists_of_withRegistry {d d' : Dialect} {registry : Except Error Registry}
    (h : d.withRegistry registry = .ok d') :
    ∃ r, registry = .ok r ∧ d' = { d with registry := r } := by
  cases registry with
  | error e => cases h
  | ok r => exact ⟨r, rfl, (Except.ok.inj h).symm⟩

theorem get?_of_set {d d' : Dialect} {setting : Setting} (h : d.set setting = .ok d')
    {operator : Operator} (hfree : setting.registers? operator = none) :
    d'.registry.get? operator = d.registry.get? operator := by
  cases setting with
  | template o pattern =>
      obtain ⟨r, hr, rfl⟩ := exists_of_withRegistry h
      exact Registry.get?_of_registerWith hr (by simpa [Setting.registers?] using hfree)
  | templateAt precedence o pattern =>
      obtain ⟨r, hr, rfl⟩ := exists_of_withRegistry h
      exact Registry.get?_of_registerWith hr (by simpa [Setting.registers?] using hfree)
  | custom name arity pattern precedence =>
      obtain ⟨r, hr, rfl⟩ := exists_of_withRegistry h
      exact Registry.get?_of_registerCustom hr (by simpa [Setting.registers?] using hfree)
  | escape c =>
      obtain ⟨r, hr, rfl⟩ := exists_of_withRegistry h
      refine Registry.get?_of_registerOps hr ?_
      intro hin
      obtain ⟨e, he, rfl⟩ := List.mem_map.mp hin
      have hnone := List.find?_eq_none.mp (Option.map_eq_none_iff.mp hfree) e he
      simp at hnone
  | layer name =>
      cases h
      exact Registry.get?_layer ..
  | pagination forms =>
      obtain ⟨parsed, _, h⟩ := exists_of_bind h
      rw [← Except.ok.inj h]
  | _ => cases h; rfl

/-- The look-up that a registration of an operator leads to. -/
def Registered (d : Dialect) (operator : Operator) (r : String × Int × Option Arity) : Prop :=
  ∃ t, Template.parse r.1 = .ok t ∧ d.registry.get? operator = some ⟨t, r.2.1, r.2.2⟩

theorem registered_of_registerWith {d : Dialect} {r r' : Registry} {operator : Operator}
    {pattern : String} {precedence : Int}
    (h : r.registerWith operator pattern precedence = .ok r') :
    Registered { d with registry := r' } operator (pattern, precedence, none) := by
  obtain ⟨t, hparse, rfl⟩ := Registry.exists_of_registerWith h
  exact ⟨t, hparse, Registry.get?_insert_self r _ _⟩

theorem registered_of_set {d d' : Dialect} {setting : Setting} (h : d.set setting = .ok d')
    {operator : Operator} {r : String × Int × Option Arity}
    (hregisters : setting.registers? operator = some r) : Registered d' operator r := by
  cases setting with
  | template o pattern =>
      obtain ⟨registry, hr, rfl⟩ := exists_of_withRegistry h
      simp only [Setting.registers?, Option.ite_none_right_eq_some, Option.some.injEq]
        at hregisters
      obtain ⟨rfl, rfl⟩ := hregisters
      exact registered_of_registerWith hr
  | templateAt precedence o pattern =>
      obtain ⟨registry, hr, rfl⟩ := exists_of_withRegistry h
      simp only [Setting.registers?, Option.ite_none_right_eq_some, Option.some.injEq]
        at hregisters
      obtain ⟨rfl, rfl⟩ := hregisters
      exact registered_of_registerWith hr
  | custom name arity pattern precedence =>
      obtain ⟨registry, hr, rfl⟩ := exists_of_withRegistry h
      simp only [Setting.registers?, Option.ite_none_right_eq_some, Option.some.injEq]
        at hregisters
      obtain ⟨rfl, rfl⟩ := hregisters
      obtain ⟨t, hread, rfl⟩ := Registry.exists_of_registerCustom hr
      exact ⟨t, hread, Registry.get?_insert_self _ _ _⟩
  | escape c =>
      obtain ⟨registry, hr, rfl⟩ := exists_of_withRegistry h
      obtain ⟨e, hfind, rfl⟩ := Option.map_eq_some_iff.mp hregisters
      have hop : operator = .op e.1 := by simpa using List.find?_some hfind
      subst hop
      have hnodup : ((Registry.likePatterns c).map Prod.fst).Nodup := by
        rw [Registry.map_fst_likePatterns]
        decide
      exact Registry.get?_of_mem_registerOps hr hnodup (List.mem_of_find?_eq_some hfind)
  | _ => cases hregisters

/-- How the last setting that registers an operator does it. -/
def lastRegistered? (operator : Operator) (settings : List Setting) :
    Option (String × Int × Option Arity) :=
  settings.reverse.findSome? (Setting.registers? operator)

/-- A dialect looks an operator up as the last setting registered it, and as it did before when none
did. -/
theorem registered_of_foldlM_set {settings : List Setting} {d d' : Dialect}
    (h : settings.foldlM set d = .ok d') (operator : Operator) :
    (∀ r, lastRegistered? operator settings = some r → Registered d' operator r) ∧
      (lastRegistered? operator settings = none →
        d'.registry.get? operator = d.registry.get? operator) := by
  induction settings using List.reverseRecOn generalizing d' with
  | nil => cases h; simp [lastRegistered?]
  | append_singleton settings setting ih =>
      rw [List.foldlM_append] at h
      obtain ⟨middle, hbefore, hlast⟩ := exists_of_bind h
      simp only [List.foldlM_cons, List.foldlM_nil, bind_pure] at hlast
      have hcons : lastRegistered? operator (settings ++ [setting]) =
          (setting.registers? operator).or (lastRegistered? operator settings) := by
        cases hs : setting.registers? operator <;> simp [lastRegistered?, hs]
      rw [hcons]
      cases hs : setting.registers? operator with
      | some r =>
          refine ⟨?_, by simp⟩
          rintro r' hr'
          obtain rfl : r = r' := by simpa using hr'
          exact registered_of_set hlast hs
      | none =>
          have hkeep := get?_of_set hlast hs
          obtain ⟨hsome, hnone⟩ := ih hbefore
          refine ⟨fun r hr ↦ ?_, fun hr ↦ hkeep.trans (hnone (by simpa using hr))⟩
          obtain ⟨t, hparse, hget⟩ := hsome r (by simpa using hr)
          exact ⟨t, hparse, hkeep.trans hget⟩

/-- What every setting of a list leaves alone is left alone by all of them. -/
theorem foldlM_set_eq {α : Type} (f : Dialect → α) (settings : List Setting)
    (hset : ∀ setting ∈ settings, ∀ d d', set d setting = .ok d' → f d' = f d)
    {d d' : Dialect} (h : settings.foldlM set d = .ok d') : f d' = f d :=
  foldlM_induction (P := fun e ↦ f e = f d)
    (fun setting hsetting d₁ d₂ hkept hd₂ ↦ (hset setting hsetting d₁ d₂ hd₂).trans hkept) rfl h

theorem family_of_set {d d' : Dialect} {setting : Setting} (h : d.set setting = .ok d') :
    d'.family = d.family := by
  cases setting with
  | template | templateAt | custom | escape =>
      obtain ⟨r, _, rfl⟩ := exists_of_withRegistry h
      rfl
  | pagination forms =>
      obtain ⟨parsed, _, h⟩ := exists_of_bind h
      rw [← Except.ok.inj h]
  | _ => cases h; rfl

/-- The style of placeholders behind settings. -/
def lastPlaceholders (style : PlaceholderStyle) (settings : List Setting) : PlaceholderStyle :=
  settings.foldl (fun style setting ↦ setting.placeholders?.getD style) style

theorem placeholders_of_set {d d' : Dialect} {setting : Setting} (h : d.set setting = .ok d') :
    d'.placeholders = setting.placeholders?.getD d.placeholders := by
  cases setting with
  | template | templateAt | custom | escape =>
      obtain ⟨r, _, rfl⟩ := exists_of_withRegistry h
      rfl
  | pagination forms =>
      obtain ⟨parsed, _, h⟩ := exists_of_bind h
      rw [← Except.ok.inj h]
      rfl
  | _ => cases h; rfl

theorem placeholders_of_foldlM_set {settings : List Setting} {d d' : Dialect}
    (h : settings.foldlM set d = .ok d') :
    d'.placeholders = lastPlaceholders d.placeholders settings := by
  induction settings generalizing d with
  | nil => cases h; rfl
  | cons setting settings ih =>
      rw [List.foldlM_cons] at h
      obtain ⟨middle, hfirst, hrest⟩ := exists_of_bind h
      rw [ih hrest, placeholders_of_set hfirst]
      rfl

theorem quote_of_set {d d' : Dialect} {setting : Setting} (h : d.set setting = .ok d')
    (hfree : setting.isQuote = false) : d'.quote = d.quote := by
  cases setting with
  | template | templateAt | custom | escape =>
      obtain ⟨r, _, rfl⟩ := exists_of_withRegistry h
      rfl
  | pagination forms =>
      obtain ⟨parsed, _, h⟩ := exists_of_bind h
      rw [← Except.ok.inj h]
  | quote c => cases hfree
  | _ => cases h; rfl

theorem wrapElements_of_set {d d' : Dialect} {setting : Setting} (h : d.set setting = .ok d')
    (hfree : setting.isWrapping = false) : d'.wrapElements = d.wrapElements := by
  cases setting with
  | template | templateAt | custom | escape =>
      obtain ⟨r, _, rfl⟩ := exists_of_withRegistry h
      rfl
  | pagination forms =>
      obtain ⟨parsed, _, h⟩ := exists_of_bind h
      rw [← Except.ok.inj h]
  | wrapElements ops => cases hfree
  | _ => cases h; rfl

theorem exists_of_build {name : String} {family : Family} {settings : List Setting}
    {d : Dialect} (h : build name family settings = .ok d) :
    ∃ start, Dialect.start name family = .ok start ∧ settings.foldlM set start = .ok d := by
  obtain ⟨start, hstart, h⟩ := exists_of_bind h
  obtain ⟨last, hsettings, h⟩ := exists_of_bind h
  obtain ⟨_, _, h⟩ := exists_of_bind h
  cases h
  exact ⟨start, hstart, hsettings⟩

end Dialect

end TypedQuery
