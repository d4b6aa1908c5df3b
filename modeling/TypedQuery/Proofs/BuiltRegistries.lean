import TypedQuery.Proofs.KnownDialects
import TypedQuery.Proofs.LookUps

/-!
# Registries that calls build

Calls that start from nothing build the registry of every dialect. What such a registry has for an
operator, one of the calls has registered.
-/

namespace TypedQuery

namespace Registry

/-- A registry that calls have built from nothing. -/
def IsBuilt (r : Registry) : Prop := ∃ calls, r = empty.afterAll calls

variable {r r' : Registry}

theorem isBuilt_empty : empty.IsBuilt := ⟨[], rfl⟩

theorem IsBuilt.apply (h : r.IsBuilt) (call : RegistryCall) (hcall : call.apply r = .ok r') :
    r'.IsBuilt := by
  obtain ⟨calls, rfl⟩ := h
  refine ⟨calls ++ [call], ?_⟩
  rw [afterAll_snoc, after, outcome_eq, hcall]

theorem IsBuilt.layer (h : r.IsBuilt) (name : String) : (r.layer name).IsBuilt :=
  h.apply (.layer name) rfl

theorem IsBuilt.register (h : r.IsBuilt) {operator : Operator} {pattern : String}
    (hr : r.register operator pattern = .ok r') : r'.IsBuilt :=
  h.apply (.register operator pattern) hr

theorem IsBuilt.registerWith (h : r.IsBuilt) {operator : Operator} {pattern : String}
    {precedence : Int} (hr : r.registerWith operator pattern precedence = .ok r') : r'.IsBuilt :=
  h.apply (.registerWith operator pattern precedence) hr

theorem IsBuilt.registerOps (h : r.IsBuilt) {entries : List (Op × String)}
    (hr : r.registerOps entries = .ok r') : r'.IsBuilt :=
  foldlM_induction (fun _ _ _ _ hs ↦ hs.register) h hr

theorem IsBuilt.registerBase (h : r.IsBuilt) (hr : r.registerBase = .ok r') : r'.IsBuilt := by
  obtain ⟨ops, root, hops, hroot, hproperty⟩ := exists_of_registerBase hr
  exact ((h.registerOps hops).registerWith hroot).registerWith hproperty

theorem IsBuilt.registerFamily (h : r.IsBuilt) {family : Family}
    (hr : r.registerFamily family = .ok r') : r'.IsBuilt := by
  cases family with
  | jpql =>
      obtain ⟨ops, hops, hconcat⟩ := exists_of_bind hr
      exact ((h.layer "jpql").registerOps hops).registerWith hconcat
  | sql => exact (h.layer "sql").registerOps hr

theorem exists_of_mem_made {calls : List RegistryCall} {g : Registration}
    (h : g ∈ r.made calls) : ∃ call ∈ calls, call.registration? = some g := by
  induction calls generalizing r with
  | nil => cases h
  | cons call calls ih =>
      obtain hfirst | hlater := List.mem_append.mp h
      · have hmade : r.made? call = some g := by simpa using hfirst
        unfold made? at hmade
        split at hmade
        · exact ⟨call, List.mem_cons_self, hmade⟩
        · cases hmade
      · obtain ⟨call', hcall', hasks⟩ := ih hlater
        exact ⟨call', List.mem_cons_of_mem _ hcall', hasks⟩

/-- Only custom operators are registered with an arity of their own. -/
theorem IsBuilt.arity_eq_none (h : r.IsBuilt) {operator : Operator} {e : TemplateEntry}
    (hget : r.get? operator = some e) : operator.arity = none ∨ e.arity = none := by
  obtain ⟨calls, rfl⟩ := h
  obtain ⟨g, hg, rfl, hentry⟩ := (recalls_afterAll calls).exists_of_get? hget
  obtain ⟨t, _, rfl⟩ := exists_of_map hentry
  obtain ⟨call, _, hasks⟩ := exists_of_mem_made hg
  cases call with
  | layer => cases hasks
  | register | registerWith =>
      obtain rfl := Option.some.inj hasks
      exact .inr rfl
  | registerCustom =>
      obtain rfl := Option.some.inj hasks
      exact .inl rfl

end Registry

/-! ## Dialects -/

namespace Dialect

theorem isBuilt_set {d d' : Dialect} {setting : Setting} (hd : d.registry.IsBuilt)
    (h : d.set setting = .ok d') : d'.registry.IsBuilt := by
  cases setting with
  | template operator pattern =>
      obtain ⟨r, hr, rfl⟩ := exists_of_withRegistry h
      exact hd.register hr
  | templateAt precedence operator pattern =>
      obtain ⟨r, hr, rfl⟩ := exists_of_withRegistry h
      exact hd.registerWith hr
  | custom name arity pattern precedence =>
      obtain ⟨r, hr, rfl⟩ := exists_of_withRegistry h
      exact hd.apply (.registerCustom name arity pattern precedence) hr
  | escape c =>
      obtain ⟨r, hr, rfl⟩ := exists_of_withRegistry h
      exact hd.registerOps hr
  | layer name =>
      cases h
      exact hd.layer name
  | pagination forms =>
      obtain ⟨parsed, _, h⟩ := exists_of_bind h
      rwa [← Except.ok.inj h]
  | _ =>
      cases h
      exact hd

/-- The registry of every dialect is built by calls. -/
theorem isBuilt_of_build {name : String} {family : Family} {settings : List Setting} {d : Dialect}
    (h : build name family settings = .ok d) : d.registry.IsBuilt := by
  obtain ⟨first, hstart, hfold⟩ := exists_of_build h
  obtain ⟨base, like, last, hbase, hlike, hlast, hregistry, _⟩ := exists_of_start hstart
  refine foldlM_induction (P := (·.registry.IsBuilt)) (fun _ _ _ _ hd ↦ isBuilt_set hd) ?_ hfold
  have hlikes := ((Registry.isBuilt_empty.layer "base").registerBase hbase).layer "like"
  rw [hregistry]
  exact ((hlikes.registerOps hlike).registerFamily hlast).layer name

end Dialect

end TypedQuery
