import TypedQuery.Rendering.Operand

/-!
# Properties that templates keep

Renderings are put together from texts and placeholders. A property of these that joined renderings
inherit holds of a template applied to arguments when it holds of the arguments, and of the failure
for a slot without an argument where a slot has none.
-/

namespace TypedQuery

namespace Rendering

/-- A property of texts and placeholders that joined renderings inherit. -/
structure IsClosed (P : Rendering → Prop) : Prop where
  empty : P empty
  text (t : String) : P (text t)
  placeholder (type : ValueType) (binding : Binding) : P (placeholder type binding)
  append {a b : Rendering} (ha : P a) (hb : P b) : P (a ++ b)

namespace IsClosed

variable {P : Rendering → Prop} {rs : List Rendering} {r : Rendering}

theorem concat (h : IsClosed P) (hrs : ∀ r ∈ rs, P r) : P (Rendering.concat rs) := by
  induction rs with
  | nil => exact h.empty
  | cons r rs ih =>
      exact h.append (hrs r List.mem_cons_self) (ih fun r hr ↦ hrs r (List.mem_cons_of_mem _ hr))

theorem separated (h : IsClosed P) (separator : String) (hrs : ∀ r ∈ rs, P r) :
    P (Rendering.separated separator rs) := by
  induction rs with
  | nil => exact h.empty
  | cons r rs ih =>
      have hfirst := hrs r List.mem_cons_self
      have hrest := ih fun r hr ↦ hrs r (List.mem_cons_of_mem _ hr)
      cases rs with
      | nil => exact hfirst
      | cons r' rs => exact h.append (h.append hfirst (h.text separator)) hrest

theorem between (h : IsClosed P) (before behind : String) (hr : P r) :
    P (r.between before behind) :=
  h.append (h.append (h.text before) hr) (h.text behind)

theorem bound (h : IsClosed P) (v : Value) : P (Rendering.bound v) := h.placeholder _ _

theorem constant (h : IsClosed P) (style : ListStyle) (c : Constant) :
    P (Rendering.constant style c) := by
  have hwhole := h.placeholder c.type (.value c.value)
  unfold Rendering.constant
  split
  · exact h.between "(" ")" hwhole
  · refine h.between "(" ")" (h.separated ", " fun r hr ↦ ?_)
    obtain ⟨v, _, rfl⟩ := List.mem_map.mp hr
    exact h.bound v
  · exact hwhole

end IsClosed

/-- A rendering that does not fail. -/
def Succeeds (r : Rendering) : Prop := ∀ scope, ∃ chunks, r scope = .ok chunks

theorem isClosed_succeeds : IsClosed Succeeds where
  empty _ := ⟨_, rfl⟩
  text _ _ := ⟨_, rfl⟩
  placeholder _ _ _ := ⟨_, rfl⟩
  append {a b} ha hb scope := by
    obtain ⟨before, hbefore⟩ := ha scope
    obtain ⟨behind, hbehind⟩ := hb scope
    exact ⟨before ++ behind, by rw [append_apply, hbefore, hbehind]; rfl⟩

end Rendering

open Rendering

namespace Element

/-- Whether a slot takes its argument as it is, so that no operation is made of it. -/
def isPlain : Element → Bool
  | text _ | arg _ | inlined _ | all => true
  | cased .. | like .. => false

/-- Whether the argument of a slot is among the first ones. -/
def isWithin (n : Nat) (element : Element) : Bool := element.index?.all (· < n)

end Element

namespace Setup

variable {s : Setup} {P : Rendering → Prop} {operation : Op → List Operand → Operand}
  {a : Operand} {args : List Operand}

/-- Whether the operations that slots make of their arguments have a property that these have. -/
structure Keeps (P : Rendering → Prop) (operation : Op → List Operand → Operand) : Prop where
  lower {a : Operand} (ha : P a.render) : P (operation .lower [a]).render
  upper {a : Operand} (ha : P a.render) : P (operation .upper [a]).render
  concat {a b : Operand} (ha : P a.render) (hb : P b.render) : P (operation .concat [a, b]).render

theorem keeps_of_forall
    (h : ∀ op args, (∀ a ∈ args, P a.render) → P (operation op args).render) :
    Keeps P operation where
  lower ha := h .lower _ (by simpa using ha)
  upper ha := h .upper _ (by simpa using ha)
  concat ha hb := h .concat _ (by simpa using ⟨ha, hb⟩)

theorem value_of_isClosed (h : IsClosed P) (v : Value) : P (s.value v).render :=
  h.constant s.profile.listStyle (.ofValue v)

theorem argument_of_isClosed (h : IsClosed P) (ha : P a.render) (precedence : Int) :
    P (s.argument precedence a) := by
  unfold argument
  split
  · exact h.between "(" ")" ha
  · exact ha

theorem likeOperand_of_isClosed (h : IsClosed P) (hop : Keeps P operation) (ha : P a.render)
    (leading trailing lower : Bool) :
    P (s.likeOperand operation a leading trailing lower).render := by
  have hpercent : P (s.string "%").render := value_of_isClosed h _
  have hlower : P (if lower then operation .lower [a] else a).render := by
    split
    · exact hop.lower ha
    · exact ha
  have hleading : ∀ {b : Operand}, P b.render →
      P (if leading then operation .concat [s.string "%", b] else b).render := by
    intro b hb
    split
    · exact hop.concat hpercent hb
    · exact hb
  unfold likeOperand
  dsimp only
  split
  · exact hop.concat (hleading hlower) hpercent
  · exact hleading hlower

theorem element_of_isClosed (h : IsClosed P) {slot : Element}
    (hop : slot.isPlain = true ∨ Keeps P operation) {pattern : String}
    (hwithin : slot.isWithin args.length = true ∨
      P (.fail (.invalidTemplate pattern .outOfRange)))
    (hargs : ∀ a ∈ args, P a.render) (precedence : Int) :
    P (s.element operation pattern precedence args slot) := by
  have hargument := fun a ha ↦ argument_of_isClosed (s := s) h (hargs a ha) precedence
  have hslot : ∀ {index : Nat} {f : Operand → Rendering}, slot.index? = some index →
      (∀ a ∈ args, P (f a)) → P (Setup.element.withArg pattern args index f) := by
    intro index f hindex hf
    unfold Setup.element.withArg
    split
    · rename_i a ha
      exact hf a (List.mem_of_getElem? ha)
    · rename_i hnone
      refine hwithin.resolve_left fun hlt ↦ ?_
      simp only [Element.isWithin, hindex, Option.all_some, decide_eq_true_eq] at hlt
      exact absurd hlt (Nat.not_lt.mpr (List.getElem?_eq_none_iff.mp hnone))
  cases slot with
  | text t => exact h.text t
  | arg index => exact hslot rfl hargument
  | inlined index =>
      refine hslot rfl fun a ha ↦ ?_
      split
      · exact h.text _
      · exact hargument a ha
  | cased index letterCase =>
      have hkeeps : Keeps P operation := hop.resolve_left (by simp [Element.isPlain])
      refine hslot rfl fun a ha ↦ ?_
      split
      · exact h.bound _
      · exact h.bound _
      · exact argument_of_isClosed h (hkeeps.lower (hargs a ha)) precedence
      · exact argument_of_isClosed h (hkeeps.upper (hargs a ha)) precedence
  | like index leading trailing lower =>
      have hkeeps : Keeps P operation := hop.resolve_left (by simp [Element.isPlain])
      refine hslot rfl fun a ha ↦ ?_
      split
      · exact h.bound _
      · have hlike := likeOperand_of_isClosed (s := s) h hkeeps (hargs a ha) leading trailing lower
        exact argument_of_isClosed h hlike precedence
  | all =>
      refine h.separated ", " fun r hr ↦ ?_
      obtain ⟨a, ha, rfl⟩ := List.mem_map.mp hr
      exact hargument a ha

end Setup

end TypedQuery
