import Mathlib.Data.List.Forall2
import TypedQuery.Statement

/-!
# Numbered and anonymous placeholders

Two dialects that differ only in their placeholders write the same literal text around them. The
labels of the numbered ones count up in the order of their first use, and each stands for a binding
equal to the one that the anonymous placeholder at the same place stands for.
-/

namespace TypedQuery

namespace Layout

/-- The literal text in front of the first placeholder and behind each one. -/
def literals : List Chunk → String × List String
  | [] => ("", [])
  | .text s :: chunks => (s ++ (literals chunks).1, (literals chunks).2)
  | .placeholder _ _ :: chunks => ("", (literals chunks).1 :: (literals chunks).2)

/-- A text in which every mark stands in front of its own literal text. -/
def interleave (first : String) (marks behind : List String) : String :=
  first ++ String.join (List.zipWith (· ++ ·) marks behind)

/-- The labels of the placeholders in a text, behind chunks whose keys are given. -/
def labels (keys : List Labelled) : List Chunk → List Nat
  | [] => []
  | .text _ :: chunks => labels keys chunks
  | .placeholder type binding :: chunks =>
      let allotted := Labelled.allot keys (type, binding)
      (allotted.1 + 1) :: labels allotted.2 chunks

theorem interleave_append (s first : String) (marks behind : List String) :
    interleave (s ++ first) marks behind = s ++ interleave first marks behind :=
  String.append_assoc

theorem interleave_cons (mark first : String) (marks behind : List String) :
    interleave "" (mark :: marks) (first :: behind) = mark ++ interleave first marks behind := by
  simp [interleave, String.join_cons, String.append_assoc]

/-! ## The text -/

@[simp] theorem length_literals (chunks : List Chunk) :
    (literals chunks).2.length = (anonymous chunks).2.length := by
  induction chunks with
  | nil => rfl
  | cons c chunks ih => cases c <;> simp [literals, anonymous, ih]

theorem join_anonymous (chunks : List Chunk) :
    String.join (anonymous chunks).1 =
      interleave (literals chunks).1 ((anonymous chunks).2.map fun _ ↦ "?")
        (literals chunks).2 := by
  induction chunks with
  | nil => rfl
  | cons c chunks ih =>
      cases c with
      | text s => simp only [anonymous, literals, String.join_cons, ih, interleave_append]
      | placeholder type binding =>
          simp only [anonymous, literals, String.join_cons, ih, List.map_cons, interleave_cons]

theorem join_numbered (mark : Char) (keys : List Labelled) (chunks : List Chunk) :
    String.join (numbered mark keys chunks).1 =
      interleave (literals chunks).1
        ((labels keys chunks).map fun label ↦ mark.toString ++ toString label)
        (literals chunks).2 := by
  induction chunks generalizing keys with
  | nil => rfl
  | cons c chunks ih =>
      cases c with
      | text s => simp only [numbered, labels, literals, String.join_cons, ih, interleave_append]
      | placeholder type binding =>
          simp only [numbered, labels, literals, String.join_cons, ih, List.map_cons,
            interleave_cons]

/-! ## The labels -/

theorem prefix_numbered (mark : Char) (keys : List Labelled) (chunks : List Chunk) :
    keys <+: (numbered mark keys chunks).2 := by
  induction chunks generalizing keys with
  | nil => exact List.prefix_rfl
  | cons c chunks ih =>
      cases c with
      | text s => exact ih keys
      | placeholder type binding => exact (Labelled.prefix_allot keys _).trans (ih _)

/-- A label refers to a binding that equals a given one. -/
def Names (bindings : List Binding) (label : Nat) (b : Binding) : Prop :=
  1 ≤ label ∧ ∃ named, bindings[label - 1]? = some named ∧ b.eqv named = true

theorem Names.mono {before behind : List Binding} (h : before <+: behind) {label : Nat}
    {b : Binding} (hnames : Names before label b) : Names behind label b := by
  obtain ⟨hpos, named, hnamed, heqv⟩ := hnames
  obtain ⟨rest, rfl⟩ := h
  have hlt := (List.getElem?_eq_some_iff.mp hnamed).1
  exact ⟨hpos, named, by rw [List.getElem?_append_left hlt, hnamed], heqv⟩

theorem names_allot (keys : List Labelled) (type : ValueType) (b : Binding) :
    Names ((Labelled.allot keys (type, b)).2.map Prod.snd)
      ((Labelled.allot keys (type, b)).1 + 1) b := by
  obtain ⟨k, hk, heqv⟩ := Labelled.eqv_allot keys (type, b)
  simp only [Labelled.eqv, Bool.and_eq_true] at heqv
  exact ⟨Nat.le_add_left 1 _, k.2, by simp [hk], heqv.2⟩

theorem forall₂_names (mark : Char) (keys : List Labelled) (chunks : List Chunk) :
    List.Forall₂ (Names ((numbered mark keys chunks).2.map Prod.snd))
      (labels keys chunks) (anonymous chunks).2 := by
  induction chunks generalizing keys with
  | nil => exact .nil
  | cons c chunks ih =>
      cases c with
      | text s => exact ih keys
      | placeholder type binding =>
          have hkept : (Labelled.allot keys (type, binding)).2 <+:
              (numbered mark keys (.placeholder type binding :: chunks)).2 :=
            prefix_numbered mark _ chunks
          exact .cons ((names_allot keys type binding).mono (hkept.map Prod.snd)) (ih _)

/-- Labels that leave no number out: each is at most one more than the largest before it, where
`used` is the largest label that was given before. The largest of all is `total`. -/
def CountUp (used : Nat) (ls : List Nat) (total : Nat) : Prop :=
  (∀ i (h : i < ls.length), 1 ≤ ls[i] ∧ ls[i] ≤ (ls.take i).foldl max used + 1) ∧
    ls.foldl max used = total

theorem CountUp.cons {used label total : Nat} {ls : List Nat} (hpos : 1 ≤ label)
    (hle : label ≤ used + 1) (h : CountUp (max used label) ls total) :
    CountUp used (label :: ls) total := by
  refine ⟨?_, h.2⟩
  rintro (_ | i) hi
  · exact ⟨hpos, hle⟩
  · exact h.1 i (Nat.lt_of_succ_lt_succ hi)

theorem countUp_labels (mark : Char) (keys : List Labelled) (chunks : List Chunk) :
    CountUp keys.length (labels keys chunks) (numbered mark keys chunks).2.length := by
  induction chunks generalizing keys with
  | nil => exact ⟨by simp [labels], rfl⟩
  | cons c chunks ih =>
      cases c with
      | text s => exact ih keys
      | placeholder type binding =>
          have hrest := ih (Labelled.allot keys (type, binding)).2
          rw [Labelled.length_allot] at hrest
          have hle := Labelled.allot_le keys (type, binding)
          exact .cons (Nat.le_add_left 1 _) (by omega) hrest

end Layout

/-- Two statements with the same literal text. Every anonymous placeholder of the first stands
where the second has a numbered one for an equal binding, and the numbers count up from one. -/
def Statement.SameUpToLabels (mark : Char) (a n : Statement) : Prop :=
  ∃ (first : String) (behind : List String) (labels : List Nat),
    behind.length = a.bindings.length ∧
    a.text = Layout.interleave first (a.bindings.map fun _ ↦ "?") behind ∧
    n.text = Layout.interleave first
      (labels.map fun label ↦ mark.toString ++ toString label) behind ∧
    List.Forall₂ (Layout.Names n.bindings) labels a.bindings ∧
    Layout.CountUp 0 labels n.bindings.length ∧
    n.modifiers = a.modifiers

namespace Serializer

/-- The same serializer with another style of placeholders. -/
def withPlaceholders (s : Serializer) (style : PlaceholderStyle) : Serializer :=
  { s with dialect := { s.dialect with placeholders := style } }

/-- Outcomes that are the same error or statements of the same literal text. -/
def SameOutcome (mark : Char) (a n : Except Error Statement) : Prop :=
  (∃ e, a = .error e ∧ n = .error e) ∨
    ∃ anonymous numbered, a = .ok anonymous ∧ n = .ok numbered ∧
      anonymous.SameUpToLabels mark numbered

theorem sameUpToLabels_layout (mark : Char) (chunks : List Chunk) (m : Modifiers) :
    Statement.SameUpToLabels mark
      ⟨(layout .anonymous chunks).1, (layout .anonymous chunks).2, m⟩
      ⟨(layout (.numbered mark) chunks).1, (layout (.numbered mark) chunks).2, m⟩ := by
  refine ⟨(Layout.literals chunks).1, (Layout.literals chunks).2, Layout.labels [] chunks,
    Layout.length_literals chunks, Layout.join_anonymous chunks,
    Layout.join_numbered mark [] chunks, Layout.forall₂_names mark [] chunks, ?_, rfl⟩
  simpa [layout] using Layout.countUp_labels mark [] chunks

/-- Every request gets the same outcome with numbered placeholders as with anonymous ones. -/
theorem serialize_withPlaceholders (s : Serializer) (mark : Char) (r : Request) :
    SameOutcome mark ((s.withPlaceholders .anonymous).serialize r)
      ((s.withPlaceholders (.numbered mark)).serialize r) := by
  rw [serialize_eq, serialize_eq]
  have hsetup : (s.withPlaceholders (.numbered mark)).setup =
      (s.withPlaceholders .anonymous).setup := rfl
  rw [hsetup]
  unfold statement
  cases (r.rendering (s.withPlaceholders .anonymous).setup) {} with
  | error e => exact .inl ⟨e, rfl, rfl⟩
  | ok chunks => exact .inr ⟨_, _, rfl, rfl, sameUpToLabels_layout mark chunks r.modifiers⟩

end Serializer

end TypedQuery
