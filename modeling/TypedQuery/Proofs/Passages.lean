import TypedQuery.Proofs.Isolation
import TypedQuery.Proofs.Nesting.Selects
import TypedQuery.Proofs.Reading.Rendered

/-!
# Passages

With anonymous placeholders, what a rendering writes is a text together with the bindings that its
placeholders stand for. Passages are joined as the renderings are that write them.
-/

namespace TypedQuery

/-- A piece of a statement: its text and what its placeholders stand for. -/
structure Passage where
  text : String
  bindings : List Binding

namespace Passage

/-- A text without placeholders. -/
def ofText (text : String) : Passage := ⟨text, []⟩

instance : Coe String Passage := ⟨ofText⟩

instance : Append Passage := ⟨fun p q ↦ ⟨p.text ++ q.text, p.bindings ++ q.bindings⟩⟩

@[simp] theorem append_def (p q : Passage) :
    p ++ q = ⟨p.text ++ q.text, p.bindings ++ q.bindings⟩ := rfl

theorem append_assoc (p q r : Passage) : p ++ q ++ r = p ++ (q ++ r) := by
  simp [String.append_assoc]

end Passage

namespace Rendering

variable {a a' b b' : Rendering}

/-- What a rendering writes in a scope, with anonymous placeholders. -/
def passage (r : Rendering) (scope : Scope) : Except Error Passage :=
  (r scope).map fun chunks ↦
    let (text, bindings) := layout .anonymous chunks
    ⟨text, bindings⟩

theorem passage_text (t : String) (scope : Scope) : (text t).passage scope = .ok (.ofText t) := by
  show Except.ok (Passage.mk (layout .anonymous [.text t]).1 (layout .anonymous [.text t]).2) = _
  rw [Layout.anonymous_layout_text]
  rfl

theorem passage_append (a b : Rendering) (scope : Scope) :
    (a ++ b).passage scope =
      (a.passage scope).bind fun p ↦ (b.passage scope).map (p ++ ·) := by
  unfold passage
  rw [append_apply]
  cases a scope with
  | error e => rfl
  | ok before =>
      cases b scope with
      | error e => rfl
      | ok behind =>
          have happend := Layout.anonymous_layout_append before behind
          simp [Except.bind, Except.map, happend]

theorem passage_within (r : Rendering) (change : Scope → Scope) (scope : Scope) :
    (r.within change).passage scope = r.passage (change scope) := rfl

theorem passage_text_append (t u : String) :
    (text (t ++ u)).passage = (text t ++ text u).passage := by
  funext scope
  rw [passage_append, passage_text, passage_text, passage_text]
  rfl

theorem passage_append_congr (ha : a.passage = a'.passage) (hb : b.passage = b'.passage) :
    (a ++ b).passage = (a' ++ b').passage := by
  funext scope
  rw [passage_append, passage_append, ha, hb]

theorem Writes.succeeds {r : Rendering} {t : String} (h : Writes r t) : r.Succeeds := by
  intro scope
  obtain ⟨texts, hr, _⟩ := h scope
  exact ⟨_, hr⟩

/-- A rendering of plain text writes it as a passage. -/
theorem Writes.passage {r : Rendering} {t : String} (h : Writes r t) (scope : Scope) :
    r.passage scope = .ok (.ofText t) := by
  obtain ⟨texts, hr, rfl⟩ := h scope
  rw [Rendering.passage, hr]
  simp only [Except.map, layout_texts]
  rfl

end Rendering

/-! ## Texts of flags -/

/-- The text of a flag that is one. -/
def Flag.text {ε : Type} (flag : Flag ε) : String :=
  match flag.content with
  | .text t => t
  | .expr _ => ""

namespace Query

variable {ε δ : Type}

/-- The texts among the flags of a place, one behind the other. -/
def textAt (q : Query ε) (position : Position) : String :=
  String.join ((q.flagsAt position).map Flag.text)

theorem textAt_map (f : ε → δ) (q : Query ε) (position : Position) :
    (q.map f).textAt position = q.textAt position := by
  have htext : Flag.text ∘ Flag.map f = Flag.text := by
    funext flag
    obtain ⟨position, content⟩ := flag
    cases content <;> rfl
  rw [textAt, flagsAt_map, List.map_map, htext, textAt]

theorem writes_flagText {q : Query Operand} (h : q.flags.all Flag.isText = true)
    (position : Position) : (q.flagText position).Writes (q.textAt position) := by
  have hflags : ∀ flags : List (Flag Operand), flags.all Flag.isText = true →
      (Rendering.concat (flags.map Flag.render)).Writes (String.join (flags.map Flag.text)) := by
    intro flags hall
    induction flags with
    | nil => exact .empty
    | cons flag flags ih =>
        rw [List.all_cons, Bool.and_eq_true] at hall
        obtain ⟨place, content⟩ := flag
        rw [List.map_cons, List.map_cons, String.join_cons]
        cases content with
        | text t => exact (Rendering.Writes.text t).append (ih hall.2)
        | expr e => cases hall.1
  refine hflags _ ?_
  rw [List.all_eq_true] at h ⊢
  exact fun flag hflag ↦ h flag (List.mem_of_mem_filter hflag)

end Query

namespace Serializer

/-- The text and the bindings of the statement of a query. -/
def passage (s : Serializer) (q : Query Expr) (projection : Option String) :
    Except Error Passage :=
  (s.query q false projection).map fun t ↦ ⟨t.text, t.bindings⟩

theorem passage_eq (s : Serializer) (hs : s.dialect.placeholders = .anonymous) (q : Query Expr)
    (projection : Option String) :
    s.passage q projection =
      (s.setup.query (s.setup.queryOperands q) false projection).passage {} := by
  rw [passage, query, statement, Rendering.passage, hs]
  cases s.setup.query (s.setup.queryOperands q) false projection {} <;> rfl

end Serializer

end TypedQuery
