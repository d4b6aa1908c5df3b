import TypedQuery.Proofs.Labels.Sharing

/-!
# Contexts

A statement can be written in one pass. What is handed on then is a context: the text so far, its
bindings with the labels that they have got, and two flags for where the next piece stands. Chunks
only extend a context, and all chunks of a statement give it the text and the bindings of their
layout.
-/

namespace TypedQuery

/-! ## Bindings -/

/-- The bindings of a text so far, and the labels that are found again under their keys. A label
counts the bindings up to its own. -/
structure Bindings where
  ordered : List Binding
  labels : List (Labelled × Nat)
  holds : ∀ e ∈ labels, 1 ≤ e.2 ∧ ordered[e.2 - 1]? = some e.1.2

namespace Bindings

def empty : Bindings := ⟨[], [], List.forall_mem_nil _⟩

/-- Whether a label stands for a binding. -/
def Denotes (bs : Bindings) (label : Nat) (b : Binding) : Prop :=
  1 ≤ label ∧ bs.ordered[label - 1]? = some b

def find? (bs : Bindings) (key : Labelled) : Option Nat :=
  (Labelled.find? (bs.labels.map Prod.fst) key).bind fun place ↦ bs.labels[place]?.map Prod.snd

/-- One more binding. Its key gets a label unless it has one already. -/
def add (bs : Bindings) (key : Labelled) : Bindings where
  ordered := bs.ordered ++ [key.2]
  labels :=
    if bs.labels.any (key.identical ·.1) then bs.labels
    else bs.labels ++ [(key, bs.ordered.length + 1)]
  holds := by
    have hold : ∀ e ∈ bs.labels, 1 ≤ e.2 ∧ (bs.ordered ++ [key.2])[e.2 - 1]? = some e.1.2 := by
      intro e he
      obtain ⟨hpos, hat⟩ := bs.holds e he
      exact ⟨hpos, by rw [List.getElem?_append_left (List.getElem?_eq_some_iff.mp hat).1, hat]⟩
    split
    · exact hold
    · intro e he
      rcases List.mem_append.mp he with he | he
      · exact hold e he
      · obtain rfl := List.mem_singleton.mp he
        simp

/-- The label for a key, a label that is found under it if those are to be shared. -/
def label (bs : Bindings) (key : Labelled) (shared : Bool) : Nat × Bindings :=
  match if shared then bs.find? key else none with
  | some label => (label, bs)
  | none => (bs.ordered.length + 1, bs.add key)

/-- Bindings behind others: none is replaced, and no key loses its label. -/
structure Extends (bs later : Bindings) : Prop where
  ordered : bs.ordered <+: later.ordered
  labels : bs.labels <+: later.labels

variable {bs later : Bindings}

theorem Extends.refl (bs : Bindings) : Extends bs bs := ⟨List.prefix_rfl, List.prefix_rfl⟩

theorem Extends.trans {last : Bindings} (h : bs.Extends later) (h' : later.Extends last) :
    bs.Extends last :=
  ⟨h.ordered.trans h'.ordered, h.labels.trans h'.labels⟩

theorem extends_add (bs : Bindings) (key : Labelled) : bs.Extends (bs.add key) where
  ordered := List.prefix_append _ _
  labels := by
    unfold add
    dsimp only
    split
    · exact List.prefix_rfl
    · exact List.prefix_append _ _

theorem extends_label (bs : Bindings) (key : Labelled) (shared : Bool) :
    bs.Extends (bs.label key shared).2 := by
  unfold label
  split
  · exact Extends.refl bs
  · exact extends_add bs key

theorem Denotes.mono {label : Nat} {b : Binding} (h : bs.Denotes label b)
    (hextends : bs.Extends later) : later.Denotes label b := by
  obtain ⟨hpos, hat⟩ := h
  obtain ⟨rest, hrest⟩ := hextends.ordered
  refine ⟨hpos, ?_⟩
  rw [← hrest, List.getElem?_append_left (List.getElem?_eq_some_iff.mp hat).1, hat]

end Bindings

/-! ## Contexts -/

/-- A text that is being written, with the flags for where its next piece stands. -/
structure Context extends Scope where
  text : String := ""
  bindings : Bindings := .empty

namespace Context

def write (c : Context) (text : String) : Context := { c with text := c.text ++ text }

/-- A placeholder. Only numbered ones share their labels. -/
def bind (style : PlaceholderStyle) (c : Context) (type : ValueType) (b : Binding) : Context :=
  match style with
  | .numbered mark =>
      let (label, bindings) := c.bindings.label (type, b) true
      { c with text := c.text ++ (mark.toString ++ toString label), bindings }
  | .anonymous =>
      { c with text := c.text ++ "?", bindings := (c.bindings.label (type, b) false).2 }

def put (style : PlaceholderStyle) (c : Context) : Chunk → Context
  | .text text => c.write text
  | .placeholder type b => c.bind style type b

def puts (style : PlaceholderStyle) (c : Context) (chunks : List Chunk) : Context :=
  chunks.foldl (put style) c

/-- A context with other flags. -/
def under (c : Context) (scope : Scope) : Context := { c with toScope := scope }

variable (style : PlaceholderStyle)

@[simp] theorem toScope_under (c : Context) (scope : Scope) : (c.under scope).toScope = scope := rfl

@[simp] theorem under_under (c : Context) (scope scope' : Scope) :
    (c.under scope).under scope' = c.under scope' := rfl

@[simp] theorem under_toScope (c : Context) : c.under c.toScope = c := rfl

theorem put_under (c : Context) (scope : Scope) (chunk : Chunk) :
    (c.under scope).put style chunk = (c.put style chunk).under scope := by
  cases chunk with
  | text text => rfl
  | placeholder type b => cases style <;> rfl

theorem puts_append (c : Context) (before behind : List Chunk) :
    c.puts style (before ++ behind) = (c.puts style before).puts style behind :=
  List.foldl_append

@[simp] theorem puts_under (c : Context) (scope : Scope) (chunks : List Chunk) :
    (c.under scope).puts style chunks = (c.puts style chunks).under scope := by
  induction chunks generalizing c with
  | nil => rfl
  | cons chunk chunks ih =>
      simp only [puts, List.foldl_cons, put_under] at ih ⊢
      exact ih _

/-- Chunks leave the flags alone. -/
@[simp] theorem toScope_puts (c : Context) (chunks : List Chunk) :
    (c.puts style chunks).toScope = c.toScope := by
  have hunder := puts_under style c c.toScope chunks
  rw [under_toScope] at hunder
  rw [hunder, toScope_under]

/-- Set back to what they were before some chunks, the flags are those behind the chunks. -/
theorem under_puts (c : Context) (chunks : List Chunk) :
    (c.puts style chunks).under c.toScope = c.puts style chunks := by
  rw [← toScope_puts style c chunks, under_toScope]

/-! ## Frames -/

/-- A context behind another: the flags are the same, and there is only more text with more
bindings. What was a label for a binding still is, and the labels that are found under keys are
labels for the bindings of these keys. -/
structure Frame (c later : Context) : Prop where
  inProjection : later.inProjection = c.inProjection
  wrapElements : later.wrapElements = c.wrapElements
  text : ∃ rest, later.text = c.text ++ rest
  ordered : c.bindings.ordered <+: later.bindings.ordered
  labels : c.bindings.labels <+: later.bindings.labels
  kept : ∀ label b, c.bindings.Denotes label b → later.bindings.Denotes label b
  found : ∀ e ∈ later.bindings.labels, later.bindings.Denotes e.2 e.1.2

theorem frame_of_extends {c later : Context} (hscope : later.toScope = c.toScope)
    (htext : ∃ rest, later.text = c.text ++ rest) (hbindings : c.bindings.Extends later.bindings) :
    Frame c later where
  inProjection := congrArg Scope.inProjection hscope
  wrapElements := congrArg Scope.wrapElements hscope
  text := htext
  ordered := hbindings.ordered
  labels := hbindings.labels
  kept _ _ h := h.mono hbindings
  found := later.bindings.holds

theorem exists_text_put (c : Context) (chunk : Chunk) :
    ∃ rest, (c.put style chunk).text = c.text ++ rest := by
  cases chunk with
  | text text => exact ⟨text, rfl⟩
  | placeholder type b => cases style <;> exact ⟨_, rfl⟩

theorem extends_put (c : Context) (chunk : Chunk) :
    c.bindings.Extends (c.put style chunk).bindings := by
  cases chunk with
  | text text => exact Bindings.Extends.refl c.bindings
  | placeholder type b => cases style <;> exact c.bindings.extends_label _ _

theorem frame_puts (c : Context) (chunks : List Chunk) : Frame c (c.puts style chunks) := by
  refine frame_of_extends (toScope_puts style c chunks) ?_ ?_
  · induction chunks generalizing c with
    | nil => exact ⟨"", (String.append_empty).symm⟩
    | cons chunk chunks ih =>
        obtain ⟨first, hfirst⟩ := exists_text_put style c chunk
        obtain ⟨rest, hrest⟩ := ih (c.put style chunk)
        exact ⟨first ++ rest, by rw [puts, List.foldl_cons, ← puts, hrest, hfirst,
          String.append_assoc]⟩
  · induction chunks generalizing c with
    | nil => exact Bindings.Extends.refl c.bindings
    | cons chunk chunks ih => exact (extends_put style c chunk).trans (ih (c.put style chunk))

end Context

/-! ## Layouts -/

namespace Bindings

/-- Bindings of numbered placeholders only: every key has its place as its label. -/
structure AreNumbered (bs : Bindings) (keys : List Labelled) : Prop where
  ordered : bs.ordered = keys.map Prod.snd
  labels : bs.labels = keys.zipIdx 1

variable {bs : Bindings} {keys : List Labelled}

theorem AreNumbered.find?_eq (h : bs.AreNumbered keys) (key : Labelled) :
    bs.find? key = (Labelled.find? keys key).map (· + 1) := by
  rw [find?, h.labels, List.zipIdx_map_fst]
  cases hplace : Labelled.find? keys key with
  | none => rfl
  | some place =>
      obtain ⟨k, hk, -⟩ := Labelled.eqv_of_find? hplace
      simp [List.getElem?_zipIdx, hk, Nat.add_comm]

/-- Labels are handed out as places of keys are allotted. -/
theorem AreNumbered.label (h : bs.AreNumbered keys) (key : Labelled) :
    (bs.label key true).1 = (Labelled.allot keys key).1 + 1 ∧
      (bs.label key true).2.AreNumbered (Labelled.allot keys key).2 := by
  unfold Bindings.label Labelled.allot
  rw [if_pos rfl, h.find?_eq]
  cases hplace : Labelled.find? keys key with
  | some place => exact ⟨rfl, h⟩
  | none =>
      have hlength : bs.ordered.length = keys.length := by rw [h.ordered, List.length_map]
      have hnew : bs.labels.any (key.identical ·.1) = false := by
        rw [List.any_eq_false, h.labels]
        intro e he
        have hmem : e.1 ∈ keys := by
          rw [← List.zipIdx_map_fst 1 keys]
          exact List.mem_map_of_mem he
        simp [Labelled.not_identical_of_find? hplace e.1 hmem]
      have hadd : (bs.add key).labels = bs.labels ++ [(key, bs.ordered.length + 1)] :=
        if_neg (by simp [hnew])
      refine ⟨by simp [hlength], by simp [add, h.ordered], ?_⟩
      simp [hadd, h.labels, hlength, List.zipIdx_append, Nat.add_comm]

end Bindings

namespace Context

theorem puts_anonymous (c : Context) (chunks : List Chunk) :
    (c.puts .anonymous chunks).text = c.text ++ String.join (Layout.anonymous chunks).1 ∧
      (c.puts .anonymous chunks).bindings.ordered =
        c.bindings.ordered ++ (Layout.anonymous chunks).2 := by
  induction chunks generalizing c with
  | nil => simp [puts, Layout.anonymous]
  | cons chunk chunks ih =>
      obtain ⟨htext, hordered⟩ := ih (c.put .anonymous chunk)
      rw [puts, List.foldl_cons, ← puts, htext, hordered]
      cases chunk <;>
        simp [put, write, bind, Layout.anonymous, Bindings.label, Bindings.add, String.append_assoc]

theorem puts_numbered (mark : Char) {c : Context} {keys : List Labelled}
    (h : c.bindings.AreNumbered keys) (chunks : List Chunk) :
    (c.puts (.numbered mark) chunks).text =
        c.text ++ String.join (Layout.numbered mark keys chunks).1 ∧
      (c.puts (.numbered mark) chunks).bindings.AreNumbered
        (Layout.numbered mark keys chunks).2 := by
  induction chunks generalizing c keys with
  | nil => exact ⟨by simp [puts, Layout.numbered], h⟩
  | cons chunk chunks ih =>
      rw [puts, List.foldl_cons, ← puts]
      cases chunk with
      | text text =>
          obtain ⟨htext, hnumbered⟩ := ih (c := c.put (.numbered mark) (.text text)) h
          refine ⟨?_, hnumbered⟩
          rw [htext]
          simp [put, write, Layout.numbered, String.append_assoc]
      | placeholder type b =>
          obtain ⟨hlabel, hbindings⟩ := h.label (type, b)
          obtain ⟨htext, hnumbered⟩ :=
            ih (c := c.put (.numbered mark) (.placeholder type b)) hbindings
          refine ⟨?_, hnumbered⟩
          rw [htext]
          simp [put, bind, Layout.numbered, hlabel, String.append_assoc]

/-- All chunks of a statement, put into the empty context, give it the text and the bindings of
their layout. -/
theorem puts_layout (style : PlaceholderStyle) (chunks : List Chunk) :
    ((({} : Context).puts style chunks).text, (({} : Context).puts style chunks).bindings.ordered) =
      layout style chunks := by
  cases style with
  | anonymous =>
      obtain ⟨htext, hordered⟩ := puts_anonymous {} chunks
      rw [htext, hordered]
      simp [layout, Bindings.empty]
  | numbered mark =>
      have hempty : ({} : Context).bindings.AreNumbered [] := ⟨rfl, rfl⟩
      obtain ⟨htext, hnumbered⟩ := puts_numbered mark hempty chunks
      rw [htext, hnumbered.ordered]
      simp [layout]

end Context

end TypedQuery
