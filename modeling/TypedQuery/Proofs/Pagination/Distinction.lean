import TypedQuery.Proofs.Isolation
import TypedQuery.Proofs.Placeholders

/-!
# Chunks that no layout confuses

Chunks may be laid out alike although they differ: a label or a limit that is written out can run
into digits of the text behind it. Three relations keep chunks apart whatever stands around them,
and also where several such pairs stand in one statement: texts of different weight when digits and
marks are left out, texts neither of which goes on from the other, and equal chunks but for the
numbers bound.
-/

namespace TypedQuery

open List (Forall₂)

/-- The character that placeholders start with. -/
def PlaceholderStyle.mark : PlaceholderStyle → Char
  | numbered mark => mark
  | anonymous => '?'

namespace Layout

/-- Whether chunks are laid out as the same text with equal bindings. -/
def Same (style : PlaceholderStyle) (a b : List Chunk) : Prop :=
  (layout style a).1 = (layout style b).1 ∧
    Forall₂ (fun x y ↦ x.eqv y = true) (layout style a).2 (layout style b).2

/-- A relation between chunks that are not laid out alike, in any common surroundings and in any
number of places. -/
structure Distinguishes (style : PlaceholderStyle) (S : List Chunk → List Chunk → Prop) : Prop where
  append_left (c : List Chunk) {a b : List Chunk} (h : S a b) : S (c ++ a) (c ++ b)
  append_right {a b : List Chunk} (h : S a b) (c : List Chunk) : S (a ++ c) (b ++ c)
  append {a b a' b' : List Chunk} (h : S a b) (h' : S a' b') : S (a ++ a') (b ++ b')
  not_same {a b : List Chunk} (h : S a b) : ¬ Same style a b

variable {style : PlaceholderStyle} {mark : Char} {a b a' b' : List Chunk}

theorem isDigit_of_mem_repr {n : Nat} {c : Char} (h : c ∈ (toString n).toList) :
    c.isDigit = true := by
  have hrepr : (toString n).toList = Nat.toDigits 10 n := Nat.toList_repr
  rw [hrepr] at h
  exact Nat.isDigit_of_mem_toDigits (by decide) (by decide) h

theorem repr_injective {m n : Nat} (h : (toString m).toList = (toString n).toList) : m = n := by
  have hdigits : Nat.toDigits 10 m = Nat.toDigits 10 n := by
    rwa [← Nat.toList_repr, ← Nat.toList_repr]
  rw [← Nat.ofDigitChars_toDigits (b := 10) (n := m) (by decide) (by decide), hdigits,
    Nat.ofDigitChars_toDigits (by decide) (by decide)]

/-! ## Weights -/

/-- Characters that cannot be part of a placeholder. -/
def isSolid (mark c : Char) : Bool := !c.isDigit && c != mark

def weight (mark : Char) : List Chunk → Nat
  | [] => 0
  | .text s :: chunks => s.toList.countP (isSolid mark) + weight mark chunks
  | .placeholder _ _ :: chunks => weight mark chunks

theorem weight_append (a b : List Chunk) :
    weight mark (a ++ b) = weight mark a + weight mark b := by
  induction a with
  | nil => simp [weight]
  | cons c a ih => cases c <;> simp [weight, ih, Nat.add_assoc]

theorem countP_label (mark : Char) (n : Nat) :
    (mark.toString ++ toString n).toList.countP (isSolid mark) = 0 := by
  rw [List.countP_eq_zero]
  intro c hc
  rw [String.toList_append, List.mem_append] at hc
  rcases hc with hmark | hdigit
  · obtain rfl : c = mark := by simpa [Char.toString] using hmark
    simp [isSolid]
  · simp [isSolid, isDigit_of_mem_repr hdigit]

theorem countP_numbered (keys : List Labelled) (chunks : List Chunk) :
    (String.join (numbered mark keys chunks).1).toList.countP (isSolid mark) =
      weight mark chunks := by
  induction chunks generalizing keys with
  | nil => rfl
  | cons c chunks ih =>
      cases c with
      | text s =>
          simp only [numbered, weight, String.join_cons]
          rw [String.toList_append, List.countP_append, ih]
      | placeholder type binding =>
          have hlabel := countP_label mark ((Labelled.allot keys (type, binding)).1 + 1)
          simp only [numbered, weight, String.join_cons]
          rw [String.toList_append, List.countP_append, hlabel, ih, Nat.zero_add]

theorem countP_anonymous (chunks : List Chunk) :
    (String.join (anonymous chunks).1).toList.countP (isSolid '?') = weight '?' chunks := by
  induction chunks with
  | nil => rfl
  | cons c chunks ih =>
      cases c with
      | text s =>
          simp only [anonymous, weight, String.join_cons]
          rw [String.toList_append, List.countP_append, ih]
      | placeholder type binding =>
          have hmark : "?".toList.countP (isSolid '?') = 0 := by decide
          simp only [anonymous, weight, String.join_cons]
          rw [String.toList_append, List.countP_append, hmark, ih, Nat.zero_add]

theorem countP_layout (style : PlaceholderStyle) (chunks : List Chunk) :
    (layout style chunks).1.toList.countP (isSolid style.mark) = weight style.mark chunks := by
  cases style with
  | numbered mark => exact countP_numbered [] chunks
  | anonymous => exact countP_anonymous chunks

theorem weight_eq_of_same (h : Same style a b) : weight style.mark a = weight style.mark b := by
  rw [← countP_layout, ← countP_layout, h.1]

theorem distinguishes_lighter (style : PlaceholderStyle) :
    Distinguishes style fun a b ↦ weight style.mark a < weight style.mark b where
  append_left c _ _ h := by
    rw [weight_append, weight_append]
    omega
  append_right h c := by
    rw [weight_append, weight_append]
    omega
  append h h' := by
    rw [weight_append, weight_append]
    omega
  not_same h hsame := absurd (weight_eq_of_same hsame) (Nat.ne_of_lt h)

theorem distinguishes_heavier (style : PlaceholderStyle) :
    Distinguishes style fun a b ↦ weight style.mark b < weight style.mark a where
  append_left c _ _ h := by
    rw [weight_append, weight_append]
    omega
  append_right h c := by
    rw [weight_append, weight_append]
    omega
  append h h' := by
    rw [weight_append, weight_append]
    omega
  not_same h hsame := absurd (weight_eq_of_same hsame) (Nat.ne_of_gt h)

/-! ## Texts that part -/

/-- The characters of chunks with anonymous placeholders. -/
def chars (chunks : List Chunk) : List Char := (layout .anonymous chunks).1.toList

@[simp] theorem chars_append (a b : List Chunk) : chars (a ++ b) = chars a ++ chars b := by
  simp [chars, anonymous_layout_append]

@[simp] theorem chars_text (t : String) (chunks : List Chunk) :
    chars (.text t :: chunks) = t.toList ++ chars chunks := by
  have hcons := chars_append [.text t] chunks
  rw [List.singleton_append] at hcons
  rw [hcons]
  simp [chars, anonymous_layout_text]

@[simp] theorem chars_placeholder (type : ValueType) (binding : Binding) (chunks : List Chunk) :
    chars (.placeholder type binding :: chunks) = '?' :: chars chunks := by
  simp [chars, layout, anonymous, String.join_cons]

@[simp] theorem chars_nil : chars [] = [] := rfl

/-- Neither of two texts goes on from the other. -/
def Part (xs ys : List Char) : Prop := ¬ xs <+: ys ∧ ¬ ys <+: xs

theorem Part.symm {xs ys : List Char} (h : Part xs ys) : Part ys xs := ⟨h.2, h.1⟩

theorem not_prefix_append {xs ys : List Char} (h : Part xs ys) (xs' ys' : List Char) :
    ¬ xs ++ xs' <+: ys ++ ys' := by
  intro hprefix
  have hx : xs <+: ys ++ ys' := (List.prefix_append xs xs').trans hprefix
  have hy : ys <+: ys ++ ys' := List.prefix_append ys ys'
  rcases Nat.le_total xs.length ys.length with hle | hle
  · exact h.1 (List.prefix_of_prefix_length_le hx hy hle)
  · exact h.2 (List.prefix_of_prefix_length_le hy hx hle)

theorem Part.append {xs ys : List Char} (h : Part xs ys) (xs' ys' : List Char) :
    Part (xs ++ xs') (ys ++ ys') :=
  ⟨not_prefix_append h xs' ys', not_prefix_append h.symm ys' xs'⟩

theorem Part.append_left {xs ys : List Char} (h : Part xs ys) (zs : List Char) :
    Part (zs ++ xs) (zs ++ ys) := by
  simpa only [Part, List.prefix_append_right_inj] using h

theorem distinguishes_part : Distinguishes .anonymous fun a b ↦ Part (chars a) (chars b) where
  append_left c _ _ h := by
    rw [chars_append, chars_append]
    exact h.append_left (chars c)
  append_right h c := by
    rw [chars_append, chars_append]
    exact h.append (chars c) (chars c)
  append h h' := by
    rw [chars_append, chars_append]
    exact h.append _ _
  not_same {a b} h hsame := by
    have hchars : chars a = chars b := congrArg String.toList hsame.1
    exact h.1 (hchars ▸ List.prefix_rfl)

/-! ## Numbers at the same places -/

/-- Equal chunks, or placeholders for two numbers. -/
def Renumbered (x y : Chunk) : Prop :=
  x = y ∨ ∃ v w : Int64, x = .placeholder .i64 (.value (.i64 v)) ∧
    y = .placeholder .i64 (.value (.i64 w))

/-- Bindings that equal bindings stand for. -/
def Agree (v w : Binding) : Prop :=
  ∃ x y, v.eqv x = true ∧ w.eqv y = true ∧ x.eqv y = true

theorem eq_of_agree {v w : Int64} (h : Agree (.value (.i64 v)) (.value (.i64 w))) : v = w := by
  have hexact : ∀ {n : Int64} {b : Binding}, (Binding.value (.i64 n)).eqv b = true →
      b = .value (.i64 n) := by
    intro n b hb
    cases b with
    | param p => cases hb
    | value u =>
        change Value.eqvBy _ (.i64 n) u = true at hb
        cases u <;> simp_all [Value.eqvBy]
  obtain ⟨x, y, hx, hy, hxy⟩ := h
  obtain rfl := hexact hx
  obtain rfl := hexact hy
  have hsame := hexact hxy
  simpa using hsame.symm

/-- Chunks that differ only in numbers are the same when these agree. -/
theorem eq_of_renumbered (h : Forall₂ Renumbered a b)
    (hagree : Forall₂ Agree (anonymous a).2 (anonymous b).2) : a = b := by
  induction h with
  | nil => rfl
  | @cons x y a b hxy hab ih =>
      rcases hxy with rfl | ⟨v, w, rfl, rfl⟩
      · cases x with
        | text s => rw [ih hagree]
        | placeholder type binding =>
            cases hagree with
            | cons _ hagree => rw [ih hagree]
      · cases hagree with
        | cons hvw hagree => rw [eq_of_agree hvw, ih hagree]

theorem literals_renumbered (h : Forall₂ Renumbered a b) : literals a = literals b := by
  induction h with
  | nil => rfl
  | @cons x y a b hxy hab ih =>
      rcases hxy with rfl | ⟨v, w, rfl, rfl⟩
      · cases x <;> simp [literals, ih]
      · simp [literals, ih]

def numberedMark (mark : Char) (label : Nat) : String := mark.toString ++ toString label

theorem interleave_eq_append (first : String) (marks behind : List String) :
    interleave first marks behind = first ++ interleave "" marks behind := by
  rw [← interleave_append, String.append_empty]

/-- The digits that a text begins with end in front of its first label. -/
theorem takeWhile_interleave (hmark : mark.isDigit = false) (first : String) (labels : List Nat)
    (behind : List String) :
    (interleave first (labels.map (numberedMark mark)) behind).toList.takeWhile Char.isDigit =
      first.toList.takeWhile Char.isDigit := by
  have hnone : (interleave "" (labels.map (numberedMark mark)) behind).toList.takeWhile
      Char.isDigit = [] := by
    cases labels with
    | nil => simp [interleave]
    | cons label labels =>
        cases behind with
        | nil => simp [interleave]
        | cons text behind =>
            rw [List.map_cons, interleave_cons, String.toList_append, numberedMark]
            simp [Char.toString, hmark]
  rw [interleave_eq_append, String.toList_append, List.takeWhile_append, hnone]
  split
  · rename_i hall
    rw [List.append_nil]
    exact ((List.takeWhile_prefix _).eq_of_length hall).symm
  · rfl

/-- Labels can be read from a text whose literals are known. -/
theorem labels_eq_of_interleave (hmark : mark.isDigit = false) {labels labels' : List Nat}
    {behind : List String} (hlength : labels.length = behind.length)
    (hlength' : labels'.length = behind.length)
    (h : interleave "" (labels.map (numberedMark mark)) behind =
      interleave "" (labels'.map (numberedMark mark)) behind) : labels = labels' := by
  induction behind generalizing labels labels' with
  | nil => rw [List.length_eq_zero_iff.mp hlength, List.length_eq_zero_iff.mp hlength']
  | cons text behind ih =>
      obtain ⟨label, labels, rfl⟩ := List.exists_cons_of_length_eq_add_one hlength
      obtain ⟨label', labels', rfl⟩ := List.exists_cons_of_length_eq_add_one hlength'
      rw [List.map_cons, List.map_cons, interleave_cons, interleave_cons] at h
      have hchars := congrArg String.toList h
      simp only [numberedMark, String.toList_append, List.append_assoc,
        List.append_cancel_left_eq] at hchars
      -- the digits that both texts begin with are those of the label and of the same literal
      have hdigits := congrArg (List.takeWhile Char.isDigit) hchars
      rw [List.takeWhile_append_of_pos (fun _ ↦ isDigit_of_mem_repr),
        List.takeWhile_append_of_pos (fun _ ↦ isDigit_of_mem_repr)] at hdigits
      have hbehind := takeWhile_interleave hmark text labels behind
      have hbehind' := takeWhile_interleave hmark text labels' behind
      rw [hbehind, hbehind'] at hdigits
      have hlabel : label = label' := repr_injective (List.append_cancel_right hdigits)
      subst hlabel
      have hrest := String.toList_inj.mp (List.append_cancel_left hchars)
      rw [interleave_eq_append text, interleave_eq_append text, String.append_right_inj] at hrest
      rw [ih (by simpa using hlength) (by simpa using hlength') hrest]

theorem agree_of_names {bindings bindings' : List Binding} {labels : List Nat}
    {vs ws : List Binding}
    (hsame : Forall₂ (fun x y ↦ x.eqv y = true) bindings bindings')
    (hv : Forall₂ (Names bindings) labels vs) (hw : Forall₂ (Names bindings') labels ws) :
    Forall₂ Agree vs ws := by
  induction hv generalizing ws with
  | nil => cases hw; exact .nil
  | @cons label v labels vs hname hnames ih =>
      cases hw with
      | cons hname' hnames' =>
          refine .cons ?_ (ih hnames')
          obtain ⟨_, x, hx, hvx⟩ := hname
          obtain ⟨_, y, hy, hwy⟩ := hname'
          obtain ⟨hltx, rfl⟩ := List.getElem?_eq_some_iff.mp hx
          obtain ⟨hlty, rfl⟩ := List.getElem?_eq_some_iff.mp hy
          exact ⟨_, _, hvx, hwy, (List.forall₂_iff_get.mp hsame).2 _ hltx hlty⟩

theorem agree_of_same (hmark : style.mark.isDigit = false) (h : Forall₂ Renumbered a b)
    (hsame : Same style a b) : Forall₂ Agree (anonymous a).2 (anonymous b).2 := by
  obtain ⟨htext, hbindings⟩ := hsame
  cases style with
  | anonymous =>
      refine List.Forall₂.imp ?_ hbindings
      intro v w hvw
      exact ⟨v, w, Binding.eqv_refl v, Binding.eqv_refl w, hvw⟩
  | numbered mark =>
      have hlength : ∀ chunks, (labels [] chunks).length = (literals chunks).2.length := by
        intro chunks
        rw [(forall₂_names mark [] chunks).length_eq, length_literals]
      have hliterals := literals_renumbered h
      have hlabels : labels [] a = labels [] b := by
        refine labels_eq_of_interleave hmark (hlength a) (hliterals ▸ hlength b) ?_
        have hjoin : String.join (numbered mark [] a).1 = String.join (numbered mark [] b).1 :=
          htext
        rw [join_numbered, join_numbered, hliterals, interleave_eq_append,
          interleave_eq_append (literals b).1, String.append_right_inj] at hjoin
        rw [hliterals]
        exact hjoin
      have hnames := forall₂_names mark [] b
      rw [← hlabels] at hnames
      exact agree_of_names hbindings (forall₂_names mark [] a) hnames

/-- Different chunks that agree but for numbers. -/
def Near (a b : List Chunk) : Prop := Forall₂ Renumbered a b ∧ a ≠ b

theorem renumbered_self (a : List Chunk) : Forall₂ Renumbered a a :=
  List.forall₂_same.mpr fun _ _ ↦ .inl rfl

theorem distinguishes_near (hmark : style.mark.isDigit = false) : Distinguishes style Near where
  append_left c _ _ h := ⟨List.rel_append (renumbered_self c) h.1, by simpa using h.2⟩
  append_right h c := ⟨List.rel_append h.1 (renumbered_self c), by simpa using h.2⟩
  append h h' := by
    refine ⟨List.rel_append h.1 h'.1, fun heq ↦ h.2 ?_⟩
    exact (List.append_inj heq h.1.length_eq).1
  not_same h hsame := h.2 (eq_of_renumbered h.1 (agree_of_same hmark h.1 hsame))

end Layout

end TypedQuery
