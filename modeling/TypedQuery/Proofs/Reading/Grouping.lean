import TypedQuery.Proofs.Reading.Written

/-!
# Trees grouped from the left

A written tree is read as the tree in which operators of one level are grouped from the left. The
values of the two trees agree where all operators that are grouped anew are associative.
-/

namespace TypedQuery

namespace Reading

variable {ω : Type}

/-! ## Trees grouped from the left -/

namespace Grammar

mutual

/-- The tree that a written tree is read as. -/
def regroup (G : Grammar ω) : OpTree ω String → OpTree ω String
  | .atom s => .atom s
  | .unary t => .unary (G.regroup t)
  | .binary op l r => G.onto (G.regroup l) op r

/-- A tree behind an operand and an operator. Its own operators of the same level take what stands
in front of them. -/
def onto (G : Grammar ω) (l : OpTree ω String) (op : ω) : OpTree ω String → OpTree ω String
  | .atom s => .binary op l (.atom s)
  | .unary t => .binary op l (.unary (G.regroup t))
  | .binary o r₁ r₂ =>
      if G.tight o = G.tight op then G.onto (G.onto l op r₁) o r₂
      else .binary op l (G.onto (G.regroup r₁) o r₂)

end

def level (G : Grammar ω) (op : ω) : Level := if G.tight op then .product else .sum

theorem level_of_tight {G : Grammar ω} {op : ω} (h : G.tight op = true) :
    G.level op = .product := by
  simp [level, h]

theorem level_of_loose {G : Grammar ω} {op : ω} (h : G.tight op = false) :
    G.level op = .sum := by
  simp [level, h]

theorem wraps_of_loose {α : Type} {G : Grammar ω} {op : ω} (h : G.tight op = false)
    (t : OpTree ω α) : G.wraps op t = false := by
  simp [wraps, h]

def levelOf (G : Grammar ω) : OpTree ω String → Level
  | .binary op _ _ => G.level op
  | _ => .factor

/-- Whether a text is no word of an operator. -/
def IsAtom (G : Grammar ω) (s : String) : Prop := G.operator? s = none ∧ s ≠ G.unaryWord

end Grammar

section Derivations

variable {W : Writing ω}

theorem Derives.toSum {G : Grammar ω} {level : Level} {ts : List Token} {t : OpTree ω String}
    (h : Derives G level ts t) : Derives G .sum ts t := by
  cases level with
  | factor => exact .term (.factor h)
  | product => exact .term h
  | sum => exact h

theorem Derives.parenTokens {G : Grammar ω} {level : Level} {ts : List Token}
    {t : OpTree ω String} (h : Derives G level ts t) :
    Derives G .factor (parenTokensIf true ts) t :=
  .parens h.toSum

theorem derives_operand {t u : OpTree ω String}
    (h : Derives W.toGrammar (W.levelOf t) (W.words t) u) (op : ω) :
    Derives W.toGrammar (W.level op) (parenTokensIf (W.wraps op t) (W.words t)) u := by
  by_cases htight : W.tight op = true
  · rw [Grammar.level_of_tight htight]
    by_cases hloose : W.isLoose t = true
    · have hwraps : W.wraps op t = true := by simp [Grammar.wraps, htight, hloose]
      rw [hwraps]
      exact .factor h.parenTokens
    · have hwraps : W.wraps op t = false := by simp [Grammar.wraps, hloose]
      rw [hwraps]
      cases t with
      | atom s => exact .factor h
      | unary t => exact .factor h
      | binary o r₁ r₂ =>
          have htight' : W.tight o = true := by simpa [Grammar.isLoose] using hloose
          simpa [Grammar.levelOf, Grammar.level_of_tight htight', parenTokensIf] using h
  · have hloose : W.tight op = false := by simpa using htight
    rw [Grammar.level_of_loose hloose, Grammar.wraps_of_loose hloose]
    exact h.toSum

/-- An operand behind an operator of another level, or behind any operator if it is no binary
operation itself. -/
theorem derives_behind {t u l : OpTree ω String} {op : ω} {ls : List Token}
    (h : Derives W.toGrammar (W.levelOf t) (W.words t) u)
    (hother : ∀ o r₁ r₂, t = .binary o r₁ r₂ → W.tight o ≠ W.tight op)
    (hl : Derives W.toGrammar (W.level op) ls l) :
    Derives W.toGrammar (W.level op)
      (ls ++ .word (W.word op) :: parenTokensIf (W.wraps op t) (W.words t)) (.binary op l u) := by
  by_cases htight : W.tight op = true
  · rw [Grammar.level_of_tight htight] at hl ⊢
    refine .product htight hl ?_
    cases t with
    | atom s =>
        rw [Grammar.wraps_atom]
        exact h
    | unary t =>
        rw [Grammar.wraps_unary]
        exact h
    | binary o r₁ r₂ =>
        have hloose : W.tight o = false := by simpa [htight] using hother o r₁ r₂ rfl
        have hwraps : W.wraps op (.binary o r₁ r₂) = true := by
          simp [Grammar.wraps, Grammar.isLoose, htight, hloose]
        rw [hwraps]
        exact h.parenTokens
  · have hloose : W.tight op = false := by simpa using htight
    rw [Grammar.level_of_loose hloose] at hl ⊢
    rw [Grammar.wraps_of_loose hloose]
    refine .sum hloose hl ?_
    cases t with
    | atom s => exact .factor h
    | unary t => exact .factor h
    | binary o r₁ r₂ =>
        have htight' : W.tight o = true := by simpa [hloose] using hother o r₁ r₂ rfl
        simpa [Grammar.levelOf, Grammar.level_of_tight htight', parenTokensIf] using h

/-- What a tree is derived as by itself, and behind an operand and an operator. -/
theorem derives_words {t : OpTree ω String} (hatoms : ∀ s ∈ t.atoms, W.IsAtom s) :
    Derives W.toGrammar (W.levelOf t) (W.words t) (W.regroup t) ∧
      ∀ op ls l, Derives W.toGrammar (W.level op) ls l →
        Derives W.toGrammar (W.level op)
          (ls ++ .word (W.word op) :: parenTokensIf (W.wraps op t) (W.words t))
          (W.onto l op t) := by
  -- The second part carries the induction: a right operand on the level of the operator in front of
  -- it is no subtree of what is derived.
  induction t with
  | atom s =>
      have hatom := hatoms s (by simp [OpTree.atoms])
      have h : Derives W.toGrammar .factor (W.words (.atom s)) (.atom s) := .atom hatom.1 hatom.2
      exact ⟨h, fun op ls l hl ↦ derives_behind h (by simp) hl⟩
  | unary t ih =>
      have hinner := (ih hatoms).1
      have h : Derives W.toGrammar .factor (W.words (.unary t)) (.unary (W.regroup t)) := by
        refine .unary ?_
        cases t with
        | atom s => exact hinner
        | unary t => exact hinner
        | binary op l r => exact hinner.parenTokens
      exact ⟨h, fun op ls l hl ↦ derives_behind h (by simp) hl⟩
  | binary o r₁ r₂ ih₁ ih₂ =>
      simp only [OpTree.atoms, List.mem_append] at hatoms
      obtain ⟨h₁, honto₁⟩ := ih₁ fun s hs ↦ hatoms s (.inl hs)
      obtain ⟨h₂, honto₂⟩ := ih₂ fun s hs ↦ hatoms s (.inr hs)
      have h : Derives W.toGrammar (W.level o) (W.words (.binary o r₁ r₂))
          (W.onto (W.regroup r₁) o r₂) := honto₂ o _ _ (derives_operand h₁ o)
      refine ⟨h, fun op ls l hl ↦ ?_⟩
      by_cases hsame : W.tight o = W.tight op
      · -- Both operands join the chain in front of them, one after the other.
        have hlevel : W.level op = W.level o := by simp [Grammar.level, hsame]
        have hwraps : W.wraps op (.binary o r₁ r₂) = false := by
          cases ht : W.tight op <;> simp [Grammar.wraps, Grammar.isLoose, ht, hsame]
        have hwraps₁ : W.wraps op r₁ = W.wraps o r₁ := by simp [Grammar.wraps, hsame]
        have hfirst := honto₁ op ls l hl
        rw [hlevel, hwraps₁] at hfirst
        have hboth := honto₂ o _ _ hfirst
        rw [Grammar.onto, if_pos hsame, hwraps, hlevel]
        simpa [Writing.words, parenTokensIf] using hboth
      · rw [Grammar.onto, if_neg hsame]
        exact derives_behind h (by rintro _ _ _ ⟨⟩; exact hsame) hl

end Derivations

/-! ## Values -/

namespace Grammar

variable {α : Type}

/-- Whether an operand is an operation on the level of an operator. -/
def isOnLevel (G : Grammar ω) (op : ω) : OpTree ω α → Bool
  | .binary o _ _ => G.tight o == G.tight op
  | _ => false

/-- Whether only operators that are associative have a right operand on their level. -/
def groupsFreely (G : Grammar ω) (associative : ω → Bool) : OpTree ω α → Bool
  | .atom _ => true
  | .unary t => G.groupsFreely associative t
  | .binary op l r =>
      (associative op || !G.isOnLevel op r) && G.groupsFreely associative l &&
        G.groupsFreely associative r

theorem groupsFreely_of_forall (G : Grammar ω) {associative : ω → Bool}
    (h : ∀ op, associative op = true) (t : OpTree ω α) : G.groupsFreely associative t = true := by
  induction t with
  | atom a => rfl
  | unary t ih => exact ih
  | binary op l r ihl ihr => simp [groupsFreely, h, ihl, ihr]

section Rotations

variable {G : Grammar ω} {op o : ω} (hlevel : G.tight o = G.tight op) (l r₁ r₂ : OpTree ω String)

include hlevel

/-- A tree is read like the one that is grouped from the left in its first two steps. -/
theorem regroup_rotate :
    G.regroup (.binary op l (.binary o r₁ r₂)) = G.regroup (.binary o (.binary op l r₁) r₂) := by
  rw [regroup, onto, if_pos hlevel]
  rfl

theorem onto_rotate (first : ω) (z : OpTree ω String) :
    G.onto z first (.binary op l (.binary o r₁ r₂)) =
      G.onto z first (.binary o (.binary op l r₁) r₂) := by
  by_cases hfirst : G.tight op = G.tight first
  · have hfirst' : G.tight o = G.tight first := hlevel.trans hfirst
    rw [onto, if_pos hfirst, onto, if_pos hlevel, onto, if_pos hfirst', onto, if_pos hfirst]
  · have hfirst' : G.tight o ≠ G.tight first := fun h ↦ hfirst (hlevel.symm.trans h)
    rw [onto, if_neg hfirst, onto, if_pos hlevel, onto, if_neg hfirst']
    rfl

end Rotations

@[simp] theorem isOnLevel_map (G : Grammar ω) {β : Type} (f : α → β) (op : ω) (t : OpTree ω α) :
    G.isOnLevel op (t.map f) = G.isOnLevel op t := by
  cases t <;> rfl

@[simp] theorem groupsFreely_map (G : Grammar ω) (associative : ω → Bool) {β : Type} (f : α → β)
    (t : OpTree ω α) : G.groupsFreely associative (t.map f) = G.groupsFreely associative t := by
  induction t with
  | atom a => rfl
  | unary t ih => exact ih
  | binary op l r ihl ihr => simp [OpTree.map, groupsFreely, ihl, ihr]

variable {G : Grammar ω} {β : Type} {atomValue : String → β} {unaryValue : β → β}
  {binaryValue : ω → β → β → β}

/-- Grouping anew keeps the value where it only concerns associative operators. -/
theorem fold_regroup {associative : ω → Bool}
    (hassociative : ∀ op o, associative op = true → G.tight o = G.tight op → ∀ x y z,
      binaryValue o (binaryValue op x y) z = binaryValue op x (binaryValue o y z))
    {t : OpTree ω String} (h : G.groupsFreely associative t = true) :
    (G.regroup t).fold atomValue unaryValue binaryValue =
        t.fold atomValue unaryValue binaryValue ∧
      ∀ op l, (associative op || !G.isOnLevel op t) = true →
        (G.onto l op t).fold atomValue unaryValue binaryValue =
          binaryValue op (l.fold atomValue unaryValue binaryValue)
            (t.fold atomValue unaryValue binaryValue) := by
  induction t with
  | atom s => exact ⟨rfl, fun _ _ _ ↦ rfl⟩
  | unary t ih =>
      have hunary := congrArg unaryValue (ih h).1
      exact ⟨hunary, fun op l _ ↦ congrArg (binaryValue op _) hunary⟩
  | binary o r₁ r₂ ih₁ ih₂ =>
      simp only [groupsFreely, Bool.and_eq_true] at h
      obtain ⟨⟨hfree, hr₁⟩, hr₂⟩ := h
      obtain ⟨hregroup₁, honto₁⟩ := ih₁ hr₁
      obtain ⟨_, honto₂⟩ := ih₂ hr₂
      have hself : (G.onto (G.regroup r₁) o r₂).fold atomValue unaryValue binaryValue =
          (OpTree.binary o r₁ r₂).fold atomValue unaryValue binaryValue := by
        rw [honto₂ o _ hfree, hregroup₁]
        rfl
      refine ⟨hself, fun op l hop ↦ ?_⟩
      by_cases hsame : G.tight o = G.tight op
      · have hlevel : G.isOnLevel op (.binary o r₁ r₂) = true := by simp [isOnLevel, hsame]
        have hassoc : associative op = true := by simpa [hlevel] using hop
        rw [onto, if_pos hsame, honto₂ o _ hfree, honto₁ op l (by simp [hassoc]),
          hassociative op o hassoc hsame]
        rfl
      · rw [onto, if_neg hsame]
        exact congrArg (binaryValue op _) hself

end Grammar

/-- Two trees have the same value wherever all binary operators are associative: at most the
operands of one operator are grouped differently. -/
def OpTree.SameUpToGroups {α : Type} (t u : OpTree ω α) : Prop :=
  ∀ (β : Type) (atomValue : α → β) (unaryValue : β → β) (binaryValue : ω → β → β → β),
    (∀ op, Std.Associative (binaryValue op)) →
      t.fold atomValue unaryValue binaryValue = u.fold atomValue unaryValue binaryValue

/-- With one operator on each level, reading a tree groups the operands of one operator. -/
theorem sameUpToGroups_regroup {G : Grammar ω} (hsingle : ∀ op o, G.tight o = G.tight op → o = op)
    (t : OpTree ω String) : (G.regroup t).SameUpToGroups t := by
  intro β atomValue unaryValue binaryValue hassociative
  refine (Grammar.fold_regroup ?_ (G.groupsFreely_of_forall (fun _ ↦ rfl) t)).1
  intro op o _ hlevel x y z
  rw [hsingle op o hlevel]
  exact (hassociative op).assoc x y z

/-! ## Texts -/

/-- A text that is read as a tree. -/
def Reads (G : Grammar ω) (L : Lexicon) (text : String) (t : OpTree ω String) : Prop :=
  ∃ ts, L.tokens false [] text.toList = some ts ∧ Derives G .sum ts t

/-- What a written tree is read as, and nothing else. -/
theorem reads_written_iff {W : Writing ω} {L : Lexicon} (hW : W.IsLegible L)
    {t : OpTree ω String} (hsingle : '-' ∈ L.symbols → t.doublesUnary = false)
    (hwords : ∀ s ∈ t.atoms, L.isWord s = true) (hatoms : ∀ s ∈ t.atoms, W.IsAtom s)
    (u : OpTree ω String) : Reads W.toGrammar L (W.written t) u ↔ u = W.regroup t := by
  have htokens := (Writing.lexes_written hW hsingle hwords).tokens_eq
  have hderives := (derives_words hatoms).1.toSum
  constructor
  · rintro ⟨ts, hts, hu⟩
    obtain rfl := Option.some.inj (htokens.symm.trans hts)
    exact derives_unique hu hderives
  · rintro rfl
    exact ⟨W.words t, htokens, hderives⟩

end Reading

end TypedQuery
