import TypedQuery.Proofs.Reading.Words

/-!
# Written trees

A tree is written with parentheses around the loose operands of tight operators and around the
binary operands of the unary one. The words of such a text are those of the tree and its
parentheses.
-/

namespace TypedQuery

namespace Reading

variable {ω : Type}

/-- How trees are written: binary operators as words between spaces, the unary one in front. -/
structure Writing (ω : Type) extends Grammar ω where
  unaryText : String

namespace OpTree

variable {α : Type}

def isUnary : OpTree ω α → Bool
  | unary _ => true
  | _ => false

@[simp] theorem isUnary_map {β : Type} (f : α → β) (t : OpTree ω α) :
    (t.map f).isUnary = t.isUnary := by
  cases t <;> rfl

def isBinary : OpTree ω α → Bool
  | binary .. => true
  | _ => false

@[simp] theorem isBinary_map {β : Type} (f : α → β) (t : OpTree ω α) :
    (t.map f).isBinary = t.isBinary := by
  cases t <;> rfl

def fold {β : Type} (atomValue : α → β) (unaryValue : β → β) (binaryValue : ω → β → β → β) :
    OpTree ω α → β
  | atom a => atomValue a
  | unary t => unaryValue (t.fold atomValue unaryValue binaryValue)
  | binary op l r =>
      binaryValue op (l.fold atomValue unaryValue binaryValue)
        (r.fold atomValue unaryValue binaryValue)

theorem fold_map {β γ : Type} (f : α → β) (atomValue : β → γ) (unaryValue : γ → γ)
    (binaryValue : ω → γ → γ → γ) (t : OpTree ω α) :
    (t.map f).fold atomValue unaryValue binaryValue =
      t.fold (atomValue ∘ f) unaryValue binaryValue := by
  induction t with
  | atom a => rfl
  | unary t ih => simp only [map, fold, ih]
  | binary op l r ihl ihr => simp only [map, fold, ihl, ihr]

/-- Whether a unary operator stands directly behind another one. -/
def doublesUnary : OpTree ω α → Bool
  | atom _ => false
  | unary t => t.isUnary || t.doublesUnary
  | binary _ l r => l.doublesUnary || r.doublesUnary

@[simp] theorem doublesUnary_map {β : Type} (f : α → β) (t : OpTree ω α) :
    (t.map f).doublesUnary = t.doublesUnary := by
  induction t with
  | atom a => rfl
  | unary t ih => simp [map, doublesUnary, ih]
  | binary op l r ihl ihr => simp [map, doublesUnary, ihl, ihr]

end OpTree

namespace Grammar

variable {α : Type}

def isLoose (G : Grammar ω) : OpTree ω α → Bool
  | .binary op _ _ => !G.tight op
  | _ => false

/-- Whether an operand of a binary operator needs parentheses. -/
def wraps (G : Grammar ω) (op : ω) (t : OpTree ω α) : Bool := G.tight op && G.isLoose t

@[simp] theorem wraps_atom (G : Grammar ω) (op : ω) (a : α) : G.wraps op (.atom a) = false :=
  Bool.and_false _

@[simp] theorem wraps_unary (G : Grammar ω) (op : ω) (t : OpTree ω α) :
    G.wraps op (.unary t) = false :=
  Bool.and_false _

@[simp] theorem wraps_map {β : Type} (G : Grammar ω) (f : α → β) (op : ω) (t : OpTree ω α) :
    G.wraps op (t.map f) = G.wraps op t := by
  cases t <;> rfl

end Grammar

/-! ## Words of a written tree -/

def parensIf (b : Bool) (s : String) : String := if b then "(" ++ s ++ ")" else s

def parenTokensIf (b : Bool) (ts : List Token) : List Token :=
  if b then .opening :: ts ++ [.closing] else ts

namespace Writing

def written (W : Writing ω) : OpTree ω String → String
  | .atom s => s
  | .unary t => W.unaryText ++ parensIf t.isBinary (W.written t)
  | .binary op l r =>
      parensIf (W.wraps op l) (W.written l) ++ (" " ++ W.word op ++ " ") ++
        parensIf (W.wraps op r) (W.written r)

def words (W : Writing ω) : OpTree ω String → List Token
  | .atom s => [.word s]
  | .unary t => .word W.unaryWord :: parenTokensIf t.isBinary (W.words t)
  | .binary op l r =>
      parenTokensIf (W.wraps op l) (W.words l) ++
        .word (W.word op) :: parenTokensIf (W.wraps op r) (W.words r)

/-- The words of operators are read as they are written. A dash that is a word of its own must not
stand in front of another one. -/
structure IsLegible (W : Writing ω) (L : Lexicon) : Prop where
  binary : ∀ (op : ω) (rest : List Char),
    L.tokens false [] ((" " ++ W.word op ++ " ").toList ++ rest) =
      (L.tokens false [] rest).map (.word (W.word op) :: ·)
  unary : ∀ rest : List Char, ('-' ∈ L.symbols → rest.head? ≠ some '-') →
    L.tokens false [] (W.unaryText.toList ++ rest) =
      (L.tokens false [] rest).map (.word W.unaryWord :: ·)

end Writing

namespace Lexicon

variable {L : Lexicon}

/-- A text that is read as the given tokens in front of whatever a word can be followed by. -/
def Lexes (L : Lexicon) (s : String) (ts : List Token) : Prop :=
  ∀ rest, Delimited rest →
    L.tokens false [] (s.toList ++ rest) = (L.tokens false [] rest).map (ts ++ ·)

theorem delimited_between (w : String) (rest : List Char) :
    Delimited ((" " ++ w ++ " ").toList ++ rest) :=
  .inr ⟨(w ++ " ").toList ++ rest, .inl (by simp)⟩

theorem lexes_word {s : String} (h : L.isWord s = true) : L.Lexes s [.word s] :=
  fun _ hrest ↦ tokens_word h hrest

theorem Lexes.parensIf {s : String} {ts : List Token} (h : L.Lexes s ts) (b : Bool) :
    L.Lexes (parensIf b s) (parenTokensIf b ts) := by
  cases b with
  | false => exact h
  | true =>
      intro rest _
      have hchars :
          (Reading.parensIf true s).toList ++ rest = '(' :: (s.toList ++ ')' :: rest) := by
        simp [Reading.parensIf]
      have hinner := h (')' :: rest) (.inr ⟨rest, .inr rfl⟩)
      rw [hchars, tokens_opening, hinner, tokens_closing, Option.map_map, Option.map_map]
      congr 1
      funext us
      simp [parenTokensIf]

theorem Lexes.tokens_eq {s : String} {ts : List Token} (h : L.Lexes s ts) :
    L.tokens false [] s.toList = some ts := by
  have hall := h [] (.inl rfl)
  simpa [tokens, emit] using hall

end Lexicon

namespace Writing

variable {W : Writing ω} {L : Lexicon}

/-- Only what is unary starts with the text of the unary operator. -/
theorem head?_written {t : OpTree ω String} (hunary : t.isUnary = false)
    (hatoms : ∀ s ∈ t.atoms, L.isWord s = true) (hdash : '-' ∈ L.symbols) (rest : List Char) :
    ((parensIf t.isBinary (W.written t)).toList ++ rest).head? ≠ some '-' := by
  cases t with
  | unary t => cases hunary
  | binary op l r => simp [OpTree.isBinary, parensIf]
  | atom s =>
      have hword := hatoms s (by simp [OpTree.atoms])
      simp only [OpTree.isBinary, parensIf, written, Bool.false_eq_true, if_false]
      cases hs : s.toList with
      | nil => simp [Lexicon.isWord, hs] at hword
      | cons c cs =>
          intro hhead
          obtain rfl : c = '-' := by simpa using hhead
          simp [Lexicon.isWord, hs, Lexicon.isSpelled, hdash] at hword

/-- A tree over words is read as its words, unless two of its dashes start a comment. -/
theorem lexes_written (hW : W.IsLegible L) {t : OpTree ω String}
    (hsingle : '-' ∈ L.symbols → t.doublesUnary = false)
    (hatoms : ∀ s ∈ t.atoms, L.isWord s = true) : L.Lexes (W.written t) (W.words t) := by
  induction t with
  | atom s => exact Lexicon.lexes_word (hatoms s (by simp [OpTree.atoms]))
  | unary t ih =>
      have hinner : '-' ∈ L.symbols → t.isUnary = false ∧ t.doublesUnary = false := by
        simpa [OpTree.doublesUnary] using hsingle
      have hoperand := (ih (fun hdash ↦ (hinner hdash).2) hatoms).parensIf t.isBinary
      intro rest hrest
      have hhead := fun hdash ↦ head?_written (W := W) (hinner hdash).1 hatoms hdash rest
      rw [written, String.toList_append, List.append_assoc, hW.unary _ hhead,
        hoperand rest hrest, Option.map_map]
      rfl
  | binary op l r ihl ihr =>
      have hinner : '-' ∈ L.symbols → l.doublesUnary = false ∧ r.doublesUnary = false := by
        simpa [OpTree.doublesUnary] using hsingle
      simp only [OpTree.atoms, List.mem_append] at hatoms
      have hl := (ihl (fun hdash ↦ (hinner hdash).1) fun s hs ↦ hatoms s (.inl hs)).parensIf
        (W.wraps op l)
      have hr := (ihr (fun hdash ↦ (hinner hdash).2) fun s hs ↦ hatoms s (.inr hs)).parensIf
        (W.wraps op r)
      intro rest hrest
      rw [written, String.toList_append, String.toList_append, List.append_assoc,
        List.append_assoc, hl _ (Lexicon.delimited_between _ _), hW.binary, hr rest hrest,
        Option.map_map, Option.map_map]
      congr 1
      funext us
      simp [words]

end Writing

end Reading

end TypedQuery
