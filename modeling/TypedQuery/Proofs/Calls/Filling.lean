import TypedQuery.Proofs.Calls.Grammar

/-!
# Filling slots

A term that is printed without parentheses keeps its structure when its slots are filled, if every
operand is at least as tight as the place it is put in. With one operand that is looser, the text
has fewer parentheses than any text of the filled term.
-/

namespace TypedQuery

namespace Calls

namespace Term

def fill (τ : Nat → Term) : Term → Term
  | slot i => τ i
  | word s => word s
  | typed type literal => typed type literal
  | call f t => call f (t.fill τ)
  | binary o l r => binary o (l.fill τ) (r.fill τ)

/-- The tokens of a term, with no parentheses but those of calls. -/
def tokens : Term → List Token
  | slot i => [.slot i]
  | word s => [.word s]
  | typed type literal => [.word type, .word literal]
  | call f t => .word f :: .opening :: t.tokens ++ [.closing]
  | binary o l r => l.tokens ++ .word o.word :: r.tokens

/-- The slots of a term at some level, each with the level that its operand has to be at. -/
def slots (k : Nat) : Term → List (Nat × Nat)
  | slot i => [(i, k)]
  | word _ | typed _ _ => []
  | call _ t => t.slots 0
  | binary o l r => l.slots o.level ++ r.slots (o.level + 1)

/-- Whether a term, apart from its slots, needs no parentheses. -/
def isFlat (k : Nat) : Term → Bool
  | slot _ => true
  | word s => (Infix.ofWord? s).isNone
  | typed type literal => (Infix.ofWord? type).isNone && (Infix.ofWord? literal).isNone
  | call f t => (Infix.ofWord? f).isNone && t.isFlat 0
  | binary o l r => decide (k ≤ o.level) && l.isFlat o.level && r.isFlat (o.level + 1)

/-- How many opening parentheses a text of a term has at least. -/
def openings (k : Nat) : Term → Nat
  | slot _ | word _ | typed _ _ => 0
  | call _ t => t.openings 0 + 1
  | binary o l r =>
      (if o.level < k then 1 else 0) + l.openings o.level + r.openings (o.level + 1)

theorem openings_le_succ (t : Term) (j k : Nat) : t.openings k ≤ t.openings j + 1 := by
  cases t with
  | slot | word | typed | call => simp [openings]
  | binary o l r =>
      simp only [openings]
      split <;> split <;> omega

end Term

namespace Token

def fill (σ : Nat → List Token) : Token → List Token
  | slot i => σ i
  | t => [t]

end Token

def fillTokens (σ : Nat → List Token) (ts : List Token) : List Token := ts.flatMap (Token.fill σ)

section

variable {σ : Nat → List Token} {τ : Nat → Term} {t : Term} {k : Nat}

theorem fillTokens_append (ts us : List Token) :
    fillTokens σ (ts ++ us) = fillTokens σ ts ++ fillTokens σ us :=
  List.flatMap_append

@[simp] theorem fillTokens_cons (t : Token) (ts : List Token) :
    fillTokens σ (t :: ts) = t.fill σ ++ fillTokens σ ts := rfl

@[simp] theorem fillTokens_nil : fillTokens σ [] = [] := rfl

theorem fillTokens_slot (ts : List Token) : fillTokens (fun i ↦ [.slot i]) ts = ts := by
  have hfill : Token.fill (fun i ↦ [.slot i]) = fun t ↦ [t] := by
    funext t
    cases t <;> rfl
  simp [fillTokens, hfill]

theorem Term.fill_slot (t : Term) : t.fill .slot = t := by
  induction t with
  | slot | word | typed => rfl
  | call f t ih => rw [fill, ih]
  | binary o l r ihl ihr => rw [fill, ihl, ihr]

/-- Operands that are tight enough for their places are kept whole. -/
theorem derives_fill (hflat : t.isFlat k = true)
    (h : ∀ s ∈ t.slots k, Derives s.2 (σ s.1) (τ s.1)) :
    Derives k (fillTokens σ t.tokens) (t.fill τ) := by
  induction t generalizing k with
  | slot i => simpa [Term.fill, Term.tokens, Token.fill] using h (i, k) (by simp [Term.slots])
  | word s => exact .word (by simpa [Term.isFlat] using hflat)
  | typed type literal =>
      simp only [Term.isFlat, Bool.and_eq_true, Option.isNone_iff_eq_none] at hflat
      exact .typed hflat.1 hflat.2
  | call f t ih =>
      simp only [Term.isFlat, Bool.and_eq_true, Option.isNone_iff_eq_none] at hflat
      have hcall := Derives.call (k := k) hflat.1 (ih hflat.2 h)
      simpa [Term.fill, Term.tokens, fillTokens_append, Token.fill] using hcall
  | binary o l r ihl ihr =>
      simp only [Term.isFlat, Bool.and_eq_true, decide_eq_true_eq] at hflat
      simp only [Term.slots, List.mem_append] at h
      have hl := ihl hflat.1.2 fun s hs ↦ h s (.inl hs)
      have hr := ihr hflat.2 fun s hs ↦ h s (.inr hs)
      simpa [Term.fill, Term.tokens, fillTokens_append, Token.fill] using
        .binary hflat.1.1 hl hr

/-- A term without parentheses is what its own tokens are derived as. -/
theorem derives_tokens (hflat : t.isFlat k = true) : Derives k t.tokens t := by
  have hfill : Derives k (fillTokens (fun i ↦ [.slot i]) t.tokens) (t.fill .slot) :=
    derives_fill hflat fun _ _ ↦ .slot
  rwa [fillTokens_slot, Term.fill_slot] at hfill

theorem Derives.openings_le {ts : List Token} (h : Derives k ts t) :
    t.openings k ≤ ts.count .opening := by
  induction h with
  | slot | word | typed => simp [Term.openings]
  | @parens k ts t h ih =>
      have hle := t.openings_le_succ expressionLevel k
      simp only [List.count_append, List.count_cons_self, List.cons_append]
      omega
  | call hf h ih => simpa [Term.openings] using ih
  | @binary k o hk ls rs l r hl hr ihl ihr =>
      have hlevel : ¬ o.level < k := Nat.not_lt.mpr hk
      simp [Term.openings, hlevel]
      omega

/-- Every operand that is looser than its place asks for one more pair of parentheses. -/
theorem openings_fill {lev : Nat → Nat}
    (h : ∀ s ∈ t.slots k,
      (τ s.1).openings s.2 = (σ s.1).count .opening + if lev s.1 < s.2 then 1 else 0)
    (hflat : t.isFlat k = true) :
    (t.fill τ).openings k = (fillTokens σ t.tokens).count .opening +
      (t.slots k).countP fun s ↦ decide (lev s.1 < s.2) := by
  induction t generalizing k with
  | slot i =>
      have hslot := h (i, k) (by simp [Term.slots])
      simp [Term.fill, Term.tokens, Term.slots, Token.fill, hslot, List.countP_cons]
  | word s | typed type literal =>
      simp [Term.fill, Term.tokens, Term.slots, Term.openings, Token.fill]
  | call f t ih =>
      simp only [Term.isFlat, Bool.and_eq_true] at hflat
      simp [Term.fill, Term.tokens, Term.slots, Term.openings, Token.fill, fillTokens_append,
        ih h hflat.2]
      omega
  | binary o l r ihl ihr =>
      simp only [Term.isFlat, Bool.and_eq_true, decide_eq_true_eq] at hflat
      simp only [Term.slots, List.mem_append] at h
      have hlevel : ¬ o.level < k := Nat.not_lt.mpr hflat.1.1
      have hl := ihl (fun s hs ↦ h s (.inl hs)) hflat.1.2
      have hr := ihr (fun s hs ↦ h s (.inr hs)) hflat.2
      simp [Term.fill, Term.tokens, Term.slots, Term.openings, Token.fill, fillTokens_append,
        hlevel, hl, hr]
      omega

/-- Operands that have only the parentheses they need are kept whole just when all of them are
tight enough for their places. -/
theorem derives_fill_iff {lev : Nat → Nat}
    (hderives : ∀ s ∈ t.slots k, Derives (lev s.1) (σ s.1) (τ s.1))
    (hopenings : ∀ s ∈ t.slots k,
      (τ s.1).openings s.2 = (σ s.1).count .opening + if lev s.1 < s.2 then 1 else 0)
    (hflat : t.isFlat k = true) :
    Derives k (fillTokens σ t.tokens) (t.fill τ) ↔ ∀ s ∈ t.slots k, s.2 ≤ lev s.1 := by
  constructor
  · -- A loose operand needs an opening parenthesis that no token of the text provides.
    intro h s hs
    by_contra hloose
    have hpositive : 0 < (t.slots k).countP fun s ↦ decide (lev s.1 < s.2) :=
      List.countP_pos_iff.mpr ⟨s, hs, by simpa using hloose⟩
    have hle := h.openings_le
    rw [openings_fill hopenings hflat] at hle
    omega
  · exact fun h ↦ derives_fill hflat fun s hs ↦ (hderives s hs).mono (h s hs)

end

end Calls

end TypedQuery
