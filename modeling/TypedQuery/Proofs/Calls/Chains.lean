import TypedQuery.Proofs.Calls.Scanning

/-!
# Chains of arithmetic

A chain is an arithmetic expression in which every right operand is a path. It is written with
parentheses around sums and differences in front of the operators of products, and its text is read
as its own tree. Like any operand it gets parentheses in a template that binds tighter than it.
-/

namespace TypedQuery

open Rendering (Writes)

namespace Calls

open Reading (ArithOp arithmetic parensIf)

inductive Chain
  | path (p : Path)
  | binary (type : ValueType) (l : Chain) (o : ArithOp) (p : Path)

def parenTokensIf (b : Bool) (ts : List Token) : List Token :=
  if b then .opening :: ts ++ [.closing] else ts

/-- The level of what no operator can take apart. -/
def atomLevel : Nat := 4

namespace Chain

def expr : Chain → Expr
  | path p => .path p
  | binary type l o p => .operation type (.op o.op) [l.expr, .path p]

def paths : Chain → List Path
  | path p => [p]
  | binary _ l _ p => l.paths ++ [p]

def head? : Chain → Option ArithOp
  | path _ => none
  | binary _ _ o _ => some o

/-- Whether an operand with some outermost operator gets parentheses in a template. -/
def isWrapped (precedence : Int) (head? : Option ArithOp) : Bool :=
  decide (0 ≤ precedence) && head?.any fun o ↦ decide (precedence < o.op.precedence)

def level : Option ArithOp → Nat
  | none => atomLevel
  | some o => (Infix.arith o).level

/-- The level that an operand has in a template. -/
def placedLevel (precedence : Int) (head? : Option ArithOp) : Nat :=
  if isWrapped precedence head? then atomLevel else level head?

theorem isWrapped_none (precedence : Int) : isWrapped precedence none = false :=
  Bool.and_false _

theorem placedLevel_none (precedence : Int) : placedLevel precedence none = atomLevel := by
  rw [placedLevel, isWrapped_none]
  rfl

variable (names : Path → String)

def text : Chain → String
  | path p => names p
  | binary _ l o p =>
      parensIf (isWrapped o.op.precedence l.head?) l.text ++ (" " ++ o.word ++ " ") ++ names p

def term : Chain → Term
  | path p => .word (names p)
  | binary _ l o p => .binary (.arith o) l.term (.word (names p))

def tokens : Chain → List Token
  | path p => [.word (names p)]
  | binary _ l o p =>
      parenTokensIf (isWrapped o.op.precedence l.head?) l.tokens ++
        [.word (Infix.arith o).word, .word (names p)]

end Chain

/-! ## Rendering -/

namespace Chain

variable {s : Setup} {names : Path → String}

theorem operator?_operand (c : Chain) : (s.operand c.expr).operator? = c.head?.map (.op ·.op) := by
  cases c with
  | path p => cases p <;> rfl
  | binary type l o p => rfl

theorem isConstant_operand (c : Chain) : (s.operand c.expr).expr.isConstant = false := by
  cases c with
  | path p => cases p <;> rfl
  | binary type l o p => rfl

theorem get?_arith (hs : arithmetic.IsRenderedBy s) (o : ArithOp) :
    s.profile.registry.get? (.op o.op) =
      some ⟨⟨o.pattern, [.arg 0, .text (" " ++ o.word ++ " "), .arg 1]⟩, o.op.precedence, none⟩ :=
  hs.binary o

/-- An operand of a template is written with the parentheses that its outermost operator asks
for. -/
theorem writes_argument (hs : arithmetic.IsRenderedBy s) {c : Chain} {text : String}
    (h : Writes (s.operand c.expr).render text) (precedence : Int) :
    Writes (s.argument precedence (s.operand c.expr))
      (parensIf (isWrapped precedence c.head?) text) := by
  have hlooser : s.bindsLooser precedence (s.operand c.expr) =
      c.head?.any fun o ↦ decide (precedence < o.op.precedence) := by
    rw [Setup.bindsLooser, operator?_operand]
    cases c.head? with
    | none => rfl
    | some o => simp [Registry.precedence, get?_arith hs]
  rw [isWrapped, ← hlooser]
  exact Setup.writes_argument h precedence

theorem writes_expr (hs : arithmetic.IsRenderedBy s) {c : Chain}
    (hnames : ∀ p ∈ c.paths, s.Names p (names p)) :
    Writes (s.operand c.expr).render (c.text names) := by
  induction c with
  | path p => exact hnames p (by simp [paths])
  | binary type l o p ih =>
      simp only [paths, List.mem_append, List.mem_singleton] at hnames
      have hargs : ∀ a ∈ [s.operand l.expr, s.operand (path p).expr],
          a.expr.isConstant = false := by
        simpa using ⟨l.isConstant_operand, (path p).isConstant_operand⟩
      have hl := writes_argument hs (ih fun q hq ↦ hnames q (.inl hq)) o.op.precedence
      have hp : Writes (s.argument o.op.precedence (s.operand (path p).expr)) (names p) := by
        have hpath := writes_argument hs (c := .path p) (hnames p (.inr rfl)) o.op.precedence
        rwa [head?, isWrapped_none] at hpath
      have hbody := hl.append ((Writes.text (" " ++ o.word ++ " ")).append (hp.append .empty))
      rw [String.append_empty, ← Setup.apply_binary o.pattern, ← Setup.plain_eq (get?_arith hs o),
        ← Setup.unchanged_eq hargs, ← String.append_assoc] at hbody
      have hrender : (s.operand (binary type l o p).expr).render =
          s.inside o.op (s.unchanged o.op [s.operand l.expr, s.operand (path p).expr]) :=
        arithmetic.unchanged s o _
      rw [hrender]
      exact hbody.within _

end Chain

/-! ## Reading -/

theorem tokens?_parensIf {text : String} {ts : List Token} (h : tokens? text.toList = some ts)
    (b : Bool) : tokens? (parensIf b text).toList = some (parenTokensIf b ts) := by
  cases b with
  | false => exact h
  | true =>
      have hopening : Closes ['('] [.opening] := rfl
      have hclosing : tokens? [')'] = some [.closing] := rfl
      simpa [parensIf, parenTokensIf] using hopening.tokens?_append (tokens?_append h hclosing rfl)

theorem count_parenTokensIf (b : Bool) (ts : List Token) :
    (parenTokensIf b ts).count .opening = ts.count .opening + if b then 1 else 0 := by
  cases b <;> simp [parenTokensIf]

namespace Chain

variable {names : Path → String}

/-- A left operand gets parentheses just when it is looser than the operator behind it. -/
theorem isWrapped_precedence (o : ArithOp) (head? : Option ArithOp) :
    isWrapped o.op.precedence head? = decide (level head? < (Infix.arith o).level) := by
  rcases head? with _ | (_ | _ | _ | _) <;> rcases o with _ | _ | _ | _ <;> rfl

theorem tokens?_text {c : Chain} (hnames : ∀ p ∈ c.paths, IsName (names p)) :
    tokens? (c.text names).toList = some (c.tokens names) := by
  induction c with
  | path p => exact (hnames p (by simp [paths])).1
  | binary type l o p ih =>
      simp only [paths, List.mem_append, List.mem_singleton] at hnames
      have hl := tokens?_parensIf (ih fun q hq ↦ hnames q (.inl hq))
        (isWrapped o.op.precedence l.head?)
      have ho : Closes (" " ++ o.word ++ " ").toList [.word (Infix.arith o).word] := by
        cases o <;> rfl
      have hbehind := ho.tokens?_append (hnames p (.inr rfl)).1
      rw [text, String.toList_append, String.toList_append, List.append_assoc]
      refine tokens?_append hl hbehind ?_
      simp [isSeparated, isSeparator, punctuation?]

theorem derives_parenTokensIf {ts : List Token} {t : Term} {h : Option ArithOp}
    (hts : Derives (level h) ts t) (precedence : Int) :
    Derives (placedLevel precedence h) (parenTokensIf (isWrapped precedence h) ts) t := by
  unfold placedLevel
  cases isWrapped precedence h with
  | false => exact hts
  | true =>
      refine .parens (hts.mono ?_)
      rcases h with _ | (_ | _ | _ | _) <;> decide

/-- A chain is read as its tree. -/
theorem derives_tokens {c : Chain} (hnames : ∀ p ∈ c.paths, IsName (names p)) :
    Derives (level c.head?) (c.tokens names) (c.term names) := by
  induction c with
  | path p => exact .word (hnames p (by simp [paths])).2
  | binary type l o p ih =>
      simp only [paths, List.mem_append, List.mem_singleton] at hnames
      have hplaced := derives_parenTokensIf (ih fun q hq ↦ hnames q (.inl hq)) o.op.precedence
      have hright := (hnames p (.inr rfl)).2
      refine .binary (o := .arith o) (Nat.le_refl _) (hplaced.mono ?_) (.word hright)
      simp only [placedLevel, isWrapped_precedence, decide_eq_true_eq]
      split
      · cases o <;> decide
      · omega

/-- A chain has only the parentheses that it needs. -/
theorem openings_term (c : Chain) {k : Nat} (hk : k ≤ atomLevel) :
    (c.term names).openings k =
      (c.tokens names).count .opening + if level c.head? < k then 1 else 0 := by
  induction c generalizing k with
  | path p => simp [term, tokens, head?, level, Term.openings, Nat.not_lt.mpr hk]
  | binary type l o p ih =>
      have hlevel : (Infix.arith o).level ≤ atomLevel := by cases o <;> decide
      have hhead : level (binary type l o p).head? = (Infix.arith o).level := rfl
      simp [term, tokens, hhead, Term.openings, ih hlevel, count_parenTokensIf,
        isWrapped_precedence]
      omega

end Chain

end Calls

end TypedQuery
