import TypedQuery.Proofs.Calls.Chains

/-!
# Templates with operators around their slots

Some templates have operators beside their slots, yet one precedence for all of them. Substrings are
written with a precedence at which every operand is kept whole. Shifts of dates and powers are not:
where the precedence asks for no parentheses, an operand that is looser than its place is torn
apart, and the text is read as another term than the template with its operands.
-/

namespace TypedQuery

namespace Calls

open Reading (ArithOp parensIf)

/-- Tokens that are read as one term and no other. -/
def IsReadAs (tokens : Option (List Token)) (t : Term) : Prop :=
  ∀ u, (∃ ts ∈ tokens, Derives expressionLevel ts u) ↔ u = t

theorem isReadAs_some {ts : List Token} {t : Term} :
    IsReadAs (some ts) t ↔ Derives expressionLevel ts t := by
  simp only [IsReadAs, Option.mem_some_iff, exists_eq_left']
  constructor
  · exact fun h ↦ (h t).mpr rfl
  · intro ht u
    exact ⟨fun hu ↦ derives_unique hu ht, by rintro rfl; exact ht⟩

/-- A template with the term that it is read as around its slots, and the operators that are torn
apart in some of these. -/
structure Compound where
  op : Op
  template : Template
  precedence : Int
  shape : Term
  torn : List (Nat × ArithOp)

namespace Compound

def laterByInterval (op : Op) (unit : String) : Compound where
  op
  template :=
    ⟨"{0} + {1} * interval '1 " ++ unit ++ "'",
      [.arg 0, .text " + ", .arg 1, .text (" * interval '1 " ++ unit ++ "'")]⟩
  precedence := 13
  shape :=
    .binary (.arith .add) (.slot 0)
      (.binary (.arith .mult) (.slot 1) (.typed "interval" ("'1 " ++ unit ++ "'")))
  torn := [(1, .add), (1, .sub)]

def daysBetween : Compound where
  op := .diffDays
  template :=
    ⟨"date_part('day', {1} - {0})",
      [.text "date_part('day', ", .arg 1, .text " - ", .arg 0, .text ")"]⟩
  precedence := -1
  shape :=
    .call "date_part"
      (.binary .comma (.word "'day'") (.binary (.arith .sub) (.slot 1) (.slot 0)))
  torn := [(0, .add), (0, .sub)]

def laterByModifier (op : Op) (unit : String) : Compound where
  op
  template :=
    ⟨"date({0}, '+' || {1} || ' " ++ unit ++ "')",
      [.text "date(", .arg 0, .text ", '+' || ", .arg 1, .text (" || ' " ++ unit ++ "')")]⟩
  precedence := -1
  shape :=
    .call "date"
      (.binary .comma (.slot 0)
        (.binary .concat (.binary .concat (.word "'+'") (.slot 1)) (.word ("' " ++ unit ++ "'"))))
  torn := [(1, .add), (1, .sub), (1, .mult), (1, .div)]

def powerByLogarithm : Compound where
  op := .power
  template := ⟨"exp({1} * log({0}))", [.text "exp(", .arg 1, .text " * log(", .arg 0, .text "))"]⟩
  precedence := -1
  shape := .call "exp" (.binary (.arith .mult) (.slot 1) (.call "log" (.slot 0)))
  torn := [(1, .add), (1, .sub)]

def substring (f : String) : Compound where
  op := .substr2Args
  template :=
    ⟨f ++ "({0},{1}+1,{2}-{1})",
      [.text (f ++ "("), .arg 0, .text ",", .arg 1, .text "+1,", .arg 2, .text "-", .arg 1,
        .text ")"]⟩
  precedence := 12
  shape :=
    .call f
      (.binary .comma
        (.binary .comma (.slot 0) (.binary (.arith .add) (.slot 1) (.word "1")))
        (.binary (.arith .sub) (.slot 2) (.slot 1)))
  torn := []

def arity (c : Compound) : Nat :=
  match c.op.arity with
  | .exact n | .atLeast n => n

def slotTerm (names : Path → String) (operands : List Chain) (i : Nat) : Term :=
  operands[i]?.elim (.slot i) (Chain.term names)

/-- The term of the template with whole operands in its slots. -/
def whole (c : Compound) (names : Path → String) (operands : List Chain) : Term :=
  c.shape.fill (slotTerm names operands)

/-- Whether no operand has an operator that is torn apart in its slot. -/
def Keeps (c : Compound) (operands : List Chain) : Prop :=
  ∀ i operand o, operands[i]? = some operand → operand.head? = some o → (i, o) ∉ c.torn

end Compound

def compounds : List (String × Compound) :=
  [("postgres", .laterByInterval .addDays "day"), ("postgres", .laterByInterval .addMonths "month"),
    ("postgres", .laterByInterval .addYears "year"), ("postgres", .daysBetween),
    ("sqlite", .laterByModifier .addDays "days"), ("sqlite", .laterByModifier .addMonths "months"),
    ("sqlite", .laterByModifier .addYears "years"), ("derby", .powerByLogarithm),
    ("jpql", .substring "substring"), ("hql", .substring "substring"),
    ("postgres", .substring "substr"), ("mysql", .substring "substr"),
    ("sqlite", .substring "substr"), ("h2", .substring "substr"), ("derby", .substring "substr"),
    ("sql_server_2005", .substring "substring")]

namespace Compound

def arithOps : List ArithOp := [.add, .sub, .mult, .div]

theorem mem_arithOps (o : ArithOp) : o ∈ arithOps := by cases o <;> decide

/-- Whether an element is literal text or a plain slot for one of the first arguments. -/
def isSimple (n : Nat) : Element → Bool
  | .text _ => true
  | .arg i => decide (i < n)
  | _ => false

/-- The operators that are too loose for some place even with the parentheses they get. -/
def looseOps (c : Compound) : List (Nat × ArithOp) :=
  (c.shape.slots expressionLevel).flatMap fun s ↦
    (arithOps.filter fun o ↦ decide (Chain.placedLevel c.precedence (some o) < s.2)).map (s.1, ·)

/-- What can be seen from a template, its shape and its precedence alone. -/
@[mk_iff] structure IsSound (c : Compound) : Prop where
  simple : ∀ e ∈ c.template.elements, isSimple c.arity e = true
  tokens : templateTokens? c.template.elements = some c.shape.tokens
  flat : c.shape.isFlat expressionLevel = true
  slots : ∀ s ∈ c.shape.slots expressionLevel, s.1 < c.arity ∧ s.2 ≤ atomLevel
  torn : c.torn = c.looseOps
  unwrapped : c.torn = [] ∨ ∀ o ∈ arithOps, Chain.isWrapped c.precedence (some o) = false

theorem isSound_of_mem : ∀ row ∈ compounds, row.2.IsSound := by
  simp only [isSound_iff]
  decide +kernel

/-! ## Reading -/

section

variable (c : Compound) (names : Path → String) (operands : List Chain)

def slotText (i : Nat) : String :=
  operands[i]?.elim "" fun operand ↦
    parensIf (Chain.isWrapped c.precedence operand.head?) (operand.text names)

def slotTokens (i : Nat) : List Token :=
  operands[i]?.elim [] fun operand ↦
    parenTokensIf (Chain.isWrapped c.precedence operand.head?) (operand.tokens names)

def slotLevel (i : Nat) : Nat :=
  operands[i]?.elim 0 fun operand ↦ Chain.placedLevel c.precedence operand.head?

end

variable {c : Compound} {names : Path → String} {operands : List Chain}

theorem mem_looseOps {i : Nat} {o : ArithOp} :
    (i, o) ∈ c.looseOps ↔ ∃ s ∈ c.shape.slots expressionLevel,
      s.1 = i ∧ Chain.placedLevel c.precedence (some o) < s.2 := by
  simp only [looseOps, List.mem_flatMap, List.mem_map, List.mem_filter, mem_arithOps, true_and,
    decide_eq_true_eq, Prod.mk.injEq]
  constructor
  · rintro ⟨s, hs, o', hlt, rfl, rfl⟩
    exact ⟨s, hs, rfl, hlt⟩
  · rintro ⟨s, hs, rfl, hlt⟩
    exact ⟨s, hs, o, hlt, rfl, rfl⟩

theorem IsSound.exists_operand (hc : c.IsSound) (hlength : operands.length = c.arity)
    {s : Nat × Nat} (hs : s ∈ c.shape.slots expressionLevel) :
    ∃ operand, operands[s.1]? = some operand ∧ operand ∈ operands := by
  have hlt : s.1 < operands.length := hlength ▸ (hc.slots s hs).1
  exact ⟨operands[s.1], List.getElem?_eq_getElem hlt, List.getElem_mem hlt⟩

/-- Operands are kept just when each of them is tight enough for the places of its slot. -/
theorem IsSound.keeps_iff (hc : c.IsSound) (hlength : operands.length = c.arity) :
    c.Keeps operands ↔
      ∀ s ∈ c.shape.slots expressionLevel, s.2 ≤ c.slotLevel operands s.1 := by
  constructor
  · intro h s hs
    obtain ⟨operand, hoperand, _⟩ := hc.exists_operand hlength hs
    rw [slotLevel, hoperand, Option.elim_some]
    cases hhead : operand.head? with
    | none => exact Chain.placedLevel_none c.precedence ▸ (hc.slots s hs).2
    | some o =>
        have hnot := h s.1 operand o hoperand hhead
        rw [hc.torn, mem_looseOps] at hnot
        by_contra hloose
        exact hnot ⟨s, hs, rfl, Nat.lt_of_not_le hloose⟩
  · intro h i operand o hoperand hhead hmem
    rw [hc.torn, mem_looseOps] at hmem
    obtain ⟨s, hs, rfl, hlt⟩ := hmem
    have hle := h s hs
    rw [slotLevel, hoperand, Option.elim_some, hhead] at hle
    omega

theorem IsSound.isReadAs_shape (hc : c.IsSound) :
    IsReadAs (templateTokens? c.template.elements) c.shape := by
  rw [hc.tokens, isReadAs_some]
  exact derives_tokens hc.flat

/-- The text of a template with operands is read as the template with whole operands, and as
nothing else, just when these are kept. -/
theorem IsSound.isReadAs_iff (hc : c.IsSound) (hlength : operands.length = c.arity)
    (hnames : ∀ operand ∈ operands, ∀ p ∈ operand.paths, IsName (names p)) :
    IsReadAs (tokens? (filled (c.slotText names operands) c.template.elements).toList)
      (c.whole names operands) ↔ c.Keeps operands := by
  have htokens : tokens? (filled (c.slotText names operands) c.template.elements).toList =
      some (fillTokens (c.slotTokens names operands) c.shape.tokens) := by
    refine tokens?_filled hc.tokens fun i hi ↦ ?_
    have hlt : i < operands.length := by
      simpa [isSimple, hlength] using hc.simple _ hi
    have hoperand := List.getElem?_eq_getElem hlt
    rw [slotText, slotTokens, hoperand]
    exact tokens?_parensIf (Chain.tokens?_text (hnames _ (List.getElem_mem hlt))) _
  have hderives : ∀ s ∈ c.shape.slots expressionLevel, Derives (c.slotLevel operands s.1)
      (c.slotTokens names operands s.1) (slotTerm names operands s.1) := by
    intro s hs
    obtain ⟨operand, hoperand, hmem⟩ := hc.exists_operand hlength hs
    rw [slotLevel, slotTokens, slotTerm, hoperand]
    exact Chain.derives_parenTokensIf (Chain.derives_tokens (hnames operand hmem)) _
  rw [htokens, isReadAs_some, hc.keeps_iff hlength]
  rcases hc.unwrapped with htorn | hunwrapped
  · -- Operands may have more parentheses than they need here, but none is ever torn apart.
    have hkeeps : c.Keeps operands := fun i operand o _ _ ↦ by simp [htorn]
    rw [hc.keeps_iff hlength] at hkeeps
    exact iff_of_true (derives_fill hc.flat fun s hs ↦ (hderives s hs).mono (hkeeps s hs)) hkeeps
  · refine derives_fill_iff hderives (fun s hs ↦ ?_) hc.flat
    obtain ⟨operand, hoperand, hmem⟩ := hc.exists_operand hlength hs
    have hnone : Chain.isWrapped c.precedence operand.head? = false := by
      cases operand.head? with
      | none => exact Chain.isWrapped_none c.precedence
      | some o => exact hunwrapped o (mem_arithOps o)
    rw [slotLevel, slotTokens, slotTerm, hoperand]
    simp only [Option.elim_some, Chain.placedLevel, hnone, parenTokensIf]
    exact operand.openings_term (hc.slots s hs).2

end Compound

end Calls

end TypedQuery
