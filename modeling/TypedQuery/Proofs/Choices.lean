import TypedQuery.Proofs.Passages

/-!
# Choices

A choice is built from the right: each branch holds the ones behind it as its last argument. It is
written from the left, as one passage after the other, with the bindings of all of them in this
order. One dialect compares the base of a choice by values anew in every branch.
-/

namespace TypedQuery

namespace Passage

/-- Passages one behind the other, unless one of them fails. -/
def inOrder : List (Except Error Passage) → Except Error Passage
  | [] => .ok ""
  | p :: ps => p.bind fun before ↦ (inOrder ps).map (before ++ ·)

variable (ps qs rs : List (Except Error Passage))

theorem inOrder_append :
    inOrder (ps ++ qs) = (inOrder ps).bind fun before ↦ (inOrder qs).map (before ++ ·) := by
  induction ps with
  | nil =>
      cases h : inOrder qs with
      | error e => rw [List.nil_append, h]; rfl
      | ok q => simp [inOrder, h, Except.bind, Except.map, ofText]
  | cons p ps ih =>
      rw [List.cons_append, inOrder, inOrder, ih]
      cases p with
      | error e => rfl
      | ok p =>
          cases inOrder ps with
          | error e => rfl
          | ok before =>
              cases inOrder qs with
              | error e => rfl
              | ok behind => exact congrArg Except.ok (append_assoc p before behind).symm

/-- Passages that are put together first can as well stand among the others. -/
theorem inOrder_nested : inOrder (ps ++ inOrder qs :: rs) = inOrder (ps ++ qs ++ rs) := by
  rw [List.append_assoc, inOrder_append, inOrder_append ps, inOrder_append qs]
  rfl

end Passage

open Passage (inOrder)

namespace Rendering

theorem passage_concat (rs : List Rendering) (scope : Scope) :
    (concat rs).passage scope = inOrder (rs.map fun r ↦ r.passage scope) := by
  induction rs with
  | nil =>
      show Except.ok (Passage.mk (layout .anonymous []).1 (layout .anonymous []).2) = _
      simp [layout, Layout.anonymous, inOrder, Passage.ofText]
  | cons r rs ih =>
      rw [concat, passage_append, ih]
      rfl

end Rendering

/-! ## Templates of choices -/

namespace Dialect

/-- The template of a choice by values: of its base and its branches, or of its branches alone. -/
def switchTemplate (name : String) : Template :=
  if name = "derby" then ⟨"case {1} end", [.text "case ", .arg 1, .text " end"]⟩
  else ⟨"case {0} {1} end", [.text "case ", .arg 0, .text " ", .arg 1, .text " end"]⟩

/-- The template of a branch of such a choice. -/
def valueTemplate (name : String) : Template :=
  if name = "derby" then
    ⟨"when {0} = {1} then {2} {3}",
      [.text "when ", .arg 0, .text " = ", .arg 1, .text " then ", .arg 2, .text " ", .arg 3]⟩
  else
    ⟨"when {1} then {2} {3}",
      [.text "when ", .arg 1, .text " then ", .arg 2, .text " ", .arg 3]⟩

/-- The templates of choices in the known dialects and their precedences. -/
def choiceTemplates (name : String) : List (Op × Template × Int) :=
  [(.case, ⟨"case {0} end", [.text "case ", .arg 0, .text " end"]⟩, -1),
    (.caseWhen, ⟨"when {0} then {1} {2}",
      [.text "when ", .arg 0, .text " then ", .arg 1, .text " ", .arg 2]⟩, 0),
    (.caseElse, ⟨"else {0}", [.text "else ", .arg 0]⟩, -1),
    (.caseEq, switchTemplate name, -1),
    (.caseEqWhen, valueTemplate name, 0),
    (.caseEqElse, ⟨"else {0}", [.text "else ", .arg 0]⟩, -1)]

theorem choiceTemplates_registered : ∀ r ∈ recipes, ∀ row ∈ choiceTemplates r.1,
    (Template.parse row.2.1.pattern).toOption = some row.2.1 ∧
      (lastRegistered? (.op row.1) r.2.2 = some (row.2.1.pattern, row.2.2, none) ∨
        row.2.2 = row.1.precedence ∧ (row.1, row.2.1.pattern) ∈ Registry.baseOps ∧
          isInherited r.2.1 r.2.2 (.op row.1) = true) := by
  decide +kernel

theorem get?_of_mem_choiceTemplates {name : String} {d : Dialect}
    (hd : (name, Except.ok d) ∈ known) {row : Op × Template × Int}
    (hrow : row ∈ choiceTemplates name) :
    d.registry.get? (.op row.1) = some ⟨row.2.1, row.2.2, none⟩ := by
  obtain ⟨r, hr, rfl, hbuild⟩ := exists_recipe_of_mem hd
  obtain ⟨hparse, hregistered⟩ := choiceTemplates_registered r hr row hrow
  refine get?_op_of_registered hbuild ?_ hregistered
  cases hread : Template.parse row.2.1.pattern with
  | error e => rw [hread] at hparse; cases hparse
  | ok t => rw [hread] at hparse; exact congrArg Except.ok (Option.some.inj hparse)

/-- With anonymous placeholders no operator has collections written as their elements. -/
theorem wrapElements_of_mem_anonymousNames {name : String} {d : Dialect}
    (hd : (name, Except.ok d) ∈ known) (hname : name ∈ anonymousNames) : d.wrapElements = [] := by
  obtain ⟨r, hr, rfl, hbuild⟩ := exists_recipe_of_mem hd
  have hfree : ∀ r ∈ recipes, r.1 ∈ anonymousNames → r.2.2.any Setting.isWrapping = false := by
    decide
  exact wrapElements_of_build hbuild (hfree r hr hname)

end Dialect

/-! ## Written choices -/

namespace Serializer

section

variable (s : Serializer)

def written (e : Expr) : Except Error Passage := (s.expr e).map fun t ↦ ⟨t.text, t.bindings⟩

/-- Whether an expression is an operation that binds looser than any operand does. -/
def isLoose : Expr → Bool
  | .operation _ operator _ => decide (0 < s.dialect.registry.precedence operator)
  | _ => false

/-- What an expression is written as between the words of a branch. -/
def whole (e : Expr) : Except Error Passage :=
  if s.isLoose e then inOrder [.ok "(", s.written e, .ok ")"] else s.written e

def branch (b : Expr × Expr) : List (Except Error Passage) :=
  [.ok "when ", s.whole b.1, .ok " then ", s.whole b.2, .ok " "]

/-- A branch that compares the base of a choice with its own value. -/
def comparison (base : Expr) (b : Expr × Expr) : List (Except Error Passage) :=
  [.ok "when ", s.whole base, .ok " = ", s.whole b.1, .ok " then ", s.whole b.2, .ok " "]

def closing (otherwise : Expr) : List (Except Error Passage) :=
  [.ok "else ", s.written otherwise, .ok " end"]

end

variable {s : Serializer}

theorem written_eq (hs : s.dialect.placeholders = .anonymous) (e : Expr) :
    s.written e = (s.setup.operand e).render.passage {} := by
  rw [written, expr, statement, Setup.expr, Rendering.passage, hs]
  cases (s.setup.operand e).render {} <;> rfl

theorem bindsLooser_operand (e : Expr) :
    s.setup.bindsLooser 0 (s.setup.operand e) = s.isLoose e := by
  cases e with
  | path p => cases p <;> rfl
  | _ => rfl

theorem passage_argument_neg (hs : s.dialect.placeholders = .anonymous) (e : Expr) :
    (s.setup.argument (-1) (s.setup.operand e)).passage {} = s.written e :=
  (written_eq hs e).symm

theorem passage_argument_zero (hs : s.dialect.placeholders = .anonymous) (e : Expr) :
    (s.setup.argument 0 (s.setup.operand e)).passage {} = s.whole e := by
  have hargument : s.setup.argument 0 (s.setup.operand e) =
      if s.isLoose e then (s.setup.operand e).render.parenthesized
      else (s.setup.operand e).render := by
    rw [← bindsLooser_operand]
    rfl
  rw [hargument, whole, written_eq hs]
  cases s.isLoose e with
  | false => rfl
  | true =>
      have hconcat : (s.setup.operand e).render.parenthesized =
          .concat [.text "(", (s.setup.operand e).render, .text ")"] := by
        simp only [Rendering.concat, Rendering.append_empty]
        exact Rendering.append_assoc _ _ _
      rw [if_pos rfl, if_pos rfl, hconcat, Rendering.passage_concat, List.map_cons, List.map_cons,
        List.map_cons, Rendering.passage_text, Rendering.passage_text]
      rfl

/-- Serializers that write choices as the known dialect of a name does. -/
structure WritesChoices (s : Serializer) (name : String) : Prop where
  placeholders : s.dialect.placeholders = .anonymous
  wrapElements : s.dialect.wrapElements = []
  get?_of_mem : ∀ row ∈ Dialect.choiceTemplates name,
    s.dialect.registry.get? (.op row.1) = some ⟨row.2.1, row.2.2, none⟩

theorem writesChoices_of_mem_known {name : String} (hmem : (name, .ok s.dialect) ∈ Dialect.known)
    (hname : name ∈ Dialect.anonymousNames) : s.WritesChoices name where
  placeholders := (Dialect.placeholders_eq_anonymous_iff hmem).mpr hname
  wrapElements := Dialect.wrapElements_of_mem_anonymousNames hmem hname
  get?_of_mem _ hrow := Dialect.get?_of_mem_choiceTemplates hmem hrow

namespace WritesChoices

variable {name : String} {op : Op} {t : Template} {precedence : Int}

theorem operationRendering_eq (hrow : (op, t, precedence) ∈ Dialect.choiceTemplates name)
    (args : List Operand) :
    s.setup.operationRendering (.op op) args = s.setup.inside op (s.setup.plain (.op op) args) := by
  have hop : op ∈ [Op.case, .caseWhen, .caseElse, .caseEq, .caseEqWhen, .caseEqElse] :=
    List.mem_map_of_mem (f := Prod.fst) hrow
  simp only [List.mem_cons, List.not_mem_nil, or_false] at hop
  rw [Setup.operationRendering]
  rcases hop with rfl | rfl | rfl | rfl | rfl | rfl <;> cases s.setup.profile.family <;> rfl

theorem written_operation (hs : s.WritesChoices name)
    (hrow : (op, t, precedence) ∈ Dialect.choiceTemplates name) (type : ValueType)
    (args : List Expr) :
    s.written (.operation type (.op op) args) =
      inOrder (t.elements.map fun element ↦
        (s.setup.element (s.setup.textOperation Setup.expansionDepth) t.pattern precedence
          (args.map s.setup.operand) element).passage {}) := by
  have hget : s.setup.profile.registry.get? (.op op) = some ⟨t, precedence, none⟩ :=
    hs.get?_of_mem _ hrow
  have hwraps : s.setup.profile.wrapsElements op = false := by
    simp [Profile.wrapsElements, setup, hs.wrapElements]
  have hrender : (s.setup.operand (.operation type (.op op) args)).render =
      s.setup.operationRendering (.op op) (args.map s.setup.operand) := by
    rw [Setup.operand, Setup.operands_eq_map]
    rfl
  rw [written_eq hs.placeholders, hrender, operationRendering_eq hrow, Setup.plain_eq hget,
    Setup.inside, Rendering.passage_within, hwraps, Setup.apply, Rendering.passage_concat,
    List.map_map]
  rfl

theorem isLoose_operation (hs : s.WritesChoices name)
    (hrow : (op, t, precedence) ∈ Dialect.choiceTemplates name) (type : ValueType)
    (args : List Expr) : s.isLoose (.operation type (.op op) args) = decide (0 < precedence) := by
  rw [isLoose, Registry.precedence, hs.get?_of_mem _ hrow]

/-! ### Chains of branches -/

theorem written_case (hs : s.WritesChoices name) (type : ValueType) (chain : Expr) :
    s.written (.operation type (.op .case) [chain]) =
      inOrder [.ok "case ", s.written chain, .ok " end"] := by
  rw [hs.written_operation (.head _), ← passage_argument_neg hs.placeholders]
  rfl

theorem written_caseWhen (hs : s.WritesChoices name) (type : ValueType) (b : Expr × Expr)
    (rest : Expr) :
    s.written (.operation type (.op .caseWhen) [b.1, b.2, rest]) =
      inOrder (s.branch b ++ [s.whole rest]) := by
  rw [hs.written_operation (.tail _ (.head _))]
  simp only [branch, ← passage_argument_zero hs.placeholders]
  rfl

theorem written_caseElse (hs : s.WritesChoices name) (type : ValueType) (otherwise : Expr) :
    s.written (.operation type (.op .caseElse) [otherwise]) =
      inOrder [.ok "else ", s.written otherwise] := by
  rw [hs.written_operation (.tail _ (.tail _ (.head _))), ← passage_argument_neg hs.placeholders]
  rfl

theorem written_caseEq (hs : s.WritesChoices name) (type : ValueType) (base chain : Expr) :
    s.written (.operation type (.op .caseEq) [base, chain]) =
      inOrder (if name = "derby" then [.ok "case ", s.written chain, .ok " end"]
        else [.ok "case ", s.written base, .ok " ", s.written chain, .ok " end"]) := by
  rw [hs.written_operation (.tail _ (.tail _ (.tail _ (.head _)))), Dialect.switchTemplate,
    ← passage_argument_neg hs.placeholders base, ← passage_argument_neg hs.placeholders chain]
  split <;> rfl

theorem written_caseEqWhen (hs : s.WritesChoices name) (type : ValueType) (base : Expr)
    (b : Expr × Expr) (rest : Expr) :
    s.written (.operation type (.op .caseEqWhen) [base, b.1, b.2, rest]) =
      inOrder ((if name = "derby" then s.comparison base b else s.branch b) ++ [s.whole rest]) := by
  rw [hs.written_operation (.tail _ (.tail _ (.tail _ (.tail _ (.head _))))),
    Dialect.valueTemplate]
  simp only [comparison, branch, ← passage_argument_zero hs.placeholders]
  split <;> rfl

theorem written_caseEqElse (hs : s.WritesChoices name) (type : ValueType) (otherwise : Expr) :
    s.written (.operation type (.op .caseEqElse) [otherwise]) =
      inOrder [.ok "else ", s.written otherwise] := by
  rw [hs.written_operation (.tail _ (.tail _ (.tail _ (.tail _ (.tail _ (.head _)))))),
    ← passage_argument_neg hs.placeholders]
  rfl

end WritesChoices

/-! ### Chains of branches -/

theorem whole_of_not_isLoose {e : Expr} (h : s.isLoose e = false) : s.whole e = s.written e := by
  rw [whole, h]
  rfl

/-- A chain is written branch by branch when each link is written in front of what it holds. -/
theorem written_foldr {link : Expr × Expr → Expr → Expr} {last : Expr}
    {pieces : Expr × Expr → List (Except Error Passage)} {ends : List (Except Error Passage)}
    (hlink : ∀ b rest, s.written (link b rest) = inOrder (pieces b ++ [s.whole rest]))
    (htight : ∀ b rest, s.isLoose (link b rest) = false)
    (hlast : s.written last = inOrder ends) (hlastTight : s.isLoose last = false)
    (branches : List (Expr × Expr)) :
    s.written (branches.foldr link last) = inOrder (branches.flatMap pieces ++ ends) := by
  induction branches with
  | nil => exact hlast
  | cons b branches ih =>
      -- what a link holds is a link or the end of the chain, so that it needs no parentheses
      have hwhole : s.whole (branches.foldr link last) = s.written (branches.foldr link last) := by
        refine whole_of_not_isLoose ?_
        cases branches with
        | nil => exact hlastTight
        | cons next branches => exact htight next _
      rw [List.foldr_cons, hlink, hwhole, ih, List.flatMap_cons, List.append_assoc,
        Passage.inOrder_nested, List.append_nil]

namespace WritesChoices

variable {name : String} (hs : s.WritesChoices name) (branches : List (Expr × Expr))
  (otherwise : Expr)

include hs

theorem written_conditions (type : ValueType) :
    s.written (branches.foldr (fun b rest ↦ .operation type (.op .caseWhen) [b.1, b.2, rest])
        (.operation type (.op .caseElse) [otherwise])) =
      inOrder (branches.flatMap s.branch ++ [.ok "else ", s.written otherwise]) :=
  written_foldr (hs.written_caseWhen type)
    (fun b rest ↦ hs.isLoose_operation (.tail _ (.head _)) type [b.1, b.2, rest])
    (hs.written_caseElse type otherwise)
    (hs.isLoose_operation (.tail _ (.tail _ (.head _))) type [otherwise]) branches

theorem written_values (type : ValueType) (base : Expr) :
    s.written (branches.foldr
        (fun b rest ↦ .operation type (.op .caseEqWhen) [base, b.1, b.2, rest])
        (.operation type (.op .caseEqElse) [otherwise])) =
      inOrder (branches.flatMap (fun b ↦ if name = "derby" then s.comparison base b else s.branch b)
        ++ [.ok "else ", s.written otherwise]) :=
  written_foldr (hs.written_caseEqWhen type base)
    (fun b rest ↦ hs.isLoose_operation (.tail _ (.tail _ (.tail _ (.tail _ (.head _))))) type
      [base, b.1, b.2, rest])
    (hs.written_caseEqElse type otherwise)
    (hs.isLoose_operation (.tail _ (.tail _ (.tail _ (.tail _ (.tail _ (.head _)))))) type
      [otherwise]) branches

theorem written_caseOf :
    s.written (.caseOf branches otherwise) =
      inOrder (.ok "case " :: (branches.flatMap s.branch ++ s.closing otherwise)) := by
  refine (hs.written_case _ _).trans ?_
  refine (congrArg (fun p ↦ inOrder [.ok "case ", p, .ok " end"])
    (hs.written_conditions branches otherwise _)).trans ?_
  refine (Passage.inOrder_nested [.ok "case "] _ [.ok " end"]).trans ?_
  simp [closing]

theorem written_switchOn (base : Expr) :
    s.written (.switchOn base branches otherwise) =
      inOrder (if name = "derby" then
          .ok "case " :: (branches.flatMap (s.comparison base) ++ s.closing otherwise)
        else
          .ok "case " :: s.written base :: .ok " " ::
            (branches.flatMap s.branch ++ s.closing otherwise)) := by
  have hvalues := hs.written_values branches otherwise (Expr.choiceType branches otherwise) base
  refine (hs.written_caseEq _ base _).trans ?_
  by_cases hname : name = "derby"
  · simp only [if_pos hname] at hvalues ⊢
    refine (congrArg (fun p ↦ inOrder [.ok "case ", p, .ok " end"]) hvalues).trans ?_
    refine (Passage.inOrder_nested [.ok "case "] _ [.ok " end"]).trans ?_
    simp [closing]
  · simp only [if_neg hname] at hvalues ⊢
    refine (congrArg (fun p ↦ inOrder [.ok "case ", s.written base, .ok " ", p, .ok " end"])
      hvalues).trans ?_
    refine (Passage.inOrder_nested [.ok "case ", s.written base, .ok " "] _ [.ok " end"]).trans ?_
    simp [closing]

end WritesChoices

/-- A choice is written from its first branch to its last, with the bindings of its pieces in this
order. A choice by values writes its base in front of the branches or, in one dialect, in each. -/
theorem written_choices {name : String} (hmem : (name, .ok s.dialect) ∈ Dialect.known)
    (hname : name ∈ Dialect.anonymousNames) (branches : List (Expr × Expr)) (otherwise : Expr) :
    s.written (.caseOf branches otherwise) =
        inOrder (.ok "case " :: (branches.flatMap s.branch ++ s.closing otherwise)) ∧
      ∀ base, s.written (.switchOn base branches otherwise) =
        inOrder (if name = "derby" then
            .ok "case " :: (branches.flatMap (s.comparison base) ++ s.closing otherwise)
          else
            .ok "case " :: s.written base :: .ok " " ::
              (branches.flatMap s.branch ++ s.closing otherwise)) :=
  have hs := writesChoices_of_mem_known hmem hname
  ⟨hs.written_caseOf branches otherwise, hs.written_switchOn branches otherwise⟩

theorem written_param (hs : s.dialect.placeholders = .anonymous) (p : Param) :
    s.written (.param p) = .ok ⟨"?", [.param p]⟩ := by
  rw [written_eq hs]
  rfl

/-- Two sizes, told apart by a number. -/
def sizeOf (number : Expr) : Expr :=
  .switchOn number [(.param ⟨.i32, "low"⟩, .param ⟨.string, "small"⟩),
    (.param ⟨.i32, "high"⟩, .param ⟨.string, "large"⟩)] (.param ⟨.string, "other"⟩)

theorem written_sizeOf : ∃ s : Serializer, ("derby", .ok s.dialect) ∈ Dialect.known ∧
    "derby" ∈ Dialect.anonymousNames ∧
    s.written (sizeOf (.param ⟨.i32, "n"⟩)) =
      .ok ⟨"case when ? = ? then ? when ? = ? then ? else ? end",
        [.param ⟨.i32, "n"⟩, .param ⟨.i32, "low"⟩, .param ⟨.string, "small"⟩,
          .param ⟨.i32, "n"⟩, .param ⟨.i32, "high"⟩, .param ⟨.string, "large"⟩,
          .param ⟨.string, "other"⟩]⟩ := by
  have hmem : ("derby", Dialect.derby) ∈ Dialect.known := by simp [Dialect.known]
  obtain ⟨d, hd⟩ := Dialect.exists_of_mem_known _ hmem
  have hknown : ("derby", .ok d) ∈ Dialect.known := by
    have hbuild : Dialect.derby = .ok d := hd
    rwa [hbuild] at hmem
  have hname : "derby" ∈ Dialect.anonymousNames := by decide
  have hparam := written_param (s := { dialect := d })
    ((Dialect.placeholders_eq_anonymous_iff hknown).mpr hname)
  refine ⟨{ dialect := d }, hknown, hname, ?_⟩
  refine ((written_choices (s := { dialect := d }) hknown hname _ _).2 _).trans ?_
  rw [if_pos rfl]
  simp only [List.flatMap_cons, List.flatMap_nil, comparison, closing, hparam, whole, isLoose]
  rfl

end Serializer

end TypedQuery
