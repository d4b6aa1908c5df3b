import TypedQuery.Proofs.Injection.Statements
import TypedQuery.Proofs.Projections.Operands

/-!
# Expressions without factories

A projection writes the items of a factory without parentheses. An expression that has no factory
outside of its sub-queries is therefore written in a projection as anywhere else.
-/

namespace TypedQuery

open List (Forall₂)

mutual

/-- Whether all factories of an expression stand in sub-queries, and the flags of these are plain
text. -/
def Expr.isFactoryFree : Expr → Bool
  | .constant _ | .param _ => true
  | .path p => p.isFactoryFree
  | .operation _ _ args | .template _ _ args => areFactoryFree args
  | .subQuery _ _ q => q.flags.all Flag.isText
  | .factory _ _ _ => false

def Path.isFactoryFree : Path → Bool
  | .root _ _ => true
  | .property _ parent _ | .listIndex _ parent _ | .mapKey _ parent _
  | .collectionAny _ parent => parent.isFactoryFree
  | .listValue _ parent index | .mapValue _ parent index =>
      parent.isFactoryFree && index.isFactoryFree

def areFactoryFree : List Expr → Bool
  | [] => true
  | e :: es => e.isFactoryFree && areFactoryFree es

end

theorem areFactoryFree_eq_all (es : List Expr) : areFactoryFree es = es.all Expr.isFactoryFree := by
  induction es with
  | nil => rfl
  | cons e es ih => rw [areFactoryFree, List.all_cons, ih]

theorem Path.SameFace.refl (p : Path) : p.SameFace p := ⟨rfl, rfl, rfl, rfl⟩

namespace Setup

variable {s : Setup} {b b' : Bool}

theorem agree_subQuery (identity : Nat) (type : ValueType) {q : Query Expr}
    (h : q.flags.all Flag.isText = true) :
    Operand.Agree b b' (s.operand (.subQuery identity type q))
      (s.operand (.subQuery identity type q)) := by
  have hflags : (s.queryOperands q).flags.all Flag.isText = true := by
    cases q
    exact (isText_flagOperands _).trans h
  exact .subQuery (Expr.sameFace_of_type rfl rfl rfl rfl rfl) fun projection ↦
    (isScopeFree_query hflags false projection).agree

theorem agree_operands {es : List Expr} (h : ∀ e ∈ es, e.isFactoryFree = true →
    Operand.Agree b b' (s.operand e) (s.operand e)) (hfree : areFactoryFree es = true) :
    Forall₂ (Operand.Agree b b') (s.operands es) (s.operands es) := by
  rw [areFactoryFree_eq_all, List.all_eq_true] at hfree
  rw [operands_eq_map]
  exact forall₂_map_self fun e he ↦ h e he (hfree e he)

theorem hereditary_agree (s : Setup) (b b' : Bool) :
    Hereditary (fun e ↦ e.isFactoryFree = true → Operand.Agree b b' (s.operand e) (s.operand e))
      fun p ↦ p.isFactoryFree = true →
        Operand.Agree b b' (s.pathOperand p) (s.pathOperand p) where
  constant c _ := s.agree_constant c
  param p _ := agree_param p
  path p h hp := h hp
  operation type operator args h hargs := agree_operation type operator (agree_operands h hargs)
  subQuery identity type q _ hq := agree_subQuery identity type hq
  factory type maker args _ hfactory := nomatch hfactory
  template type t args h hargs := agree_template type t (agree_operands h hargs)
  root type name _ := s.agree_rootStep type name
  property type parent name h hp := agree_propertyStep type rfl (h hp) name
  listValue type parent index h hi hp := by
    obtain ⟨hparent, hindex⟩ := Bool.and_eq_true_iff.mp hp
    exact agree_step (.refl _) (.cons (h hparent) (.cons (hi hindex) .nil))
  listIndex type parent index h hp :=
    agree_step (.refl _) (.cons (h hp) (.cons (s.agree_count index) .nil))
  mapValue type parent key h hk hp := by
    obtain ⟨hparent, hkey⟩ := Bool.and_eq_true_iff.mp hp
    exact agree_step (.refl _) (.cons (h hparent) (.cons (hk hkey) .nil))
  mapKey type parent key h hp :=
    agree_step (.refl _) (.cons (h hp) (.cons (s.agree_value key) .nil))
  collectionAny type parent h hp := agree_step (.refl _) (.cons (h hp) .nil)

/-- Without factories an expression writes the same in a projection and outside of one. -/
theorem agree_of_isFactoryFree {e : Expr} (h : e.isFactoryFree = true) :
    Operand.Agree b b' (s.operand e) (s.operand e) :=
  (s.hereditary_agree b b').of_expr e h

end Setup

end TypedQuery
