import TypedQuery.Proofs.Calls.Compounds
import TypedQuery.Proofs.Reading.ArithmeticTexts

/-!
# Statements of templates with operators

What a dialect writes for an operation whose template has operators beside its slots, and when the
text is read as the template with whole operands.
-/

namespace TypedQuery

open Rendering (Writes)

namespace Calls

open Reading (ArithOp arithmetic parensIf)

namespace Compound

/-! ## Templates of the dialects -/

/-- Where a dialect has the template of a compound from: its own settings, the base, or the object
query languages. -/
theorem origin_of_mem : ∀ row ∈ compounds, ∀ r ∈ Dialect.recipes, r.1 = row.1 →
    Dialect.lastRegistered? (.op row.2.op) r.2.2 =
        some (row.2.template.pattern, row.2.precedence, none) ∨
      row.2.precedence = row.2.op.precedence ∧
        ((row.2.op, row.2.template.pattern) ∈ Registry.baseOps ∧
            Dialect.isInherited r.2.1 r.2.2 (.op row.2.op) = true ∨
          r.2.1 = .jpql ∧ (row.2.op, row.2.template.pattern) ∈ Registry.jpqlOps ∧
            row.2.op ≠ .concat ∧ Dialect.lastRegistered? (.op row.2.op) r.2.2 = none) := by
  decide +kernel

theorem parse_of_mem : ∀ row ∈ compounds,
    (Template.parse row.2.template.pattern).toOption = some row.2.template := by
  decide +kernel

theorem get?_of_mem {name : String} {c : Compound} (hc : (name, c) ∈ compounds) {d : Dialect}
    (hd : (name, Except.ok d) ∈ Dialect.known) :
    d.registry.get? (.op c.op) = some ⟨c.template, c.precedence, none⟩ := by
  obtain ⟨⟨_, family, settings⟩, hr, rfl, hbuild⟩ := Dialect.exists_recipe_of_mem hd
  have hregistered : Dialect.Registered d (.op c.op) (c.template.pattern, c.precedence, none) := by
    rcases origin_of_mem _ hc _ hr rfl with hown | ⟨hprecedence, ⟨hbase, hinherited⟩ | hjpql⟩
    · obtain ⟨start, _, hfold⟩ := Dialect.exists_of_build hbuild
      exact (Dialect.registered_of_foldlM_set hfold _).1 _ hown
    · exact hprecedence ▸ Dialect.get?_op_of_isInherited hbuild hbase hinherited
    · obtain ⟨rfl, hmem, hconcat, hsettings⟩ := hjpql
      exact hprecedence ▸ Dialect.get?_op_of_mem_jpqlOps hbuild hmem hconcat hsettings
  obtain ⟨t, hparse, hget⟩ := hregistered
  have htemplate : some t = some c.template := by
    rw [← parse_of_mem _ hc, hparse]
    rfl
  rw [hget, Option.some.inj htemplate]

/-! ## Rendering -/

variable {s : Setup} {c : Compound} {names : Path → String} {operands : List Chain}

theorem operationRendering_of_mem {row : String × Compound} (hrow : row ∈ compounds)
    (args : List Operand) : s.operationRendering (.op row.2.op) args =
      s.inside row.2.op (s.unchanged row.2.op args) := by
  have hops : ∀ row ∈ compounds, row.2.op ∈ [Op.addDays, .addMonths, .addYears, .diffDays, .power,
      .substr2Args] := by
    decide +kernel
  have hop := hops row hrow
  simp only [List.mem_cons, List.not_mem_nil, or_false] at hop
  rcases hop with hop | hop | hop | hop | hop | hop <;>
    simp only [hop, Setup.operationRendering] <;> cases s.profile.family <;> rfl

/-- A template of texts and plain slots is written as its text with the arguments in it. -/
theorem writes_apply {t : Template} {precedence : Int} {args : List Operand} {w : Nat → String}
    (hsimple : ∀ e ∈ t.elements, isSimple args.length e = true)
    (hargs : ∀ i a, args[i]? = some a → Writes (s.argument precedence a) (w i)) :
    Writes (s.apply t precedence args) (filled w t.elements) := by
  obtain ⟨pattern, elements⟩ := t
  dsimp only at hsimple ⊢
  rw [Setup.apply]
  induction elements with
  | nil => exact .empty
  | cons e es ih =>
      have hrest := ih fun e he ↦ hsimple e (List.mem_cons_of_mem _ he)
      refine Writes.append ?_ hrest
      have he := hsimple e List.mem_cons_self
      cases e with
      | text text => exact .text text
      | arg i =>
          have hi : i < args.length := by simpa [isSimple] using he
          have ha := List.getElem?_eq_getElem hi
          simp only [Setup.element, Setup.element.withArg, ha]
          exact hargs i _ ha
      | _ => cases he

/-- An operation with the template of a compound is written as the template with its operands. -/
theorem writes_operation {name : String} (hc : (name, c) ∈ compounds)
    (hs : arithmetic.IsRenderedBy s)
    (hget : s.profile.registry.get? (.op c.op) = some ⟨c.template, c.precedence, none⟩)
    (hlength : operands.length = c.arity)
    (hnames : ∀ operand ∈ operands, ∀ p ∈ operand.paths, s.Names p (names p))
    (type : ValueType) :
    Writes (s.operand (.operation type (.op c.op) (operands.map Chain.expr))).render
      (filled (c.slotText names operands) c.template.elements) := by
  have hrender : (s.operand (.operation type (.op c.op) (operands.map Chain.expr))).render =
      s.inside c.op (s.unchanged c.op ((operands.map Chain.expr).map s.operand)) := by
    rw [← operationRendering_of_mem hc, ← Setup.operands_eq_map]
    rfl
  have hconstants : ∀ a ∈ (operands.map Chain.expr).map s.operand, a.expr.isConstant = false := by
    simp only [List.map_map, List.mem_map]
    rintro a ⟨operand, _, rfl⟩
    exact operand.isConstant_operand
  rw [hrender, Setup.unchanged_eq hconstants, Setup.plain_eq hget]
  refine Writes.within (writes_apply ?_ fun i a ha ↦ ?_) _
  · simpa [hlength] using (isSound_of_mem _ hc).simple
  · simp only [List.map_map, List.getElem?_map, Option.map_eq_some_iff] at ha
    obtain ⟨operand, hoperand, rfl⟩ := ha
    rw [slotText, hoperand]
    exact Chain.writes_argument hs
      (Chain.writes_expr hs (hnames operand (List.mem_of_getElem? hoperand))) c.precedence

end Compound

end Calls

open Calls

namespace Serializer

/-- What the operands of an operation are written from: arithmetic that is grouped from the left,
over paths whose texts are names. -/
structure HasNames (s : Serializer) (names : Path → String) (operands : List Chain) : Prop where
  named : ∀ operand ∈ operands, ∀ p ∈ operand.paths, s.setup.Names p (names p)
  word : ∀ operand ∈ operands, ∀ p ∈ operand.paths, IsName (names p)

/-- An operation whose template has operators beside its slots is read as the template with its
operands as wholes, and as nothing else, just when no operand has an operator that is torn apart in
its slot. -/
theorem serialize_compound {s : Serializer} {name : String} {c : Compound}
    (hc : (name, c) ∈ compounds) (hdialect : (name, Except.ok s.dialect) ∈ Dialect.known)
    {names : Path → String} {operands : List Chain} (hlength : operands.length = c.arity)
    (hnames : s.HasNames names operands) (type : ValueType) :
    s.dialect.registry.get? (.op c.op) = some ⟨c.template, c.precedence, none⟩ ∧
      IsReadAs (templateTokens? c.template.elements) c.shape ∧
      ∃ text, s.serialize (.expr (.operation type (.op c.op) (operands.map Chain.expr))) =
          .ok ⟨text, [], {}⟩ ∧
        (IsReadAs (tokens? text.toList) (c.whole names operands) ↔ c.Keeps operands) := by
  have hsound : c.IsSound := Compound.isSound_of_mem _ hc
  have hget := Compound.get?_of_mem hc hdialect
  have hrendered := Reading.arithmetic.isRenderedBy_of_isKnown ⟨name, hdialect⟩
  have hwrites := Compound.writes_operation hc hrendered hget hlength hnames.named type
  exact ⟨hget, hsound.isReadAs_shape, _, statement_of_writes hwrites {},
    hsound.isReadAs_iff hlength hnames.word⟩

/-! ### Powers of cats -/

def catName : Path → String
  | .property _ _ name => "cat." ++ name
  | _ => ""

theorem hasNames_of_catNumber {d : Dialect} (hknown : d.IsKnown) (hquote : d.quote = none)
    {operands : List Chain} (h : ∀ operand ∈ operands, ∀ p ∈ operand.paths,
      ∃ name ∈ ["weight", "age", "height"], p = catNumber name) :
    HasNames { dialect := d } catName operands := by
  have hword : ∀ name ∈ ["weight", "age", "height"],
      "cat" ++ "." ++ name = "cat." ++ name ∧ IsName ("cat." ++ name) := by
    decide
  refine ⟨fun operand hoperand p hp ↦ ?_, fun operand hoperand p hp ↦ ?_⟩
  · obtain ⟨name, hname, rfl⟩ := h operand hoperand p hp
    have hnames := names_of_isPlain (s := { dialect := d }) (p := catNumber name) hknown rfl rfl
    have htext : Setup.pathText { profile := d.toProfile } (catNumber name) =
        catName (catNumber name) :=
      (Setup.pathText_property_root hquote ..).trans (hword name hname).1
    exact htext ▸ hnames
  · obtain ⟨name, hname, rfl⟩ := h operand hoperand p hp
    exact (hword name hname).2

theorem mem_recipes_derby : ("derby", .sql, Setting.derby) ∈ Dialect.recipes := by
  simp [Dialect.recipes]

/-- A weight and the exponent that is made of an age and a height. -/
def weightAndExponent (o : Reading.ArithOp) : List Chain :=
  [.path (catNumber "weight"), .binary .i32 (.path (catNumber "age")) o
    (catNumber "height")]

theorem hasNames_weightAndExponent {d : Dialect} (hknown : d.IsKnown) (hquote : d.quote = none)
    (o : Reading.ArithOp) : HasNames { dialect := d } catName (weightAndExponent o) :=
  hasNames_of_catNumber hknown hquote (by simp [weightAndExponent, Chain.paths])

/-- A power in which only the height is multiplied by the logarithm. -/
def regroupedPower : Term :=
  .call "exp" (.binary (.arith .add) (.word "cat.age")
    (.binary (.arith .mult) (.word "cat.height") (.call "log" (.word "cat.weight"))))

/-- A sum in the exponent is torn apart. -/
theorem serialize_powerOfSum : ∃ s : Serializer, ("derby", Except.ok s.dialect) ∈ Dialect.known ∧
    s.HasNames catName (weightAndExponent .add) ∧
    let text := "exp(cat.age + cat.height * log(cat.weight))"
    s.serialize (.expr (.operation .f64 (.op .power) ((weightAndExponent .add).map Chain.expr))) =
        .ok ⟨text, [], {}⟩ ∧
      IsReadAs (tokens? text.toList) regroupedPower ∧
      ¬ IsReadAs (tokens? text.toList)
        (Compound.powerByLogarithm.whole catName (weightAndExponent .add)) := by
  obtain ⟨d, hmem, hquote⟩ := Dialect.exists_unquoted mem_recipes_derby rfl
  have hknown : d.IsKnown := ⟨"derby", hmem⟩
  have hnames := hasNames_weightAndExponent hknown hquote .add
  have hcompound : ("derby", Compound.powerByLogarithm) ∈ compounds := by simp [compounds]
  have htokens : tokens? "exp(cat.age + cat.height * log(cat.weight))".toList =
      some regroupedPower.tokens := by
    decide +kernel
  have hregrouped : IsReadAs (some regroupedPower.tokens) regroupedPower :=
    isReadAs_some.mpr (Calls.derives_tokens (by decide))
  rw [← htokens] at hregrouped
  refine ⟨{ dialect := d }, hmem, hnames, ?_, hregrouped, fun hwhole ↦ ?_⟩
  · exact statement_of_writes (Compound.writes_operation hcompound
      (Reading.arithmetic.isRenderedBy_of_isKnown hknown)
      (Compound.get?_of_mem hcompound hmem) rfl hnames.named .f64) {}
  · have hsame := (hregrouped _).mp ((hwhole _).mpr rfl)
    revert hsame
    decide

/-- A product in the exponent is kept whole. -/
theorem serialize_powerOfProduct :
    ∃ s : Serializer, ("derby", Except.ok s.dialect) ∈ Dialect.known ∧
      s.HasNames catName (weightAndExponent .mult) ∧
      ∃ text, s.serialize (.expr (.operation .f64 (.op .power)
          ((weightAndExponent .mult).map Chain.expr))) = .ok ⟨text, [], {}⟩ ∧
        IsReadAs (tokens? text.toList)
          (Compound.powerByLogarithm.whole catName (weightAndExponent .mult)) := by
  obtain ⟨d, hmem, hquote⟩ := Dialect.exists_unquoted mem_recipes_derby rfl
  have hnames := hasNames_weightAndExponent ⟨"derby", hmem⟩ hquote .mult
  have hcompound : ("derby", Compound.powerByLogarithm) ∈ compounds := by simp [compounds]
  obtain ⟨_, _, text, hwritten, hread⟩ :=
    serialize_compound (s := { dialect := d }) hcompound hmem rfl hnames .f64
  refine ⟨{ dialect := d }, hmem, hnames, text, hwritten, hread.mpr ?_⟩
  intro i operand o hoperand hhead htorn
  obtain ⟨rfl, hloose⟩ : i = 1 ∧ (o = .add ∨ o = .sub) := by
    simpa [Compound.powerByLogarithm, ← and_or_left] using htorn
  obtain rfl := Option.some.inj hoperand
  obtain rfl := Option.some.inj hhead
  rcases hloose with h | h <;> cases h

end Serializer

end TypedQuery
