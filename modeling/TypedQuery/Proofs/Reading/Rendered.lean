import TypedQuery.Proofs.KnownDialects
import TypedQuery.Proofs.Reading.Grouping
import TypedQuery.Statement

/-!
# Rendered trees

A fragment of the expressions consists of some binary operations and a unary one over properties. In
every known dialect an expression of the fragment renders as the tree that it spells is written.
-/

namespace TypedQuery

/-! ## Renderings of plain text -/

namespace Rendering

/-- A rendering that writes one text, wherever it stands. -/
def Writes (r : Rendering) (text : String) : Prop :=
  ∀ scope, ∃ texts : List String, r scope = .ok (texts.map Chunk.text) ∧ String.join texts = text

namespace Writes

variable {r t : Rendering} {a b : String}

theorem text (s : String) : Writes (.text s) s :=
  fun _ ↦ ⟨[s], rfl, by simp⟩

theorem empty : Writes .empty "" := fun _ ↦ ⟨[], rfl, rfl⟩

theorem append (hr : Writes r a) (ht : Writes t b) : Writes (r ++ t) (a ++ b) := by
  intro scope
  obtain ⟨before, hbefore, hjoin⟩ := hr scope
  obtain ⟨behind, hbehind, hjoin'⟩ := ht scope
  refine ⟨before ++ behind, ?_, ?_⟩
  · rw [append_apply, hbefore, hbehind, List.map_append]
    rfl
  · rw [String.join_append, hjoin, hjoin']

theorem within (h : Writes r a) (change : Scope → Scope) : Writes (r.within change) a :=
  fun scope ↦ h (change scope)

theorem parenthesized (h : Writes r a) : Writes r.parenthesized ("(" ++ a ++ ")") :=
  ((text "(").append h).append (text ")")

end Writes

end Rendering

open Rendering (Writes)

/-! ## Paths -/

/-- A variable, or a property of such a path. -/
def Path.isPlain : Path → Bool
  | root .. => true
  | property _ parent _ => parent.isPlain
  | _ => false

namespace Setup

/-- A path is written as a text, with nothing bound. -/
def Names (s : Setup) (p : Path) (text : String) : Prop := Writes (s.pathOperand p).render text

/-- The text of a variable or of a property below one. -/
def pathText (s : Setup) : Path → String
  | .root _ name => s.profile.quoteIdent name
  | .property _ parent name =>
      s.pathText parent ++ "." ++ s.profile.quoteIdent (s.columnName parent.type name)
  | _ => ""

/-- Without a metamodel a property has no other name in the database. -/
theorem columnName_of_no_metamodel {s : Setup} (h : s.metamodel = {}) (owner : ValueType)
    (name : String) : s.columnName owner name = name := by
  have hcolumn : ({} : Metamodel).column? owner name = none := rfl
  unfold columnName
  rw [h, hcolumn]
  cases s.profile.family <;> rfl

/-- Without quotes and columns, names stand as they are. -/
theorem pathText_property_root {d : Dialect} (hquote : d.quote = none) (type owner : ValueType)
    (root name : String) :
    ({ profile := d.toProfile } : Setup).pathText (.property type (.root owner root) name) =
      root ++ "." ++ name := by
  have hname : ({ profile := d.toProfile } : Setup).columnName owner name = name :=
    columnName_of_no_metamodel rfl owner name
  simp only [pathText, Path.type, hname, Profile.quoteIdent, hquote]

/-- The templates that all known dialects share. -/
structure HasPaths (s : Setup) : Prop where
  root : s.profile.registry.get? (.path .root) = some ⟨⟨"{0s}", [.inlined 0]⟩, -1, none⟩
  property : s.profile.registry.get? (.path .property) =
    some ⟨⟨"{0}.{1s}", [.arg 0, .text ".", .inlined 1]⟩, -1, none⟩

variable {s : Setup}

/-- What is no operation stands as an argument without parentheses around it. -/
theorem argument_leaf (precedence : Int) (e : Expr) (r : Rendering) :
    s.argument precedence (.leaf e r) = r := by
  simp [argument, bindsLooser, Operand.operator?, Operand.render]

theorem apply_root (name : String) :
    s.apply ⟨"{0s}", [.inlined 0]⟩ (-1) [s.string name] = .text name ++ .empty := rfl

theorem apply_property (parent : Operand) (name : String) :
    s.apply ⟨"{0}.{1s}", [.arg 0, .text ".", .inlined 1]⟩ (-1) [parent, s.string name] =
      parent.render ++ (.text "." ++ (.text name ++ .empty)) := rfl

/-- A step is written with its template, unless it is a collection whose elements are meant. -/
theorem writes_step {p : Path} {args : List Operand} {e : TemplateEntry} {text : String}
    (hget : s.profile.registry.get? (.path p.kind) = some e)
    (h : Writes ((s.apply e.template e.precedence args).within ({ · with wrapElements := false }))
      text) :
    Writes ((s.step p args).render.within ({ · with wrapElements := false })) text ∧
      (p.type.isCollectionLike = false → Writes (s.step p args).render text) := by
  constructor
  · intro scope
    simpa [step, hget, Operand.render, Rendering.within] using h scope
  · intro hscalar scope
    simpa [step, hget, Operand.render, Rendering.within, hscalar] using h scope

theorem writes_pathOperand (hs : s.HasPaths) {p : Path} (hp : p.isPlain = true) :
    Writes ((s.pathOperand p).render.within ({ · with wrapElements := false })) (s.pathText p) ∧
      (p.type.isCollectionLike = false → Writes (s.pathOperand p).render (s.pathText p)) := by
  match p with
  | .root type name =>
      refine writes_step hs.root ?_
      have hname := Writes.text (s.profile.quoteIdent name)
      have happly := (hname.append .empty).within ({ · with wrapElements := false })
      rwa [String.append_empty, ← apply_root] at happly
  | .property type parent name =>
      refine writes_step hs.property ?_
      have hparent := (writes_pathOperand hs (p := parent) hp).1
      have hname := Writes.text (s.profile.quoteIdent (s.columnName parent.type name))
      have hrest := ((Writes.text ".").append (hname.append .empty)).within
        ({ · with wrapElements := false })
      have happly := hparent.append hrest
      rwa [← Rendering.within_append, ← apply_property, String.append_empty,
        ← String.append_assoc] at happly

/-- A property has the dot in front of its name. -/
theorem Names.ne_empty (hs : s.HasPaths) {p : Path} (hp : p.kind = .property) {text : String}
    (h : s.Names p text) : text ≠ "" := by
  obtain ⟨texts, hrender, hjoin⟩ := h {}
  cases p with
  | property type parent name =>
      have hget : s.profile.registry.get? (.path (Path.property type parent name).kind) = _ :=
        hs.property
      have hsteps : ((s.pathOperand parent).render ++
          (.text "." ++ (.text (s.profile.quoteIdent (s.columnName parent.type name)) ++ .empty)))
            {} = .ok (texts.map Chunk.text) := by
        rw [← apply_property]
        simpa [pathOperand, propertyStep, step, hget, Operand.render, Rendering.within] using
          hrender
      obtain ⟨before, behind, _, hbehind, hchunks⟩ := Rendering.exists_of_append hsteps
      obtain ⟨dot, rest, hdot, _, rfl⟩ := Rendering.exists_of_append hbehind
      obtain rfl := Except.ok.inj hdot
      have hmem : "." ∈ texts := by
        have hchunk : Chunk.text "." ∈ texts.map Chunk.text := by simp [hchunks]
        simpa using hchunk
      obtain ⟨front, back, rfl⟩ := List.append_of_mem hmem
      rintro rfl
      have hlength := congrArg String.length hjoin
      simp [String.join_append, String.length_append] at hlength
  | _ => cases hp

end Setup

/-- In a known dialect, every property that is no collection is written as its text. -/
theorem Serializer.names_of_isPlain {s : Serializer} (hknown : s.dialect.IsKnown) {p : Path}
    (hp : p.isPlain = true) (hscalar : p.type.isCollectionLike = false) :
    s.setup.Names p (s.setup.pathText p) :=
  (Setup.writes_pathOperand ⟨hknown.get?_root, hknown.get?_property⟩ hp).2 hscalar

namespace Reading

/-! ## Fragments -/

/-- Operators that are written as words. All known dialects write them with the templates of the
base, at precedences that follow the levels of the grammar. -/
structure Fragment (ω : Type) extends Writing ω where
  op : ω → Op
  unaryOp : Op
  pattern : ω → String
  unaryPattern : String
  mem_baseOps : ∀ o, (op o, pattern o) ∈ Registry.baseOps
  unary_mem_baseOps : (unaryOp, unaryPattern) ∈ Registry.baseOps
  isShared : ∀ o, Dialect.isShared (.op (op o)) = true
  unary_isShared : Dialect.isShared (.op unaryOp) = true
  parse_pattern : ∀ o, Template.parse (pattern o) =
    .ok ⟨pattern o, [.arg 0, .text (" " ++ word o ++ " "), .arg 1]⟩
  parse_unaryPattern : Template.parse unaryPattern =
    .ok ⟨unaryPattern, [.text unaryText, .arg 0]⟩
  unary_nonneg : 0 ≤ unaryOp.precedence
  unary_lt : ∀ o, unaryOp.precedence < (op o).precedence
  lt_iff : ∀ o o', (op o).precedence < (op o').precedence ↔ tight o = true ∧ tight o' = false
  unchanged : ∀ (s : Setup) (o : ω) (args : List Operand),
    s.operationRendering (.op (op o)) args = s.inside (op o) (s.unchanged (op o) args)
  unary_unchanged : ∀ (s : Setup) (args : List Operand),
    s.operationRendering (.op unaryOp) args = s.inside unaryOp (s.unchanged unaryOp args)

namespace Fragment

variable {ω : Type}

/-- The expressions that spell a tree: operations of any types over properties. -/
inductive Spells (F : Fragment ω) : Expr → OpTree ω Path → Prop
  | path {p : Path} (hp : p.kind = .property) : Spells F (.path p) (.atom p)
  | unary (type : ValueType) {e : Expr} {t : OpTree ω Path} (h : Spells F e t) :
      Spells F (.operation type (.op F.unaryOp) [e]) (.unary t)
  | binary (type : ValueType) (o : ω) {e e' : Expr} {l r : OpTree ω Path} (hl : Spells F e l)
      (hr : Spells F e' r) :
      Spells F (.operation type (.op (F.op o)) [e, e']) (.binary o l r)

def headOperator (F : Fragment ω) {α : Type} : OpTree ω α → Option Operator
  | .atom _ => none
  | .unary _ => some (.op F.unaryOp)
  | .binary o _ _ => some (.op (F.op o))

variable {F : Fragment ω} {s : Setup} {e : Expr} {t : OpTree ω Path}

theorem Spells.kind_of_mem_atoms (h : F.Spells e t) : ∀ p ∈ t.atoms, p.kind = .property := by
  induction h with
  | path hp => simpa [OpTree.atoms] using hp
  | unary type h ih => exact ih
  | binary type o hl hr ihl ihr =>
      intro p hp
      exact (List.mem_append.mp hp).elim (ihl p) (ihr p)

theorem Spells.operator?_operand (h : F.Spells e t) :
    (s.operand e).operator? = F.headOperator t := by
  cases h with
  | path hp => rename_i p; cases p <;> rfl
  | unary type h => rfl
  | binary type o hl hr => rfl

theorem Spells.isConstant_operand (h : F.Spells e t) : (s.operand e).expr.isConstant = false := by
  cases h with
  | path hp => rename_i p; cases p <;> rfl
  | unary type h => rfl
  | binary type o hl hr => rfl

end Fragment

end Reading

namespace Setup

variable {s : Setup}

theorem normalizeNumbers_eq {args : List Operand}
    (h : ∀ a ∈ args, a.expr.isConstant = false) : s.normalizeNumbers args = args := by
  unfold normalizeNumbers
  split
  · rfl
  · conv_rhs => rw [← List.map_id args]
    refine List.map_congr_left fun a ha ↦ ?_
    have hconstant := h a ha
    cases ha : a.expr <;> simp_all [Expr.isConstant]

theorem unchanged_eq {op : Op} {args : List Operand}
    (h : ∀ a ∈ args, a.expr.isConstant = false) : s.unchanged op args = s.plain (.op op) args := by
  unfold unchanged
  rw [normalizeNumbers_eq h, ite_self]

theorem plain_eq {operator : Operator} {t : Template} {precedence : Int}
    (hget : s.profile.registry.get? operator = some ⟨t, precedence, none⟩) (args : List Operand) :
    s.plain operator args = s.apply t precedence args := by
  unfold plain entry
  rw [hget]
  rfl

theorem apply_unary (pattern text : String) (precedence : Int) (a : Operand) :
    s.apply ⟨pattern, [.text text, .arg 0]⟩ precedence [a] =
      .text text ++ (s.argument precedence a ++ .empty) := rfl

theorem apply_binary (pattern text : String) (precedence : Int) (a b : Operand) :
    s.apply ⟨pattern, [.arg 0, .text text, .arg 1]⟩ precedence [a, b] =
      s.argument precedence a ++ (.text text ++ (s.argument precedence b ++ .empty)) := rfl

end Setup

/-! ## Trees as they are rendered -/

theorem Setup.writes_argument {s : Setup} {a : Operand} {text : String} (h : Writes a.render text)
    (precedence : Int) :
    Writes (s.argument precedence a)
      (Reading.parensIf (decide (0 ≤ precedence) && s.bindsLooser precedence a) text) := by
  rw [argument]
  cases decide (0 ≤ precedence) && s.bindsLooser precedence a with
  | true => exact h.parenthesized
  | false => exact h

theorem layout_texts_append (style : PlaceholderStyle) (texts : List String)
    (chunks : List Chunk) :
    layout style (texts.map Chunk.text ++ chunks) =
      (String.join texts ++ (layout style chunks).1, (layout style chunks).2) := by
  cases style with
  | anonymous =>
      have hall : Layout.anonymous (texts.map Chunk.text ++ chunks) =
          (texts ++ (Layout.anonymous chunks).1, (Layout.anonymous chunks).2) := by
        induction texts with
        | nil => rfl
        | cons text texts ih => simp [Layout.anonymous, ih]
      simp [layout, hall, String.join_append]
  | numbered mark =>
      have hall : Layout.numbered mark [] (texts.map Chunk.text ++ chunks) =
          (texts ++ (Layout.numbered mark [] chunks).1, (Layout.numbered mark [] chunks).2) := by
        induction texts with
        | nil => rfl
        | cons text texts ih => simp [Layout.numbered, ih]
      simp [layout, hall, String.join_append]

theorem layout_texts (style : PlaceholderStyle) (texts : List String) :
    layout style (texts.map Chunk.text) = (String.join texts, []) := by
  have hnil : layout style [] = ("", []) := by
    cases style <;> simp [layout, Layout.anonymous, Layout.numbered]
  have happend := layout_texts_append style texts []
  rwa [List.append_nil, hnil, String.append_empty] at happend

/-- A statement of one text binds nothing. -/
theorem Serializer.statement_of_writes {s : Serializer} {r : Rendering} {text : String}
    (h : Writes r text) (m : Modifiers) : s.statement m r = .ok ⟨text, [], m⟩ := by
  obtain ⟨texts, hrendering, rfl⟩ := h {}
  rw [statement, hrendering]
  simp only [Except.map, layout_texts]

namespace Reading

namespace Fragment

variable {ω : Type}

/-- Setups whose dialect has the templates of a fragment. -/
structure IsRenderedBy (F : Fragment ω) (s : Setup) : Prop where
  binary : ∀ o, s.profile.registry.get? (.op (F.op o)) =
    some ⟨⟨F.pattern o, [.arg 0, .text (" " ++ F.word o ++ " "), .arg 1]⟩,
      (F.op o).precedence, none⟩
  unary : s.profile.registry.get? (.op F.unaryOp) =
    some ⟨⟨F.unaryPattern, [.text F.unaryText, .arg 0]⟩, F.unaryOp.precedence, none⟩

theorem isRenderedBy_of_isKnown (F : Fragment ω) {s : Serializer} (h : s.dialect.IsKnown) :
    F.IsRenderedBy s.setup := by
  refine ⟨fun o ↦ ?_, ?_⟩
  · obtain ⟨t, ht, hget⟩ := h.get?_op (F.mem_baseOps o) (F.isShared o)
    obtain rfl := Except.ok.inj ((F.parse_pattern o).symm.trans ht)
    exact hget
  · obtain ⟨t, ht, hget⟩ := h.get?_op F.unary_mem_baseOps F.unary_isShared
    obtain rfl := Except.ok.inj (F.parse_unaryPattern.symm.trans ht)
    exact hget

variable {F : Fragment ω} {s : Setup} {e e' : Expr} {t l r : OpTree ω Path}

theorem bindsLooser_operand (hs : F.IsRenderedBy s) (h : F.Spells e t) (o : ω) :
    s.bindsLooser (F.op o).precedence (s.operand e) = F.wraps o t := by
  unfold Setup.bindsLooser
  rw [h.operator?_operand]
  cases t with
  | atom p => simp [headOperator]
  | unary t =>
      have hlt := F.unary_lt o
      simp only [headOperator, Registry.precedence, hs.unary, Grammar.wraps_unary,
        decide_eq_false_iff_not]
      omega
  | binary o' l r =>
      simp only [headOperator, Registry.precedence, hs.binary, F.lt_iff, Grammar.wraps,
        Grammar.isLoose]
      cases F.tight o <;> cases F.tight o' <;> rfl

theorem bindsLooser_unary (hs : F.IsRenderedBy s) (h : F.Spells e t) :
    s.bindsLooser F.unaryOp.precedence (s.operand e) = t.isBinary := by
  unfold Setup.bindsLooser
  rw [h.operator?_operand]
  cases t with
  | atom p => rfl
  | unary t => simp [headOperator, Registry.precedence, hs.unary, OpTree.isBinary]
  | binary o l r =>
      have hlt := F.unary_lt o
      simp [headOperator, Registry.precedence, hs.binary, OpTree.isBinary, hlt]

theorem writes_argument {precedence : Int} (hnonneg : 0 ≤ precedence) {a : Operand}
    {text : String} (h : Writes a.render text) :
    Writes (s.argument precedence a) (parensIf (s.bindsLooser precedence a) text) := by
  simpa [hnonneg] using Setup.writes_argument h precedence

theorem Spells.writes_unary (hs : F.IsRenderedBy s) (h : F.Spells e t) {text : String}
    (htext : Writes (s.operand e).render text) (type : ValueType) :
    Writes (s.operand (.operation type (.op F.unaryOp) [e])).render
      (F.unaryText ++ parensIf t.isBinary text) := by
  have hargs : ∀ a ∈ [s.operand e], a.expr.isConstant = false := by
    simpa using h.isConstant_operand
  have harg := writes_argument (s := s) F.unary_nonneg htext
  rw [bindsLooser_unary hs h] at harg
  have hbody := (Writes.text F.unaryText).append (harg.append .empty)
  rw [String.append_empty, ← Setup.apply_unary F.unaryPattern, ← Setup.plain_eq hs.unary,
    ← Setup.unchanged_eq hargs] at hbody
  have hrender : (s.operand (.operation type (.op F.unaryOp) [e])).render =
      s.inside F.unaryOp (s.unchanged F.unaryOp [s.operand e]) := F.unary_unchanged s [s.operand e]
  rw [hrender]
  exact hbody.within _

theorem Spells.writes_binary (hs : F.IsRenderedBy s) (hl : F.Spells e l) (hr : F.Spells e' r)
    {a b : String} (ha : Writes (s.operand e).render a) (hb : Writes (s.operand e').render b)
    (type : ValueType) (o : ω) :
    Writes (s.operand (.operation type (.op (F.op o)) [e, e'])).render
      (parensIf (F.wraps o l) a ++ (" " ++ F.word o ++ " ") ++ parensIf (F.wraps o r) b) := by
  have hargs : ∀ a ∈ [s.operand e, s.operand e'], a.expr.isConstant = false := by
    simpa using ⟨hl.isConstant_operand, hr.isConstant_operand⟩
  have hnonneg : 0 ≤ (F.op o).precedence := by
    have hunary := F.unary_nonneg
    have hlt := F.unary_lt o
    omega
  have hleft := writes_argument (s := s) hnonneg ha
  have hright := writes_argument (s := s) hnonneg hb
  rw [bindsLooser_operand hs hl] at hleft
  rw [bindsLooser_operand hs hr] at hright
  have hbody := hleft.append ((Writes.text (" " ++ F.word o ++ " ")).append (hright.append .empty))
  rw [String.append_empty, ← Setup.apply_binary (F.pattern o), ← Setup.plain_eq (hs.binary o),
    ← Setup.unchanged_eq hargs, ← String.append_assoc] at hbody
  have hrender : (s.operand (.operation type (.op (F.op o)) [e, e'])).render =
      s.inside (F.op o) (s.unchanged (F.op o) [s.operand e, s.operand e']) :=
    F.unchanged s o [s.operand e, s.operand e']
  rw [hrender]
  exact hbody.within _

theorem Spells.writes (hs : F.IsRenderedBy s) (h : F.Spells e t) {names : Path → String}
    (hnames : ∀ p ∈ t.atoms, s.Names p (names p)) :
    Writes (s.operand e).render (F.written (t.map names)) := by
  induction h with
  | path hp => exact hnames _ (by simp [OpTree.atoms])
  | unary type h ih =>
      rw [OpTree.map, Writing.written, OpTree.isBinary_map]
      exact h.writes_unary hs (ih hnames) type
  | binary type o hl hr ihl ihr =>
      simp only [OpTree.atoms, List.mem_append] at hnames
      have ha := ihl fun p hp ↦ hnames p (.inl hp)
      have hb := ihr fun p hp ↦ hnames p (.inr hp)
      rw [OpTree.map, Writing.written, Grammar.wraps_map, Grammar.wraps_map]
      exact hl.writes_binary hs hr ha hb type o

/-- What an expression of the fragment is written as, with nothing bound. -/
theorem Spells.serialize {s : Serializer} (hknown : s.dialect.IsKnown) (h : F.Spells e t)
    {names : Path → String} (hnames : ∀ p ∈ t.atoms, s.setup.Names p (names p)) :
    s.serialize (.expr e) = .ok ⟨F.written (t.map names), [], {}⟩ := by
  have hwrites := h.writes (F.isRenderedBy_of_isKnown hknown) hnames
  exact Serializer.statement_of_writes hwrites {}

end Fragment

end Reading

end TypedQuery
