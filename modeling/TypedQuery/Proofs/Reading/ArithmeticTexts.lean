import TypedQuery.Proofs.Building
import TypedQuery.Proofs.Reading.Misreadings

/-!
# Texts of arithmetic expressions

Parentheses are left out around operands on the level of their operator. The text of an arithmetic
expression therefore keeps its value if no difference or quotient has such an operand on its right
and no negation is negated. For expressions without repeated properties this is also necessary.
-/

namespace TypedQuery

namespace Reading

/-- A text has one reading, whose value is that of a tree under every assignment. -/
def KeepsValue (quote : Option Char) (text : String) (t : OpTree ArithOp String) : Prop :=
  ∃ u, (∀ v, Reads arithmetic.toGrammar (symbolWords quote) text v ↔ v = u) ∧
    ∀ assignment, u.value assignment = t.value assignment

variable {quote : Option Char} {t : OpTree ArithOp String}

/-- What the text of a tree is read as. Behind two dashes it has no reading. -/
theorem reads_arithmetic_iff (hwords : ∀ s ∈ t.atoms, (symbolWords quote).isWord s = true)
    (u : OpTree ArithOp String) :
    Reads arithmetic.toGrammar (symbolWords quote) (arithmetic.written t) u ↔
      t.doublesUnary = false ∧ u = arithmetic.regroup t := by
  have hlegible := isLegible_arithmetic quote
  have hatoms := fun s hs ↦ isAtom_of_isWord (hwords s hs)
  by_cases hdouble : t.doublesUnary = true
  · have hends := endsEarly_of_doublesUnary hlegible (by simp [symbolWords]) rfl hdouble hwords
      hatoms
    have hnot := hends.not_reads u
    simp [hdouble, hnot]
  · have hsingle : t.doublesUnary = false := by simpa using hdouble
    rw [reads_written_iff hlegible (fun _ ↦ hsingle) hwords hatoms]
    simp [hsingle]

theorem keepsValue_of_isFaithful (hwords : ∀ s ∈ t.atoms, (symbolWords quote).isWord s = true)
    (h : t.IsFaithful) : KeepsValue quote (arithmetic.written t) t := by
  refine ⟨arithmetic.regroup t, fun v ↦ ?_, value_regroup h.free⟩
  rw [reads_arithmetic_iff hwords]
  simp [h.single]

theorem isFaithful_of_keepsValue (hwords : ∀ s ∈ t.atoms, (symbolWords quote).isWord s = true)
    (hnodup : t.atoms.Nodup) (h : KeepsValue quote (arithmetic.written t) t) : t.IsFaithful := by
  obtain ⟨u, hreads, hvalue⟩ := h
  obtain ⟨hsingle, rfl⟩ := (reads_arithmetic_iff hwords u).mp ((hreads u).mpr rfl)
  refine ⟨hsingle, ?_⟩
  by_contra hgroups
  obtain ⟨x, y, hne, _, _, hsplits⟩ :=
    exists_attainable_splits hnodup (by simpa using hgroups)
  obtain ⟨assignment, h⟩ := hsplits.exists_assignment
  have hsame := hvalue assignment
  rw [h.value, h.regrouped] at hsame
  exact hne (Option.some.inj hsame).symm

end Reading

open Reading

namespace Serializer

/-- An arithmetic expression over properties that are written as the given names, each one word. -/
structure IsArithmetic (s : Serializer) (names : Path → String) (e : Expr)
    (t : OpTree ArithOp Path) : Prop where
  spells : arithmetic.Spells e t
  named : ∀ p ∈ t.atoms, s.setup.Names p (names p)
  word : ∀ p ∈ t.atoms, (symbolWords s.dialect.quote).isWord (names p) = true

variable {s : Serializer} {names : Path → String} {e : Expr} {t : OpTree ArithOp Path}

theorem IsArithmetic.isWord (h : s.IsArithmetic names e t) :
    ∀ text ∈ (t.map names).atoms, (symbolWords s.dialect.quote).isWord text = true := by
  intro text htext
  rw [OpTree.atoms_map] at htext
  obtain ⟨p, hp, rfl⟩ := List.mem_map.mp htext
  exact h.word p hp

/-- In every known dialect, the text of an arithmetic expression is read as the tree that is grouped
from the left, unless two dashes start a comment. It keeps the value of faithful trees, and of no
other tree without repeated names. -/
theorem serialize_arithmetic (hknown : s.dialect.IsKnown) (h : s.IsArithmetic names e t) :
    ∃ text, s.serialize (.expr e) = .ok ⟨text, [], {}⟩ ∧
      (∀ u, Reads arithmetic.toGrammar (symbolWords s.dialect.quote) text u ↔
        t.doublesUnary = false ∧ u = arithmetic.regroup (t.map names)) ∧
      (t.IsFaithful → KeepsValue s.dialect.quote text (t.map names)) ∧
      ((t.atoms.map names).Nodup → KeepsValue s.dialect.quote text (t.map names) →
        t.IsFaithful) := by
  refine ⟨_, h.spells.serialize hknown h.named, fun u ↦ ?_, fun hfaithful ↦ ?_,
    fun hnodup hkeeps ↦ ?_⟩
  · rw [← OpTree.doublesUnary_map names]
    exact reads_arithmetic_iff h.isWord u
  · exact keepsValue_of_isFaithful h.isWord ((isFaithful_map names).mpr hfaithful)
  · rw [← OpTree.atoms_map] at hnodup
    exact (isFaithful_map names).mp (isFaithful_of_keepsValue h.isWord hnodup hkeeps)

def catNumber (name : String) : Path := .property .i32 (.root (.entity "Cat") "cat") name

theorem spells_catNumber (name : String) :
    arithmetic.Spells (.path (catNumber name)) (.atom (catNumber name)) :=
  .path rfl

theorem isArithmetic_of_catNumber {d : Dialect} (hknown : d.IsKnown) (hquote : d.quote = none)
    (hspells : arithmetic.Spells e t)
    (hatoms : ∀ p ∈ t.atoms, ∃ name ∈ ["weight", "age", "height"], p = catNumber name) :
    IsArithmetic { dialect := d } (Setup.pathText { profile := d.toProfile }) e t := by
  have hword : ∀ name ∈ ["weight", "age", "height"],
      (symbolWords none).isWord ("cat" ++ "." ++ name) = true := by
    decide
  refine ⟨hspells, fun p hp ↦ ?_, fun p hp ↦ ?_⟩
  · obtain ⟨name, _, rfl⟩ := hatoms p hp
    exact names_of_isPlain (s := { dialect := d }) hknown rfl rfl
  · obtain ⟨name, hname, rfl⟩ := hatoms p hp
    rw [catNumber, Setup.pathText_property_root hquote, hquote]
    exact hword name hname

def plainDifference : Expr × OpTree ArithOp Path :=
  (.operation .i32 (.op .sub)
    [.path (catNumber "weight"),
      .operation .i32 (.op .mult)
        [.path (catNumber "age"), .operation .i32 (.op .negate) [.path (catNumber "height")]]],
    .binary .sub (.atom (catNumber "weight"))
      (.binary .mult (.atom (catNumber "age")) (.unary (.atom (catNumber "height")))))

theorem serialize_plainDifference : ∃ s : Serializer, s.dialect.IsKnown ∧
    s.IsArithmetic s.setup.pathText plainDifference.1 plainDifference.2 ∧
    plainDifference.2.IsFaithful ∧
    ∃ text, s.serialize (.expr plainDifference.1) = .ok ⟨text, [], {}⟩ ∧
      KeepsValue s.dialect.quote text (plainDifference.2.map s.setup.pathText) := by
  obtain ⟨d, hmem, hquote⟩ := Dialect.exists_h2
  have hknown : d.IsKnown := ⟨"h2", hmem⟩
  have hspells : arithmetic.Spells plainDifference.1 plainDifference.2 :=
    .binary .i32 ArithOp.sub (spells_catNumber "weight")
      (.binary .i32 ArithOp.mult (spells_catNumber "age")
        (.unary .i32 (spells_catNumber "height")))
  have harithmetic := isArithmetic_of_catNumber hknown hquote hspells
    (by simp [plainDifference, OpTree.atoms])
  have hfaithful : plainDifference.2.IsFaithful := ⟨by decide, by decide⟩
  obtain ⟨text, htext, _, hkeeps, _⟩ :=
    serialize_arithmetic (s := { dialect := d }) hknown harithmetic
  exact ⟨{ dialect := d }, hknown, harithmetic, hfaithful, text, htext, hkeeps hfaithful⟩

def nestedDifference : Expr × OpTree ArithOp Path :=
  (.operation .i32 (.op .sub)
    [.path (catNumber "weight"),
      .operation .i32 (.op .sub) [.path (catNumber "age"), .path (catNumber "height")]],
    .binary .sub (.atom (catNumber "weight"))
      (.binary .sub (.atom (catNumber "age")) (.atom (catNumber "height"))))

/-- The parentheses that a nested difference needs are left out. -/
theorem not_keepsValue_nestedDifference : ∃ s : Serializer, s.dialect.IsKnown ∧
    s.IsArithmetic s.setup.pathText nestedDifference.1 nestedDifference.2 ∧
    s.serialize (.expr nestedDifference.1) =
      .ok ⟨"cat.weight - cat.age - cat.height", [], {}⟩ ∧
    ¬ KeepsValue s.dialect.quote "cat.weight - cat.age - cat.height"
      (nestedDifference.2.map s.setup.pathText) := by
  obtain ⟨d, hmem, hquote⟩ := Dialect.exists_h2
  have hknown : d.IsKnown := ⟨"h2", hmem⟩
  have hspells : arithmetic.Spells nestedDifference.1 nestedDifference.2 :=
    .binary .i32 ArithOp.sub (spells_catNumber "weight")
      (.binary .i32 ArithOp.sub (spells_catNumber "age") (spells_catNumber "height"))
  have harithmetic := isArithmetic_of_catNumber hknown hquote hspells
    (by simp [nestedDifference, OpTree.atoms])
  have hnames : nestedDifference.2.map (Setup.pathText { profile := d.toProfile }) =
      .binary .sub (.atom "cat.weight") (.binary .sub (.atom "cat.age") (.atom "cat.height")) := by
    simp only [nestedDifference, OpTree.map, catNumber, Setup.pathText_property_root hquote]
    rfl
  have htext : arithmetic.written (nestedDifference.2.map
      (Setup.pathText { profile := d.toProfile })) = "cat.weight - cat.age - cat.height" := by
    rw [hnames]
    rfl
  refine ⟨{ dialect := d }, hknown, harithmetic, ?_, fun hkeeps ↦ ?_⟩
  · rw [← htext]
    exact hspells.serialize (s := { dialect := d }) hknown harithmetic.named
  · have hnodup : (nestedDifference.2.map
        (Setup.pathText { profile := d.toProfile })).atoms.Nodup := by
      rw [hnames]
      decide
    rw [← htext] at hkeeps
    have hfaithful := isFaithful_of_keepsValue harithmetic.isWord hnodup hkeeps
    exact absurd ((isFaithful_map _).mp hfaithful).free (by decide)

end Serializer

end TypedQuery
