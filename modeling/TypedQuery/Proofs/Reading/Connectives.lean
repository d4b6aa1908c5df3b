import TypedQuery.Proofs.Building
import TypedQuery.Proofs.Reading.Rendered
import TypedQuery.Query.Build

/-!
# Formulas

Formulas are made of AND, OR and NOT over properties. The text of a formula is read as a formula
with the same truth value, in which at most the operands of equal connectives are grouped
differently. The same holds for the filter of a query to which formulas are added one by one.
-/

namespace TypedQuery

namespace Reading

inductive Connective
  | and
  | or

namespace Connective

def word : Connective → String
  | and => "and"
  | or => "or"

def op : Connective → Op
  | and => .and
  | or => .or

def pattern : Connective → String
  | and => "{0} and {1}"
  | or => "{0} or {1}"

def isAnd : Connective → Bool
  | and => true
  | or => false

def ofWord? (s : String) : Option Connective :=
  if s = "and" then some and else if s = "or" then some or else none

def value : Connective → Bool → Bool → Bool
  | and, x, y => x && y
  | or, x, y => x || y

instance associative_value (c : Connective) : Std.Associative c.value where
  assoc x y z := by cases c <;> simp [value, Bool.and_assoc, Bool.or_assoc]

end Connective

/-- The connectives: AND is tight, OR is loose, and NOT is in front. -/
def connectives : Fragment Connective where
  word := Connective.word
  tight := Connective.isAnd
  unaryWord := "not"
  operator? := Connective.ofWord?
  operator?_word := by rintro (_ | _) <;> rfl
  unaryText := "not "
  op := Connective.op
  unaryOp := .not
  pattern := Connective.pattern
  unaryPattern := "not {0}"
  mem_baseOps := by rintro (_ | _) <;> simp [Connective.op, Connective.pattern, Registry.baseOps]
  unary_mem_baseOps := by simp [Registry.baseOps]
  isShared := by rintro (_ | _) <;> decide
  unary_isShared := by decide
  parse_pattern := by rintro (_ | _) <;> rfl
  parse_unaryPattern := rfl
  unary_nonneg := by decide
  unary_lt := by rintro (_ | _) <;> decide
  lt_iff := by rintro (_ | _) (_ | _) <;> decide
  unchanged := by
    rintro s (_ | _) args <;> simp only [Setup.operationRendering, Connective.op] <;>
      cases s.profile.family <;> rfl
  unary_unchanged := by
    intro s args
    simp only [Setup.operationRendering]
    cases s.profile.family <;> rfl

def plainWords : Lexicon := ⟨none, []⟩

theorem isLegible_connectives : connectives.IsLegible plainWords where
  binary := by
    rintro (_ | _) rest <;>
      simp [connectives, Connective.word, plainWords, Lexicon.tokens] <;> rfl
  unary rest _ := by
    simp [connectives, plainWords, Lexicon.tokens]
    rfl

/-- A text with neither spaces nor parentheses that is no word of a connective. -/
structure IsBare (text : String) : Prop where
  plain : ∀ c ∈ text.toList, c ∉ [' ', '(', ')']
  noWord : text ∉ ["and", "or", "not"]

theorem isSpelled_plainWords {cs : List Char} (h : ∀ c ∈ cs, c ∉ [' ', '(', ')']) :
    plainWords.isSpelled false cs = true := by
  induction cs with
  | nil => rfl
  | cons c cs ih =>
      have hc : [' ', '(', ')'].contains c = false := by simpa using h c (by simp)
      have hcs := ih fun d hd ↦ h d (List.mem_cons_of_mem _ hd)
      simp only [Lexicon.isSpelled, hc]
      simpa [plainWords, Lexicon.isBreak] using hcs

theorem IsBare.isWord {text : String} (h : IsBare text) (hne : text ≠ "") :
    plainWords.isWord text = true := by
  have hchars : text.toList.isEmpty = false := by simpa using hne
  rw [Lexicon.isWord, hchars, isSpelled_plainWords h.plain]
  rfl

theorem IsBare.isAtom {text : String} (h : IsBare text) : connectives.IsAtom text := by
  have hnot := h.noWord
  simp only [List.mem_cons, List.not_mem_nil, or_false, not_or] at hnot
  refine ⟨?_, hnot.2.2⟩
  simp [connectives, Connective.ofWord?, hnot.1, hnot.2.1]

/-! ## Truth values -/

/-- The truth value of a formula under an assignment of its atoms. -/
def OpTree.holds {α : Type} (assignment : α → Bool) (f : OpTree Connective α) : Bool :=
  f.fold assignment Bool.not Connective.value

/-- A text has one reading. It is a formula that differs at most in the groups of equal connectives
and is true under the same assignments. -/
def ReadsAs (text : String) (f : OpTree Connective String) : Prop :=
  ∃ u, (∀ v, Reads connectives.toGrammar plainWords text v ↔ v = u) ∧ u.SameUpToGroups f ∧
    ∀ assignment, u.holds assignment = f.holds assignment

theorem readsAs_written {f : OpTree Connective String}
    (hatoms : ∀ text ∈ f.atoms, IsBare text ∧ text ≠ "") : ReadsAs (connectives.written f) f := by
  have hsame : (connectives.regroup f).SameUpToGroups f :=
    sameUpToGroups_regroup (by rintro (_ | _) (_ | _) h <;> first | rfl | cases h) f
  refine ⟨connectives.regroup f, ?_, hsame, fun assignment ↦ ?_⟩
  · exact reads_written_iff isLegible_connectives (by simp [plainWords])
      (fun text h ↦ (hatoms text h).1.isWord (hatoms text h).2)
      (fun text h ↦ (hatoms text h).1.isAtom)
  · exact hsame Bool assignment Bool.not Connective.value fun c ↦ inferInstance

end Reading

open Reading Rendering

namespace Serializer

/-- A formula over properties that are written as the given names. -/
structure IsFormula (s : Serializer) (names : Path → String) (e : Expr)
    (f : OpTree Connective Path) : Prop where
  spells : connectives.Spells e f
  named : ∀ p ∈ f.atoms, s.setup.Names p (names p)
  bare : ∀ p ∈ f.atoms, IsBare (names p)

variable {s : Serializer} {names : Path → String} {e e' : Expr} {f f' : OpTree Connective Path}

theorem IsFormula.and (h : s.IsFormula names e f) (h' : s.IsFormula names e' f') :
    s.IsFormula names (e.and e') (.binary .and f f') where
  spells := .binary .bool Connective.and h.spells h'.spells
  named p hp := (List.mem_append.mp hp).elim (h.named p) (h'.named p)
  bare p hp := (List.mem_append.mp hp).elim (h.bare p) (h'.bare p)

theorem IsFormula.serialize (hknown : s.dialect.IsKnown) (h : s.IsFormula names e f) :
    s.serialize (.expr e) = .ok ⟨connectives.written (f.map names), [], {}⟩ :=
  h.spells.serialize hknown h.named

theorem IsFormula.readsAs (hknown : s.dialect.IsKnown) (h : s.IsFormula names e f) :
    ReadsAs (connectives.written (f.map names)) (f.map names) := by
  refine readsAs_written fun text htext ↦ ?_
  rw [OpTree.atoms_map] at htext
  obtain ⟨p, hp, rfl⟩ := List.mem_map.mp htext
  refine ⟨h.bare p hp, (h.named p hp).ne_empty ⟨hknown.get?_root, hknown.get?_property⟩ ?_⟩
  exact h.spells.kind_of_mem_atoms p hp

/-- Each formula that is added to a filter is one more conjunct of it. -/
theorem IsFormula.exists_filter {added : List (Expr × OpTree Connective Path)}
    (hadded : ∀ a ∈ added, s.IsFormula names a.1 a.2) {q : Query Expr}
    (hfilter : q.filter = some e) (h : s.IsFormula names e f) :
    ∃ e' f', ((added.map Prod.fst).foldl Query.addWhere q).filter = some e' ∧
      s.IsFormula names e' f' ∧
      ∀ assignment, f'.holds assignment =
        (f.holds assignment && added.all fun a ↦ a.2.holds assignment) := by
  induction added generalizing q e f with
  | nil => exact ⟨e, f, hfilter, h, by simp⟩
  | cons a added ih =>
      have hconjoined : (q.addWhere a.1).filter = some (e.and a.1) := by
        simp [Query.addWhere, Query.conjoin, hfilter]
      have hand := h.and (hadded a (by simp))
      obtain ⟨e', f', hfilter', hformula, hholds⟩ :=
        ih (fun b hb ↦ hadded b (List.mem_cons_of_mem _ hb)) hconjoined hand
      refine ⟨e', f', hfilter', hformula, fun assignment ↦ ?_⟩
      rw [hholds, List.all_cons, ← Bool.and_assoc]
      rfl

theorem IsFormula.writes_whereClause (hknown : s.dialect.IsKnown) (h : s.IsFormula names e f)
    {q : Query Expr} (hfilter : q.filter = some e) :
    Writes (s.setup.whereClause q) ("\nwhere " ++ connectives.written (f.map names)) := by
  have hwrites := h.spells.writes (connectives.isRenderedBy_of_isKnown hknown) h.named
  rw [Setup.whereClause, hfilter]
  exact (Writes.text "\nwhere ").append hwrites

/-- In every known dialect the text of a formula has one reading, which has the truth values of the
formula. The filter that formulas are added to is read as their conjunction. -/
theorem serialize_formula (hknown : s.dialect.IsKnown) (names : Path → String) :
    (∀ e f, s.IsFormula names e f →
      ∃ text, s.serialize (.expr e) = .ok ⟨text, [], {}⟩ ∧ ReadsAs text (f.map names)) ∧
    ∀ (q : Query Expr) (added : List (Expr × OpTree Connective Path)), q.filter = none →
      added ≠ [] → (∀ a ∈ added, s.IsFormula names a.1 a.2) →
        ∃ e f text, ((added.map Prod.fst).foldl Query.addWhere q).filter = some e ∧
          s.serialize (.expr e) = .ok ⟨text, [], {}⟩ ∧
          Writes (s.setup.whereClause ((added.map Prod.fst).foldl Query.addWhere q))
            ("\nwhere " ++ text) ∧
          ReadsAs text f ∧
          ∀ assignment, f.holds assignment =
            added.all fun a ↦ a.2.holds (assignment ∘ names) := by
  refine ⟨fun e f h ↦ ⟨_, h.serialize hknown, h.readsAs hknown⟩, ?_⟩
  intro q added hfilter hne hadded
  cases added with
  | nil => exact absurd rfl hne
  | cons a added =>
      have hfirst : (q.addWhere a.1).filter = some a.1 := by
        simp [Query.addWhere, Query.conjoin, hfilter]
      obtain ⟨e, f, hlast, hformula, hholds⟩ := IsFormula.exists_filter
        (fun b hb ↦ hadded b (List.mem_cons_of_mem _ hb)) hfirst (hadded a (by simp))
      refine ⟨e, f.map names, _, hlast, hformula.serialize hknown,
        hformula.writes_whereClause hknown hlast, hformula.readsAs hknown, fun assignment ↦ ?_⟩
      rw [OpTree.holds, OpTree.fold_map]
      exact hholds (assignment ∘ names)

def catIs (name : String) : Path := .property .bool (.root (.entity "Cat") "cat") name

/-- Cats that are tame or old, but not both. -/
def tameOrOld : List (Expr × OpTree Connective Path) :=
  [((Expr.path (catIs "tame")).or (.path (catIs "old")),
      .binary .or (.atom (catIs "tame")) (.atom (catIs "old"))),
    (((Expr.path (catIs "tame")).and (.path (catIs "old"))).not,
      .unary (.binary .and (.atom (catIs "tame")) (.atom (catIs "old"))))]

theorem isFormula_of_mem_tameOrOld {d : Dialect} (hknown : d.IsKnown) (hquote : d.quote = none) :
    ∀ a ∈ tameOrOld,
      IsFormula { dialect := d } (Setup.pathText { profile := d.toProfile }) a.1 a.2 := by
  have hspells : ∀ a ∈ tameOrOld, connectives.Spells a.1 a.2 := by
    have hpath : ∀ name, connectives.Spells (.path (catIs name)) (.atom (catIs name)) :=
      fun name ↦ .path rfl
    have hor := Fragment.Spells.binary .bool Connective.or (hpath "tame") (hpath "old")
    have hand := Fragment.Spells.binary .bool Connective.and (hpath "tame") (hpath "old")
    intro a ha
    rcases List.mem_pair.mp ha with rfl | rfl
    · exact hor
    · exact .unary .bool hand
  have hatoms : ∀ a ∈ tameOrOld, ∀ p ∈ a.2.atoms, ∃ name ∈ ["tame", "old"], p = catIs name := by
    simp [tameOrOld, OpTree.atoms]
  have hbare : ∀ name ∈ ["tame", "old"], IsBare ("cat" ++ "." ++ name) := by
    intro name hname
    rcases List.mem_pair.mp hname with rfl | rfl <;> exact ⟨by simp, by simp⟩
  intro a ha
  refine ⟨hspells a ha, fun p hp ↦ ?_, fun p hp ↦ ?_⟩
  · obtain ⟨name, _, rfl⟩ := hatoms a ha p hp
    exact names_of_isPlain (s := { dialect := d }) hknown rfl rfl
  · obtain ⟨name, hname, rfl⟩ := hatoms a ha p hp
    rw [catIs, Setup.pathText_property_root hquote]
    exact hbare name hname

/-- The two conditions that are added one after the other are read as their conjunction. -/
theorem serialize_formula_tameOrOld : ∃ s : Serializer, s.dialect.IsKnown ∧
    (∀ a ∈ tameOrOld, s.IsFormula s.setup.pathText a.1 a.2) ∧
    ∃ e f text, ((tameOrOld.map Prod.fst).foldl Query.addWhere {}).filter = some e ∧
      s.serialize (.expr e) = .ok ⟨text, [], {}⟩ ∧
      Writes (s.setup.whereClause ((tameOrOld.map Prod.fst).foldl Query.addWhere {}))
        ("\nwhere " ++ text) ∧
      ReadsAs text f ∧
      ∀ assignment, f.holds assignment =
        tameOrOld.all fun a ↦ a.2.holds (assignment ∘ s.setup.pathText) := by
  obtain ⟨d, hmem, hquote⟩ := Dialect.exists_h2
  have hknown : d.IsKnown := ⟨"h2", hmem⟩
  have hformulas := isFormula_of_mem_tameOrOld hknown hquote
  refine ⟨{ dialect := d }, hknown, hformulas, ?_⟩
  have hne : tameOrOld ≠ [] := by simp [tameOrOld]
  exact (serialize_formula (s := { dialect := d }) hknown _).2 {} tameOrOld rfl hne hformulas

end Serializer

end TypedQuery
