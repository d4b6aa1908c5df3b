import TypedQuery.Proofs.KnownDialects
import TypedQuery.Proofs.Patterns.Matching
import TypedQuery.Proofs.TemplateGrammar

/-!
# The escape clause of LIKE templates

The LIKE templates embed the escape character. A dialect starts with the templates for the escape
character of its family, and a new escape character is written into all of them. So template and
escape character stay in step whatever the order of settings is, unless a setting registers one of
these operators itself.
-/

namespace TypedQuery

/-! ## Reading LIKE templates -/

namespace Element

/-- Text without braces is one element. -/
theorem readText_eq_ok {rest : List Char} (h : ∀ c ∈ rest, c ≠ '{' ∧ c ≠ '}')
    (text : List Char) : readText text rest = .ok (prepend (text.reverse ++ rest) []) := by
  induction rest generalizing text with
  | nil => simp [readText]
  | cons c rest ih =>
      obtain ⟨hc, hrest⟩ := List.forall_mem_cons.mp h
      rw [readText_cons hc.1 hc.2, ih hrest]
      simp

end Element

/-- Behind a start that is read by itself, the escape clause is the last text of a template. -/
theorem Template.elements_eq_of_readText {start : String} {elements : List Element}
    (hstart : ∀ rest, Element.readText [] (start.toList ++ rest) =
      (Element.readText [] rest).map (elements ++ ·))
    {escape : Char} {t : Template}
    (h : Template.parse (start ++ (" escape '" ++ escape.toString ++ "'")) = .ok t) :
    t.elements = elements ++ [.text (" escape '" ++ escape.toString ++ "'")] := by
  set clause := " escape '" ++ escape.toString ++ "'" with hdef
  have hclause : clause.toList =
      [' ', 'e', 's', 'c', 'a', 'p', 'e', ' ', '\'', escape, '\''] := by
    simp [hdef, Char.toString]
  -- a brace as escape character makes the clause unreadable
  have hbraces : ∀ c ∈ clause.toList, c ≠ '{' ∧ c ≠ '}' := by
    by_cases hescape : escape = '{' ∨ escape = '}'
    · rw [Template.parse, Template.read, String.toList_append, hstart, hclause] at h
      rcases hescape with rfl | rfl <;> cases h
    · simpa [hclause, not_or] using hescape
  have hread : Element.readText [] (start ++ clause).toList =
      .ok (elements ++ [.text clause]) := by
    rw [String.toList_append, hstart, Element.readText_eq_ok hbraces]
    simp [Element.prepend, hclause, Except.map, ← String.toList_inj]
  rw [Template.parse, Template.read, hread] at h
  cases h
  rfl

namespace TextTest

def template : TextTest → String
  | startsWith => "{0} like {1%}"
  | endsWith => "{0} like {%1}"
  | contains => "{0} like {%1%}"
  | like => "{0} like {1}"

def slot : TextTest → Element
  | startsWith => .like 1 false true false
  | endsWith => .like 1 true false false
  | contains => .like 1 true true false
  | like => .arg 1

theorem mem_likeOps (test : TextTest) : (test.op, test.template) ∈ Registry.likeOps := by
  cases test <;> simp [op, template, Registry.likeOps]

theorem readText_template (test : TextTest) (rest : List Char) :
    Element.readText [] (test.template.toList ++ rest) =
      (Element.readText [] rest).map ([.arg 0, .text " like ", test.slot] ++ ·) := by
  cases test <;> cases h : Element.readText [] rest <;>
    simp [template, slot, Element.readText, Element.readSlot, h, Except.map] <;> rfl

/-- A LIKE template that can be read has the escape clause as its last text. -/
theorem elements_eq_of_parse {test : TextTest} {escape : Char} {t : Template}
    (h : Template.parse (test.template ++ (" escape '" ++ escape.toString ++ "'")) = .ok t) :
    t.elements =
      [.arg 0, .text " like ", test.slot, .text (" escape '" ++ escape.toString ++ "'")] :=
  Template.elements_eq_of_readText (readText_template test) h

end TextTest

namespace Dialect

/-- Whether the LIKE templates of a dialect are written with its escape character. -/
def IsInStep (d : Dialect) : Prop :=
  ∀ e ∈ Registry.likeOps,
    Registered d (.op e.1)
      (e.2 ++ (" escape '" ++ d.escape.toString ++ "'"), e.1.precedence, none)

theorem isInStep_of_registerLike {d : Dialect} {r : Registry}
    (h : r.registerLike d.escape = .ok d.registry) : d.IsInStep := by
  intro e he
  have hnodup : ((Registry.likePatterns d.escape).map Prod.fst).Nodup := by
    rw [Registry.map_fst_likePatterns]
    decide
  exact Registry.get?_of_mem_registerOps h hnodup (List.mem_map_of_mem he)

end Dialect

/-- The operators that are written with LIKE, and the paths. -/
def Operator.isPatternPart : Operator → Bool
  | .op o => o ∈ Registry.likeOps.map Prod.fst
  | .path _ => true
  | .custom _ => false

/-- Whether a setting registers no template for a LIKE operator or a path. -/
def Setting.sparesPatterns : Setting → Bool
  | .template operator _ | .templateAt _ operator _ => !operator.isPatternPart
  | _ => true

/-- Whether a setting registers no template for a LIKE operator, but for a new escape character. -/
def Setting.sparesLike : Setting → Bool
  | .template operator _ | .templateAt _ operator _ =>
      Registry.likeOps.all fun e ↦ decide (operator ≠ .op e.1)
  | _ => true

def Setting.escape? : Setting → Option Char
  | .escape c => some c
  | _ => none

theorem Setting.registers?_path_of_sparesPatterns {setting : Setting}
    (hsetting : setting.sparesPatterns = true) (kind : PathKind) :
    setting.registers? (.path kind) = none := by
  have hne : ∀ o : Operator, o.isPatternPart = false → Operator.path kind ≠ o := by
    rintro o ho rfl
    cases ho
  cases setting with
  | template o pattern | templateAt precedence o pattern =>
      simp only [sparesPatterns, Bool.not_eq_true'] at hsetting
      exact if_neg (hne o hsetting)
  | custom | escape => simp [registers?]
  | _ => rfl

theorem Setting.sparesLike_of_sparesPatterns {setting : Setting}
    (h : setting.sparesPatterns = true) : setting.sparesLike = true := by
  have hop : ∀ operator : Operator, operator.isPatternPart = false →
      Registry.likeOps.all (fun e ↦ decide (operator ≠ .op e.1)) = true := by
    intro operator hpart
    rw [List.all_eq_true]
    intro e he
    rw [decide_eq_true_eq]
    rintro rfl
    simp only [Operator.isPatternPart, decide_eq_false_iff_not] at hpart
    exact hpart (List.mem_map_of_mem he)
  cases setting with
  | template o pattern | templateAt precedence o pattern =>
      exact hop o (by simpa [sparesPatterns] using h)
  | _ => rfl

theorem Setting.registers?_of_sparesLike {setting : Setting} (hsetting : setting.sparesLike = true)
    {e : Op × String} (he : e ∈ Registry.likeOps) (hescape : setting.escape? = none) :
    setting.registers? (.op e.1) = none := by
  cases setting with
  | template o pattern | templateAt precedence o pattern =>
      have hne : o ≠ .op e.1 := by
        simpa using (List.all_eq_true.mp hsetting) e he
      exact if_neg hne.symm
  | escape c => cases hescape
  | _ => rfl

namespace Dialect

variable {name : String} {family : Family} {settings : List Setting} {d d' : Dialect}

theorem escape_of_start (h : start name family = .ok d) : d.escape = family.escape := by
  obtain ⟨base, _, h⟩ := exists_of_bind h
  obtain ⟨like, _, h⟩ := exists_of_bind h
  obtain ⟨last, _, h⟩ := exists_of_bind h
  cases h
  rfl

theorem isInStep_start (h : start name family = .ok d) : d.IsInStep := by
  obtain ⟨base, like, last, _, hlike, hlast, hregistry, _⟩ := exists_of_start h
  have hready : IsInStep { d with registry := like } := by
    apply isInStep_of_registerLike
    rw [escape_of_start h]
    exact hlike
  have hfree : ∀ e ∈ Registry.likeOps, ∀ op ∈ Registry.familyOps family,
      Operator.op e.1 ≠ .op op := by
    cases family <;> decide
  intro e he
  obtain ⟨t, hparse, hget⟩ := hready e he
  refine ⟨t, hparse, ?_⟩
  rw [hregistry, Registry.get?_layer, Registry.get?_of_registerFamily hlast (hfree e he)]
  exact hget

theorem escape_of_set {setting : Setting} (h : d.set setting = .ok d') :
    d'.escape = setting.escape?.getD d.escape := by
  cases setting with
  | template | templateAt | custom | escape =>
      obtain ⟨r, _, rfl⟩ := exists_of_withRegistry h
      rfl
  | pagination forms =>
      obtain ⟨parsed, _, h⟩ := exists_of_bind h
      rw [← Except.ok.inj h]
      rfl
  | _ => cases h; rfl

/-- The escape character behind settings. -/
def lastEscape (escape : Char) (settings : List Setting) : Char :=
  settings.foldl (fun escape setting ↦ setting.escape?.getD escape) escape

theorem escape_of_foldlM_set (h : settings.foldlM set d = .ok d') :
    d'.escape = lastEscape d.escape settings := by
  induction settings generalizing d with
  | nil => cases h; rfl
  | cons setting settings ih =>
      rw [List.foldlM_cons] at h
      obtain ⟨middle, hfirst, hrest⟩ := exists_of_bind h
      rw [ih hrest, escape_of_set hfirst]
      rfl

theorem escape_of_build (h : build name family settings = .ok d) :
    d.escape = lastEscape family.escape settings := by
  obtain ⟨first, hstart, hfold⟩ := exists_of_build h
  rw [escape_of_foldlM_set hfold, escape_of_start hstart]

theorem isInStep_set {setting : Setting} (hd : d.IsInStep)
    (hsetting : setting.sparesLike = true) (h : d.set setting = .ok d') : d'.IsInStep := by
  cases hescape : setting.escape? with
  | some c =>
      cases setting with
      | escape c =>
          obtain ⟨r, hr, rfl⟩ := exists_of_withRegistry h
          exact isInStep_of_registerLike hr
      | _ => cases hescape
  | none =>
      have hsame : d'.escape = d.escape := by rw [escape_of_set h, hescape, Option.getD_none]
      intro e he
      obtain ⟨t, hparse, hget⟩ := hd e he
      have hfree := Setting.registers?_of_sparesLike hsetting he hescape
      rw [← hsame] at hparse
      exact ⟨t, hparse, (get?_of_set h hfree).trans hget⟩

theorem isInStep_foldlM_set (hd : d.IsInStep)
    (hsettings : ∀ setting ∈ settings, setting.sparesLike = true)
    (h : settings.foldlM set d = .ok d') : d'.IsInStep :=
  foldlM_induction (fun setting hsetting _ _ hd ↦ isInStep_set hd (hsettings setting hsetting)) hd h

theorem isInStep_of_build (h : build name family settings = .ok d)
    (hsettings : ∀ setting ∈ settings, setting.sparesLike = true) : d.IsInStep := by
  obtain ⟨first, hstart, hfold⟩ := exists_of_build h
  exact isInStep_foldlM_set (isInStep_start hstart) hsettings hfold

/-- The LIKE template of a dialect, whose last text is the clause for its escape character. -/
theorem get?_textTest_of_sparesLike (h : build name family settings = .ok d)
    (hsettings : ∀ setting ∈ settings, setting.sparesLike = true) (test : TextTest) :
    ∃ pattern, d.registry.get? (.op test.op) =
      some ⟨⟨pattern, [.arg 0, .text " like ", test.slot,
        .text (" escape '" ++ d.escape.toString ++ "'")]⟩, test.op.precedence, none⟩ := by
  obtain ⟨t, hparse, hget⟩ := isInStep_of_build h hsettings _ test.mem_likeOps
  refine ⟨t.pattern, ?_⟩
  rw [hget, ← TextTest.elements_eq_of_parse hparse]

theorem get?_textTest_of_build (h : build name family settings = .ok d)
    (hsettings : ∀ setting ∈ settings, setting.sparesPatterns = true) (test : TextTest) :
    ∃ pattern, d.registry.get? (.op test.op) =
      some ⟨⟨pattern, [.arg 0, .text " like ", test.slot,
        .text (" escape '" ++ d.escape.toString ++ "'")]⟩, test.op.precedence, none⟩ :=
  get?_textTest_of_sparesLike h
    (fun setting hsetting ↦ Setting.sparesLike_of_sparesPatterns (hsettings setting hsetting)) test

theorem isInherited_path (hsettings : ∀ setting ∈ settings, setting.sparesPatterns = true)
    (kind : PathKind) : isInherited family settings (.path kind) = true := by
  have hnone : lastRegistered? (.path kind) settings = none := by
    rw [lastRegistered?, List.findSome?_eq_none_iff]
    intro setting hsetting
    exact Setting.registers?_path_of_sparesPatterns
      (hsettings _ (List.mem_reverse.mp hsetting)) kind
  simp [isInherited, hnone]

end Dialect

end TypedQuery
