import TypedQuery.Proofs.Patterns.LikeTests
import TypedQuery.Proofs.Patterns.LoweredPatterns

/-!
# Tests of texts that ignore case

The templates of these tests lower both sides. The pattern is escaped before it is lowered, and the
escape clause behind it stays as it is, so that the pattern is right for a constant just when
lowering keeps all of its characters in their places.
-/

namespace TypedQuery

open Text (AllAscii isAscii isAscii_toLower lower toList_lower toLower_toLower)

open Text.Like

/-- The tests of a text against a constant that ignore case. -/
inductive CaselessTest
  | startsWith
  | endsWith
  | contains

namespace CaselessTest

def op : CaselessTest → Op
  | startsWith => .startsWithIc
  | endsWith => .endsWithIc
  | contains => .stringContainsIc

/-- The same test of texts whose case matters. -/
def cased : CaselessTest → TextTest
  | startsWith => .startsWith
  | endsWith => .endsWith
  | contains => .contains

/-- Whether any text may stand before what is asked for. -/
def leading : CaselessTest → Bool
  | startsWith => false
  | endsWith | contains => true

/-- Whether any text may stand behind what is asked for. -/
def trailing : CaselessTest → Bool
  | startsWith | contains => true
  | endsWith => false

/-- The pattern for a constant, which is escaped first and lowered then. -/
def pattern (test : CaselessTest) (escape : Char) (constant : String) : String :=
  (if test.leading then "%" else "") ++
      lower (.ofList (literal escape constant.toList)) ++
    (if test.trailing then "%" else "")

def before (test : CaselessTest) : List Char := if test.leading then ['%'] else []

def behind (test : CaselessTest) : List Char := if test.trailing then ['%'] else []

variable {escape : Char} {constant : String}

theorem toList_pattern (test : CaselessTest) (hescape : isAscii escape = true)
    (hconstant : AllAscii constant.toList) :
    (test.pattern escape constant).toList =
      test.before ++ (literal escape constant.toList).map Char.toLower ++ test.behind := by
  have hliteral : AllAscii (String.ofList (literal escape constant.toList)).toList := by
    rw [String.toList_ofList]
    exact allAscii_literal hescape hconstant
  rw [pattern, String.toList_append, String.toList_append, toList_lower hliteral,
    String.toList_ofList]
  cases test <;> rfl

theorem toList_pattern_cased (test : CaselessTest) (escape : Char) (constant : String) :
    (test.cased.pattern escape constant).toList =
      test.before ++ literal escape constant.toList ++ test.behind := by
  cases test <;> simp [cased, TextTest.pattern, before, behind, leading, trailing]

theorem asks_self (test : CaselessTest) (text : String) : test.cased.Asks text text := by
  cases test with
  | startsWith => exact List.prefix_rfl
  | endsWith => exact List.suffix_rfl
  | contains => exact List.infix_rfl

theorem sublist_of_asks {test : CaselessTest} {constant text : String}
    (h : test.cased.Asks constant text) : constant.toList.Sublist text.toList := by
  cases test with
  | startsWith => exact List.IsPrefix.sublist h
  | endsWith => exact List.IsSuffix.sublist h
  | contains => exact List.IsInfix.sublist h

/-- A pattern for a constant has characters in lower case only. -/
theorem of_mem_pattern {test : CaselessTest} (hescape : isAscii escape = true)
    (hconstant : AllAscii constant.toList) {c : Char}
    (hc : c ∈ (test.pattern escape constant).toList) : isAscii c = true ∧ c.toLower = c := by
  have hpercents : ∀ d ∈ test.before ++ test.behind, d = '%' := by
    cases test <;> simp [before, behind, leading, trailing]
  rw [toList_pattern test hescape hconstant, List.mem_append, List.mem_append, List.mem_map] at hc
  rcases hc with (hc | ⟨d, hd, rfl⟩) | hc
  · obtain rfl := hpercents c (List.mem_append_left _ hc)
    decide
  · have hascii := allAscii_literal hescape hconstant d hd
    exact ⟨isAscii_toLower hascii, toLower_toLower hascii⟩
  · obtain rfl := hpercents c (List.mem_append_right _ hc)
    decide

theorem count_pattern {test : CaselessTest} (hescape : isAscii escape = true)
    (hconstant : AllAscii constant.toList) {d : Char} (hd : d ≠ '%') :
    (test.pattern escape constant).toList.count d =
      ((literal escape constant.toList).map Char.toLower).count d := by
  rw [toList_pattern test hescape hconstant]
  cases test <;> simp [before, behind, leading, trailing, hd.symm]

/-- The shortest text for a pattern that matches what its test asks for is the lowered constant. -/
theorem exists_sample_eq {test : CaselessTest} (hescape : isAscii escape = true)
    (hconstant : AllAscii constant.toList)
    (h : ∀ text : String, AllAscii text.toList →
      (isLike escape (test.pattern escape constant) (lower text) = true ↔
        test.cased.Asks (lower constant) (lower text))) :
    ∃ ts, read? escape (test.pattern escape constant).toList = some ts ∧
      sample ts = constant.toList.map Char.toLower := by
  have hself := (h constant hconstant).mpr (test.asks_self _)
  rw [isLike, Option.any_eq_true] at hself
  obtain ⟨ts, hread, haccepts⟩ := hself
  refine ⟨ts, hread, ?_⟩
  have hchars : ∀ c ∈ sample ts, isAscii c = true ∧ c.toLower = c := by
    intro c hc
    rcases mem_of_mem_sample hread hc with rfl | hc
    · decide
    · exact of_mem_pattern hescape hconstant hc
  have hascii : AllAscii (String.ofList (sample ts)).toList := by
    rw [String.toList_ofList]
    exact fun c hc ↦ (hchars c hc).1
  have hlower : lower (String.ofList (sample ts)) = .ofList (sample ts) := by
    rw [← String.toList_inj, toList_lower hascii, String.toList_ofList]
    exact (List.map_congr_left fun c hc ↦ (hchars c hc).2).trans (List.map_id _)
  have hasks := (h _ hascii).mp (by
    rw [hlower, isLike, hread, Option.any_some, String.toList_ofList]
    exact accepts_sample ts)
  have hsublist := sublist_of_asks hasks
  rw [hlower, String.toList_ofList, toList_lower hconstant] at hsublist
  rw [toList_lower hconstant] at haccepts
  refine (hsublist.eq_of_length_le ?_).symm
  rw [length_sample]
  exact length_steps_le haccepts

/-- The pattern of a test matches the lower-case texts that have the lower case of the constant
just when lowering keeps every character of the constant in its place. -/
theorem isLike_pattern_iff (test : CaselessTest) (hpercent : escape ≠ '%')
    (hunderscore : escape ≠ '_') (hescape : isAscii escape = true)
    (hconstant : AllAscii constant.toList) :
    (∀ text : String, AllAscii text.toList →
      (isLike escape (test.pattern escape constant) (lower text) = true ↔
        test.cased.Asks (lower constant) (lower text))) ↔
      ∀ c ∈ constant.toList, SurvivesLowering escape c := by
  constructor
  · intro h
    obtain ⟨ts, hread, hsample⟩ := exists_sample_eq hescape hconstant h
    -- underscores of the constant are literal, so that the pattern has no token for any character
    have hany : .anyChar ∉ ts := by
      have hcount := count_underscore hunderscore hread
      rw [count_pattern hescape hconstant (by decide), hsample,
        count_map_toLower (.inr rfl) hconstant,
        count_map_toLower_literal (.inr rfl) hunderscore hescape hconstant] at hcount
      rw [← List.count_eq_zero]
      omega
    refine survivesLowering_of_count hescape hconstant fun d ↦ ?_
    by_cases hd : d = '%'
    · subst hd
      rw [count_map_toLower_literal (.inl rfl) hpercent hescape hconstant, count_literal hpercent,
        count_map_toLower (.inl rfl) hconstant]
    · rw [← count_pattern hescape hconstant hd, count_of_notMem_anyChar hread hany hd, hsample]
  · intro h text _
    have hpattern : test.pattern escape constant = test.cased.pattern escape (lower constant) := by
      rw [← String.toList_inj, test.toList_pattern hescape hconstant, toList_pattern_cased,
        toList_lower hconstant, map_toLower_literal hconstant h]
    rw [hpattern, test.cased.isLike_pattern hpercent hunderscore]

/-! ## The template -/

def template : CaselessTest → String
  | startsWith => "{0l} like {1%%}"
  | endsWith => "{0l} like {%%1}"
  | contains => "{0l} like {%%1%%}"

def slot (test : CaselessTest) : Element := .like 1 test.leading test.trailing true

theorem mem_likeOps (test : CaselessTest) : (test.op, test.template) ∈ Registry.likeOps := by
  cases test <;> simp [op, template, Registry.likeOps]

theorem readText_template (test : CaselessTest) (rest : List Char) :
    Element.readText [] (test.template.toList ++ rest) =
      (Element.readText [] rest).map ([.cased 0 .lower, .text " like ", test.slot] ++ ·) := by
  cases test <;> cases h : Element.readText [] rest <;>
    simp [template, slot, leading, trailing, Element.readText, Element.readSlot, h, Except.map] <;>
    rfl

def expr (test : CaselessTest) (type : ValueType) (e : Expr) (c : Constant) : Expr :=
  .operation type (.op test.op) [e, .constant c]

end CaselessTest

/-- The template of a test that ignores case, with the clause for the escape character of its
dialect. -/
theorem Dialect.get?_caselessTest {name : String} {family : Family} {settings : List Setting}
    {d : Dialect} (h : build name family settings = .ok d)
    (hsettings : ∀ setting ∈ settings, setting.sparesLike = true) (test : CaselessTest) :
    ∃ pattern, d.registry.get? (.op test.op) =
      some ⟨⟨pattern, [.cased 0 .lower, .text " like ", test.slot,
        .text (" escape '" ++ d.escape.toString ++ "'")]⟩, test.op.precedence, none⟩ := by
  obtain ⟨t, hparse, hget⟩ := isInStep_of_build h hsettings _ test.mem_likeOps
  have helements : t.elements = [.cased 0 .lower, .text " like ", test.slot,
      .text (" escape '" ++ d.escape.toString ++ "'")] :=
    Template.elements_eq_of_readText test.readText_template hparse
  refine ⟨t.pattern, ?_⟩
  rw [hget, ← helements]

namespace Setup

variable {s : Setup} {c : Constant} {constant : String}

/-- An argument in lower case. A constant is lowered beforehand. -/
def lowerSlot (s : Setup) (precedence : Int) (a : Operand) : Rendering :=
  match a.string? with
  | some text => .bound (.string (lower text))
  | none => s.argument precedence (s.textOperation expansionDepth .lower [a])

theorem operationRendering_caselessTest {test : CaselessTest} {pattern clause : String}
    {precedence : Int}
    (hget : s.profile.registry.get? (.op test.op) =
      some ⟨⟨pattern, [.cased 0 .lower, .text " like ", test.slot, .text clause]⟩, precedence,
        none⟩)
    (x : Operand) (hc : c.value = .string constant) :
    s.operationRendering (.op test.op) [x, s.constant c] =
      s.inside test.op (s.lowerSlot precedence x ++ (.text " like " ++
        (.bound (.string (test.pattern s.profile.escape constant)) ++
          (.text clause ++ .empty)))) := by
  have hplain : s.operationRendering (.op test.op) [x, s.constant c] =
      s.inside test.op (s.plain (.op test.op) [x, s.constant c]) := by
    cases test <;> cases hfamily : s.profile.family <;>
      simp only [operationRendering, hfamily] <;> rfl
  have hslot : s.element (s.textOperation expansionDepth) pattern precedence [x, s.constant c]
      test.slot = .bound (.string (test.pattern s.profile.escape constant)) := by
    simp [CaselessTest.slot, element, element.withArg, string?_constant s hc, likePattern,
      CaselessTest.pattern]
  have hcased : s.element (s.textOperation expansionDepth) pattern precedence [x, s.constant c]
      (.cased 0 .lower) = s.lowerSlot precedence x := by
    cases hx : x.string? <;> simp [element, element.withArg, lowerSlot, hx]
  rw [hplain, plain_eq hget, ← hslot, ← hcased]
  rfl

/-- Where LOWER has the template of the base, a path stands in its parentheses. -/
theorem lowerSlot_pathOperand
    (hlower : s.profile.registry.get? (.op .lower) =
      some ⟨⟨"lower({0})", [.text "lower(", .arg 0, .text ")"]⟩, -1, none⟩)
    (precedence : Int) (p : Path) :
    s.lowerSlot precedence (s.pathOperand p) =
      s.inside .lower ((s.pathOperand p).render.between "lower(" ")") := by
  obtain ⟨r, hr⟩ := s.exists_pathOperand_eq p
  have htext : (s.pathOperand p).string? = none := by
    rw [hr]
    rfl
  have hentry : s.entry (s.textOperation 3) (.op .lower) [s.pathOperand p] =
      (s.pathOperand p).render.between "lower(" ")" := by
    have hargument : s.argument (-1) (s.pathOperand p) = (s.pathOperand p).render :=
      s.argument_path (-1) p
    rw [Rendering.between, Rendering.append_assoc, ← Rendering.append_empty (.text ")"),
      ← hargument]
    unfold entry
    rw [hlower]
    rfl
  have hloose : s.bindsLooser precedence (s.textOperation expansionDepth .lower [s.pathOperand p]) =
      decide (precedence < -1) := by
    simp [bindsLooser, expansionDepth, textOperation, textOperation.ofRender, Operand.operator?,
      Registry.precedence, hlower]
  have hnot : (decide (0 ≤ precedence) && decide (precedence < -1)) = false := by
    simp
    omega
  rw [lowerSlot, htext]
  simp only
  rw [argument, hloose, hnot, ← hentry]
  rfl

theorem exists_texts_lowerSlot (hpaths : s.HasPaths)
    (hlower : s.profile.registry.get? (.op .lower) =
      some ⟨⟨"lower({0})", [.text "lower(", .arg 0, .text ")"]⟩, -1, none⟩)
    (precedence : Int) {p : Path} (hp : p.isPlain = true) (scope : Scope) :
    ∃ texts : List String,
      s.lowerSlot precedence (s.pathOperand p) scope = .ok (texts.map Chunk.text) ∧
        String.join texts = "lower(" ++
          s.testedText p { scope with wrapElements := s.profile.wrapsElements .lower } ++ ")" := by
  obtain ⟨texts, htexts, hjoin⟩ := exists_texts_of_isPlain hpaths hp
    { scope with wrapElements := s.profile.wrapsElements .lower }
  refine ⟨["lower("] ++ texts ++ [")"], ?_,
    by simp [String.join_append, String.append_assoc, hjoin]⟩
  rw [lowerSlot_pathOperand hlower, inside, Rendering.within, Rendering.between,
    Rendering.append_apply, Rendering.append_apply, htexts, List.map_append, List.map_append]
  rfl

end Setup

namespace Serializer

variable {s : Serializer} {name : String} {family : Family} {settings : List Setting}

/-- The statement for an expression in lower case compared with a pattern. -/
def caselessStatement (s : Serializer) (op : Op) (e : Expr) (pattern : String) :
    Except Error Statement :=
  s.statement {} (s.setup.inside op
    (s.setup.lowerSlot op.precedence (s.setup.operand e) ++ (.text " like " ++
      (.bound (.string pattern) ++
        (.text (" escape '" ++ s.dialect.escape.toString ++ "'") ++ .empty)))))

/-- For variables and their properties it is one placeholder behind the path in lower case. -/
theorem caselessStatement_path (hpaths : s.setup.HasPaths)
    (hlower : s.dialect.registry.get? (.op .lower) =
      some ⟨⟨"lower({0})", [.text "lower(", .arg 0, .text ")"]⟩, -1, none⟩)
    {p : Path} (hp : p.isPlain = true) (op : Op) (pattern : String) :
    s.caselessStatement op (.path p) pattern =
      .ok
        { text := "lower(" ++ s.setup.testedText p ⟨false, s.dialect.wrapsElements .lower⟩ ++ ")" ++
            " like " ++ s.dialect.placeholders.first ++ " escape '" ++
            s.dialect.escape.toString ++ "'"
          bindings := [.value (.string pattern)]
          modifiers := {} } := by
  obtain ⟨texts, htexts, hjoin⟩ := Setup.exists_texts_lowerSlot hpaths hlower op.precedence hp
    ⟨false, s.dialect.wrapsElements op⟩
  set clause := " escape '" ++ s.dialect.escape.toString ++ "'" with hclause
  have hchunks : s.setup.inside op (s.setup.lowerSlot op.precedence (s.setup.operand (.path p)) ++
      (.text " like " ++ (.bound (.string pattern) ++ (.text clause ++ .empty)))) {} =
        .ok ((texts ++ [" like "]).map Chunk.text ++
          [.placeholder .string (.value (.string pattern)), .text clause]) := by
    have hlowered : s.setup.lowerSlot op.precedence (s.setup.operand (.path p))
        ⟨false, s.setup.profile.wrapsElements op⟩ = .ok (texts.map Chunk.text) := htexts
    rw [Setup.inside, Rendering.within, Rendering.append_apply, hlowered, List.map_append,
      List.append_assoc]
    rfl
  have hword : String.join [" like "] = " like " := rfl
  rw [caselessStatement, statement_placeholder hchunks, String.join_append, hjoin, hword]
  simp only [hclause, ← String.append_assoc]
  rfl

theorem serialize_eq_caselessStatement
    (hbuild : Dialect.build name family settings = .ok s.dialect)
    (hsettings : ∀ setting ∈ settings, setting.sparesLike = true) (test : CaselessTest)
    (type constantType : ValueType) (e : Expr) (constant : String) :
    s.serialize (.expr (test.expr type e ⟨constantType, .string constant⟩)) =
      s.caselessStatement test.op e (test.pattern s.dialect.escape constant) := by
  obtain ⟨template, hget⟩ := Dialect.get?_caselessTest hbuild hsettings test
  have hrendering := Setup.operationRendering_caselessTest (s := s.setup) hget
    (s.setup.operand e) (c := ⟨constantType, .string constant⟩) rfl
  rw [serialize_eq, caselessStatement]
  exact congrArg (s.statement {}) hrendering

/-- A dialect that inherits the templates of LOWER and of paths tests a property of a variable. -/
theorem caselessStatement_of_build {d : Dialect}
    (hbuild : Dialect.build name family settings = .ok d)
    (hsettings : ∀ setting ∈ settings, setting.sparesPatterns = true)
    (hlower : Dialect.isInherited family settings (.op .lower) = true) (hquote : d.quote = none)
    (owner : ValueType) (root property : String) (op : Op) (pattern : String) :
    ({ dialect := d } : Serializer).caselessStatement op
        (.path (.property .string (.root owner root) property)) pattern =
      .ok
        { text := "lower(" ++ (root ++ "." ++ property) ++ ")" ++ " like " ++
            d.placeholders.first ++ " escape '" ++ d.escape.toString ++ "'"
          bindings := [.value (.string pattern)]
          modifiers := {} } := by
  let s : Serializer := { dialect := d }
  have hpaths := (hasPaths_of_build (s := s) hbuild hsettings).1
  have hget : d.registry.get? (.op .lower) =
      some ⟨⟨"lower({0})", [.text "lower(", .arg 0, .text ")"]⟩, -1, none⟩ :=
    Dialect.get?_op_of_registered hbuild rfl (.inr ⟨rfl, by decide, hlower⟩)
  have htested : s.setup.testedText (.property .string (.root owner root) property)
      ⟨false, s.dialect.wrapsElements .lower⟩ = root ++ "." ++ property := by
    rw [Setup.testedText,
      if_neg (by simp [Setup.writesElements, Path.type, ValueType.isCollectionLike])]
    exact Setup.pathText_property_root hquote .string owner root property
  rw [caselessStatement_path hpaths hget rfl, htested]

/-- In every dialect whose settings leave the templates of LIKE alone, a test that ignores case
binds one pattern behind an operand in lower case. In lower case, this pattern matches just the
texts that the test asks for, if and only if lowering keeps every character of the constant in its
place. -/
theorem serialize_caselessTest (hbuild : Dialect.build name family settings = .ok s.dialect)
    (hsettings : ∀ setting ∈ settings, setting.sparesLike = true)
    (hpercent : s.dialect.escape ≠ '%') (hunderscore : s.dialect.escape ≠ '_')
    (hescape : isAscii s.dialect.escape = true) (test : CaselessTest)
    (type constantType : ValueType) (e : Expr) {constant : String}
    (hconstant : AllAscii constant.toList) :
    ∃ pattern : String,
      s.serialize (.expr (test.expr type e ⟨constantType, .string constant⟩)) =
        s.caselessStatement test.op e pattern ∧
      ((∀ text : String, AllAscii text.toList →
          (isLike s.dialect.escape pattern (lower text) = true ↔
            test.cased.Asks (lower constant) (lower text))) ↔
        ∀ c ∈ constant.toList, SurvivesLowering s.dialect.escape c) :=
  ⟨test.pattern s.dialect.escape constant,
    serialize_eq_caselessStatement hbuild hsettings test type constantType e constant,
    test.isLike_pattern_iff hpercent hunderscore hescape hconstant⟩

/-- With the usual escape character, signs and letters of a constant keep their places. -/
theorem exists_startsWith_lowered_catName :
    ∃ (d : Dialect) (pattern : String),
      Dialect.jpql = .ok d ∧
      (∀ text : String, AllAscii text.toList →
        (isLike '!' pattern (lower text) = true ↔
          "50%!a".toList <+: (lower text).toList)) ∧
      ({ dialect := d } : Serializer).serialize (.expr (CaselessTest.startsWith.expr .bool
        (.path (.property .string (.root (.entity "Cat") "cat") "name"))
          ⟨.string, .string "50%!A"⟩)) =
        .ok ⟨"lower(cat.name) like ?1 escape '!'", [.value (.string pattern)], {}⟩ := by
  obtain ⟨d, hbuild⟩ := Dialect.exists_jpql
  have hescape : d.escape = '!' := Dialect.escape_of_build hbuild
  have hplaceholders : d.placeholders = .numbered '?' := Dialect.placeholders_of_build hbuild
  have hconstant : AllAscii "50%!A".toList := by decide
  obtain ⟨pattern, hstatement, hmatches⟩ := serialize_caselessTest (s := { dialect := d }) hbuild
    (by simp) (by simp [hescape]) (by simp [hescape]) (by rw [hescape]; decide) .startsWith .bool
    .string (.path (.property .string (.root (.entity "Cat") "cat") "name")) hconstant
  have hlower : (lower "50%!A").toList = "50%!a".toList := by
    rw [toList_lower hconstant]
    decide
  refine ⟨d, pattern, hbuild, fun text htext ↦ ?_, ?_⟩
  · have hsurvives : ∀ c ∈ "50%!A".toList, SurvivesLowering d.escape c := by
      have hall : "50%!A".toList.all fun c ↦ SurvivesLowering '!' c := by decide
      rw [hescape]
      exact fun c hc ↦ of_decide_eq_true (List.all_eq_true.mp hall c hc)
    have hmatch := hmatches.mpr hsurvives text htext
    rw [hescape] at hmatch
    rw [hmatch, ← hlower]
    rfl
  · rw [hstatement, caselessStatement_of_build hbuild (by simp) (by decide)
      (Dialect.quote_of_build hbuild (by simp)), hescape, hplaceholders]
    rfl

/-- With a capital letter as escape character, the pattern for a constant with a percent sign
matches nothing that starts with it: the letter is written in lower case then. -/
theorem not_isLike_startsWith_lowered :
    ∃ d : Dialect,
      Dialect.build "own" .sql [.escape 'E'] = .ok d ∧
      ({ dialect := d } : Serializer).serialize (.expr (CaselessTest.startsWith.expr .bool
        (.path (.property .string (.root (.entity "Cat") "cat") "name"))
          ⟨.string, .string "5%"⟩)) =
        .ok ⟨"lower(cat.name) like ? escape 'E'", [.value (.string "5e%%")], {}⟩ ∧
      isLike 'E' "5e%%" (lower "5%") = false ∧
      CaselessTest.startsWith.cased.Asks (lower "5%") (lower "5%") := by
  have hreadable : ∀ setting ∈ [Setting.escape 'E'], setting.IsReadable := by
    simp only [List.forall_mem_cons]
    exact ⟨Registry.isReadable_likePatterns (by decide) (by decide), List.forall_mem_nil _⟩
  obtain ⟨d, hbuild⟩ := Dialect.exists_build "own" .sql hreadable
  have hescape : d.escape = 'E' := Dialect.escape_of_build hbuild
  have hplaceholders : d.placeholders = .anonymous := Dialect.placeholders_of_build hbuild
  have hpattern : CaselessTest.startsWith.pattern 'E' "5%" = "5e%%" := by
    rw [← String.toList_inj, CaselessTest.toList_pattern _ (by decide) (by decide)]
    decide
  have hlower : lower "5%" = "5%" := by
    rw [← String.toList_inj, toList_lower (by decide)]
    decide
  refine ⟨d, hbuild, ?_, ?_, CaselessTest.asks_self _ _⟩
  · rw [serialize_eq_caselessStatement hbuild (by decide), hescape, hpattern,
      caselessStatement_of_build hbuild (by decide) (by decide)
        (Dialect.quote_of_build hbuild rfl), hescape, hplaceholders]
    rfl
  · rw [hlower]
    decide

end Serializer

end TypedQuery
