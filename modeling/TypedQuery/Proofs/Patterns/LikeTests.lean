import TypedQuery.Proofs.Building
import TypedQuery.Proofs.Patterns.Templates
import TypedQuery.Proofs.Reading.Rendered

/-!
# Tests of texts as statements

A test of a path against a constant text is written with one placeholder for its pattern and the
escape clause of the dialect behind it. The pattern matches what the test asks for, whatever the
constant is made of.
-/

namespace TypedQuery

open Rendering (Writes)

/-- The first placeholder of a statement. -/
def PlaceholderStyle.first : PlaceholderStyle → String
  | numbered mark => mark.toString ++ "1"
  | anonymous => "?"

theorem layout_placeholder_texts (style : PlaceholderStyle) (type : ValueType) (b : Binding)
    (behind : List String) :
    layout style (.placeholder type b :: behind.map Chunk.text) =
      (style.first ++ String.join behind, [b]) := by
  cases style with
  | anonymous =>
      have hbehind : Layout.anonymous (behind.map Chunk.text) = (behind, []) := by
        induction behind with
        | nil => rfl
        | cons text behind ih => simp [Layout.anonymous, ih]
      simp [layout, Layout.anonymous, hbehind, PlaceholderStyle.first]
  | numbered mark =>
      have hallot : Labelled.allot [] (type, b) = (0, [(type, b)]) := rfl
      have hbehind : ∀ keys, Layout.numbered mark keys (behind.map Chunk.text) =
          (behind, keys) := by
        intro keys
        induction behind with
        | nil => rfl
        | cons text behind ih => simp [Layout.numbered, ih]
      simp [layout, Layout.numbered, hallot, hbehind, PlaceholderStyle.first]
      rfl

namespace Rendering

variable {r : Rendering} {scope : Scope} {e : Error}

theorem between_of_error (h : r scope = .error e) {before behind : String} :
    r.between before behind scope = .error e := by
  refine append_of_error ?_
  rw [append_apply, h]
  rfl

end Rendering

namespace Setup

variable {s : Setup}

/-! ## The path -/

/-- Inside an operator for the elements of collections, a collection is written as its elements. -/
def writesElements (p : Path) (scope : Scope) : Bool :=
  scope.wrapElements && p.kind == .property && p.type.isCollectionLike

theorem render_pathOperand (s : Setup) (p : Path) (scope : Scope) :
    (s.pathOperand p).render scope =
      let body := (s.pathOperand p).render.within ({ · with wrapElements := false })
      if writesElements p scope then body.between "elements(" ")" scope else body scope := by
  obtain ⟨args, hstep⟩ : ∃ args, s.pathOperand p = s.step p args := by
    cases p <;> exact ⟨_, rfl⟩
  rw [hstep]
  cases hget : s.profile.registry.get? (.path p.kind) with
  | none =>
      cases hwrites : writesElements p scope <;>
        simp [step, hget, Operand.render, Rendering.within] <;> rfl
  | some e =>
      have hbody : (s.step p args).render.within ({ · with wrapElements := false }) =
          (s.apply e.template e.precedence args).within ({ · with wrapElements := false }) := by
        funext scope
        simp [step, hget, Operand.render, Rendering.within]
      rw [hbody]
      simp only [step, hget, Operand.render, writesElements]
      rfl

theorem exists_pathOperand_eq (s : Setup) (p : Path) :
    ∃ r, s.pathOperand p = .leaf (.path p) r := by
  cases p <;> exact ⟨_, rfl⟩

/-- Whether a path stands as its elements, the elements are in parentheses behind a word. -/
def testedText (s : Setup) (p : Path) (scope : Scope) : String :=
  if writesElements p scope then "elements(" ++ s.pathText p ++ ")" else s.pathText p

theorem exists_texts_of_isPlain (hs : s.HasPaths) {p : Path} (hp : p.isPlain = true)
    (scope : Scope) : ∃ texts : List String,
      (s.pathOperand p).render scope = .ok (texts.map Chunk.text) ∧
        String.join texts = s.testedText p scope := by
  have hbody := (writes_pathOperand hs hp).1
  rw [render_pathOperand, testedText]
  dsimp only
  split
  · exact (((Writes.text "elements(").append hbody).append (.text ")")) scope
  · exact hbody scope

/-- A path with a step that no template is registered for cannot be written. -/
theorem exists_missingTemplate (hs : s.HasPaths)
    (hmissing : ∀ kind, kind ≠ .root → kind ≠ .property →
      s.profile.registry.get? (.path kind) = none)
    {p : Path} (hp : p.isPlain = false) (scope : Scope) :
    ∃ kind, (s.pathOperand p).render scope =
      .error (.missingTemplate (.path kind) s.profile.name) := by
  have hstep : ∀ {p : Path} {args : List Operand}, p.kind ≠ .root → p.kind ≠ .property →
      (s.step p args).render scope =
        .error (.missingTemplate (.path p.kind) s.profile.name) := by
    intro p args hroot hproperty
    simp [step, hmissing p.kind hroot hproperty, Operand.render, Rendering.fail]
  cases p with
  | root type name => cases hp
  | property type parent name =>
      obtain ⟨kind, hparent⟩ := exists_missingTemplate hs hmissing (p := parent) hp
        { scope with wrapElements := false }
      refine ⟨kind, ?_⟩
      have hbody : ((s.pathOperand (.property type parent name)).render.within
          ({ · with wrapElements := false })) scope =
            .error (.missingTemplate (.path kind) s.profile.name) := by
        have hget : s.profile.registry.get? (.path (Path.property type parent name).kind) = _ :=
          hs.property
        have htext := Rendering.append_of_error (t := .text "." ++ (.text
          (s.profile.quoteIdent (s.columnName parent.type name)) ++ .empty)) hparent
        rw [← apply_property] at htext
        simpa [pathOperand, propertyStep, step, hget, Operand.render, Rendering.within] using htext
      rw [render_pathOperand]
      dsimp only
      split
      · exact Rendering.between_of_error hbody
      · exact hbody
  | listValue | listIndex | mapValue | mapKey | collectionAny =>
      exact ⟨_, hstep (by simp [Path.kind]) (by simp [Path.kind])⟩

/-! ## The test -/

theorem argument_path (s : Setup) (precedence : Int) (p : Path) :
    s.argument precedence (s.operand (.path p)) = (s.pathOperand p).render := by
  obtain ⟨r, hr⟩ := s.exists_pathOperand_eq p
  have hoperand : s.operand (.path p) = .leaf (.path p) r := hr
  rw [hoperand, argument_leaf, hr]
  rfl

variable {c : Constant} {constant : String}

theorem string?_constant (s : Setup) (hc : c.value = .string constant) :
    (s.constant c).string? = some constant := by
  simp [Operand.string?, Operand.value?, Setup.constant, Operand.expr, Expr.value?, hc,
    Value.string?]

/-- Tests but `like` leave their constant to the slot of the template. -/
theorem element_slot (s : Setup) {test : TextTest} (htest : test ≠ .like)
    (operation : Op → List Operand → Operand) (pattern : String) (precedence : Int) (x : Operand)
    (hc : c.value = .string constant) :
    s.element operation pattern precedence [x, s.constant c] test.slot =
      .bound (.string (test.pattern s.profile.escape constant)) := by
  have hpattern : ∀ leading trailing : Bool,
      s.element operation pattern precedence [x, s.constant c] (.like 1 leading trailing false) =
        .bound (.string (s.likePattern constant leading trailing false)) := by
    intro leading trailing
    simp [element, element.withArg, string?_constant s hc]
  cases test with
  | startsWith | endsWith | contains =>
      rw [TextTest.slot, hpattern]
      congr 2
      simp [likePattern, TextTest.pattern, ← String.toList_inj]
  | like => exact absurd rfl htest

theorem operationRendering_of_ne_like (s : Setup) {test : TextTest} (htest : test ≠ .like)
    (args : List Operand) : s.operationRendering (.op test.op) args =
      s.inside test.op (s.plain (.op test.op) args) := by
  cases test with
  | startsWith | endsWith | contains =>
      cases hfamily : s.profile.family <;> simp only [operationRendering, hfamily] <;> rfl
  | like => exact absurd rfl htest

/-- `like` doubles the escape characters of its constant beforehand. -/
theorem operationRendering_like (s : Setup) (x : Operand) (hc : c.value = .string constant) :
    s.operationRendering (.op .like) [x, s.constant c] =
      s.inside .like
        (s.plain (.op .like) [x, s.string (TextTest.like.pattern s.profile.escape constant)]) := by
  have hlike : s.likeTest x (s.constant c) =
      s.plain (.op .like) [x, s.string (TextTest.like.pattern s.profile.escape constant)] := by
    rw [likeTest, string?_constant s hc]
    rfl
  rw [← hlike]
  cases hfamily : s.profile.family <;> simp only [operationRendering, hfamily] <;> rfl

/-- The template of a test writes the slot behind the word and the escape clause behind the slot. -/
theorem plain_textTest (test : TextTest) {pattern clause : String} {precedence : Int}
    (hget : s.profile.registry.get? (.op test.op) =
      some ⟨⟨pattern, [.arg 0, .text " like ", test.slot, .text clause]⟩, precedence, none⟩)
    (x a : Operand) :
    s.plain (.op test.op) [x, a] =
      s.argument precedence x ++ (.text " like " ++
        (s.element (s.textOperation expansionDepth) pattern precedence [x, a] test.slot ++
          (.text clause ++ .empty))) := by
  rw [plain_eq hget]
  rfl

theorem plain_like_string {pattern clause : String} {precedence : Int}
    (hget : s.profile.registry.get? (.op .like) =
      some ⟨⟨pattern, [.arg 0, .text " like ", .arg 1, .text clause]⟩, precedence, none⟩)
    (x : Operand) (text : String) :
    s.plain (.op .like) [x, s.string text] =
      s.argument precedence x ++ (.text " like " ++
        (.bound (.string text) ++ (.text clause ++ .empty))) := by
  have hconstant : s.argument precedence (s.string text) = .bound (.string text) := by
    rw [string, value, Setup.constant, argument_leaf]
    cases s.profile.listStyle <;> rfl
  rw [← hconstant]
  exact plain_textTest .like hget x (s.string text)

theorem operationRendering_textTest {test : TextTest} {pattern clause : String} {precedence : Int}
    (hget : s.profile.registry.get? (.op test.op) =
      some ⟨⟨pattern, [.arg 0, .text " like ", test.slot, .text clause]⟩, precedence, none⟩)
    (e : Expr) (r : Rendering) (hc : c.value = .string constant) :
    s.operationRendering (.op test.op) [.leaf e r, s.constant c] =
      s.inside test.op (r ++ (.text " like " ++
        (.bound (.string (test.pattern s.profile.escape constant)) ++
          (.text clause ++ .empty)))) := by
  by_cases htest : test = .like
  · subst htest
    rw [TextTest.op, operationRendering_like s _ hc, plain_like_string hget, argument_leaf]
  · rw [operationRendering_of_ne_like s htest, plain_textTest test hget, argument_leaf,
      element_slot s htest _ _ _ _ hc]

end Setup

def TextTest.expr (test : TextTest) (type : ValueType) (p : Path) (c : Constant) : Expr :=
  .operation type (.op test.op) [.path p, .constant c]

namespace Serializer

variable {s : Serializer} {name : String} {family : Family} {settings : List Setting}

theorem hasPaths_of_build (hbuild : Dialect.build name family settings = .ok s.dialect)
    (hsettings : ∀ setting ∈ settings, setting.sparesPatterns = true) :
    s.setup.HasPaths ∧ ∀ kind, kind ≠ .root → kind ≠ .property →
      s.setup.profile.registry.get? (.path kind) = none := by
  have hinherited : ∀ kind, Dialect.isInherited family settings (.path kind) = true :=
    Dialect.isInherited_path hsettings
  refine ⟨⟨?_, ?_⟩, fun kind hroot hproperty ↦ ?_⟩
  · exact Dialect.get?_root_of_isInherited hbuild (hinherited .root)
  · exact Dialect.get?_property_of_isInherited hbuild (hinherited .property)
  · exact Dialect.get?_path_of_isInherited hbuild hroot hproperty (hinherited kind)

theorem statement_placeholder_texts {r : Rendering} {texts : List String} {type : ValueType}
    {b : Binding} (behind : List String) {m : Modifiers}
    (h : r {} = .ok (texts.map Chunk.text ++ .placeholder type b :: behind.map Chunk.text)) :
    s.statement m r =
      .ok ⟨String.join texts ++ (s.dialect.placeholders.first ++ String.join behind), [b], m⟩ := by
  have hlayout := layout_texts_append s.dialect.placeholders texts
    (.placeholder type b :: behind.map Chunk.text)
  rw [layout_placeholder_texts] at hlayout
  rw [statement, h]
  simp only [Except.map, hlayout]

theorem statement_placeholder {r : Rendering} {texts : List String} {type : ValueType}
    {b : Binding} {clause : String} {m : Modifiers}
    (h : r {} = .ok (texts.map Chunk.text ++ [.placeholder type b, .text clause])) :
    s.statement m r =
      .ok ⟨String.join texts ++ (s.dialect.placeholders.first ++ clause), [b], m⟩ := by
  have hclause : String.join [clause] = clause := by simp
  rw [statement_placeholder_texts [clause] h, hclause]

/-- The statement for an expression compared with a pattern by LIKE. The operator is the one that
was asked for. -/
def likeStatement (s : Serializer) (op : Op) (e : Expr) (pattern : String) :
    Except Error Statement :=
  s.statement {} (s.setup.inside op
    (s.setup.argument Op.like.precedence (s.setup.operand e) ++ (.text " like " ++
      (.bound (.string pattern) ++
        (.text (" escape '" ++ s.dialect.escape.toString ++ "'") ++ .empty)))))

/-- For variables and their properties it is one placeholder behind the path. -/
theorem likeStatement_path (hpaths : s.setup.HasPaths) {p : Path} (hp : p.isPlain = true)
    (op : Op) (pattern : String) :
    s.likeStatement op (.path p) pattern =
      .ok
        { text := s.setup.testedText p ⟨false, s.dialect.wrapsElements op⟩ ++ " like " ++
            s.dialect.placeholders.first ++ " escape '" ++ s.dialect.escape.toString ++ "'"
          bindings := [.value (.string pattern)]
          modifiers := {} } := by
  obtain ⟨texts, htexts, hjoin⟩ := Setup.exists_texts_of_isPlain hpaths hp
    ⟨false, s.dialect.wrapsElements op⟩
  set clause := " escape '" ++ s.dialect.escape.toString ++ "'" with hclause
  have hchunks : s.setup.inside op ((s.setup.pathOperand p).render ++ (.text " like " ++
      (.bound (.string pattern) ++ (.text clause ++ .empty)))) {} =
        .ok ((texts ++ [" like "]).map Chunk.text ++
          [.placeholder .string (.value (.string pattern)), .text clause]) := by
    have hpath : (s.setup.pathOperand p).render ⟨false, s.setup.profile.wrapsElements op⟩ =
        .ok (texts.map Chunk.text) := htexts
    rw [Setup.inside, Rendering.within, Rendering.append_apply, hpath, List.map_append,
      List.append_assoc]
    rfl
  have hword : String.join [" like "] = " like " := rfl
  rw [likeStatement, Setup.argument_path, statement_placeholder hchunks, String.join_append, hjoin,
    hword]
  simp only [hclause, ← String.append_assoc]

/-- A property of a variable stands as it is in a dialect without quotes. -/
theorem likeStatement_property_root {d : Dialect}
    (hpaths : ({ dialect := d } : Serializer).setup.HasPaths) (hquote : d.quote = none)
    {type : ValueType} (htype : type.isCollectionLike = false) (owner : ValueType)
    (root property : String) (op : Op) (pattern : String) :
    ({ dialect := d } : Serializer).likeStatement op
        (.path (.property type (.root owner root) property)) pattern =
      .ok
        { text := root ++ "." ++ property ++ " like " ++ d.placeholders.first ++ " escape '" ++
            d.escape.toString ++ "'"
          bindings := [.value (.string pattern)]
          modifiers := {} } := by
  let s : Serializer := { dialect := d }
  have htested : s.setup.testedText (.property type (.root owner root) property)
      ⟨false, s.dialect.wrapsElements op⟩ = root ++ "." ++ property := by
    rw [Setup.testedText, if_neg (by simp [Setup.writesElements, Path.type, htype])]
    exact Setup.pathText_property_root hquote type owner root property
  rw [likeStatement_path hpaths rfl, htested]

/-- The name of a cat compared with a pattern in JPQL. -/
theorem likeStatement_catName {d : Dialect} (hbuild : Dialect.jpql = .ok d) (op : Op)
    (pattern : String) :
    ({ dialect := d } : Serializer).likeStatement op
        (.path (.property .string (.root (.entity "Cat") "cat") "name")) pattern =
      .ok ⟨"cat.name like ?1 escape '!'", [.value (.string pattern)], {}⟩ := by
  have hescape : d.escape = '!' := Dialect.escape_of_build hbuild
  have hplaceholders : d.placeholders = .numbered '?' := Dialect.placeholders_of_build hbuild
  have hpaths := (hasPaths_of_build (s := { dialect := d }) hbuild (by simp)).1
  rw [likeStatement_property_root hpaths (Dialect.quote_of_build hbuild (by simp)) rfl, hescape,
    hplaceholders]
  rfl

/-- In every dialect whose settings leave the templates of LIKE and of paths alone, whatever else
they change and in whatever order, a test of a path against a constant is written with one
placeholder and the escape character of the dialect. The bound pattern matches just the texts that
the test asks for. -/
theorem serialize_textTest (hbuild : Dialect.build name family settings = .ok s.dialect)
    (hsettings : ∀ setting ∈ settings, setting.sparesPatterns = true)
    (hpercent : s.dialect.escape ≠ '%') (hunderscore : s.dialect.escape ≠ '_') (test : TextTest)
    (type constantType : ValueType) (p : Path) (constant : String) :
    ∃ pattern : String,
      (∀ text, Text.Like.isLike s.dialect.escape pattern text = true ↔
        test.Asks constant text) ∧
      (p.isPlain = true →
        s.serialize (.expr (test.expr type p ⟨constantType, .string constant⟩)) =
          .ok
            { text := s.setup.testedText p ⟨false, s.dialect.wrapsElements test.op⟩ ++ " like " ++
                s.dialect.placeholders.first ++ " escape '" ++ s.dialect.escape.toString ++ "'"
              bindings := [.value (.string pattern)]
              modifiers := {} }) ∧
      (p.isPlain = false → ∃ kind,
        s.serialize (.expr (test.expr type p ⟨constantType, .string constant⟩)) =
          .error (.missingTemplate (.path kind) s.dialect.name)) := by
  obtain ⟨hpaths, hmissing⟩ := hasPaths_of_build hbuild hsettings
  obtain ⟨template, hget⟩ := Dialect.get?_textTest_of_build hbuild hsettings test
  obtain ⟨r, hr⟩ := s.setup.exists_pathOperand_eq p
  have hrender : (s.setup.pathOperand p).render = r := by
    rw [hr]
    rfl
  set clause := " escape '" ++ s.dialect.escape.toString ++ "'" with hclause
  set pattern := test.pattern s.dialect.escape constant with hpattern
  -- the test stands on its own, so that only its operator sets the scope of the path
  have hrendering : Request.rendering s.setup
      (.expr (test.expr type p ⟨constantType, .string constant⟩)) {} =
        (r ++ (.text " like " ++ (.bound (.string pattern) ++ (.text clause ++ .empty))))
          ⟨false, s.dialect.wrapsElements test.op⟩ := by
    have htest := Setup.operationRendering_textTest (s := s.setup) hget (.path p) r
      (c := ⟨constantType, .string constant⟩) rfl
    rw [← hr] at htest
    exact congrFun htest {}
  refine ⟨pattern, test.isLike_pattern hpercent hunderscore constant, fun hp ↦ ?_, fun hp ↦ ?_⟩
  · obtain ⟨texts, htexts, hjoin⟩ := Setup.exists_texts_of_isPlain hpaths hp
      ⟨false, s.dialect.wrapsElements test.op⟩
    rw [hrender] at htexts
    have hchunks : Request.rendering s.setup
        (.expr (test.expr type p ⟨constantType, .string constant⟩)) {} =
          .ok ((texts ++ [" like "]).map Chunk.text ++
            [.placeholder .string (.value (.string pattern)), .text clause]) := by
      rw [hrendering, Rendering.append_apply, htexts, List.map_append, List.append_assoc]
      rfl
    have hword : String.join [" like "] = " like " := rfl
    rw [serialize_eq, statement_placeholder hchunks, String.join_append, hjoin, hword]
    simp only [hclause, ← String.append_assoc]
    rfl
  · obtain ⟨kind, hkind⟩ := Setup.exists_missingTemplate hpaths hmissing hp
      ⟨false, s.dialect.wrapsElements test.op⟩
    rw [hrender] at hkind
    refine ⟨kind, ?_⟩
    rw [serialize_eq, statement, hrendering, Rendering.append_of_error hkind]
    rfl

/-- A dialect with another escape character and a layer of its own tests the name of a cat. -/
theorem exists_startsWith_catName :
    let settings : List Setting := [.escape '!', .layer "own"]
    ∃ (d : Dialect) (pattern : String),
      Dialect.build "own" .sql settings = .ok d ∧
      (∀ text, Text.Like.isLike '!' pattern text = true ↔ "5%!".toList <+: text.toList) ∧
      ({ dialect := d } : Serializer).serialize (.expr (TextTest.startsWith.expr .bool
        (.property .string (.root (.entity "Cat") "cat") "name") ⟨.string, .string "5%!"⟩)) =
          .ok ⟨"cat.name like ? escape '!'", [.value (.string pattern)], {}⟩ := by
  intro settings
  have hreadable : ∀ setting ∈ settings, setting.IsReadable := by
    simp only [settings, List.forall_mem_cons]
    exact ⟨Registry.isReadable_likePatterns (by decide) (by decide), trivial, List.forall_mem_nil _⟩
  obtain ⟨d, hbuild⟩ := Dialect.exists_build "own" .sql hreadable
  have hescape : d.escape = '!' := Dialect.escape_of_build hbuild
  have hplaceholders : d.placeholders = .anonymous := Dialect.placeholders_of_build hbuild
  have hquote : d.quote = none := Dialect.quote_of_build hbuild rfl
  let s : Serializer := { dialect := d }
  obtain ⟨pattern, hpattern, hplain, _⟩ := serialize_textTest (s := s) hbuild (by decide)
    (by simp [s, hescape]) (by simp [s, hescape]) .startsWith .bool .string
    (.property .string (.root (.entity "Cat") "cat") "name") "5%!"
  have htext := Setup.pathText_property_root hquote .string (.entity "Cat") "cat" "name"
  have htested : s.setup.testedText (.property .string (.root (.entity "Cat") "cat") "name")
      ⟨false, s.dialect.wrapsElements TextTest.startsWith.op⟩ = "cat.name" := by
    rw [Setup.testedText,
      if_neg (by simp [Setup.writesElements, Path.type, ValueType.isCollectionLike])]
    exact htext
  refine ⟨d, pattern, hbuild, fun text ↦ ?_, ?_⟩
  · rw [← hescape]
    exact hpattern text
  · rw [hplain rfl, htested, hplaceholders, hescape]
    rfl

end Serializer

end TypedQuery
