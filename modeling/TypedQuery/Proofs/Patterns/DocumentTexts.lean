import TypedQuery.Document.Filter
import TypedQuery.Proofs.Patterns.LikeTests
import TypedQuery.Proofs.Patterns.RegularExpressions

/-!
# Tests of texts in documents

A filter tests a text against a regular expression. Characters of the constant are quoted one by
one, so that the expression is a row of parts between anchors, whatever the constant is made of, and
a search for it succeeds in just the texts that the test asks for.
-/

namespace TypedQuery

namespace Text.Like

/-- The tokens of a pattern in which every character behind the escape character is literal, and the
escape character itself at the end. -/
def tokens (escape : Char) : List Char → List Token
  | [] => []
  | [c] => if c = escape then [.literal c] else [wildcard c]
  | c :: d :: rest =>
      if c = escape then .literal d :: tokens escape rest
      else wildcard c :: tokens escape (d :: rest)

end Text.Like

namespace Text.Regex

open Like (Token)

/-! ## Quoted characters -/

namespace Part

/-- A character as a part that stands for it. One with a meaning of its own goes behind a
backslash. -/
def literal (c : Char) : Part := if c ∈ Like.regexMeta then escaped c else char c

def ofToken : Token → Part
  | .literal c => literal c
  | .anyChar => anyChar
  | .anyText => anyText

/-- What is quoted is punctuation. -/
theorem punctuation_of_mem_regexMeta {c : Char} (h : c ∈ Like.regexMeta) :
    class? c = none ∧ control? c = none ∧ c.isAlphanum = false := by
  have hall : Like.regexMeta.all (fun c ↦ (class? c).isNone && (control? c).isNone &&
      !c.isAlphanum) = true := rfl
  simpa [and_assoc] using List.all_eq_true.mp hall c h

theorem isPlain_literal (c : Char) : (literal c).IsPlain := by
  unfold literal
  split
  · rename_i hc
    exact (punctuation_of_mem_regexMeta hc).1
  · assumption

theorem token?_literal (c : Char) : (literal c).token? = some (.literal c) := by
  unfold literal
  split
  · rename_i hc
    obtain ⟨_, hcontrol, hpunctuation⟩ := punctuation_of_mem_regexMeta hc
    simp [token?, hcontrol, hpunctuation]
  · rfl

theorem regexQuote_cons (c : Char) (cs : List Char) :
    Like.regexQuote (c :: cs) = (literal c).text ++ Like.regexQuote cs := by
  unfold literal
  split <;> simp_all [Like.regexQuote, text]

theorem isPlain_ofToken (t : Token) : (ofToken t).IsPlain := by
  cases t with
  | literal c => exact isPlain_literal c
  | anyChar | anyText => trivial

theorem token?_ofToken (t : Token) : (ofToken t).token? = some t := by
  cases t with
  | literal c => exact token?_literal c
  | anyChar | anyText => rfl

theorem mapM_token?_ofToken (ts : List Token) :
    (ts.map ofToken).mapM token? = some ts := by
  induction ts with
  | nil => rfl
  | cons t ts ih =>
      rw [List.map_cons, List.mapM_cons, token?_ofToken, ih]
      rfl

end Part

/-- Tokens written one behind the other. -/
def written (ts : List Token) : List Char := (ts.map Part.ofToken).flatMap Part.text

theorem written_append (ts us : List Token) : written (ts ++ us) = written ts ++ written us := by
  simp [written]

theorem regexQuote_eq (cs : List Char) :
    Like.regexQuote cs = written (cs.map Token.literal) := by
  induction cs with
  | nil => rfl
  | cons c cs ih =>
      rw [Part.regexQuote_cons, ih]
      rfl

theorem regexChar_eq (c : Char) : Like.regexChar c = written [Like.wildcard c] := by
  unfold Like.regexChar Like.wildcard
  split
  · rfl
  · split
    · rfl
    · exact regexQuote_eq [c]

theorem toRegexBody_eq (escape : Char) (cs : List Char) :
    Like.toRegexBody escape cs = written (Like.tokens escape cs) := by
  fun_induction Like.tokens escape cs with
  | case1 => rfl
  | case2 => rw [Like.toRegexBody, if_pos rfl, regexQuote_eq, List.map_singleton]
  | case3 c hc => rw [Like.toRegexBody, if_neg hc, regexChar_eq]
  | case4 d rest ih =>
      rw [Like.toRegexBody, if_pos rfl, regexQuote_eq, ih]
      exact (written_append [.literal d] _).symm
  | case5 c d rest hc ih =>
      rw [Like.toRegexBody, if_neg hc, regexChar_eq, ih]
      exact (written_append [Like.wildcard c] _).symm

/-! ## Searching -/

/-- Tokens between anchors. -/
def Row.ofTokens (atStart : Bool) (ts : List Token) (atEnd : Bool) : Row :=
  ⟨atStart, ts.map Part.ofToken, atEnd⟩

theorem finds_ofTokens (atStart : Bool) (ts : List Token) (atEnd : Bool) (text : String) :
    Finds (.ofList (Row.ofTokens atStart ts atEnd).text) text ↔
      ∃ before found after, text.toList = before ++ found ++ after ∧
        (atStart = true → before = []) ∧ (atEnd = true → after = []) ∧
          Like.accepts ts found = true := by
  have hplain : ∀ part ∈ ts.map Part.ofToken, part.IsPlain := by
    simpa using fun t _ ↦ Part.isPlain_ofToken t
  exact finds_row hplain (Part.mapM_token?_ofToken ts) text

end Text.Regex

/-! ## Tests of texts -/

open Text (Regex)
open Text.Like (Token accepts)

namespace TextTest

variable {escape : Char} {constant text : String}

/-- The regular expression for a constant. -/
def regex (test : TextTest) (escape : Char) (constant : String) : String :=
  let quoted := Text.Like.regexQuote constant.toList
  .ofList (match test with
    | startsWith => '^' :: quoted
    | endsWith => quoted ++ ['$']
    | contains => '.' :: '*' :: quoted ++ ['.', '*']
    | like => Text.Like.toRegex escape constant.toList)

/-- The regular expression for a constant as tokens between anchors. -/
def row (test : TextTest) (escape : Char) (constant : String) : Regex.Row :=
  let literals := constant.toList.map Token.literal
  match test with
  | startsWith => .ofTokens true literals false
  | endsWith => .ofTokens false literals true
  | contains => .ofTokens false (.anyText :: (literals ++ [.anyText])) false
  | like => .ofTokens true (Text.Like.tokens escape constant.toList) true

theorem regex_eq (test : TextTest) (escape : Char) (constant : String) :
    test.regex escape constant = .ofList (test.row escape constant).text := by
  have htext : ∀ atStart ts atEnd, (Regex.Row.ofTokens atStart ts atEnd).text =
      (if atStart then ['^'] else []) ++ (Regex.written ts ++ if atEnd then ['$'] else []) :=
    fun _ _ _ ↦ rfl
  have hany : ∀ ts, Regex.written (.anyText :: ts) = '.' :: '*' :: Regex.written ts :=
    fun _ ↦ rfl
  cases test <;>
    simp [regex, row, htext, hany, Regex.written_append, Regex.regexQuote_eq, Text.Like.toRegex,
      Regex.toRegexBody_eq]
  rfl

/-- What a test asks of a text when the escape character makes any character of a LIKE pattern
literal. -/
def AsksWith (test : TextTest) (escape : Char) (constant text : String) : Prop :=
  match test with
  | like => accepts (Text.Like.tokens escape constant.toList) text.toList = true
  | test => test.Asks constant text

/-- A search for the expression of a test succeeds in just the texts that the test asks for. -/
theorem finds_regex (test : TextTest) :
    Regex.Finds (test.regex escape constant) text ↔ test.AsksWith escape constant text := by
  have hliterals : ∀ found, accepts (constant.toList.map Token.literal) found = true ↔
      found = constant.toList := by
    intro found
    rw [← List.append_nil (constant.toList.map Token.literal), Text.Like.accepts_literal_append]
    simp [Text.Like.accepts_nil]
  rw [regex_eq]
  cases test with
  | startsWith =>
      rw [row, Regex.finds_ofTokens]
      constructor
      · rintro ⟨before, found, after, htext, hbefore, _, hfound⟩
        obtain rfl := (hliterals found).mp hfound
        obtain rfl := hbefore rfl
        exact ⟨after, htext.symm⟩
      · rintro ⟨after, htext⟩
        exact ⟨[], _, after, htext.symm, fun _ ↦ rfl, nofun, (hliterals _).mpr rfl⟩
  | endsWith =>
      rw [row, Regex.finds_ofTokens]
      constructor
      · rintro ⟨before, found, after, htext, _, hafter, hfound⟩
        obtain rfl := (hliterals found).mp hfound
        obtain rfl := hafter rfl
        exact ⟨before, by simpa using htext.symm⟩
      · rintro ⟨before, htext⟩
        exact ⟨before, _, [], by simpa using htext.symm, nofun, fun _ ↦ rfl, (hliterals _).mpr rfl⟩
  | contains =>
      rw [row, Regex.finds_ofTokens]
      simp only [Text.Like.accepts_part]
      constructor
      · rintro ⟨before, found, after, htext, _, _, hfound⟩
        exact hfound.trans ⟨before, after, htext.symm⟩
      · intro hpart
        exact ⟨[], text.toList, [], by simp, nofun, nofun, hpart⟩
  | like =>
      rw [row, Regex.finds_ofTokens]
      constructor
      · rintro ⟨before, found, after, htext, hbefore, hafter, hfound⟩
        obtain rfl := hbefore rfl
        obtain rfl := hafter rfl
        obtain rfl : text.toList = found := by simpa using htext
        exact hfound
      · intro haccepts
        exact ⟨[], text.toList, [], by simp, fun _ ↦ rfl, fun _ ↦ rfl, haccepts⟩

end TextTest

namespace DocumentStore

open Document (single)

/-- A condition on what a path names: below some element of a collection it is a condition on one
element. -/
def conditionOn (d : DocumentStore) (p : Path) (condition : Json) : Except Error Document :=
  match p.belowElement? with
  | some (collection, inner) => do
      let key ← d.key collection
      let innerKey ← d.key inner
      pure (single key (Document.operator "$elemMatch" (.object (single innerKey condition))))
  | none => (d.key p).map (single · condition)

theorem condition_textTest (d : DocumentStore) (type : ValueType) (test : TextTest) (p : Path)
    (constantType : ValueType) (constant : String) :
    d.condition type test.op [.path p, .constant ⟨constantType, .string constant⟩] =
      (d.key p).map
        (single · (.object [("$regex", .string (test.regex d.escape constant))])) := by
  have hmatch : ∀ pattern : List Char → List Char,
      d.matchText (.path p) (.constant ⟨constantType, .string constant⟩) pattern false =
        (d.key p).map
          (single · (.object [("$regex", .string (.ofList (pattern constant.toList)))])) := by
    intro pattern
    cases hkey : d.key p <;> simp [matchText, pathKey, constantChars, hkey] <;> rfl
  cases test <;> simp [TextTest.op, condition, hmatch, TextTest.regex, condition.containing]

theorem filter_textTest (d : DocumentStore) (test : TextTest) (type : ValueType) (p : Path)
    (constantType : ValueType) (constant : String) :
    d.filter (test.expr type p ⟨constantType, .string constant⟩) =
      d.conditionOn p (.object [("$regex", .string (test.regex d.escape constant))]) := by
  have hfilter : d.filter (test.expr type p ⟨constantType, .string constant⟩) =
      d.elementCondition type test.op [.path p, .constant ⟨constantType, .string constant⟩] := by
    cases test <;> simp [TextTest.expr, TextTest.op, filter]
  rw [hfilter, elementCondition, conditionOn]
  cases p.belowElement? with
  | none => exact condition_textTest d type test p constantType constant
  | some split =>
      obtain ⟨collection, inner⟩ := split
      simp only [condition_textTest]
      cases d.key collection <;> cases d.key inner <;> rfl

/-- A test of a path against a constant is one condition on what the path names. A search for its
regular expression succeeds in just the texts that the test asks for, whatever the constant is made
of and whatever the escape character is. -/
theorem filter_finds (d : DocumentStore) (test : TextTest) (type constantType : ValueType)
    (p : Path) (constant : String) :
    ∃ regex : String,
      d.filter (test.expr type p ⟨constantType, .string constant⟩) =
        d.conditionOn p (.object [("$regex", .string regex)]) ∧
      ∀ text, Regex.Finds regex text ↔ test.AsksWith d.escape constant text :=
  ⟨test.regex d.escape constant, d.filter_textTest test type p constantType constant,
    fun _ ↦ test.finds_regex⟩

/-- All of a constant that has a meaning in expressions is quoted. -/
example : ({} : DocumentStore).filter (TextTest.startsWith.expr .bool
    (.property .string (.root (.entity "User") "user") "name") ⟨.string, .string "a.b*"⟩) =
      .ok [("name", .object [("$regex", .string "^a\\.b\\*")])] := by
  rfl

end DocumentStore

end TypedQuery
