import TypedQuery.Proofs.Patterns.Convertible
import TypedQuery.Proofs.Patterns.LikeTests

/-!
# Tests against regular expressions without a template

A dialect of the object query languages without a template for regular expressions writes such a
test with LIKE. The pattern keeps the meaning of the expression unless a letter or a digit stands
behind a backslash, and an expression without a pattern is refused, whatever it is tested against.
-/

namespace TypedQuery

open Text (Regex)
open Text.Like (isLike)

namespace Setup

variable {s : Setup} {c : Constant} {regex : String}

theorem operationRendering_matchesRegex (hfamily : s.profile.family = .jpql)
    (hmatches : s.profile.registry.contains (.op .matchesRegex) = false) (x : Operand)
    (hc : c.value = .string regex) :
    s.operationRendering (.op .matchesRegex) [x, s.constant c] =
      s.inside .matchesRegex (match Text.Like.ofRegex? s.profile.escape regex.toList with
        | some like => s.plain (.op .like) [x, s.string (.ofList like)]
        | none => .fail (.invalidArgument (.noLikeForm regex))) := by
  have htest : s.operationRendering (.op .matchesRegex) [x, s.constant c] =
      s.inside .matchesRegex (s.regexTest .matchesRegex x (s.constant c)) := by
    simp only [operationRendering, hfamily]
    rfl
  rw [htest, regexTest, hmatches, regexAsLike, string?_constant s hc]
  dsimp only
  cases Text.Like.ofRegex? s.profile.escape regex.toList <;> rfl

end Setup

namespace Text.Regex

/-- Whether a row of parts has a pattern. A backslash in front of the last anchor is taken to make
it literal, whatever stands before. -/
def Row.HasPattern (row : Row) : Prop :=
  (∀ part ∈ row.parts, part.IsConvertible) ∧
    (row.atEnd = true → row.parts.getLast? ≠ some (.escaped '\\'))

theorem ofRegex?_eq_none_iff {escape : Char} {cs : List Char} :
    Text.Like.ofRegex? escape cs = none ↔ ¬ ∃ row : Row, row.HasPattern ∧ cs = row.text := by
  rw [← Option.not_isSome_iff_eq_none, Option.isSome_iff_exists]
  refine not_congr ⟨?_, ?_⟩
  · rintro ⟨like, hlike⟩
    obtain ⟨row, htext, hparts, hend, _⟩ := ofRegex?_eq_some_iff.mp hlike
    exact ⟨row, ⟨hparts, hend⟩, htext⟩
  · rintro ⟨row, ⟨hparts, hend⟩, htext⟩
    exact ⟨_, ofRegex?_eq_some_iff.mpr ⟨row, htext, hparts, hend, rfl⟩⟩

end Text.Regex

namespace Serializer

variable {s : Serializer} {name : String} {settings : List Setting}

def regexTest (type : ValueType) (e : Expr) (constantType : ValueType) (regex : String) : Expr :=
  .operation type (.op .matchesRegex) [e, .constant ⟨constantType, .string regex⟩]

theorem serialize_regexTest (hbuild : Dialect.build name .jpql settings = .ok s.dialect)
    (hlike : ∀ setting ∈ settings, setting.sparesLike = true)
    (hmatches : s.dialect.registry.contains (.op .matchesRegex) = false)
    (type constantType : ValueType) (e : Expr) (regex : String) :
    s.serialize (.expr (regexTest type e constantType regex)) =
      match Text.Like.ofRegex? s.dialect.escape regex.toList with
      | some like => s.likeStatement .matchesRegex e (.ofList like)
      | none => .error (.invalidArgument (.noLikeForm regex)) := by
  have hfamily : s.setup.profile.family = .jpql := Dialect.family_of_build hbuild
  obtain ⟨template, hget⟩ := Dialect.get?_textTest_of_sparesLike hbuild hlike .like
  have hserialize : s.serialize (.expr (regexTest type e constantType regex)) =
      s.statement {} (s.setup.operationRendering (.op .matchesRegex)
        [s.setup.operand e, s.setup.constant ⟨constantType, .string regex⟩]) := serialize_eq s _
  have hprofile : s.setup.profile = s.dialect.toProfile := rfl
  rw [hserialize, Setup.operationRendering_matchesRegex hfamily hmatches _ rfl, hprofile]
  cases Text.Like.ofRegex? s.dialect.escape regex.toList with
  | none => rfl
  | some like =>
      dsimp only
      rw [Setup.plain_like_string hget]
      rfl

/-- In every dialect of the object query languages without a template for regular expressions,
whatever settings it has beside those that register a LIKE template, a test against a regular
expression is written with LIKE just when the expression is a row of parts that have a pattern.
The bound pattern matches the whole texts that the expression matches just when no letter and no
digit stands behind a backslash. Any other expression is refused. -/
theorem serialize_matchesRegex (hbuild : Dialect.build name .jpql settings = .ok s.dialect)
    (hlike : ∀ setting ∈ settings, setting.sparesLike = true)
    (hmatches : s.dialect.registry.contains (.op .matchesRegex) = false)
    (hpercent : s.dialect.escape ≠ '%') (hunderscore : s.dialect.escape ≠ '_')
    (type constantType : ValueType) (e : Expr) (regex : String) :
    (∀ row : Regex.Row, row.HasPattern → regex.toList = row.text → ∃ pattern : String,
      s.serialize (.expr (regexTest type e constantType regex)) =
          s.likeStatement .matchesRegex e pattern ∧
        ((∀ text, isLike s.dialect.escape pattern text = true ↔
            Regex.MatchesWhole regex text) ↔
          ∀ c ∈ Regex.escapedChars regex.toList, c.isAlphanum = false)) ∧
    ((¬ ∃ row : Regex.Row, row.HasPattern ∧ regex.toList = row.text) →
      s.serialize (.expr (regexTest type e constantType regex)) =
        .error (.invalidArgument (.noLikeForm regex))) := by
  rw [serialize_regexTest hbuild hlike hmatches]
  constructor
  · intro row hrow htext
    set like := row.parts.flatMap (Regex.Part.pattern s.dialect.escape)
    have hpattern : Text.Like.ofRegex? s.dialect.escape regex.toList = some like :=
      Regex.ofRegex?_eq_some_iff.mpr ⟨row, htext, hrow.1, hrow.2, rfl⟩
    refine ⟨.ofList like, by rw [hpattern], ?_⟩
    simpa using Regex.isLike_iff_matchesWhole_iff hpercent hunderscore hpattern
  · intro hnone
    rw [Regex.ofRegex?_eq_none_iff.mpr hnone]

/-- JPQL has no template for regular expressions. -/
theorem contains_matchesRegex {d : Dialect} (hbuild : Dialect.jpql = .ok d) :
    d.registry.contains (.op .matchesRegex) = false := by
  have hget : d.registry.get? (.op .matchesRegex) = none :=
    Dialect.get?_op_eq_none_of_isInherited hbuild (by decide) (by decide)
  rw [Registry.contains, hget, Option.isSome_none]

/-- A beginning between anchors keeps its meaning as a pattern, a set of characters is refused. -/
theorem exists_matchesRegex_catName :
    let catName := Expr.path (.property .string (.root (.entity "Cat") "cat") "name")
    ∃ (s : Serializer) (pattern : String), Dialect.jpql = .ok s.dialect ∧
      s.serialize (.expr (regexTest .bool catName .string "^a\\.b.*$")) =
        .ok ⟨"cat.name like ?1 escape '!'", [.value (.string pattern)], {}⟩ ∧
      (∀ text, isLike s.dialect.escape pattern text = true ↔
        Regex.MatchesWhole "^a\\.b.*$" text) ∧
      s.serialize (.expr (regexTest .bool catName .string "[ab]")) =
        .error (.invalidArgument (.noLikeForm "[ab]")) := by
  intro catName
  obtain ⟨d, hbuild⟩ := Dialect.exists_jpql
  have hescape : d.escape = '!' := Dialect.escape_of_build hbuild
  have hmatches := contains_matchesRegex hbuild
  let s : Serializer := { dialect := d }
  have htest := serialize_matchesRegex (s := s) hbuild (by simp) hmatches (by simp [s, hescape])
    (by simp [s, hescape]) .bool .string catName
  let row : Regex.Row := ⟨true, [.char 'a', .escaped '.', .char 'b', .anyText], true⟩
  have hrow : row.HasPattern := by
    simp [row, Regex.Row.HasPattern, Regex.Part.IsConvertible, Text.Like.regexMeta,
      Text.Like.classLetters]
  obtain ⟨pattern, hserialize, hpattern⟩ := (htest "^a\\.b.*$").1 row hrow rfl
  have hescaped : Regex.escapedChars "^a\\.b.*$".toList = ['.'] := rfl
  have hpunctuation : ∀ c ∈ Regex.escapedChars "^a\\.b.*$".toList, c.isAlphanum = false := by
    rw [hescaped, List.forall_mem_singleton]
    rfl
  have hnone : Text.Like.ofRegex? '!' "[ab]".toList = none := rfl
  refine ⟨s, pattern, hbuild, ?_, hpattern.mpr hpunctuation,
    (htest "[ab]").2 (Regex.ofRegex?_eq_none_iff.mp hnone)⟩
  rw [hserialize, likeStatement_catName hbuild]

/-- A line break written as a letter behind a backslash is compared with that letter. -/
theorem exists_serialize_lineBreak :
    let catName := Expr.path (.property .string (.root (.entity "Cat") "cat") "name")
    ∃ (s : Serializer) (pattern : String), Dialect.jpql = .ok s.dialect ∧
      s.serialize (.expr (regexTest .bool catName .string "\\n")) =
        .ok ⟨"cat.name like ?1 escape '!'", [.value (.string pattern)], {}⟩ ∧
      isLike s.dialect.escape pattern "n" = true ∧ ¬ Regex.MatchesWhole "\\n" "n" := by
  intro catName
  obtain ⟨d, hbuild⟩ := Dialect.exists_jpql
  have hescape : d.escape = '!' := Dialect.escape_of_build hbuild
  have hmatches := contains_matchesRegex hbuild
  let s : Serializer := { dialect := d }
  have hpattern : Text.Like.ofRegex? s.dialect.escape "\\n".toList = some ['n'] := by
    simp only [s, hescape]
    decide
  refine ⟨s, "n", hbuild, ?_, ?_, ?_⟩
  · have hserialize := serialize_regexTest (s := s) hbuild (by simp) hmatches .bool .string catName
      "\\n"
    rw [hserialize, hpattern]
    exact likeStatement_catName hbuild .matchesRegex "n"
  · simp only [s, hescape]
    decide
  · rintro ⟨r, hr, hmatch⟩
    have hread : Regex.read? "\\n".toList = some (.sequence [.char (· == '\n')]) := rfl
    rw [hread] at hr
    cases hr
    simp [Regex.sequence, Regex.Matches] at hmatch

end Serializer

end TypedQuery
