import TypedQuery.Proofs.Patterns.DocumentTexts
import TypedQuery.Proofs.Patterns.LikeTests
import TypedQuery.Proofs.Patterns.SameTexts

/-!
# LIKE in statements and in documents

A statement takes the escape characters of a constant LIKE pattern for literal ones and doubles
them. A filter lets them make the next character literal. So both test for the same texts just when
there is no next character: when the escape character stands nowhere in the pattern but at its end.
-/

namespace TypedQuery

open Text (Regex)
open Text.Like (accepts isLike steps wildcard)

namespace Text.Like

variable {escape : Char} {cs : List Char}

theorem wildcard_escape (hpercent : escape ≠ '%') (hunderscore : escape ≠ '_') :
    wildcard escape = .literal escape := by
  simp [wildcard, hpercent, hunderscore]

theorem tokens_eq_map_wildcard (hpercent : escape ≠ '%') (hunderscore : escape ≠ '_')
    (h : escape ∉ cs.dropLast) : tokens escape cs = cs.map wildcard := by
  fun_induction tokens escape cs with
  | case1 => rfl
  | case2 => rw [List.map_singleton, wildcard_escape hpercent hunderscore]
  | case3 => rfl
  | case4 d rest => simp at h
  | case5 c d rest _ ih =>
      rw [List.dropLast_cons_cons, List.mem_cons, not_or] at h
      rw [ih h.2]
      rfl

theorem length_steps_le_cons (t : Token) (ts : List Token) :
    (steps ts).length ≤ (steps (t :: ts)).length := by
  cases t <;> simp [steps_cons]

/-- An escape character that makes another character literal takes one token away. -/
theorem length_steps_tokens_le (hpercent : escape ≠ '%') (hunderscore : escape ≠ '_')
    (cs : List Char) :
    (steps (tokens escape cs)).length ≤ (steps (cs.map wildcard)).length := by
  fun_induction tokens escape cs with
  | case1 | case3 => rfl
  | case2 => rw [List.map_singleton, wildcard_escape hpercent hunderscore]
  | case4 d rest ih =>
      have hsteps := ih.trans (length_steps_le_cons (wildcard d) (rest.map wildcard))
      rw [List.map_cons, List.map_cons, wildcard_escape hpercent hunderscore]
      simpa [steps_cons] using hsteps
  | case5 c d rest _ ih =>
      rw [List.map_cons]
      by_cases hany : wildcard c = .anyText
      · simpa [hany] using ih
      · simpa [steps_cons hany] using ih

/-- Behind an escape character, one token for the next character differs from two for both. -/
theorem steps_tokens_ne (hpercent : escape ≠ '%') (hunderscore : escape ≠ '_') (d : Char)
    (rest : List Char) :
    steps (.literal d :: tokens escape rest) ≠ steps ((escape :: d :: rest).map wildcard) := by
  intro heq
  have hescape := wildcard_escape hpercent hunderscore
  rw [List.map_cons, List.map_cons, hescape, steps_cons (by simp), steps_cons (by simp)] at heq
  obtain ⟨hhead, htail⟩ := List.cons.inj heq
  obtain rfl : d = escape := Token.literal.inj hhead
  have hle := length_steps_tokens_le hpercent hunderscore rest
  rw [htail, hescape, steps_cons (by simp), List.length_cons] at hle
  omega

/-- The two ways to read a pattern agree on single characters only when there is nothing to
escape. -/
theorem notMem_of_steps_tokens_eq (hpercent : escape ≠ '%') (hunderscore : escape ≠ '_')
    (h : steps (tokens escape cs) = steps (cs.map wildcard)) : escape ∉ cs.dropLast := by
  fun_induction tokens escape cs with
  | case1 | case2 | case3 => simp
  | case4 d rest => exact absurd h (steps_tokens_ne hpercent hunderscore d rest)
  | case5 c d rest hc ih =>
      have htail : steps (tokens escape (d :: rest)) = steps ((d :: rest).map wildcard) := by
        rw [List.map_cons] at h
        by_cases hany : wildcard c = .anyText
        · simpa [hany] using h
        · simpa [steps_cons hany] using h
      rw [List.dropLast_cons_cons, List.mem_cons, not_or]
      exact ⟨Ne.symm hc, ih htail⟩

/-- With an escape character that is no wildcard, a pattern whose escape characters are literal and
one whose escape characters make characters literal match the same texts just when the escape
character stands nowhere but at the end. -/
theorem accepts_tokens_iff (hpercent : escape ≠ '%') (hunderscore : escape ≠ '_')
    (cs : List Char) :
    (∀ text, accepts (cs.map wildcard) text = true ↔ accepts (tokens escape cs) text = true) ↔
      escape ∉ cs.dropLast := by
  constructor
  · intro h
    exact notMem_of_steps_tokens_eq hpercent hunderscore (steps_eq_of_accepts h).symm
  · intro h text
    rw [tokens_eq_map_wildcard hpercent hunderscore h]

end Text.Like

namespace Serializer

variable {s : Serializer} {name : String} {family : Family} {settings : List Setting}

/-- A LIKE test of a path binds the pattern of its constant. -/
theorem serialize_likeTest (hbuild : Dialect.build name family settings = .ok s.dialect)
    (hlike : ∀ setting ∈ settings, setting.sparesLike = true) (type constantType : ValueType)
    (p : Path) (constant : String) :
    s.serialize (.expr (TextTest.like.expr type p ⟨constantType, .string constant⟩)) =
      s.likeStatement .like (.path p) (TextTest.like.pattern s.dialect.escape constant) := by
  obtain ⟨template, hget⟩ := Dialect.get?_textTest_of_sparesLike hbuild hlike .like
  have hserialize : s.serialize
      (.expr (TextTest.like.expr type p ⟨constantType, .string constant⟩)) =
        s.statement {} (s.setup.operationRendering (.op .like)
          [s.setup.operand (.path p), s.setup.constant ⟨constantType, .string constant⟩]) :=
    serialize_eq s _
  rw [hserialize, Setup.operationRendering_like s.setup _ rfl, Setup.plain_like_string hget]
  rfl

/-- A LIKE test of a path against a constant is written with the bound pattern by a dialect whose
settings leave the LIKE templates alone, and it is a condition with a regular expression in a
document store with the same escape character. The pattern and the expression accept the same texts
just when the escape character stands nowhere in the constant but at its end. -/
theorem like_agrees_with_document (hbuild : Dialect.build name family settings = .ok s.dialect)
    (hlike : ∀ setting ∈ settings, setting.sparesLike = true)
    (hpercent : s.dialect.escape ≠ '%') (hunderscore : s.dialect.escape ≠ '_')
    {d : DocumentStore} (hescape : d.escape = s.dialect.escape) (type constantType : ValueType)
    (p : Path) (constant : String) :
    ∃ pattern regex : String,
      s.serialize (.expr (TextTest.like.expr type p ⟨constantType, .string constant⟩)) =
        s.likeStatement .like (.path p) pattern ∧
      d.filter (TextTest.like.expr type p ⟨constantType, .string constant⟩) =
        d.conditionOn p (.object [("$regex", .string regex)]) ∧
      ((∀ text, isLike s.dialect.escape pattern text = true ↔ Regex.Finds regex text) ↔
        s.dialect.escape ∉ constant.toList.dropLast) := by
  refine ⟨_, _, serialize_likeTest hbuild hlike type constantType p constant,
    d.filter_textTest .like type p constantType constant, ?_⟩
  rw [← Text.Like.accepts_tokens_iff hpercent hunderscore]
  simp only [TextTest.isLike_pattern _ hpercent hunderscore, TextTest.finds_regex, hescape]
  exact ⟨fun h text ↦ by simpa [TextTest.Asks, TextTest.AsksWith] using h (.ofList text),
    fun h text ↦ h text.toList⟩

/-- An escape character at the end is a character like any other. -/
theorem exists_like_agrees_bang :
    let test := TextTest.like.expr .bool
      (.property .string (.root (.entity "Cat") "cat") "name") ⟨.string, .string "%a_!"⟩
    ∃ (s : Serializer) (pattern regex : String), Dialect.jpql = .ok s.dialect ∧
      s.serialize (.expr test) =
        .ok ⟨"cat.name like ?1 escape '!'", [.value (.string pattern)], {}⟩ ∧
      ({ escape := '!' } : DocumentStore).filter test =
        .ok [("name", .object [("$regex", .string regex)])] ∧
      ∀ text, isLike '!' pattern text = true ↔ Regex.Finds regex text := by
  intro test
  obtain ⟨d, hbuild⟩ := Dialect.exists_jpql
  have hescape : d.escape = '!' := Dialect.escape_of_build hbuild
  let s : Serializer := { dialect := d }
  let store : DocumentStore := { escape := '!' }
  have hstore : store.escape = s.dialect.escape := hescape.symm
  obtain ⟨pattern, regex, hserialize, hfilter, hagrees⟩ := like_agrees_with_document (s := s) hbuild
    (by simp) (by simp [s, hescape]) (by simp [s, hescape]) hstore .bool .string
    (.property .string (.root (.entity "Cat") "cat") "name") "%a_!"
  have hend : s.dialect.escape ∉ "%a_!".toList.dropLast := by
    rw [← hstore]
    decide
  refine ⟨s, pattern, regex, hbuild, ?_, hfilter.trans rfl, ?_⟩
  · rw [hserialize, likeStatement_catName hbuild]
  · rw [← hstore] at hagrees hend
    exact hagrees.mpr hend

/-- In front of a wildcard it makes a difference: `50!%` starts texts in a statement, and is a
whole text in a document. -/
theorem exists_like_disagrees_bang :
    let test := TextTest.like.expr .bool
      (.property .string (.root (.entity "Cat") "cat") "name") ⟨.string, .string "50!%"⟩
    ∃ (s : Serializer) (pattern regex : String), Dialect.jpql = .ok s.dialect ∧
      s.serialize (.expr test) =
        .ok ⟨"cat.name like ?1 escape '!'", [.value (.string pattern)], {}⟩ ∧
      ({ escape := '!' } : DocumentStore).filter test =
        .ok [("name", .object [("$regex", .string regex)])] ∧
      isLike '!' pattern "50!" = true ∧ ¬ Regex.Finds regex "50!" := by
  intro test
  obtain ⟨d, hbuild⟩ := Dialect.exists_jpql
  have hescape : d.escape = '!' := Dialect.escape_of_build hbuild
  let s : Serializer := { dialect := d }
  refine ⟨s, "50!!%", "^50%$", hbuild, ?_, rfl, by decide, ?_⟩
  · have hserialize := serialize_likeTest (s := s) hbuild (by simp) .bool .string
      (.property .string (.root (.entity "Cat") "cat") "name") "50!%"
    have hpattern : TextTest.like.pattern s.dialect.escape "50!%" = "50!!%" := by
      simp only [s, hescape]
      rfl
    rw [hserialize, hpattern, likeStatement_catName hbuild]
  · have hregex : "^50%$" = TextTest.like.regex '!' "50!%" := rfl
    rw [hregex, TextTest.finds_regex]
    simp only [TextTest.AsksWith]
    decide

end Serializer

end TypedQuery
