import TypedQuery.Proofs.Patterns.RegularExpressions
import TypedQuery.Proofs.Patterns.SameTexts

/-!
# Regular expressions with a LIKE pattern

A regular expression has a LIKE pattern when it is a row of parts between anchors, none of which is
a class. The pattern matches the whole texts that the expression matches, provided that no letter
and no digit stands behind a backslash: the pattern takes it literally, the expression does not.
-/

namespace TypedQuery.Text.Regex

open Like

namespace Part

/-- Whether a part is made a pattern of. -/
def IsConvertible : Part → Prop
  | char c => c ∉ regexMeta
  | escaped c => c ∉ classLetters
  | _ => True

def pattern (escape : Char) : Part → List Char
  | char c | escaped c => literalChar escape c
  | anyChar => ['_']
  | anyText => ['%']

/-- What the pattern of a part matches. -/
def patternToken : Part → Token
  | char c | escaped c => .literal c
  | anyChar => .anyChar
  | anyText => .anyText

def escaped? : Part → Option Char
  | escaped c => some c
  | _ => none

theorem IsConvertible.isPlain {part : Part} (h : part.IsConvertible) : part.IsPlain := by
  cases part with
  | char c => exact h
  | escaped c =>
      show class? c = none
      unfold class?
      split <;> first | rfl | exact absurd (by decide) h
  | anyChar | anyText => trivial

end Part

variable {escape : Char} {cs like : List Char} {parts : List Part}

/-! ## The parts of a body -/

/-- Whether parts make up a body and its pattern. -/
def Converts (escape : Char) (parts : List Part) (cs like : List Char) : Prop :=
  cs = parts.flatMap Part.text ∧ (∀ part ∈ parts, part.IsConvertible) ∧
    like = parts.flatMap (Part.pattern escape)

theorem exists_converts_cons (part : Part) (hpart : part.IsConvertible)
    (ih : ∀ {like}, ofRegexBody? escape cs = some like → ∃ parts, Converts escape parts cs like)
    (h : (part.pattern escape ++ ·) <$> ofRegexBody? escape cs = some like) :
    ∃ parts, Converts escape parts (part.text ++ cs) like := by
  obtain ⟨like, hlike, rfl⟩ := Option.map_eq_some_iff.mp h
  obtain ⟨parts, rfl, hparts, rfl⟩ := ih hlike
  exact ⟨part :: parts, rfl, List.forall_mem_cons.mpr ⟨hpart, hparts⟩, rfl⟩

theorem exists_converts (h : ofRegexBody? escape cs = some like) :
    ∃ parts, Converts escape parts cs like := by
  fun_induction ofRegexBody? escape cs generalizing like with
  | case1 =>
      cases h
      exact ⟨[], rfl, List.forall_mem_nil _, rfl⟩
  | case2 | case3 | case7 => cases h
  | case4 c rest hc ih => exact exists_converts_cons (.escaped c) hc ih h
  | case5 rest ih => exact exists_converts_cons .anyText trivial ih h
  | case6 rest _ ih => exact exists_converts_cons .anyChar trivial ih h
  | case8 c rest hlone hescape hany hdot hc ih =>
      refine exists_converts_cons (.char c) ?_ ih h
      have hbackslash : c ≠ '\\' := by
        rintro rfl
        cases rest with
        | nil => exact hlone rfl rfl
        | cons d rest => exact hescape d rest rfl rfl
      show c ∉ regexMeta
      simp_all [regexMeta, inexpressible]

theorem ofRegexBody?_part {part : Part} (hpart : part.IsConvertible) {rest : List Char}
    (hrest : rest.head? ≠ some '*') :
    ofRegexBody? escape (part.text ++ rest) =
      (part.pattern escape ++ ·) <$> ofRegexBody? escape rest := by
  cases part with
  | char c =>
      have hc : c ∉ regexMeta := hpart
      simp only [regexMeta, List.mem_cons, List.not_mem_nil, or_false, not_or] at hc
      show ofRegexBody? escape (c :: rest) = _
      rw [ofRegexBody?] <;> simp_all [Part.pattern, inexpressible]
  | escaped c => exact if_neg hpart
  | anyChar =>
      show ofRegexBody? escape ('.' :: rest) = _
      cases rest with
      | nil => rfl
      | cons c rest =>
          have hc : c ≠ '*' := by simpa using hrest
          rw [ofRegexBody?] <;> simp_all [Part.pattern]
  | anyText => rfl

theorem head?_parts_ne (hparts : ∀ part ∈ parts, part.IsConvertible) {c : Char}
    (hc : c = '*' ∨ c = '^') : (parts.flatMap Part.text).head? ≠ some c := by
  cases parts with
  | nil => simp
  | cons part parts =>
      have hpart := hparts part List.mem_cons_self
      cases part with
      | char d =>
          rintro h
          obtain rfl : d = c := by simpa [Part.text] using h
          refine hpart ?_
          rcases hc with rfl | rfl <;> decide
      | escaped d | anyChar | anyText => rcases hc with rfl | rfl <;> simp [Part.text]

theorem ofRegexBody?_parts (hparts : ∀ part ∈ parts, part.IsConvertible) :
    ofRegexBody? escape (parts.flatMap Part.text) =
      some (parts.flatMap (Part.pattern escape)) := by
  induction parts with
  | nil => rfl
  | cons part parts ih =>
      obtain ⟨hpart, htail⟩ := List.forall_mem_cons.mp hparts
      rw [List.flatMap_cons, ofRegexBody?_part hpart (head?_parts_ne htail (.inl rfl)), ih htail]
      rfl

/-! ## Anchors -/

/-- A body without the anchor at its end; a dollar sign behind a backslash is no anchor. -/
def withoutEnd (body : List Char) : List Char :=
  match body.reverse with
  | '$' :: '\\' :: _ => body
  | '$' :: rest => rest.reverse
  | _ => body

theorem withoutAnchors_start (body : List Char) :
    withoutAnchors ('^' :: body) = withoutEnd body := rfl

theorem withoutAnchors_of_head?_ne (h : cs.head? ≠ some '^') :
    withoutAnchors cs = withoutEnd cs := by
  cases cs with
  | nil => rfl
  | cons c cs =>
      have hc : c ≠ '^' := by simpa using h
      rw [← withoutAnchors_start]
      simp [withoutAnchors, hc]

theorem exists_withoutEnd (body : List Char) : ∃ atEnd : Bool,
    body = withoutEnd body ++ (if atEnd then ['$'] else []) ∧
      (atEnd = true → (withoutEnd body).getLast? ≠ some '\\') := by
  unfold withoutEnd
  split
  · exact ⟨false, by simp⟩
  · rename_i rest hrest hbody
    refine ⟨true, ?_, fun _ ↦ ?_⟩
    · simpa using congrArg List.reverse hbody
    · cases rest with
      | nil => simp
      | cons c rest =>
          rw [List.getLast?_reverse, List.head?_cons, ne_eq, Option.some.injEq]
          rintro rfl
          exact hrest rest rfl
  · exact ⟨false, by simp⟩

/-- The last character of parts is no anchor, and a backslash there is one that is taken
literally. -/
theorem last_parts (hparts : ∀ part ∈ parts, part.IsConvertible) (rest : List Char) :
    ((parts.flatMap Part.text).reverse = '\\' :: rest →
        parts.getLast? = some (.escaped '\\')) ∧
      ((parts.flatMap Part.text).reverse = '$' :: rest → rest.head? = some '\\') := by
  rcases parts.eq_nil_or_concat with rfl | ⟨init, part, rfl⟩
  · simp
  · have hpart : part.IsConvertible := hparts part (by simp)
    cases part with
    | char c =>
        constructor <;> intro h
        · obtain ⟨rfl, _⟩ : c = '\\' ∧ _ := by simpa [Part.text] using h
          exact absurd (by decide) hpart
        · obtain ⟨rfl, _⟩ : c = '$' ∧ _ := by simpa [Part.text] using h
          exact absurd (by decide) hpart
    | escaped c =>
        constructor <;> intro h
        · obtain ⟨rfl, _⟩ : c = '\\' ∧ _ := by simpa [Part.text] using h
          simp
        · obtain ⟨_, rfl⟩ : c = '$' ∧ _ := by simpa [Part.text] using h
          simp
    | anyChar | anyText => simp [Part.text]

theorem withoutEnd_append_dollar {body : List Char} (h : body.getLast? ≠ some '\\') :
    withoutEnd (body ++ ['$']) = body := by
  unfold withoutEnd
  rw [List.reverse_append, List.reverse_singleton, List.singleton_append]
  split
  · rename_i rest hrest
    obtain ⟨_, hrest⟩ := List.cons.inj hrest
    exact absurd (by simp [← List.head?_reverse, hrest]) h
  · rename_i rest _ hrest
    rw [← (List.cons.inj hrest).2, List.reverse_reverse]
  · rename_i hne
    exact absurd rfl (hne _)

theorem withoutEnd_eq_self {body : List Char}
    (h : ∀ rest, body.reverse = '$' :: rest → rest.head? = some '\\') :
    withoutEnd body = body := by
  unfold withoutEnd
  split
  · rfl
  · rename_i rest hne hrest
    cases rest with
    | nil => cases h [] hrest
    | cons c rest =>
        obtain rfl : c = '\\' := by simpa using h _ hrest
        exact absurd rfl (hne rest)
  · rfl

theorem withoutAnchors_row {row : Row} (hparts : ∀ part ∈ row.parts, part.IsConvertible)
    (hend : row.atEnd = true → row.parts.getLast? ≠ some (.escaped '\\')) :
    withoutAnchors row.text = row.parts.flatMap Part.text := by
  have hbody : withoutEnd (row.parts.flatMap Part.text ++ if row.atEnd then ['$'] else []) =
      row.parts.flatMap Part.text := by
    cases hatEnd : row.atEnd with
    | false =>
        rw [if_neg (by simp), List.append_nil]
        exact withoutEnd_eq_self fun rest ↦ (last_parts hparts rest).2
    | true =>
        refine withoutEnd_append_dollar fun hlast ↦ hend hatEnd ?_
        obtain ⟨rest, hrest⟩ := List.getLast?_eq_some_iff.mp hlast
        exact (last_parts hparts rest.reverse).1 (by simp [hrest])
  rw [← hbody, Row.text]
  cases row.atStart with
  | true => rfl
  | false =>
      refine withoutAnchors_of_head?_ne ?_
      cases hhead : row.parts.flatMap Part.text with
      | nil => cases row.atEnd <;> simp
      | cons c cs =>
          have hne := head?_parts_ne hparts (c := '^') (.inr rfl)
          simpa [hhead] using hne

/-! ## Expressions -/

/-- The exact regular expressions that have a pattern, and their patterns. -/
theorem ofRegex?_eq_some_iff :
    ofRegex? escape cs = some like ↔ ∃ row : Row, cs = row.text ∧
      (∀ part ∈ row.parts, part.IsConvertible) ∧
      (row.atEnd = true → row.parts.getLast? ≠ some (.escaped '\\')) ∧
      like = row.parts.flatMap (Part.pattern escape) := by
  constructor
  · intro h
    obtain ⟨parts, hbody, hparts, rfl⟩ := exists_converts h
    obtain ⟨atStart, hcs⟩ : ∃ atStart : Bool, ∃ body,
        cs = (if atStart then ['^'] else []) ++ body ∧ withoutAnchors cs = withoutEnd body := by
      by_cases hhead : cs.head? = some '^'
      · obtain ⟨body, rfl⟩ := List.head?_eq_some_iff.mp hhead
        exact ⟨true, body, rfl, rfl⟩
      · exact ⟨false, cs, rfl, withoutAnchors_of_head?_ne hhead⟩
    obtain ⟨body, rfl, hwithout⟩ := hcs
    obtain ⟨atEnd, hend, hlast⟩ := exists_withoutEnd body
    rw [← hwithout, hbody] at hend hlast
    refine ⟨⟨atStart, parts, atEnd⟩, by rw [Row.text, ← hend], hparts, ?_, rfl⟩
    intro hatEnd hescaped
    refine hlast hatEnd ?_
    obtain ⟨init, rfl⟩ := List.getLast?_eq_some_iff.mp hescaped
    simp [Part.text]
  · rintro ⟨row, rfl, hparts, hend, rfl⟩
    rw [ofRegex?, withoutAnchors_row hparts hend, ofRegexBody?_parts hparts]

/-! ## What a pattern matches -/

/-- The pattern of parts is read as their tokens. -/
theorem read?_pattern (hpercent : escape ≠ '%') (hunderscore : escape ≠ '_')
    (parts : List Part) :
    Like.read? escape (parts.flatMap (Part.pattern escape)) =
      some (parts.map Part.patternToken) := by
  induction parts with
  | nil => rfl
  | cons part parts ih =>
      rw [List.flatMap_cons]
      cases part with
      | char c | escaped c =>
          rw [Part.pattern, read?_literalChar, ih]
          rfl
      | anyChar =>
          rw [Part.pattern, List.singleton_append, read?_cons hunderscore.symm, ih]
          rfl
      | anyText =>
          rw [Part.pattern, List.singleton_append, read?_cons hpercent.symm, ih]
          rfl

/-- The characters behind a backslash. -/
def escapedChars : List Char → List Char
  | '\\' :: c :: rest => c :: escapedChars rest
  | _ :: rest => escapedChars rest
  | [] => []

theorem escapedChars_cons {c : Char} (hc : c ≠ '\\') (rest : List Char) :
    escapedChars (c :: rest) = escapedChars rest := by
  rw [escapedChars]
  simp [hc]

theorem escapedChars_parts (hparts : ∀ part ∈ parts, part.IsConvertible) (rest : List Char) :
    escapedChars (parts.flatMap Part.text ++ rest) =
      parts.filterMap Part.escaped? ++ escapedChars rest := by
  induction parts with
  | nil => rfl
  | cons part parts ih =>
      obtain ⟨hpart, htail⟩ := List.forall_mem_cons.mp hparts
      rw [List.flatMap_cons, List.append_assoc]
      cases part with
      | char c =>
          have hc : c ≠ '\\' := by
            rintro rfl
            exact hpart (by decide)
          rw [Part.text, List.singleton_append, escapedChars_cons hc, ih htail]
          rfl
      | escaped c =>
          exact congrArg (c :: ·) (ih htail)
      | anyChar | anyText => exact ih htail

theorem escapedChars_row {row : Row} (hparts : ∀ part ∈ row.parts, part.IsConvertible) :
    escapedChars row.text = row.parts.filterMap Part.escaped? := by
  have hend : escapedChars (if row.atEnd then ['$'] else []) = [] := by
    cases row.atEnd <;> rfl
  have hparts := escapedChars_parts hparts (if row.atEnd then ['$'] else [])
  rw [hend, List.append_nil] at hparts
  rw [← hparts, Row.text]
  cases row.atStart <;> rfl

/-- What names a control character is a letter, and no control character itself. -/
theorem of_control?_eq_some {c d : Char} (h : control? c = some d) :
    c.isAlphanum = true ∧ d ≠ c := by
  unfold control? at h
  split at h <;> cases h <;> decide

theorem token?_eq_patternToken_iff {part : Part} :
    part.token? = some part.patternToken ↔ ∀ c ∈ part.escaped?, c.isAlphanum = false := by
  cases part with
  | escaped c =>
      cases hcontrol : control? c with
      | none => simp [Part.token?, Part.patternToken, Part.escaped?, hcontrol]
      | some d =>
          obtain ⟨hc, hd⟩ := of_control?_eq_some hcontrol
          simp [Part.token?, Part.patternToken, Part.escaped?, hcontrol, hc, hd]
  | char | anyChar | anyText => simp [Part.token?, Part.patternToken, Part.escaped?]

theorem eq_anyText_iff_of_token? {part : Part} {t : Token} (h : part.token? = some t) :
    t = .anyText ↔ part.patternToken = .anyText := by
  cases part with
  | escaped c =>
      simp only [Part.token?] at h
      split at h
      · cases h
        simp [Part.patternToken]
      · split at h <;> cases h
        simp [Part.patternToken]
  | char | anyChar | anyText =>
      cases h
      simp [Part.patternToken]

/-- Parts that have the tokens of their patterns but for any text have all of them. -/
theorem token?_of_steps_eq {ts : List Token} (hts : parts.mapM Part.token? = some ts)
    (hsteps : steps ts = steps (parts.map Part.patternToken)) :
    ∀ part ∈ parts, part.token? = some part.patternToken := by
  induction parts generalizing ts with
  | nil => simp
  | cons part parts ih =>
      rw [List.mapM_cons, Option.bind_eq_bind, Option.bind_eq_some_iff] at hts
      obtain ⟨t, ht, hts⟩ := hts
      obtain ⟨us, hus, heq⟩ := Option.bind_eq_some_iff.mp hts
      obtain rfl : t :: us = ts := Option.some.inj heq
      rw [List.map_cons] at hsteps
      rw [List.forall_mem_cons]
      by_cases hany : t = .anyText
      · have hpattern := (eq_anyText_iff_of_token? ht).mp hany
        rw [hpattern, hany, steps_cons_anyText, steps_cons_anyText] at hsteps
        exact ⟨by rw [ht, hany, hpattern], ih hus hsteps⟩
      · have hpattern : part.patternToken ≠ .anyText :=
          fun h ↦ hany ((eq_anyText_iff_of_token? ht).mpr h)
        rw [steps_cons hany, steps_cons hpattern] at hsteps
        obtain ⟨hhead, htail⟩ := List.cons.inj hsteps
        exact ⟨by rw [ht, hhead], ih hus htail⟩

theorem mapM_token?_of_forall (h : ∀ part ∈ parts, part.token? = some part.patternToken) :
    parts.mapM Part.token? = some (parts.map Part.patternToken) := by
  induction parts with
  | nil => rfl
  | cons part parts ih =>
      obtain ⟨hpart, htail⟩ := List.forall_mem_cons.mp h
      rw [List.mapM_cons, hpart, ih htail]
      rfl

/-- Parts match what their pattern matches just when no letter and no digit stands behind a
backslash. -/
theorem exists_tokens_iff :
    (∃ ts, parts.mapM Part.token? = some ts ∧
        ∀ cs, accepts (parts.map Part.patternToken) cs = true ↔ accepts ts cs = true) ↔
      ∀ c ∈ parts.filterMap Part.escaped?, c.isAlphanum = false := by
  have hparts : (∀ part ∈ parts, part.token? = some part.patternToken) ↔
      ∀ c ∈ parts.filterMap Part.escaped?, c.isAlphanum = false := by
    simp only [token?_eq_patternToken_iff, List.mem_filterMap]
    exact ⟨fun h c ⟨part, hpart, hc⟩ ↦ h part hpart c hc,
      fun h part hpart c hc ↦ h c ⟨part, hpart, hc⟩⟩
  rw [← hparts]
  constructor
  · rintro ⟨ts, hts, hsame⟩
    exact token?_of_steps_eq hts (steps_eq_of_accepts hsame).symm
  · intro h
    exact ⟨_, mapM_token?_of_forall h, fun _ ↦ Iff.rfl⟩

/-- The pattern of an expression matches the whole texts that the expression matches just when no
letter and no digit stands behind a backslash. -/
theorem isLike_iff_matchesWhole_iff (hpercent : escape ≠ '%') (hunderscore : escape ≠ '_')
    (h : ofRegex? escape cs = some like) :
    (∀ text, isLike escape (.ofList like) text = true ↔ MatchesWhole (.ofList cs) text) ↔
      ∀ c ∈ escapedChars cs, c.isAlphanum = false := by
  obtain ⟨row, rfl, hparts, _, rfl⟩ := ofRegex?_eq_some_iff.mp h
  have hplain : ∀ part ∈ row.parts, part.IsPlain := fun part hpart ↦ (hparts part hpart).isPlain
  rw [escapedChars_row hparts, ← exists_tokens_iff]
  simp only [isLike, String.toList_ofList, read?_pattern hpercent hunderscore, Option.any_some,
    matchesWhole_row hplain]
  cases hts : row.parts.mapM Part.token? with
  | none =>
      -- a pattern matches something, an expression without a meaning nothing
      refine iff_of_false (fun h ↦ ?_) (by simp)
      simpa using (h (.ofList (sample (row.parts.map Part.patternToken)))).mp
        (by rw [String.toList_ofList, accepts_sample])
  | some ts =>
      simp only [Option.some.injEq, exists_eq_left']
      exact ⟨fun h cs ↦ by simpa using h (.ofList cs), fun h text ↦ h text.toList⟩

end TypedQuery.Text.Regex
