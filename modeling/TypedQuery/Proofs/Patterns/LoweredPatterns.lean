import TypedQuery.Proofs.Patterns.SameTexts
import TypedQuery.Text.Casing

/-!
# Lower case in patterns

A constant is escaped for a pattern and lowered then. Lowering also changes the escape characters
that were put in, and may make new ones out of capital letters. Where it keeps every character of
the constant in its place, the lowered pattern is the pattern for the lowered constant.
-/

namespace TypedQuery

namespace Text

/-! ## Lower case -/

/-- Whether all characters of a text are ASCII characters. -/
def AllAscii (cs : List Char) : Prop := ∀ c ∈ cs, isAscii c = true

instance (cs : List Char) : Decidable (AllAscii cs) := List.decidableBAll _ cs

theorem forall_isAscii {p : Char → Prop} (h : ∀ n < 128, p (Char.ofNat n)) {c : Char}
    (hc : isAscii c = true) : p c := by
  have hp := h c.toNat (by simpa [isAscii] using hc)
  rwa [Char.ofNat_toNat] at hp

theorem isAscii_toLower {c : Char} (hc : isAscii c = true) : isAscii c.toLower = true :=
  forall_isAscii (p := fun c ↦ isAscii c.toLower = true) (by decide) hc

theorem toLower_toLower {c : Char} (hc : isAscii c = true) : c.toLower.toLower = c.toLower :=
  forall_isAscii (p := fun c ↦ c.toLower.toLower = c.toLower) (by decide) hc

theorem toLower_eq_percent_iff {c : Char} (hc : isAscii c = true) : c.toLower = '%' ↔ c = '%' :=
  forall_isAscii (p := fun c ↦ c.toLower = '%' ↔ c = '%') (by decide) hc

theorem toLower_eq_underscore_iff {c : Char} (hc : isAscii c = true) :
    c.toLower = '_' ↔ c = '_' :=
  forall_isAscii (p := fun c ↦ c.toLower = '_' ↔ c = '_') (by decide) hc

theorem lowerFrom_of_allAscii {cs : List Char} (h : AllAscii cs) (passed : List Char) :
    lowerFrom passed cs = cs.map Char.toLower := by
  induction cs generalizing passed with
  | nil => rfl
  | cons c cs ih =>
      obtain ⟨hc, hcs⟩ := List.forall_mem_cons.mp h
      have hsigma : c ≠ 'Σ' := by
        rintro rfl
        exact absurd hc (by decide)
      simp [lowerFrom, lowerChar, hsigma, hc, ih hcs]

theorem toList_lower {s : String} (h : AllAscii s.toList) :
    (lower s).toList = s.toList.map Char.toLower := by
  rw [lower, String.toList_ofList, lowerFrom_of_allAscii h]

end Text

namespace Text.Like

variable {escape c : Char} {cs : List Char} {ts : List Token}

/-! ## Patterns as they are written -/

/-- How a token is written in a pattern. -/
def spelling (escape : Char) : Token → List Char
  | .literal c => literalChar escape c
  | .anyChar => ['_']
  | .anyText => ['%']

theorem spelling_wildcard (hc : c ≠ escape) : spelling escape (wildcard c) = [c] := by
  unfold wildcard
  split
  · rename_i hpercent
    rw [hpercent]
    rfl
  · rename_i hpercent
    split
    · rename_i hunderscore
      rw [hunderscore]
      rfl
    · rename_i hunderscore
      simp [spelling, literalChar, needsEscape, hc, hpercent, hunderscore]

/-- A pattern consists of what its tokens are written as. -/
theorem eq_flatMap_spelling (h : read? escape cs = some ts) :
    cs = ts.flatMap (spelling escape) := by
  fun_induction read? escape cs generalizing ts with
  | case1 =>
      obtain rfl := Option.some.inj h
      rfl
  | case2 | case5 => cases h
  | case3 c hc =>
      obtain rfl := Option.some.inj h
      rw [List.flatMap_singleton, spelling_wildcard hc]
  | case4 d rest hd ih =>
      obtain ⟨us, hus, rfl⟩ := Option.map_eq_some_iff.mp h
      rw [List.flatMap_cons, ← ih hus]
      simp [spelling, literalChar, hd]
  | case6 c d rest hc ih =>
      obtain ⟨us, hus, rfl⟩ := Option.map_eq_some_iff.mp h
      rw [List.flatMap_cons, ← ih hus, spelling_wildcard hc]
      rfl

/-- An underscore in a pattern stands for itself in the texts that it matches, or for any
character. -/
theorem count_underscore (hunderscore : escape ≠ '_') (h : read? escape cs = some ts) :
    cs.count '_' = (sample ts).count '_' + ts.count .anyChar := by
  rw [eq_flatMap_spelling h]
  clear h
  induction ts with
  | nil => rfl
  | cons t ts ih =>
      rw [List.flatMap_cons, List.count_append, ih]
      cases t with
      | literal c =>
          simp only [spelling, literalChar, sample]
          split <;> simp [List.count_cons, hunderscore] <;> omega
      | anyChar => simp [spelling, sample]; omega
      | anyText => simp [spelling, sample]

/-- A pattern without tokens for any character has the characters of the text that it matches, made
literal, and percent signs. -/
theorem count_of_notMem_anyChar (h : read? escape cs = some ts) (hany : .anyChar ∉ ts) {d : Char}
    (hd : d ≠ '%') : cs.count d = (literal escape (sample ts)).count d := by
  rw [eq_flatMap_spelling h]
  clear h
  induction ts with
  | nil => rfl
  | cons t ts ih =>
      rw [List.mem_cons, not_or] at hany
      rw [List.flatMap_cons, List.count_append, ih hany.2]
      cases t with
      | literal c => simp [spelling, sample, literal]
      | anyChar => exact absurd rfl hany.1
      | anyText => simp [spelling, sample, hd.symm]

/-- The shortest text for a pattern is made of characters of the pattern and of fillers. -/
theorem mem_of_mem_sample (h : read? escape cs = some ts) (hc : c ∈ sample ts) :
    c = 'a' ∨ c ∈ cs := by
  rw [eq_flatMap_spelling h]
  clear h
  induction ts with
  | nil => cases hc
  | cons t ts ih =>
      rw [List.flatMap_cons, List.mem_append]
      cases t with
      | literal d =>
          rcases List.mem_cons.mp hc with rfl | hc
          · refine .inr (.inl ?_)
            show c ∈ literalChar escape c
            unfold literalChar
            split <;> simp
          · exact (ih hc).imp_right .inr
      | anyChar =>
          rcases List.mem_cons.mp hc with rfl | hc
          · exact .inl rfl
          · exact (ih hc).imp_right .inr
      | anyText => exact (ih hc).imp_right .inr

/-! ## Escaped texts -/

/-- Whether lowering keeps the place of a character in an escaped text: it becomes the escape
character only if it is one, and it is not escaped by a character that changes itself. -/
def SurvivesLowering (escape c : Char) : Prop :=
  (c.toLower = escape → c = escape) ∧ (needsEscape escape c = true → escape.toLower = escape)

instance (escape c : Char) : Decidable (SurvivesLowering escape c) :=
  inferInstanceAs (Decidable (_ ∧ _))

theorem needsEscape_iff : needsEscape escape c = true ↔ c = escape ∨ c = '%' ∨ c = '_' := by
  simp [needsEscape, or_assoc]

theorem literal_cons (escape c : Char) (cs : List Char) :
    literal escape (c :: cs) = literalChar escape c ++ literal escape cs := rfl

theorem length_literal (cs : List Char) :
    (literal escape cs).length = cs.length + cs.countP (needsEscape escape) := by
  induction cs with
  | nil => rfl
  | cons c cs ih =>
      rw [literal_cons, List.length_append, ih, List.countP_cons, literalChar]
      split <;> simp <;> omega

theorem mem_literal {d : Char} : d ∈ literal escape cs ↔
    d ∈ cs ∨ d = escape ∧ ∃ c ∈ cs, needsEscape escape c = true := by
  induction cs with
  | nil => simp [literal]
  | cons c cs ih =>
      rw [literal_cons, List.mem_append, ih, literalChar]
      by_cases hc : needsEscape escape c = true
      · simp [hc]; tauto
      · simp [hc]; tauto

theorem map_toLower_literal (hcs : AllAscii cs) (h : ∀ c ∈ cs, SurvivesLowering escape c) :
    (literal escape cs).map Char.toLower = literal escape (cs.map Char.toLower) := by
  induction cs with
  | nil => rfl
  | cons c cs ih =>
      obtain ⟨hascii, hcs⟩ := List.forall_mem_cons.mp hcs
      obtain ⟨⟨hbecomes, hescapes⟩, h⟩ := List.forall_mem_cons.mp h
      have hneeds : needsEscape escape c.toLower = needsEscape escape c := by
        rw [Bool.eq_iff_iff, needsEscape_iff, needsEscape_iff, toLower_eq_percent_iff hascii,
          toLower_eq_underscore_iff hascii]
        refine or_congr ⟨hbecomes, ?_⟩ Iff.rfl
        rintro rfl
        exact hescapes (needsEscape_iff.mpr (.inl rfl))
      have hchar : (literalChar escape c).map Char.toLower = literalChar escape c.toLower := by
        unfold literalChar
        rw [hneeds]
        split
        · rename_i hc
          simp [hescapes hc]
        · rfl
      rw [List.map_cons, literal_cons, literal_cons, List.map_append, hchar, ih hcs h]

theorem allAscii_literal (hescape : isAscii escape = true) (hcs : AllAscii cs) :
    AllAscii (literal escape cs) := by
  intro c hc
  rcases mem_literal.mp hc with hmem | ⟨rfl, -⟩
  · exact hcs c hmem
  · exact hescape

variable {w : Char}

theorem count_literal (hw : escape ≠ w) (cs : List Char) :
    (literal escape cs).count w = cs.count w := by
  induction cs with
  | nil => rfl
  | cons c cs ih =>
      rw [literal_cons, List.count_append, ih, literalChar, List.count_cons]
      split <;> simp [List.count_cons, hw] <;> omega

/-- No letter becomes a wildcard by lowering. -/
theorem count_map_toLower (hw : w = '%' ∨ w = '_') (hcs : AllAscii cs) :
    (cs.map Char.toLower).count w = cs.count w := by
  rw [List.count_eq_countP, List.count_eq_countP, List.countP_map]
  refine List.countP_congr fun c hc ↦ ?_
  rcases hw with rfl | rfl
  · simpa using toLower_eq_percent_iff (hcs c hc)
  · simpa using toLower_eq_underscore_iff (hcs c hc)

/-- In an escaped text, wildcards stay where they are. -/
theorem count_map_toLower_literal (hw : w = '%' ∨ w = '_') (hne : escape ≠ w)
    (hescape : isAscii escape = true) (hcs : AllAscii cs) :
    ((literal escape cs).map Char.toLower).count w = cs.count w := by
  rw [count_map_toLower hw (allAscii_literal hescape hcs), count_literal hne]

theorem forall_of_countP_eq {p q : Char → Bool} (hpq : ∀ c ∈ cs, p c = true → q c = true)
    (h : cs.countP p = cs.countP q) : ∀ c ∈ cs, q c = true → p c = true := by
  induction cs with
  | nil => simp
  | cons c cs ih =>
      obtain ⟨hfirst, hrest⟩ := List.forall_mem_cons.mp hpq
      have hle := List.countP_mono_left hrest
      rw [List.countP_cons, List.countP_cons] at h
      rw [List.forall_mem_cons]
      by_cases hq : q c = true
      · have hp : p c = true := by
          by_contra hp
          simp only [hp, hq, if_true] at h
          simp at h
          omega
        simp only [hp, hq, if_true] at h
        exact ⟨fun _ ↦ hp, ih hrest (by omega)⟩
      · have hp : ¬ p c = true := fun hp ↦ hq (hfirst hp)
        simp only [hp, hq] at h
        exact ⟨fun hc ↦ absurd hc hq, ih hrest (by simpa using h)⟩

/-- Lowering an escaped text and escaping the lowered text give the same characters only where
lowering keeps every character in its place. -/
theorem survivesLowering_of_count (hescape : isAscii escape = true) (hcs : AllAscii cs)
    (h : ∀ d, ((literal escape cs).map Char.toLower).count d =
      (literal escape (cs.map Char.toLower)).count d) : ∀ c ∈ cs, SurvivesLowering escape c := by
  have hperm := List.perm_iff_count.mpr h
  have hcount : cs.countP (needsEscape escape) =
      cs.countP (needsEscape escape ∘ Char.toLower) := by
    have hlength := hperm.length_eq
    rw [List.length_map, length_literal, length_literal, List.length_map, List.countP_map]
      at hlength
    omega
  intro c hc
  by_cases hlower : escape.toLower = escape
  · -- what is escaped before is escaped behind, so that nothing else is
    have hkeeps : ∀ d ∈ cs, needsEscape escape d = true → needsEscape escape d.toLower = true := by
      intro d hd hneeds
      rw [needsEscape_iff] at hneeds ⊢
      rcases hneeds with rfl | rfl | rfl
      · exact .inl hlower
      · exact .inr (.inl rfl)
      · exact .inr (.inr rfl)
    refine ⟨fun hbecomes ↦ ?_, fun _ ↦ hlower⟩
    have hneeds := forall_of_countP_eq hkeeps hcount c hc (by simp [needsEscape, hbecomes])
    rcases needsEscape_iff.mp hneeds with hsame | rfl | rfl
    · exact hsame
    · exact hbecomes
    · exact hbecomes
  · -- a lowered text does not have the escape character, so that nothing is escaped
    have habsent : ∀ d, isAscii d = true → d.toLower ≠ escape := by
      rintro d hd rfl
      exact hlower (toLower_toLower hd)
    have hnot : escape ∉ (literal escape cs).map Char.toLower := by
      rw [List.mem_map]
      rintro ⟨d, hd, hbecomes⟩
      rcases mem_literal.mp hd with hmem | ⟨rfl, -⟩
      · exact habsent d (hcs d hmem) hbecomes
      · exact hlower hbecomes
    have hnone : cs.countP (needsEscape escape ∘ Char.toLower) = 0 := by
      rw [List.countP_eq_zero]
      intro d hd hneeds
      refine hnot (hperm.mem_iff.mpr (mem_literal.mpr (.inr ⟨rfl, d.toLower, ?_, hneeds⟩)))
      exact List.mem_map_of_mem hd
    rw [← hcount, List.countP_eq_zero] at hnone
    exact ⟨fun hbecomes ↦ absurd hbecomes (habsent c (hcs c hc)),
      fun hneeds ↦ absurd hneeds (hnone c hc)⟩

end Text.Like

end TypedQuery
