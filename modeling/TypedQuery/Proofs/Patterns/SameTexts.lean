import TypedQuery.Proofs.Patterns.Matching

/-!
# Patterns for the same texts

The shortest texts that tokens match have one character for every token but those for any text, and
these tokens match just the shortest ones. So tokens that match the same texts agree in all tokens
but those for any text.
-/

namespace TypedQuery.Text.Like

variable {ts us : List Token} {cs : List Char}

/-- The tokens that stand for one character each. -/
def steps (ts : List Token) : List Token := ts.filter (· ≠ .anyText)

@[simp] theorem steps_nil : steps [] = [] := rfl

@[simp] theorem steps_cons_anyText (ts : List Token) : steps (.anyText :: ts) = steps ts := rfl

theorem steps_cons {t : Token} (ht : t ≠ .anyText) (ts : List Token) :
    steps (t :: ts) = t :: steps ts := by
  simp [steps, ht]

theorem length_steps_le (h : accepts ts cs = true) : (steps ts).length ≤ cs.length := by
  induction ts generalizing cs with
  | nil => simp
  | cons t ts ih =>
      cases t with
      | anyText =>
          obtain ⟨rest, hrest, hts⟩ := accepts_anyText.mp h
          exact (ih hts).trans hrest.length_le
      | literal a | anyChar =>
          cases cs with
          | nil => simp [accepts] at h
          | cons c cs =>
              have hts : accepts ts cs = true := by simp_all [accepts]
              simpa [steps_cons] using ih hts

/-- Without the tokens for any text, just the shortest texts are left. -/
theorem accepts_steps :
    accepts (steps ts) cs = true ↔
      accepts ts cs = true ∧ cs.length ≤ (steps ts).length := by
  induction ts generalizing cs with
  | nil => simp [accepts]
  | cons t ts ih =>
      cases t with
      | anyText =>
          rw [steps_cons_anyText, ih, accepts_anyText]
          constructor
          · rintro ⟨hts, hlength⟩
            exact ⟨⟨cs, List.suffix_rfl, hts⟩, hlength⟩
          · rintro ⟨⟨rest, hrest, hts⟩, hlength⟩
            obtain rfl := hrest.eq_of_length_le (hlength.trans (length_steps_le hts))
            exact ⟨hts, hlength⟩
      | literal a | anyChar =>
          cases cs with
          | nil => simp [steps_cons, accepts]
          | cons c cs => simp [steps_cons, accepts, ih, and_assoc]

/-- A text of the shortest length that tokens match. -/
def sample : List Token → List Char
  | [] => []
  | .literal c :: ts => c :: sample ts
  | .anyChar :: ts => 'a' :: sample ts
  | .anyText :: ts => sample ts

theorem accepts_sample (ts : List Token) : accepts ts (sample ts) = true := by
  induction ts with
  | nil => rfl
  | cons t ts ih =>
      cases t with
      | anyText => exact accepts_anyText.mpr ⟨_, List.suffix_rfl, ih⟩
      | literal | anyChar => simpa [sample, accepts] using ih

theorem length_sample (ts : List Token) : (sample ts).length = (steps ts).length := by
  induction ts with
  | nil => rfl
  | cons t ts ih => cases t <;> simp [sample, steps_cons, ih]

/-- Whether a character is one that a token stands for. -/
def Token.holds : Token → Char → Bool
  | literal a, c => a == c
  | _, _ => true

theorem Token.eq_of_holds {t u : Token} (ht : t ≠ .anyText) (hu : u ≠ .anyText)
    (h : ∀ c, t.holds c = u.holds c) : t = u := by
  -- a literal and any character differ at some other character
  have hliteral : ∀ a, ∃ c, (literal a).holds c = false := by
    intro a
    by_cases ha : a = 'a'
    · exact ⟨'b', by simp [holds, ha]⟩
    · exact ⟨'a', by simp [holds, ha]⟩
  cases t with
  | anyText => exact absurd rfl ht
  | literal a =>
      cases u with
      | anyText => exact absurd rfl hu
      | literal b => simpa [holds] using (h b).symm
      | anyChar =>
          obtain ⟨c, hc⟩ := hliteral a
          rw [h c] at hc
          cases hc
  | anyChar =>
      cases u with
      | anyText => exact absurd rfl hu
      | anyChar => rfl
      | literal b =>
          obtain ⟨c, hc⟩ := hliteral b
          rw [← h c] at hc
          cases hc

theorem accepts_cons {t : Token} (ht : t ≠ .anyText) (ts : List Token) (c : Char)
    (cs : List Char) : accepts (t :: ts) (c :: cs) = (t.holds c && accepts ts cs) := by
  cases t <;> simp_all [accepts, Token.holds]

theorem accepts_cons_nil {t : Token} (ht : t ≠ .anyText) (ts : List Token) :
    accepts (t :: ts) [] = false := by
  cases t <;> simp_all [accepts]

theorem exists_holds (t : Token) : ∃ c, t.holds c = true := by
  cases t with
  | literal a => exact ⟨a, by simp [Token.holds]⟩
  | anyChar | anyText => exact ⟨'a', rfl⟩

/-- Tokens for one character each are known by the texts they match. -/
theorem eq_of_accepts (hts : ∀ t ∈ ts, t ≠ .anyText) (hus : ∀ u ∈ us, u ≠ .anyText)
    (h : ∀ cs, accepts ts cs = accepts us cs) : ts = us := by
  induction ts generalizing us with
  | nil =>
      cases us with
      | nil => rfl
      | cons u us =>
          have hnil := h []
          rw [accepts_cons_nil (hus u List.mem_cons_self)] at hnil
          cases hnil
  | cons t ts ih =>
      obtain ⟨ht, hts⟩ := List.forall_mem_cons.mp hts
      cases us with
      | nil =>
          have hnil := h []
          rw [accepts_cons_nil ht] at hnil
          cases hnil
      | cons u us =>
          obtain ⟨hu, hus⟩ := List.forall_mem_cons.mp hus
          have hcons : ∀ c cs, (t.holds c && accepts ts cs) = (u.holds c && accepts us cs) := by
            intro c cs
            rw [← accepts_cons ht, ← accepts_cons hu]
            exact h (c :: cs)
          -- a text that both tails match makes the heads comparable, and the other way round
          obtain ⟨c, htc⟩ := exists_holds t
          have hboth := hcons c (sample ts)
          rw [htc, accepts_sample, Bool.true_and, eq_comm, Bool.and_eq_true] at hboth
          have hheads : ∀ d, t.holds d = u.holds d := by
            intro d
            simpa [accepts_sample, hboth.2] using hcons d (sample ts)
          have htails : ∀ cs, accepts ts cs = accepts us cs := by
            intro cs
            simpa [htc, hboth.1] using hcons c cs
          rw [Token.eq_of_holds ht hu hheads, ih hts hus htails]

theorem ne_anyText_of_mem_steps {t : Token} (h : t ∈ steps ts) : t ≠ .anyText := by
  simpa using (List.mem_filter.mp h).2

/-- Tokens that match the same texts have the same tokens for one character each. -/
theorem steps_eq_of_accepts (h : ∀ cs, accepts ts cs = true ↔ accepts us cs = true) :
    steps ts = steps us := by
  have hlength : (steps ts).length = (steps us).length := by
    apply le_antisymm
    · rw [← length_sample us]
      exact length_steps_le ((h _).mpr (accepts_sample us))
    · rw [← length_sample ts]
      exact length_steps_le ((h _).mp (accepts_sample ts))
  refine eq_of_accepts (fun t ht ↦ ne_anyText_of_mem_steps ht)
    (fun u hu ↦ ne_anyText_of_mem_steps hu) fun cs ↦ ?_
  rw [Bool.eq_iff_iff, accepts_steps, accepts_steps, h cs, hlength]

end TypedQuery.Text.Like
