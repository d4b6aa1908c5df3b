import TypedQuery.Proofs.Reading.Grouping

/-!
# Unary dashes that start a comment

Where the unary operator is a dash, two of them behind each other start a comment. It begins where
an operand is expected, so that the text in front of it has no reading.
-/

namespace TypedQuery

namespace Reading

variable {ω : Type}

/-- The text is cut off where an operand is expected, whatever follows it. -/
def EndsEarly (G : Grammar ω) (L : Lexicon) (text : String) : Prop :=
  ∃ ts, (∀ rest, L.tokens false [] (text.toList ++ rest) = some ts) ∧
    ∀ frames, ∃ behind, Machine.run G (frames, none) ts = some (behind, none)

namespace EndsEarly

variable {G : Grammar ω} {L : Lexicon} {text : String}

theorem parensIf (h : EndsEarly G L text) (b : Bool) : EndsEarly G L (parensIf b text) := by
  cases b with
  | false => exact h
  | true =>
      obtain ⟨ts, htokens, hrun⟩ := h
      refine ⟨.opening :: ts, fun rest ↦ ?_, fun frames ↦ ?_⟩
      · have hchars : (Reading.parensIf true text).toList ++ rest =
            '(' :: (text.toList ++ ')' :: rest) := by
          simp [Reading.parensIf]
        rw [hchars, Lexicon.tokens_opening, htokens]
        rfl
      · obtain ⟨behind, hbehind⟩ := hrun (.opening :: frames)
        exact ⟨behind, hbehind⟩

theorem not_reads (h : EndsEarly G L text) (t : OpTree ω String) : ¬ Reads G L text t := by
  rintro ⟨us, hus, hderives⟩
  obtain ⟨ts, htokens, hrun⟩ := h
  have hts : L.tokens false [] text.toList = some ts := by simpa using htokens []
  obtain rfl := Option.some.inj (hts.symm.trans hus)
  obtain ⟨behind, hbehind⟩ := hrun []
  have hresult := Machine.result?_of_derives hderives
  rw [hbehind] at hresult
  cases hresult

end EndsEarly

section Writings

variable {W : Writing ω} {L : Lexicon}

theorem endsEarly_left {l r : OpTree ω String} {op : ω}
    (h : EndsEarly W.toGrammar L (W.written l)) :
    EndsEarly W.toGrammar L (W.written (.binary op l r)) := by
  obtain ⟨ts, htokens, hrun⟩ := h.parensIf (W.wraps op l)
  refine ⟨ts, fun rest ↦ ?_, hrun⟩
  rw [Writing.written, String.append_assoc, String.toList_append, List.append_assoc]
  exact htokens _

theorem endsEarly_right (hW : W.IsLegible L) {l r : OpTree ω String} {op : ω}
    (hl : L.Lexes (W.written l) (W.words l)) (hatoms : ∀ s ∈ l.atoms, W.IsAtom s)
    (h : EndsEarly W.toGrammar L (W.written r)) :
    EndsEarly W.toGrammar L (W.written (.binary op l r)) := by
  obtain ⟨ts, htokens, hrun⟩ := h.parensIf (W.wraps op r)
  have hderives := derives_operand (derives_words hatoms).1 op
  refine ⟨parenTokensIf (W.wraps op l) (W.words l) ++ .word (W.word op) :: ts, fun rest ↦ ?_,
    fun frames ↦ ?_⟩
  · rw [Writing.written, String.toList_append, String.toList_append, List.append_assoc,
      List.append_assoc, hl.parensIf _ _ (Lexicon.delimited_between _ _), hW.binary, htokens]
    rfl
  · obtain ⟨behind, u, hleft⟩ := Machine.exists_run_of_derives hderives frames
    obtain ⟨after, hstep⟩ := Machine.exists_step_operator (G := W.toGrammar) behind u op
    obtain ⟨last, hright⟩ := hrun after
    exact ⟨last, by rw [Machine.run_append, hleft, Option.bind_some, Machine.run_cons, hstep,
      Option.bind_some, hright]⟩

theorem endsEarly_of_doublesUnary (hW : W.IsLegible L) (hdash : '-' ∈ L.symbols)
    (htext : W.unaryText = "-") {t : OpTree ω String} (hdouble : t.doublesUnary = true)
    (hwords : ∀ s ∈ t.atoms, L.isWord s = true) (hatoms : ∀ s ∈ t.atoms, W.IsAtom s) :
    EndsEarly W.toGrammar L (W.written t) := by
  induction t with
  | atom s => cases hdouble
  | unary t ih =>
      by_cases hunary : t.isUnary = true
      · -- The two dashes stand at the front: no word is left.
        cases t with
        | unary t =>
            refine ⟨[], fun rest ↦ ?_, fun frames ↦ ⟨frames, rfl⟩⟩
            simp [Writing.written, htext, OpTree.isBinary, parensIf, Lexicon.tokens, hdash,
              Lexicon.emit]
        | _ => cases hunary
      · have hinner : t.doublesUnary = true := by simpa [OpTree.doublesUnary, hunary] using hdouble
        obtain ⟨ts, htokens, hrun⟩ := (ih hinner hwords hatoms).parensIf t.isBinary
        refine ⟨.word W.unaryWord :: ts, fun rest ↦ ?_, fun frames ↦ ?_⟩
        · have hhead := fun hdash ↦
            Writing.head?_written (W := W) (t := t) (by simpa using hunary) hwords hdash rest
          rw [Writing.written, String.toList_append, List.append_assoc, hW.unary _ hhead, htokens]
          rfl
        · obtain ⟨behind, hbehind⟩ := hrun (.unary :: frames)
          exact ⟨behind, by simpa [Machine.step] using hbehind⟩
  | binary op l r ihl ihr =>
      simp only [OpTree.atoms, List.mem_append] at hwords hatoms
      have hwordsl := fun s hs ↦ hwords s (.inl hs)
      have hatomsl := fun s hs ↦ hatoms s (.inl hs)
      by_cases hleft : l.doublesUnary = true
      · exact endsEarly_left (ihl hleft hwordsl hatomsl)
      · -- The left operand is read as a whole, and the machine waits behind the operator.
        have hright : r.doublesUnary = true := by simpa [OpTree.doublesUnary, hleft] using hdouble
        have hlexes := Writing.lexes_written hW (fun _ ↦ by simpa using hleft) hwordsl
        exact endsEarly_right hW hlexes hatomsl
          (ihr hright (fun s hs ↦ hwords s (.inr hs)) fun s hs ↦ hatoms s (.inr hs))

end Writings

end Reading

end TypedQuery
