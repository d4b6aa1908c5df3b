import Mathlib.Algebra.Group.Nat.Defs
import TypedQuery.Proofs.Pagination.Distinction
import TypedQuery.Proofs.Pagination.Forms

/-!
# Limits in clauses

Two limits that differ are written as clauses that no layout confuses. The weights of the clauses
tell which limits there are. Equal clauses with other numbers differ in what they bind, or part
where the numbers are written out.
-/

namespace TypedQuery

open List (Forall₂)
open Layout (Distinguishes)

namespace Rendering

variable {style : PlaceholderStyle} {r t : Rendering}

/-- Renderings that a relation keeps apart in every scope. -/
def KeptApart (style : PlaceholderStyle) (r t : Rendering) : Prop :=
  ∃ S, Distinguishes style S ∧ ∀ scope a b, r scope = .ok a → t scope = .ok b → S a b

namespace KeptApart

theorem of_chunks {a b : List Chunk} {S : List Chunk → List Chunk → Prop}
    (hS : Distinguishes style S) (hab : S a b) (hr : ∀ scope, r scope = .ok a)
    (ht : ∀ scope, t scope = .ok b) : KeptApart style r t := by
  refine ⟨S, hS, fun scope a' b' ha hb ↦ ?_⟩
  obtain rfl := Except.ok.inj ((hr scope).symm.trans ha)
  obtain rfl := Except.ok.inj ((ht scope).symm.trans hb)
  exact hab

theorem append_left (h : KeptApart style r t) (c : Rendering) :
    KeptApart style (c ++ r) (c ++ t) := by
  obtain ⟨S, hS, hrt⟩ := h
  refine ⟨S, hS, fun scope a b ha hb ↦ ?_⟩
  obtain ⟨before, behind, hbefore, hbehind, rfl⟩ := exists_of_append ha
  obtain ⟨before', behind', hbefore', hbehind', rfl⟩ := exists_of_append hb
  obtain rfl := Except.ok.inj (hbefore.symm.trans hbefore')
  exact hS.append_left before (hrt scope behind behind' hbehind hbehind')

theorem append_right (h : KeptApart style r t) (c : Rendering) :
    KeptApart style (r ++ c) (t ++ c) := by
  obtain ⟨S, hS, hrt⟩ := h
  refine ⟨S, hS, fun scope a b ha hb ↦ ?_⟩
  obtain ⟨before, behind, hbefore, hbehind, rfl⟩ := exists_of_append ha
  obtain ⟨before', behind', hbefore', hbehind', rfl⟩ := exists_of_append hb
  obtain rfl := Except.ok.inj (hbehind.symm.trans hbehind')
  exact hS.append_right (hrt scope before before' hbefore hbefore') behind

theorem within (h : KeptApart style r t) (change : Scope → Scope) :
    KeptApart style (r.within change) (t.within change) := by
  obtain ⟨S, hS, hrt⟩ := h
  exact ⟨S, hS, fun scope ↦ hrt (change scope)⟩

theorem between (h : KeptApart style r t) (before behind : String) :
    KeptApart style (r.between before behind) (t.between before behind) :=
  (h.append_left (text before)).append_right (text behind)

theorem not_same (h : KeptApart style r t) {scope : Scope} {a b : List Chunk}
    (ha : r scope = .ok a) (hb : t scope = .ok b) : ¬ Layout.Same style a b := by
  obtain ⟨S, hS, hrt⟩ := h
  exact hS.not_same (hrt scope a b ha hb)

theorem of_weight_ne {a b : List Chunk}
    (h : Layout.weight style.mark a ≠ Layout.weight style.mark b) (hr : ∀ scope, r scope = .ok a)
    (ht : ∀ scope, t scope = .ok b) : KeptApart style r t := by
  rcases Nat.lt_or_gt_of_ne h with hlt | hgt
  · exact of_chunks (Layout.distinguishes_lighter style) hlt hr ht
  · exact of_chunks (Layout.distinguishes_heavier style) hgt hr ht

end KeptApart

end Rendering

open Rendering (KeptApart)

/-! ## Numbers -/

namespace Modifiers

/-- Whether all numbers are at most the largest one of eight bytes with a sign. -/
def fits (m : Modifiers) : Bool :=
  m.limit.all (·.toNat < 2 ^ 63) && m.offset.all (·.toNat < 2 ^ 63)

/-- Modifiers that differ in nothing but their numbers. -/
inductive SameKind : Modifiers → Modifiers → Prop
  | none : SameKind {} {}
  | limit (n k : UInt64) : SameKind { limit := some n } { limit := some k }
  | offset (n k : UInt64) : SameKind { offset := some n } { offset := some k }
  | both (n k n' k' : UInt64) : SameKind ⟨some n, some k⟩ ⟨some n', some k'⟩

theorem sameKind_of_isSome_eq {m m' : Modifiers} (hlimit : m.limit.isSome = m'.limit.isSome)
    (hoffset : m.offset.isSome = m'.offset.isSome) : SameKind m m' := by
  obtain ⟨limit, offset⟩ := m
  obtain ⟨limit', offset'⟩ := m'
  cases limit <;> cases limit' <;> simp only [Option.isSome, reduceCtorEq] at hlimit <;>
    cases offset <;> cases offset' <;> simp only [Option.isSome, reduceCtorEq] at hoffset
  · exact .none
  · exact .offset _ _
  · exact .limit _ _
  · exact .both _ _ _ _

end Modifiers

/-- Where weights tell which numbers there are, modifiers need to be told apart only when they
differ in nothing but their numbers. -/
theorem Rendering.KeptApart.of_sameKind {style : PlaceholderStyle} {r t : Rendering}
    {m m' : Modifiers} {a b : List Chunk} {w : Bool → Bool → Nat}
    (hw : ∀ l o l' o', w l o = w l' o' → l = l' ∧ o = o')
    (ha : Layout.weight style.mark a = w m.limit.isSome m.offset.isSome)
    (hb : Layout.weight style.mark b = w m'.limit.isSome m'.offset.isSome)
    (hr : ∀ scope, r scope = .ok a) (ht : ∀ scope, t scope = .ok b)
    (hsame : m.SameKind m' → KeptApart style r t) : KeptApart style r t := by
  by_cases hweight : Layout.weight style.mark a = Layout.weight style.mark b
  · rw [ha, hb] at hweight
    obtain ⟨hlimit, hoffset⟩ := hw _ _ _ _ hweight
    exact hsame (Modifiers.sameKind_of_isSome_eq hlimit hoffset)
  · exact .of_weight_ne hweight hr ht

/-- A count as it is bound. -/
def counted (n : UInt64) : Int64 := .ofNat (min n.toNat (UInt64.size / 2 - 1))

theorem toInt_counted {n : UInt64} (h : n.toNat < 2 ^ 63) : (counted n).toInt = n.toNat := by
  have hmin : min n.toNat (UInt64.size / 2 - 1) = n.toNat := Nat.min_eq_left (by
    simp only [UInt64.size]
    omega)
  rw [counted, hmin, Int64.toInt_ofNat_of_lt h]

theorem counted_injective {n k : UInt64} (hn : n.toNat < 2 ^ 63) (hk : k.toNat < 2 ^ 63)
    (h : counted n = counted k) : n = k := by
  have hint := congrArg Int64.toInt h
  rw [toInt_counted hn, toInt_counted hk] at hint
  exact UInt64.toNat_inj.mp (Int.ofNat.inj hint)

theorem toList_text_counted {n : UInt64} (h : n.toNat < 2 ^ 63) :
    (Value.i64 (counted n)).text.toList = (toString n.toNat).toList := by
  have hofInt : Number.ofInt n.toNat = Nat.toDigits 10 n.toNat := by
    rw [Number.ofInt, if_neg (by omega)]
    rfl
  rw [Value.text, toInt_counted h, hofInt, String.toList_ofList]
  exact Nat.toList_repr.symm

/-- Digits with a character behind them that is none part where the numbers differ. -/
theorem Layout.part_digits {m n : Nat} (h : m ≠ n) {c : Char} (hc : c.isDigit = false)
    (xs ys : List Char) :
    Part ((toString m).toList ++ c :: xs) ((toString n).toList ++ c :: ys) := by
  have hnot : ∀ {m n : Nat} {xs ys : List Char},
      (toString m).toList ++ c :: xs <+: (toString n).toList ++ c :: ys → m = n := by
    rintro m n xs ys ⟨rest, hrest⟩
    have hdigits := congrArg (List.takeWhile Char.isDigit) hrest
    rw [List.append_assoc, List.takeWhile_append_of_pos (fun _ ↦ isDigit_of_mem_repr),
      List.takeWhile_append_of_pos (fun _ ↦ isDigit_of_mem_repr)] at hdigits
    refine repr_injective ?_
    simpa [hc] using hdigits
  exact ⟨fun hprefix ↦ h (hnot hprefix), fun hprefix ↦ h (hnot hprefix).symm⟩

namespace Setup

variable {s : Setup} {m m' : Modifiers}

/-! ## Clauses with placeholders -/

theorem render_count (s : Setup) (n : UInt64) :
    (s.count n).render = .placeholder .i64 (.value (.i64 (counted n))) := by
  cases s.profile.listStyle <;> rfl

def boundCount (n : UInt64) : Chunk := .placeholder .i64 (.value (.i64 (counted n)))

def clauseChunks (m : Modifiers) : List Chunk :=
  match m.limit, m.offset with
  | some limit, none => [.text "\nlimit ", boundCount limit]
  | none, some offset => [.text "\noffset ", boundCount offset]
  | some limit, some offset =>
      [.text "\nlimit ", boundCount limit, .text "\noffset ", boundCount offset]
  | none, none => []

theorem limits_clauses (hs : s.profile.pagination = .limitOffset .clauses) (m : Modifiers)
    (scope : Scope) : s.limits m scope = .ok (clauseChunks m) := by
  have hone : ∀ (pattern text : String) (n : UInt64),
      s.apply ⟨pattern, [.text text, .arg 0]⟩ (-1) [s.count n] =
        .text text ++ ((s.count n).render ++ .empty) := fun _ _ _ ↦ rfl
  have htwo : ∀ (pattern before between : String) (n k : UInt64),
      s.apply ⟨pattern, [.text before, .arg 0, .text between, .arg 1]⟩ (-1) [s.count n, s.count k] =
        .text before ++ ((s.count n).render ++ (.text between ++ ((s.count k).render ++ .empty))) :=
    fun _ _ _ _ _ ↦ rfl
  obtain ⟨limit, offset⟩ := m
  cases limit <;> cases offset <;>
    simp only [limits, hs, clauseChunks, LimitForms.clauses, hone, htwo, render_count] <;> rfl

def clauseWeight (limit offset : Bool) : Nat := (if limit then 7 else 0) + if offset then 8 else 0

theorem weight_clauseChunks {mark : Char} (hmark : mark = '$' ∨ mark = '?') (m : Modifiers) :
    Layout.weight mark (clauseChunks m) = clauseWeight m.limit.isSome m.offset.isSome := by
  obtain ⟨limit, offset⟩ := m
  rcases hmark with rfl | rfl <;> cases limit <;> cases offset <;> rfl

theorem boundCount_inj {n k : UInt64} (hn : n.toNat < 2 ^ 63) (hk : k.toNat < 2 ^ 63) :
    boundCount n = boundCount k ↔ n = k := by
  refine ⟨fun h ↦ counted_injective hn hk ?_, fun h ↦ h ▸ rfl⟩
  simpa [boundCount] using h

theorem renumbered_boundCount (n k : UInt64) : Layout.Renumbered (boundCount n) (boundCount k) :=
  .inr ⟨counted n, counted k, rfl, rfl⟩

theorem renumbered_text (t : String) : Layout.Renumbered (.text t) (.text t) := .inl rfl

theorem near_clauseChunks (hkind : m.SameKind m') (hm : m.fits = true) (hm' : m'.fits = true)
    (hne : m ≠ m') : Layout.Near (clauseChunks m) (clauseChunks m') := by
  cases hkind with
  | none => exact absurd rfl hne
  | _ =>
      simp_all [Layout.Near, clauseChunks, Modifiers.fits, boundCount_inj, renumbered_text,
        renumbered_boundCount]

theorem keptApart_clauses {style : PlaceholderStyle} (hmark : style.mark = '$' ∨ style.mark = '?')
    (hs : s.profile.pagination = .limitOffset .clauses) (hm : m.fits = true) (hm' : m'.fits = true)
    (hne : m ≠ m') : KeptApart style (s.limits m) (s.limits m') := by
  have hlimits := limits_clauses hs
  refine .of_sameKind (by decide) (weight_clauseChunks hmark m) (weight_clauseChunks hmark m')
    (hlimits m) (hlimits m') fun hkind ↦ ?_
  have hdigit : style.mark.isDigit = false := by rcases hmark with h | h <;> rw [h] <;> rfl
  exact .of_chunks (Layout.distinguishes_near hdigit) (near_clauseChunks hkind hm hm' hne)
    (hlimits m) (hlimits m')

/-! ## Numbers written out -/

def countText (n : UInt64) : Chunk := .text (Value.i64 (counted n)).text

def fetchChunks (m : Modifiers) : List Chunk :=
  match m.limit, m.offset with
  | some limit, none => [.text "\nfetch first ", countText limit, .text " rows only"]
  | none, some offset => [.text "\noffset ", countText offset, .text " rows"]
  | some limit, some offset =>
      [.text "\noffset ", countText offset, .text " rows fetch next ", countText limit,
        .text " rows only"]
  | none, none => []

theorem limits_fetching (hs : s.profile.pagination = .fetchFirst .fetching) (m : Modifiers)
    (scope : Scope) : s.limits m scope = .ok (fetchChunks m) := by
  obtain ⟨limit, offset⟩ := m
  cases limit <;> cases offset <;> simp only [limits, hs, fetchChunks, LimitForms.fetching] <;> rfl

def fetchWeight : Bool → Bool → Nat
  | false, false => 0
  | true, false => 23
  | false, true => 13
  | true, true => 35

theorem weight_countText {n : UInt64} (h : n.toNat < 2 ^ 63) :
    (Value.i64 (counted n)).text.toList.countP (Layout.isSolid '?') = 0 := by
  rw [toList_text_counted h, List.countP_eq_zero]
  intro c hc
  simp [Layout.isSolid, Layout.isDigit_of_mem_repr hc]

theorem weight_fetchChunks (hm : m.fits = true) :
    Layout.weight '?' (fetchChunks m) = fetchWeight m.limit.isSome m.offset.isSome := by
  have hcount : ∀ {n : UInt64}, n.toNat < 2 ^ 63 → ∀ chunks,
      Layout.weight '?' (countText n :: chunks) = Layout.weight '?' chunks := by
    intro n hn chunks
    rw [countText, Layout.weight, weight_countText hn, Nat.zero_add]
  have htext : ∀ (t : String) (chunks : List Chunk), Layout.weight '?' (.text t :: chunks) =
      t.toList.countP (Layout.isSolid '?') + Layout.weight '?' chunks := fun _ _ ↦ rfl
  obtain ⟨limit, offset⟩ := m
  simp only [Modifiers.fits, Bool.and_eq_true] at hm
  cases limit with
  | none =>
      cases offset with
      | none => rfl
      | some offset =>
          have hoffset : offset.toNat < 2 ^ 63 := by simpa using hm.2
          simp only [fetchChunks, htext, hcount hoffset]
          rfl
  | some limit =>
      have hlimit : limit.toNat < 2 ^ 63 := by simpa using hm.1
      cases offset with
      | none =>
          simp only [fetchChunks, htext, hcount hlimit]
          rfl
      | some offset =>
          have hoffset : offset.toNat < 2 ^ 63 := by simpa using hm.2
          simp only [fetchChunks, htext, hcount hlimit, hcount hoffset]
          rfl

/-- Texts around different numbers part behind the digits that they share. -/
theorem part_countText {n k : UInt64} (hn : n.toNat < 2 ^ 63) (hk : k.toNat < 2 ^ 63) (hne : n ≠ k)
    (before behind : String) (chunks chunks' : List Chunk) :
    Layout.Part (Layout.chars (.text before :: countText n :: .text (" " ++ behind) :: chunks))
      (Layout.chars (.text before :: countText k :: .text (" " ++ behind) :: chunks')) := by
  have hnumber : n.toNat ≠ k.toNat := fun h ↦ hne (UInt64.toNat_inj.mp h)
  simp only [Layout.chars_text, countText, toList_text_counted hn, toList_text_counted hk,
    String.toList_append]
  exact (Layout.part_digits hnumber rfl _ _).append_left _

theorem part_fetchChunks (hkind : m.SameKind m') (hm : m.fits = true) (hm' : m'.fits = true)
    (hne : m ≠ m') :
    Layout.Part (Layout.chars (fetchChunks m)) (Layout.chars (fetchChunks m')) := by
  simp only [Modifiers.fits, Bool.and_eq_true] at hm hm'
  cases hkind with
  | none => exact absurd rfl hne
  | limit n k =>
      simp only [Option.all_some, decide_eq_true_eq] at hm hm'
      exact part_countText hm.1 hm'.1 (by simpa using hne) "\nfetch first " "rows only" [] []
  | offset n k =>
      simp only [Option.all_some, decide_eq_true_eq] at hm hm'
      exact part_countText hm.2 hm'.2 (by simpa using hne) "\noffset " "rows" [] []
  | both n k n' k' =>
      simp only [Option.all_some, decide_eq_true_eq] at hm hm'
      by_cases hoffset : k = k'
      · subst hoffset
        have hlimit : n ≠ n' := fun h ↦ hne (h ▸ rfl)
        have hpart := part_countText hm.1 hm'.1 hlimit " rows fetch next " "rows only" [] []
        have hfront := hpart.append_left (Layout.chars [.text "\noffset ", countText k])
        rwa [← Layout.chars_append, ← Layout.chars_append] at hfront
      · exact part_countText hm.2 hm'.2 hoffset "\noffset " "rows fetch next " _ _

theorem keptApart_fetching (hs : s.profile.pagination = .fetchFirst .fetching)
    (hm : m.fits = true) (hm' : m'.fits = true) (hne : m ≠ m') :
    KeptApart .anonymous (s.limits m) (s.limits m') := by
  have hlimits := limits_fetching hs
  refine .of_sameKind (by decide) (weight_fetchChunks hm) (weight_fetchChunks hm') (hlimits m)
    (hlimits m') fun hkind ↦ ?_
  exact .of_chunks Layout.distinguishes_part (part_fetchChunks hkind hm hm' hne) (hlimits m)
    (hlimits m')

/-! ## Selects -/

/-- Limit clauses keep the selects apart that they stand in. -/
theorem keptApart_select {style : PlaceholderStyle} (h : KeptApart style (s.limits m) (s.limits m'))
    (q : Query Operand) (projection : Option String) :
    KeptApart style (s.select { q with modifiers := m } false projection)
      (s.select { q with modifiers := m' } false projection) := by
  have hordering := (((h.append_right .empty).append_left (q.flagText .afterOrder)).append_left
    (listClause "\norder by " ", " (q.orderBy.map s.orderKey))).append_left
      (q.flagText .beforeOrder)
  have hbehind := ((hordering.append_left (s.clauses q false)).append_right
    (q.flagText .finish)).within fun _ ↦ ⟨false, false⟩
  unfold select
  split
  · obtain ⟨S, hS, _⟩ := h
    exact ⟨S, hS, nofun⟩
  · exact hbehind.append_left _

end Setup

end TypedQuery
