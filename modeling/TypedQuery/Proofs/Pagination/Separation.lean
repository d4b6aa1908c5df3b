import TypedQuery.Proofs.Pagination.NumberedRows

/-!
# Limits behind the word `select` and windows, kept apart

No two of the forms of a query agree, because the first `from` comes later the more text stands in
front of it. Two limits behind the word `select` differ in what they bind, and two windows in their
weights or in what they bind.
-/

namespace TypedQuery

open Layout (Part chars)
open Rendering (KeptApart)

namespace Layout

theorem take_eq_of_isPrefix {xs ys : List Char} (h : xs <+: ys) {n : Nat} (hn : n ≤ xs.length) :
    xs.take n = ys.take n := by
  obtain ⟨more, rfl⟩ := h
  exact (List.take_append_of_le_length hn).symm

/-- The first `from` of a text is later when other text without an f stands in front of it. -/
theorem part_of_countP {before before' : List Char} (rest rest' : List Char)
    (hlength : before.length + 6 ≤ before'.length)
    (hcount : before'.countP (· == 'f') ≤ before.countP (· == 'f')) :
    Part (before ++ ("\nfrom ".toList ++ rest)) (before' ++ rest') := by
  set n := before.length + 6 with hn
  have hleft : (before ++ ("\nfrom ".toList ++ rest)).take n = before ++ "\nfrom ".toList := by
    rw [← List.append_assoc]
    exact List.take_left' (by simp [hn])
  have hright : (before' ++ rest').take n = before'.take n :=
    List.take_append_of_le_length hlength
  have htake : (before'.take n).countP (· == 'f') ≤ before'.countP (· == 'f') :=
    (List.take_sublist n before').countP_le
  have hfrom : "\nfrom ".toList.countP (· == 'f') = 1 := by decide
  have hdiffer : (before ++ ("\nfrom ".toList ++ rest)).take n ≠ (before' ++ rest').take n := by
    rw [hleft, hright]
    intro heq
    rw [← heq, List.countP_append, hfrom] at htake
    omega
  have hlength' : n ≤ (before ++ ("\nfrom ".toList ++ rest)).length := by
    simp [hn]
  constructor
  · intro hprefix
    exact hdiffer (take_eq_of_isPrefix hprefix hlength')
  · intro hprefix
    refine hdiffer (take_eq_of_isPrefix hprefix ?_).symm
    rw [List.length_append]
    omega

end Layout

namespace Setup

variable {s : Setup} {q : Query Operand} {m m' : Modifiers} {projection : Option String}

/-! ## Forms -/

/-- Whether what stands in front of the first `from` is longer in another text, with no more f in
it. -/
def ComesEarlier (r t : Rendering) : Prop :=
  ∀ scope a b, r scope = .ok a → t scope = .ok b →
    (chars a).length + 6 ≤ (chars b).length ∧
      (chars b).countP (· == 'f') ≤ (chars a).countP (· == 'f')

theorem ComesEarlier.part {r t rest rest' : Rendering} (h : ComesEarlier r t) {scope : Scope}
    {a b : List Chunk} (ha : (r ++ (.text "\nfrom " ++ rest)) scope = .ok a)
    (hb : (t ++ rest') scope = .ok b) : Part (chars a) (chars b) := by
  obtain ⟨x, y, hx, hy, rfl⟩ := Rendering.exists_of_append ha
  obtain ⟨word, z, hword, _, rfl⟩ := Rendering.exists_of_append hy
  obtain ⟨x', y', hx', _, rfl⟩ := Rendering.exists_of_append hb
  obtain rfl := Except.ok.inj hword
  obtain ⟨hlength, hcount⟩ := h scope x x' hx hx'
  have hfrom : chars (x ++ ([.text "\nfrom "] ++ z)) =
      chars x ++ ("\nfrom ".toList ++ chars z) := by
    simp only [Layout.chars_append, Layout.chars_text, Layout.chars_nil, List.append_nil]
  rw [hfrom, Layout.chars_append]
  exact Layout.part_of_countP _ _ hlength hcount

theorem ComesEarlier.keptApart {r t rest rest' : Rendering} (h : ComesEarlier r t) :
    KeptApart .anonymous (r ++ (.text "\nfrom " ++ rest)) (t ++ rest') ∧
      KeptApart .anonymous (t ++ rest') (r ++ (.text "\nfrom " ++ rest)) :=
  ⟨⟨_, Layout.distinguishes_part, fun _ _ _ ha hb ↦ h.part ha hb⟩,
    ⟨_, Layout.distinguishes_part, fun _ _ _ hb ha ↦ (h.part ha hb).symm⟩⟩

def topChunks (n : UInt64) : List Chunk := [.text "top (", boundCount n, .text ") "]

theorem render_topWord (s : Setup) (n : UInt64) (scope : Scope) :
    (s.topWord n).render scope = .ok (topChunks n) := by
  have happly : (s.topWord n).render =
      .text "top (" ++ ((s.count n).render ++ (.text ") " ++ .empty)) := rfl
  rw [happly, render_count]
  rfl

theorem chars_topChunks (n : UInt64) : chars (topChunks n) = "top (?) ".toList := by
  simp [topChunks, boundCount]

variable {a b : Rendering}

/-- The word for a limit and the text in front of numbered rows have no f. -/
theorem comesEarlier_top (s : Setup) (n : UInt64) (change : Scope → Scope) :
    ComesEarlier (a ++ b) (a ++ ((s.topWord n).render.within change ++ b)) := by
  intro scope x y hx hy
  obtain ⟨before, behind, hbefore, hbehind, rfl⟩ := Rendering.exists_of_append hx
  obtain ⟨before', rest, hbefore', hrest, rfl⟩ := Rendering.exists_of_append hy
  obtain ⟨word, behind', hword, hbehind', rfl⟩ := Rendering.exists_of_append hrest
  obtain rfl := Except.ok.inj (hbefore.symm.trans hbefore')
  obtain rfl := Except.ok.inj (hbehind.symm.trans hbehind')
  obtain rfl := Except.ok.inj ((render_topWord s n (change scope)).symm.trans hword)
  have hcount : "top (?) ".toList.countP (· == 'f') = 0 := by decide
  have hlength : "top (?) ".toList.length = 8 := by decide
  simp only [Layout.chars_append, chars_topChunks, List.length_append, List.countP_append, hcount,
    hlength]
  omega

theorem comesEarlier_inner : ComesEarlier a (.text innerQuery ++ a) := by
  intro scope x y hx hy
  obtain ⟨inner, x', hinner, hx', rfl⟩ := Rendering.exists_of_append hy
  obtain rfl := Except.ok.inj (hx.symm.trans hx')
  obtain rfl := Except.ok.inj hinner
  have hcount : innerQuery.toList.countP (· == 'f') = 0 := by decide
  have hlength : innerQuery.toList.length = 25 := by decide
  simp only [List.singleton_append, Layout.chars_text, List.length_append, List.countP_append,
    hcount, hlength]
  omega

theorem comesEarlier_top_inner (s : Setup) (n : UInt64) (change : Scope → Scope) :
    ComesEarlier (a ++ ((s.topWord n).render.within change ++ b))
      (.text innerQuery ++ (a ++ b)) := by
  intro scope x y hx hy
  obtain ⟨before, rest, hbefore, hrest, rfl⟩ := Rendering.exists_of_append hx
  obtain ⟨word, behind, hword, hbehind, rfl⟩ := Rendering.exists_of_append hrest
  obtain ⟨inner, rest', hinner, hrest', rfl⟩ := Rendering.exists_of_append hy
  obtain ⟨before', behind', hbefore', hbehind', rfl⟩ := Rendering.exists_of_append hrest'
  obtain rfl := Except.ok.inj (hbefore.symm.trans hbefore')
  obtain rfl := Except.ok.inj (hbehind.symm.trans hbehind')
  obtain rfl := Except.ok.inj ((render_topWord s n (change scope)).symm.trans hword)
  obtain rfl := Except.ok.inj hinner
  have hcount : innerQuery.toList.countP (· == 'f') = 0 := by decide
  have hlength : innerQuery.toList.length = 25 := by decide
  have hcount' : "top (?) ".toList.countP (· == 'f') = 0 := by decide
  have hlength' : "top (?) ".toList.length = 8 := by decide
  simp only [List.singleton_append, Layout.chars_text, Layout.chars_append, chars_topChunks,
    List.length_append, List.countP_append, hcount, hlength, hcount', hlength']
  omega

theorem weight_windowChunks (offset : UInt64) (limit : Option UInt64) :
    Layout.weight '?' (windowChunks offset limit) = if limit.isSome then 32 else 13 := by
  cases limit <;> rfl

theorem keptApart_window {o o' : UInt64} {l l' : Option UInt64}
    (h : windowChunks o l ≠ windowChunks o' l') :
    KeptApart .anonymous (window o l) (window o' l') := by
  by_cases hkind : l.isSome = l'.isSome
  · have hnear : List.Forall₂ Layout.Renumbered (windowChunks o l) (windowChunks o' l') := by
      match l, l', hkind with
      | none, none, _ => simp [windowChunks, renumbered_text, renumbered_boundCount]
      | some _, some _, _ => simp [windowChunks, renumbered_text, renumbered_boundCount]
    exact .of_chunks (Layout.distinguishes_near rfl) ⟨hnear, h⟩ (fun _ ↦ rfl) fun _ ↦ rfl
  · refine .of_weight_ne ?_ (fun _ ↦ rfl) fun _ ↦ rfl
    rw [PlaceholderStyle.mark, weight_windowChunks, weight_windowChunks]
    cases l <;> cases l' <;> simp_all

end Setup

namespace Modifiers

/-- Whether modifiers are written as the same window although their limits differ: both windows end
where counts are cut off. -/
def SameWindow (m m' : Modifiers) : Prop :=
  ∃ offset limit limit' : UInt64, m = ⟨some limit, some offset⟩ ∧ m' = ⟨some limit', some offset⟩ ∧
    2 ^ 63 - 1 ≤ offset.toNat + limit.toNat ∧ 2 ^ 63 - 1 ≤ offset.toNat + limit'.toNat

end Modifiers

namespace Setup

variable {s : Setup} {q : Query Operand} {m m' : Modifiers} {projection : Option String}

theorem toInt_counted_cappedSum {o l : UInt64} (ho : o.toNat < 2 ^ 63) (hl : l.toNat < 2 ^ 63) :
    (counted (cappedSum o l)).toInt = min (o.toNat + l.toNat) (2 ^ 63 - 1) := by
  have hsum : (cappedSum o l).toNat = o.toNat + l.toNat := by
    have hmin : min (o.toNat + l.toNat) (UInt64.size - 1) = o.toNat + l.toNat := by
      simp only [UInt64.size]
      omega
    rw [cappedSum, hmin, UInt64.toNat_ofNat_of_lt']
    simp only [UInt64.size]
    omega
  have hbound : min (o.toNat + l.toNat) (UInt64.size / 2 - 1) < 2 ^ 63 := by
    simp only [UInt64.size]
    omega
  have hhalf : UInt64.size / 2 - 1 = 2 ^ 63 - 1 := rfl
  rw [counted, hsum, Int64.toInt_ofNat_of_lt hbound, hhalf]

theorem sameWindow_of_windowChunks_eq {o o' : UInt64} {l l' : Option UInt64}
    (hm : Modifiers.fits ⟨l, some o⟩ = true) (hm' : Modifiers.fits ⟨l', some o'⟩ = true)
    (hne : Modifiers.mk l (some o) ≠ ⟨l', some o'⟩) (h : windowChunks o l = windowChunks o' l') :
    Modifiers.SameWindow ⟨l, some o⟩ ⟨l', some o'⟩ := by
  simp only [Modifiers.fits, Bool.and_eq_true, Option.all_some, decide_eq_true_eq] at hm hm'
  cases l with
  | none =>
      cases l' with
      | none =>
          have hoffset : o = o' := by simpa [windowChunks, boundCount_inj hm.2 hm'.2] using h
          exact absurd (hoffset ▸ rfl) hne
      | some l' => simp [windowChunks] at h
  | some l =>
      cases l' with
      | none => simp [windowChunks] at h
      | some l' =>
          obtain ⟨hl, ho⟩ : l.toNat < 2 ^ 63 ∧ o.toNat < 2 ^ 63 := by simpa using hm
          obtain ⟨hl', ho'⟩ : l'.toNat < 2 ^ 63 ∧ o'.toNat < 2 ^ 63 := by simpa using hm'
          obtain ⟨hoffset, hend⟩ : counted o = counted o' ∧
              counted (cappedSum o l) = counted (cappedSum o' l') := by
            simpa [windowChunks, boundCount] using h
          obtain rfl := counted_injective ho ho' hoffset
          have hlimit : l.toNat ≠ l'.toNat := by
            intro hnat
            rw [UInt64.toNat_inj.mp hnat] at hne
            exact hne rfl
          have hint := congrArg Int64.toInt hend
          rw [toInt_counted_cappedSum ho hl, toInt_counted_cappedSum ho hl'] at hint
          refine ⟨o, l, l', rfl, rfl, ?_, ?_⟩ <;> omega

/-- Whether two modifiers write a query in the same way. -/
def WritesAlike (s : Setup) (q : Query Operand) (projection : Option String) (m m' : Modifiers) :
    Prop :=
  (s.AddsNothing q projection m ∧ s.AddsNothing q projection m') ∨ m.SameWindow m'

/-- Modifiers add nothing, or a limit alone is written, or there is a window. -/
theorem modifiers_cases (s : Setup) (q : Query Operand) (projection : Option String)
    (m : Modifiers) :
    s.AddsNothing q projection m ∨
      (∃ n, m = { limit := some n } ∧ projection = none ∧ q.hasFlag (s.topFlag n) = false) ∨
      ∃ limit offset, m = ⟨limit, some offset⟩ := by
  obtain ⟨limit, offset⟩ := m
  cases offset with
  | some offset => exact .inr (.inr ⟨limit, offset, rfl⟩)
  | none =>
      by_cases h : s.AddsNothing q projection ⟨limit, none⟩
      · exact .inl h
      · simp only [AddsNothing, true_and, not_forall, not_or] at h
        obtain ⟨n, rfl, hprojection, hflag⟩ := h
        exact .inr (.inl ⟨n, rfl, by simpa using hprojection, by simpa using hflag⟩)

/-- Two limits alone that are written differ in what they bind. -/
theorem keptApart_top {n k : UInt64} (hn : n.toNat < 2 ^ 63) (hk : k.toNat < 2 ^ 63) (hne : n ≠ k) :
    KeptApart .anonymous (s.topWord n).render (s.topWord k).render := by
  refine .of_chunks (Layout.distinguishes_near rfl) (a := topChunks n) (b := topChunks k) ⟨?_, ?_⟩
    (render_topWord s n) (render_topWord s k)
  · simp [topChunks, renumbered_text, renumbered_boundCount]
  · simpa [topChunks, boundCount_inj hn hk] using hne

theorem exists_query_window (hs : s.NumbersRows) (hjoins : q.joins ≠ []) (limit : Option UInt64)
    (offset : UInt64) (projection : Option String) :
    ∃ rest, s.query { q with modifiers := ⟨limit, some offset⟩ } false projection =
      .text innerQuery ++ (front q projection ++ s.back q projection) ++ rest := by
  obtain ⟨rest, hrest⟩ := exists_select_numbered hs q projection
  rw [query_of_offset hs hjoins, hrest]
  simp only [Rendering.append_assoc]
  exact ⟨_, rfl⟩

theorem keptApart_plain_window (hs : s.NumbersRows) (hjoins : q.joins ≠ [])
    (h : s.AddsNothing q projection m) {limit : Option UInt64} {offset : UInt64} :
    KeptApart .anonymous (s.query { q with modifiers := m } false projection)
        (s.query { q with modifiers := ⟨limit, some offset⟩ } false projection) ∧
      KeptApart .anonymous (s.query { q with modifiers := ⟨limit, some offset⟩ } false projection)
        (s.query { q with modifiers := m } false projection) := by
  obtain ⟨rest, hrest⟩ := query_of_addsNothing hs hjoins h
  obtain ⟨rest', hrest'⟩ := exists_query_window hs hjoins limit offset projection
  rw [hrest, hrest']
  exact comesEarlier_inner.keptApart

theorem keptApart_plain_top (hs : s.NumbersRows) (hjoins : q.joins ≠ [])
    (h : s.AddsNothing q none m) {n : UInt64} (hflag : q.hasFlag (s.topFlag n) = false) :
    KeptApart .anonymous (s.query { q with modifiers := m } false none)
        (s.query { q with modifiers := { limit := some n } } false none) ∧
      KeptApart .anonymous (s.query { q with modifiers := { limit := some n } } false none)
        (s.query { q with modifiers := m } false none) := by
  obtain ⟨rest, hrest⟩ := query_of_addsNothing hs hjoins h
  rw [hrest, query_of_top hs hjoins hflag]
  exact (comesEarlier_top s n _).keptApart

theorem keptApart_top_window (hs : s.NumbersRows) (hjoins : q.joins ≠ []) {n : UInt64}
    (hflag : q.hasFlag (s.topFlag n) = false) {limit : Option UInt64} {offset : UInt64} :
    KeptApart .anonymous (s.query { q with modifiers := { limit := some n } } false none)
        (s.query { q with modifiers := ⟨limit, some offset⟩ } false none) ∧
      KeptApart .anonymous (s.query { q with modifiers := ⟨limit, some offset⟩ } false none)
        (s.query { q with modifiers := { limit := some n } } false none) := by
  obtain ⟨rest, hrest⟩ := exists_behind_eq s (q := core q) hjoins
  obtain ⟨rest', hrest'⟩ := exists_query_window hs hjoins limit offset none
  rw [query_of_top hs hjoins hflag, hrest, hrest', Rendering.append_assoc (.text "\nfrom ")]
  exact (comesEarlier_top_inner s n _).keptApart

theorem keptApart_numbering (hs : s.NumbersRows) (hjoins : q.joins ≠ []) (hm : m.fits = true)
    (hm' : m'.fits = true) (hne : m ≠ m') (halike : ¬ s.WritesAlike q projection m m') :
    KeptApart .anonymous (s.query { q with modifiers := m } false projection)
      (s.query { q with modifiers := m' } false projection) := by
  -- each of the two adds nothing, or a word alone, or a window
  rcases s.modifiers_cases q projection m with h | ⟨n, rfl, rfl, h⟩ | ⟨limit, offset, rfl⟩
  · rcases s.modifiers_cases q projection m' with h' | ⟨k, rfl, rfl, h'⟩ | ⟨limit', offset', rfl⟩
    · exact absurd (.inl ⟨h, h'⟩) halike
    · exact (keptApart_plain_top hs hjoins h h').1
    · exact (keptApart_plain_window hs hjoins h).1
  · rcases s.modifiers_cases q none m' with h' | ⟨k, rfl, -, h'⟩ | ⟨limit', offset', rfl⟩
    · exact (keptApart_plain_top hs hjoins h' h).2
    · have hnumber : n ≠ k := fun heq ↦ hne (heq ▸ rfl)
      simp only [Modifiers.fits, Option.all_some, Option.all_none, Bool.and_true,
        decide_eq_true_eq] at hm hm'
      rw [query_of_top hs hjoins h, query_of_top hs hjoins h']
      have htop := ((keptApart_top (s := s) hm hm' hnumber).within fun _ ↦ ⟨true, false⟩)
      exact ((htop.append_right _).append_left _).append_right _
    · exact (keptApart_top_window hs hjoins h).1
  · rcases s.modifiers_cases q projection m' with h' | ⟨k, rfl, rfl, h'⟩ | ⟨limit', offset', rfl⟩
    · exact (keptApart_plain_window hs hjoins h').2
    · exact (keptApart_top_window hs hjoins h').2
    · have hchunks : windowChunks offset limit ≠ windowChunks offset' limit' :=
        fun heq ↦ halike (.inr (sameWindow_of_windowChunks_eq hm hm' hne heq))
      rw [query_of_offset hs hjoins, query_of_offset hs hjoins]
      have hwindow := (keptApart_window hchunks).append_right (q.flagText .finish)
      exact ((hwindow.append_left _).append_left _).append_left _

end Setup

end TypedQuery
