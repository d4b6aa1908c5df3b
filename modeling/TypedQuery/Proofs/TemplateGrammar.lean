import Mathlib.Data.List.Chain
import Mathlib.Data.List.TakeWhile
import TypedQuery.Error

/-!
# The grammar of templates

A pattern can be read just when it is a row of pieces: characters other than braces, doubled braces,
and slots. Neighbouring characters become one text, so that no text is empty or stands next to
another one. Every such list of elements is read back from its spelling.
-/

namespace TypedQuery

namespace Template

/-- Digits that name an argument. -/
structure IndexDigits where
  digits : List Char
  ne_nil : digits ≠ []
  isDigit : ∀ c ∈ digits, c.isDigit = true
  fits : Nat.ofDigitChars 10 digits 0 < Element.indexBound

def IndexDigits.index (n : IndexDigits) : Nat := Nat.ofDigitChars 10 n.digits 0

/-- The percent signs on one side of the digits of a slot. -/
inductive Percents
  | none
  | one
  | two

namespace Percents

def chars : Percents → List Char
  | none => []
  | one => ['%']
  | two => ['%', '%']

def isPresent : Percents → Bool
  | none => false
  | _ => true

def isDouble : Percents → Bool
  | two => true
  | _ => false

end Percents

/-- A letter behind the digits of a slot. -/
inductive SlotLetter
  | inlined
  | lower
  | upper

namespace SlotLetter

def char : SlotLetter → Char
  | inlined => 's'
  | lower => 'l'
  | upper => 'u'

def element (index : Nat) : SlotLetter → Element
  | inlined => .inlined index
  | lower => .cased index .lower
  | upper => .cased index .upper

end SlotLetter

/-- What a pattern is made of. -/
inductive Piece
  | char (c : Char) (hopen : c ≠ '{') (hclose : c ≠ '}')
  | opening
  | closing
  | all
  | percents (leading : Percents) (n : IndexDigits) (trailing : Percents)
  | letter (n : IndexDigits) (l : SlotLetter)

namespace Piece

def chars : Piece → List Char
  | char c _ _ => [c]
  | opening => ['{', '{']
  | closing => ['}', '}']
  | all => ['{', '*', '}']
  | percents leading n trailing =>
      '{' :: (leading.chars ++ n.digits ++ trailing.chars) ++ ['}']
  | letter n l => '{' :: (n.digits ++ [l.char]) ++ ['}']

/-- What a piece stands for: a character of a text, or a slot. -/
def content : Piece → Char ⊕ Element
  | char c _ _ => .inl c
  | opening => .inl '{'
  | closing => .inl '}'
  | all => .inr .all
  | percents leading n trailing =>
      .inr (if leading.isPresent || trailing.isPresent then
        .like n.index leading.isPresent trailing.isPresent (leading.isDouble || trailing.isDouble)
      else .arg n.index)
  | letter n l => .inr (l.element n.index)

end Piece

/-- Whether a pattern is a row of pieces. -/
def IsPattern (pattern : String) : Prop :=
  ∃ ps : List Piece, pattern.toList = ps.flatMap Piece.chars

end Template

namespace Element

open Template (Piece IndexDigits Percents SlotLetter)

/-! ## Elements from characters and slots -/

/-- The elements that characters and slots make up, behind a text that is kept in reverse. -/
def assemble (text : List Char) : List (Char ⊕ Element) → List Element
  | [] => prepend text.reverse []
  | .inl c :: rest => assemble (c :: text) rest
  | .inr e :: rest => prepend text.reverse (e :: assemble [] rest)

def isText : Element → Bool
  | text _ => true
  | _ => false

/-- A text with characters, or a slot whose number fits. A slot for LIKE has percent signs. -/
def IsProper : Element → Prop
  | text s => s ≠ ""
  | arg i | inlined i | cased i _ => i < indexBound
  | like i leading trailing _ => i < indexBound ∧ (leading = true ∨ trailing = true)
  | all => True

/-- Proper elements, no two texts next to each other. -/
structure IsNormal (es : List Element) : Prop where
  proper : ∀ e ∈ es, e.IsProper
  apart : es.IsChain fun a b ↦ ¬ (a.isText = true ∧ b.isText = true)

theorem isNormal_nil : IsNormal [] := ⟨by simp, .nil⟩

theorem IsNormal.cons_slot {e : Element} {es : List Element} (h : IsNormal es) (he : e.IsProper)
    (hslot : e.isText = false) : IsNormal (e :: es) where
  proper := List.forall_mem_cons.mpr ⟨he, h.proper⟩
  apart := h.apart.cons (by simp [hslot])

theorem isNormal_prepend {text : List Char} {es : List Element} (h : IsNormal es)
    (hhead : ∀ e ∈ es.head?, e.isText = false) : IsNormal (prepend text es) := by
  unfold prepend
  split
  · exact h
  · rename_i htext
    refine ⟨List.forall_mem_cons.mpr ⟨?_, h.proper⟩, h.apart.cons ?_⟩
    · simpa [IsProper, ← String.toList_inj] using htext
    · intro e he
      simp [hhead e he]

theorem isProper_of_content {p : Piece} {e : Element} (h : p.content = .inr e) :
    e.IsProper ∧ e.isText = false := by
  cases p with
  | char | opening | closing => cases h
  | all => cases h; exact ⟨trivial, rfl⟩
  | percents leading n trailing =>
      obtain rfl := Sum.inr.inj h
      split
      · rename_i hpresent
        exact ⟨⟨n.fits, by simpa using hpresent⟩, rfl⟩
      · exact ⟨n.fits, rfl⟩
  | letter n l =>
      obtain rfl := Sum.inr.inj h
      cases l <;> exact ⟨n.fits, rfl⟩

/-- What pieces make up is in normal form. -/
theorem isNormal_assemble (text : List Char) (ps : List Piece) :
    IsNormal (assemble text (ps.map Piece.content)) := by
  induction ps generalizing text with
  | nil => exact isNormal_prepend isNormal_nil (by simp)
  | cons p ps ih =>
      rw [List.map_cons]
      cases hcontent : p.content with
      | inl c => exact ih (c :: text)
      | inr e =>
          obtain ⟨hproper, hslot⟩ := isProper_of_content hcontent
          exact isNormal_prepend ((ih []).cons_slot hproper hslot) (by simpa using hslot)

/-! ## Reading slots -/

theorem readIndex?_digits (n : IndexDigits) : readIndex? n.digits = some n.index := by
  have hne : n.digits.isEmpty = false := by simpa using n.ne_nil
  have hfits : n.digits.foldl (fun m c ↦ 10 * m + (c.toNat - 48)) 0 < indexBound := n.fits
  unfold readIndex?
  rw [if_neg (by simpa [hne] using hfits)]
  rfl

theorem exists_of_readIndex? {digits : List Char} (hdigits : ∀ c ∈ digits, c.isDigit = true)
    {index : Nat} (h : readIndex? digits = some index) :
    ∃ n : IndexDigits, n.digits = digits ∧ n.index = index := by
  simp only [readIndex?, Bool.or_eq_true, List.isEmpty_iff, decide_eq_true_eq,
    Option.ite_none_left_eq_some, not_or, Nat.not_le] at h
  obtain ⟨⟨hne, hfits⟩, hindex⟩ := h
  exact ⟨⟨digits, hne, hdigits, hfits⟩, rfl, Option.some.inj hindex⟩

theorem leadingPercent_append (leading : Percents) {rest : List Char}
    (hrest : rest.head? ≠ some '%') :
    leadingPercent (leading.chars ++ rest) = (leading.isPresent, leading.isDouble, rest) := by
  cases leading <;> cases rest <;>
    simp_all [leadingPercent, Percents.chars, Percents.isPresent, Percents.isDouble]

/-- The percent signs in front of a slot are taken off. -/
theorem exists_leadingPercent (body : List Char) :
    ∃ leading : Percents, ∃ rest, body = leading.chars ++ rest ∧
      leadingPercent body = (leading.isPresent, leading.isDouble, rest) := by
  unfold leadingPercent
  split
  · exact ⟨.two, _, rfl, rfl⟩
  · exact ⟨.one, _, rfl, rfl⟩
  · exact ⟨.none, _, rfl, rfl⟩

/-- The marks behind the digits of a slot, and the element that they make of its number. -/
theorem exists_of_ofModifiers? {n : IndexDigits} {leading : Percents} {suffix : List Char}
    {e : Element}
    (h : ofModifiers? n.index leading.isPresent leading.isDouble suffix = some e) :
    ∃ p : Piece, p.chars = '{' :: (leading.chars ++ n.digits ++ suffix) ++ ['}'] ∧
      p.content = .inr e := by
  unfold ofModifiers? at h
  split at h
  · cases h
    refine ⟨.percents leading n .two, rfl, ?_⟩
    cases leading <;> rfl
  · cases h
    refine ⟨.percents leading n .one, rfl, ?_⟩
    cases leading <;> rfl
  · cases h
    refine ⟨.percents leading n .none, rfl, ?_⟩
    cases leading <;> rfl
  all_goals
    cases leading <;> cases h
  · exact ⟨.letter n .inlined, rfl, rfl⟩
  · exact ⟨.letter n .lower, rfl, rfl⟩
  · exact ⟨.letter n .upper, rfl, rfl⟩

/-- What can be read between the braces of a slot is a piece. -/
theorem exists_of_ofSlot? {body : List Char} {e : Element} (h : ofSlot? body = some e) :
    ∃ p : Piece, p.chars = '{' :: body ++ ['}'] ∧ p.content = .inr e := by
  unfold ofSlot? at h
  split at h
  · rename_i hall
    subst hall
    cases h
    exact ⟨.all, rfl, rfl⟩
  · obtain ⟨leading, rest, rfl, hleading⟩ := exists_leadingPercent body
    rw [hleading] at h
    dsimp only at h
    split at h
    · cases h
    · rename_i index hindex
      have hdigits : ∀ c ∈ rest.takeWhile Char.isDigit, c.isDigit = true := fun c hc ↦
        List.mem_takeWhile_imp hc
      obtain ⟨n, hn, rfl⟩ := exists_of_readIndex? hdigits hindex
      obtain ⟨p, hp, hcontent⟩ := exists_of_ofModifiers? h
      refine ⟨p, ?_, hcontent⟩
      rw [hp, hn, List.append_assoc, List.takeWhile_append_dropWhile]

theorem ofSlot?_append {leading : Percents} {n : IndexDigits} {suffix : List Char}
    (hsuffix : ∀ c ∈ suffix.head?, c.isDigit = false) :
    ofSlot? (leading.chars ++ n.digits ++ suffix) =
      ofModifiers? n.index leading.isPresent leading.isDouble suffix := by
  obtain ⟨d, ds, hds⟩ := List.exists_cons_of_ne_nil n.ne_nil
  have hd : d.isDigit = true := n.isDigit d (by simp [hds])
  have hne : ∀ c : Char, c.isDigit = false → d ≠ c := by
    rintro c hc rfl
    rw [hd] at hc
    cases hc
  have hstar : leading.chars ++ n.digits ++ suffix ≠ ['*'] := by
    have hd := hne '*' rfl
    cases leading <;> simp [Percents.chars, hds, hd]
  have htake : (n.digits ++ suffix).takeWhile Char.isDigit = n.digits := by
    rw [List.takeWhile_append_of_pos n.isDigit]
    cases suffix with
    | nil => simp
    | cons c suffix => simp [hsuffix c (by simp)]
  have hdrop : (n.digits ++ suffix).dropWhile Char.isDigit = suffix := by
    rw [List.dropWhile_append_of_pos n.isDigit]
    cases suffix with
    | nil => rfl
    | cons c suffix => simp [hsuffix c (by simp)]
  have hpercent : (n.digits ++ suffix).head? ≠ some '%' := by
    simpa [hds] using hne '%' rfl
  rw [List.append_assoc] at hstar
  rw [ofSlot?, List.append_assoc, if_neg hstar, leadingPercent_append leading hpercent]
  dsimp only
  rw [htake, hdrop, readIndex?_digits]

/-- The slot between the braces of a piece can be read. -/
theorem exists_ofSlot? {p : Piece} {e : Element} (h : p.content = .inr e) :
    ∃ body, p.chars = '{' :: body ++ ['}'] ∧ '}' ∉ body ∧ body.head? ≠ some '{' ∧
      ofSlot? body = some e := by
  have hbrace : ∀ n : IndexDigits, '}' ∉ n.digits ∧ n.digits.head? ≠ some '{' := by
    intro n
    have hnot : ∀ c : Char, c.isDigit = false → c ∉ n.digits := fun c hc hmem ↦ by
      simp [n.isDigit c hmem] at hc
    exact ⟨hnot '}' rfl, fun hhead ↦ hnot '{' rfl (List.mem_of_mem_head? hhead)⟩
  cases p with
  | char | opening | closing => cases h
  | all => cases h; exact ⟨['*'], rfl, by simp, by simp, rfl⟩
  | percents leading n trailing =>
      obtain ⟨hclose, hopen⟩ := hbrace n
      refine ⟨leading.chars ++ n.digits ++ trailing.chars, rfl, ?_, ?_, ?_⟩
      · cases leading <;> cases trailing <;> simp [Percents.chars, hclose]
      · obtain ⟨d, ds, hds⟩ := List.exists_cons_of_ne_nil n.ne_nil
        cases leading <;> simp_all [Percents.chars]
      · rw [← Sum.inr.inj h, ofSlot?_append (by cases trailing <;> simp [Percents.chars])]
        cases leading <;> cases trailing <;> rfl
  | letter n l =>
      obtain ⟨hclose, hopen⟩ := hbrace n
      refine ⟨n.digits ++ [l.char], rfl, ?_, ?_, ?_⟩
      · cases l <;> simp [SlotLetter.char, hclose]
      · obtain ⟨d, ds, hds⟩ := List.exists_cons_of_ne_nil n.ne_nil
        simp_all
      · have hslot := @ofSlot?_append .none n [l.char] (by cases l <;> simp [SlotLetter.char])
        rw [← Sum.inr.inj h]
        refine hslot.trans ?_
        cases l <;> rfl

/-! ## Reading patterns -/

theorem readText_cons {c : Char} (hopen : c ≠ '{') (hclose : c ≠ '}') (text rest : List Char) :
    readText text (c :: rest) = readText (c :: text) rest := by
  simp [readText, hopen, hclose]

/-- A slot goes up to the first closing brace. -/
theorem readSlot_append {tail : List Char} (htail : '}' ∉ tail) (text body rest : List Char) :
    readSlot text body (tail ++ '}' :: rest) =
      match ofSlot? (body.reverse ++ tail) with
      | none => .error .malformedSlot
      | some slot => (readText [] rest).map fun es ↦ prepend text.reverse (slot :: es) := by
  induction tail generalizing body with
  | nil =>
      rw [List.append_nil]
      cases h : ofSlot? body.reverse <;> simp [readSlot, h]
  | cons c tail ih =>
      simp only [List.mem_cons, not_or] at htail
      rw [List.cons_append, readSlot.eq_3 _ _ _ _ (Ne.symm htail.1), ih htail.2]
      simp

theorem readText_slot {body : List Char} (hclose : '}' ∉ body) (hopen : body.head? ≠ some '{')
    {e : Element} (hslot : ofSlot? body = some e) (text rest : List Char) :
    readText text ('{' :: body ++ ['}'] ++ rest) =
      (readText [] rest).map fun es ↦ prepend text.reverse (e :: es) := by
  have hread : readText text ('{' :: (body ++ '}' :: rest)) =
      readSlot text [] (body ++ '}' :: rest) := by
    refine readText.eq_5 _ _ fun tail htail ↦ hopen ?_
    cases body with
    | nil => simp at htail
    | cons c body => simp_all
  simp only [List.cons_append, List.append_assoc, List.nil_append]
  rw [hread, readSlot_append hclose]
  simp [hslot]

/-- A row of pieces is read as what it makes up. -/
theorem readText_pieces (text : List Char) (ps : List Piece) :
    readText text (ps.flatMap Piece.chars) = .ok (assemble text (ps.map Piece.content)) := by
  induction ps generalizing text with
  | nil => rw [List.flatMap_nil, readText]; rfl
  | cons p ps ih =>
      rw [List.flatMap_cons, List.map_cons]
      cases hcontent : p.content with
      | inl c =>
          rw [assemble, ← ih]
          cases p with
          | char d hopen hclose => cases hcontent; exact readText_cons hopen hclose _ _
          | opening => cases hcontent; exact readText.eq_2 _ _
          | closing => cases hcontent; exact readText.eq_3 _ _
          | _ => cases hcontent
      | inr e =>
          obtain ⟨body, hchars, hclose, hopen, hslot⟩ := exists_ofSlot? hcontent
          rw [hchars, readText_slot hclose hopen hslot, ih]
          rfl

/-- Whatever can be read is a row of pieces. -/
theorem exists_of_readText {text cs : List Char} {es : List Element}
    (h : readText text cs = .ok es) : ∃ ps : List Piece,
      cs = ps.flatMap Piece.chars ∧ es = assemble text (ps.map Piece.content) := by
  -- inside a slot, the body so far and what is left of it read as an element
  refine (readText.mutual_induct
    (fun text cs ↦ ∀ es, readText text cs = .ok es → ∃ ps : List Piece,
      cs = ps.flatMap Piece.chars ∧ es = assemble text (ps.map Piece.content))
    (fun text body cs ↦ ∀ es, readSlot text body cs = .ok es → ∃ tail e, ∃ ps : List Piece,
      cs = tail ++ '}' :: ps.flatMap Piece.chars ∧ ofSlot? (body.reverse ++ tail) = some e ∧
        es = prepend text.reverse (e :: assemble [] (ps.map Piece.content)))
    ?_ ?_ ?_ ?_ ?_ ?_ ?_ ?_ ?_ ?_).1 text cs es h
  case refine_1 =>
    intro text es h
    rw [readText] at h
    exact ⟨[], rfl, (Except.ok.inj h).symm⟩
  case refine_2 =>
    intro text rest ih es h
    obtain ⟨ps, rfl, rfl⟩ := ih es h
    exact ⟨.opening :: ps, rfl, rfl⟩
  case refine_3 =>
    intro text rest ih es h
    obtain ⟨ps, rfl, rfl⟩ := ih es h
    exact ⟨.closing :: ps, rfl, rfl⟩
  case refine_4 =>
    intro text tail hne es h
    rw [readText.eq_4 _ _ hne] at h
    cases h
  case refine_5 =>
    intro text rest hne ih es h
    rw [readText.eq_5 _ _ hne] at h
    obtain ⟨tail, e, ps, rfl, hslot, rfl⟩ := ih es h
    obtain ⟨p, hchars, hcontent⟩ := exists_of_ofSlot? hslot
    refine ⟨p :: ps, ?_, ?_⟩
    · simp [hchars]
    · rw [List.map_cons, hcontent, assemble]
  case refine_6 =>
    intro text c rest hopening hclosing hclose hopen ih es h
    rw [readText.eq_6 _ _ _ hopening hclosing hclose hopen] at h
    obtain ⟨ps, rfl, rfl⟩ := ih es h
    exact ⟨.char c hopen hclose :: ps, rfl, rfl⟩
  case refine_7 =>
    intro text body es h
    cases h
  case refine_8 =>
    intro text body rest hslot es h
    simp only [readSlot, hslot] at h
    cases h
  case refine_9 =>
    intro text body rest e hslot ih es h
    simp only [readSlot, hslot] at h
    cases hrest : readText [] rest with
    | error fault =>
        rw [hrest] at h
        cases h
    | ok behind =>
        rw [hrest] at h
        obtain ⟨ps, rfl, rfl⟩ := ih behind hrest
        exact ⟨[], e, ps, rfl, by simpa using hslot, (Except.ok.inj h).symm⟩
  case refine_10 =>
    intro text body c rest hne ih es h
    rw [readSlot.eq_3 _ _ _ _ hne] at h
    obtain ⟨tail, e, ps, rfl, hslot, rfl⟩ := ih es h
    exact ⟨c :: tail, e, ps, rfl, by simpa using hslot, rfl⟩

/-! ## Spelling elements -/

/-- The characters of a text, or a slot. -/
def contents : Element → List (Char ⊕ Element)
  | text s => s.toList.map .inl
  | e => [.inr e]

theorem contents_of_slot {e : Element} (h : e.isText = false) : e.contents = [.inr e] := by
  cases e with
  | text s => cases h
  | _ => rfl

theorem assemble_chars (text cs : List Char) (rest : List (Char ⊕ Element)) :
    assemble text (cs.map .inl ++ rest) = assemble (cs.reverse ++ text) rest := by
  induction cs generalizing text with
  | nil => rfl
  | cons c cs ih => simp [assemble, ih]

/-- In front of a slot or the end, a text comes out as one element. -/
theorem assemble_slot (text : List Char) {es : List Element}
    (hhead : ∀ e ∈ es.head?, e.isText = false) :
    assemble text (es.flatMap contents) =
      prepend text.reverse (assemble [] (es.flatMap contents)) := by
  cases es with
  | nil => rfl
  | cons e es =>
      have he : e.isText = false := hhead e rfl
      rw [List.flatMap_cons, contents_of_slot he]
      rfl

theorem assemble_contents {es : List Element} (h : IsNormal es) :
    assemble [] (es.flatMap contents) = es := by
  induction es with
  | nil => rfl
  | cons e es ih =>
      obtain ⟨hproper, hproper'⟩ := List.forall_mem_cons.mp h.proper
      obtain ⟨hhead, hapart⟩ := List.isChain_cons.mp h.apart
      have hrest := ih ⟨hproper', hapart⟩
      cases e with
      | text s =>
          have hslot : ∀ e ∈ es.head?, e.isText = false := fun e he ↦ by
            simpa [isText] using hhead e he
          have hs : s.toList ≠ [] := fun hnil ↦ hproper (by simpa using hnil)
          rw [List.flatMap_cons, contents, assemble_chars, assemble_slot _ hslot, hrest]
          simp [prepend, hs]
      | _ =>
          rw [List.flatMap_cons, contents_of_slot rfl, List.singleton_append, assemble, hrest]
          rfl

end Element

namespace Template

/-- The digits of a number that fits. -/
def IndexDigits.ofIndex (i : Nat) (h : i < Element.indexBound) : IndexDigits where
  digits := Nat.toDigits 10 i
  ne_nil := Nat.toDigits_ne_nil
  isDigit _ hc := Nat.isDigit_of_mem_toDigits (by decide) (by decide) hc
  fits := by rwa [Nat.ofDigitChars_toDigits (by decide) (by decide)]

theorem IndexDigits.index_ofIndex {i : Nat} (h : i < Element.indexBound) :
    (ofIndex i h).index = i :=
  Nat.ofDigitChars_toDigits (by decide) (by decide)

def Piece.ofChar (c : Char) : Piece :=
  if hopen : c = '{' then opening else if hclose : c = '}' then closing else char c hopen hclose

theorem Piece.chars_ofChar (c : Char) : (ofChar c).chars = Element.braceDoubled c := by
  unfold ofChar
  split_ifs with hopen hclose
  · rw [hopen]; rfl
  · rw [hclose]; rfl
  · simp [chars, Element.braceDoubled, hopen, hclose]

theorem Piece.content_ofChar (c : Char) : (ofChar c).content = .inl c := by
  unfold ofChar
  split_ifs with hopen hclose
  · rw [hopen]; rfl
  · rw [hclose]; rfl
  · rfl

def Percents.ofFlags (present lower : Bool) : Percents :=
  if present then (if lower then two else one) else none

/-- A slot that is proper is spelled as a piece. -/
theorem exists_piece {e : Element} (h : e.IsProper) (hslot : e.isText = false) :
    ∃ p : Piece, p.chars = e.chars ∧ p.content = .inr e := by
  cases e with
  | text s => cases hslot
  | all => exact ⟨.all, rfl, rfl⟩
  | arg i =>
      refine ⟨.percents .none (.ofIndex i h) .none, ?_, ?_⟩
      · simp [Piece.chars, Percents.chars, IndexDigits.ofIndex, Element.chars]
      · simp [Piece.content, Percents.isPresent, IndexDigits.index_ofIndex h]
  | inlined i =>
      refine ⟨.letter (.ofIndex i h) .inlined, ?_, ?_⟩
      · simp [Piece.chars, SlotLetter.char, IndexDigits.ofIndex, Element.chars]
      · simp [Piece.content, SlotLetter.element, IndexDigits.index_ofIndex h]
  | cased i letterCase =>
      refine ⟨.letter (.ofIndex i h) (match letterCase with | .lower => .lower | .upper => .upper),
        ?_, ?_⟩
      · cases letterCase <;> simp [Piece.chars, SlotLetter.char, IndexDigits.ofIndex, Element.chars]
      · cases letterCase <;> simp [Piece.content, SlotLetter.element, IndexDigits.index_ofIndex h]
  | like i leading trailing lower =>
      obtain ⟨hi, hpresent⟩ := h
      refine ⟨.percents (.ofFlags leading lower) (.ofIndex i hi) (.ofFlags trailing lower), ?_, ?_⟩
      · cases leading <;> cases trailing <;> cases lower <;>
          simp [Piece.chars, Percents.ofFlags, Percents.chars, IndexDigits.ofIndex, Element.chars,
            Element.percents]
      · cases leading <;> cases trailing <;> cases lower <;>
          simp_all [Piece.content, Percents.ofFlags, Percents.isPresent, Percents.isDouble,
            IndexDigits.index_ofIndex hi]

/-- Proper elements are spelled as a row of pieces. -/
theorem exists_pieces {es : List Element} (h : ∀ e ∈ es, e.IsProper) : ∃ ps : List Piece,
    ps.flatMap Piece.chars = es.flatMap Element.chars ∧
      ps.map Piece.content = es.flatMap Element.contents := by
  induction es with
  | nil => exact ⟨[], rfl, rfl⟩
  | cons e es ih =>
      obtain ⟨he, hes⟩ := List.forall_mem_cons.mp h
      obtain ⟨ps, hchars, hcontents⟩ := ih hes
      cases hslot : e.isText with
      | false =>
          obtain ⟨p, hp, hcontent⟩ := exists_piece he hslot
          refine ⟨p :: ps, ?_, ?_⟩
          · rw [List.flatMap_cons, List.flatMap_cons, hp, hchars]
          · rw [List.map_cons, List.flatMap_cons, Element.contents_of_slot hslot, hcontent,
              hcontents, List.singleton_append]
      | true =>
          cases e with
          | text s =>
              refine ⟨s.toList.map Piece.ofChar ++ ps, ?_, ?_⟩
              · simp [List.flatMap_map, Piece.chars_ofChar, Element.chars, hchars]
              · simp [Piece.content_ofChar, Element.contents, hcontents]
          | _ => cases hslot

/-! ## Patterns and templates -/

theorem parse_eq_ok_iff {pattern : String} {t : Template} :
    parse pattern = .ok t ↔
      ∃ es, Element.readText [] pattern.toList = .ok es ∧ t = ⟨pattern, es⟩ := by
  unfold parse read
  cases Element.readText [] pattern.toList with
  | error fault => simp [Except.map, Except.mapError]
  | ok es => simp [Except.map, Except.mapError, eq_comm]

/-- What the pieces of a pattern make up is what it is read as. -/
theorem parse_eq_ok_iff_pieces {pattern : String} {t : Template} :
    parse pattern = .ok t ↔ ∃ ps : List Piece, pattern.toList = ps.flatMap Piece.chars ∧
      t = ⟨pattern, Element.assemble [] (ps.map Piece.content)⟩ := by
  rw [parse_eq_ok_iff]
  constructor
  · rintro ⟨es, hread, rfl⟩
    obtain ⟨ps, hps, rfl⟩ := Element.exists_of_readText hread
    exact ⟨ps, hps, rfl⟩
  · rintro ⟨ps, hps, rfl⟩
    exact ⟨_, by rw [hps, Element.readText_pieces], rfl⟩

theorem parse_ofElements {es : List Element} (h : Element.IsNormal es) :
    parse (ofElements es).pattern = .ok (ofElements es) := by
  obtain ⟨ps, hchars, hcontents⟩ := exists_pieces h.proper
  rw [parse_eq_ok_iff_pieces]
  refine ⟨ps, ?_, ?_⟩
  · rw [ofElements, String.toList_ofList, hchars]
  · rw [hcontents, Element.assemble_contents h]
    rfl

/-- Elements in normal form are read back from their spelling. Whatever can be read has elements in
normal form, whose spelling is read as the same elements. And a pattern can be read just when it is
a row of pieces. -/
theorem parse_grammar :
    (∀ es, Element.IsNormal es → parse (ofElements es).pattern = .ok (ofElements es)) ∧
    (∀ pattern t, parse pattern = .ok t → t.pattern = pattern ∧ Element.IsNormal t.elements ∧
      parse (ofElements t.elements).pattern = .ok (ofElements t.elements)) ∧
    ∀ pattern, (∃ t, parse pattern = .ok t) ↔ IsPattern pattern := by
  refine ⟨fun es h ↦ parse_ofElements h, fun pattern t h ↦ ?_, fun pattern ↦ ⟨?_, ?_⟩⟩
  · obtain ⟨ps, _, rfl⟩ := parse_eq_ok_iff_pieces.mp h
    have hnormal := Element.isNormal_assemble [] ps
    exact ⟨rfl, hnormal, parse_ofElements hnormal⟩
  · rintro ⟨t, h⟩
    obtain ⟨ps, hps, _⟩ := parse_eq_ok_iff_pieces.mp h
    exact ⟨ps, hps⟩
  · rintro ⟨ps, hps⟩
    exact ⟨_, parse_eq_ok_iff_pieces.mpr ⟨ps, hps, rfl⟩⟩

/-- A slot between braces, and percent signs that are doubled on one side only. -/
theorem parse_braced :
    let es : List Element := [.text "\x7b", .arg 0, .text "\x7d ", .like 1 true true true, .all]
    let pattern := "\x7b\x7b\x7b00\x7d\x7d\x7d \x7b%1%%\x7d\x7b*\x7d"
    Element.IsNormal es ∧ parse (ofElements es).pattern = .ok (ofElements es) ∧
      parse pattern = .ok ⟨pattern, es⟩ ∧ pattern ≠ (ofElements es).pattern ∧
      IsPattern pattern := by
  intro es pattern
  have hnormal : Element.IsNormal es :=
    ⟨by simp [es, Element.IsProper, Element.indexBound, UInt64.size], by simp [es, Element.isText]⟩
  have hread : parse pattern = .ok ⟨pattern, es⟩ := by
    simp only [pattern, es]
    rfl
  refine ⟨hnormal, parse_grammar.1 es hnormal, hread, ?_, (parse_grammar.2.2 pattern).mp ⟨_, hread⟩⟩
  simp [pattern, es, ofElements, Element.chars, Element.braceDoubled, Element.percents,
    ← String.toList_inj]

end Template

end TypedQuery
