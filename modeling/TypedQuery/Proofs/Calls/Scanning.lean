import TypedQuery.Proofs.Calls.Filling
import TypedQuery.Template

/-!
# Tokens of a text

A text is read character by character. Blanks, parentheses, commas and operators end a word, unless
they stand between quotes. There are no comments: where one would start, two operators stand side by
side, and no derivation has these. A template is read around its slots, and a filled template has
the tokens of the template with those of the operands in its slots.
-/

namespace TypedQuery

namespace Calls

/-- The tokens of a character that ends a word and is read by itself. -/
def punctuation? : Char → Option (List Token)
  | ' ' | '\n' => some []
  | '(' => some [.opening]
  | ')' => some [.closing]
  | ',' => some [.word ","]
  | '+' => some [.word "+"]
  | '-' => some [.word "-"]
  | '*' => some [.word "*"]
  | '/' => some [.word "/"]
  | _ => none

def isSeparator (c : Char) : Bool := (punctuation? c).isSome || c == '|'

def isQuote (c : Char) : Bool := c == '\'' || c == '"' || c == '\x60'

/-- What stands in front of the characters that are read next: an unfinished word, outside or inside
of quotes, or the first one of two bars. -/
inductive Place
  | plain (w : List Char)
  | quoted (q : Char) (w : List Char)
  | bar

/-- The word that ends, if there is one. -/
def finished (w : List Char) : List Token := if w.isEmpty then [] else [.word (.ofList w)]

namespace Place

def feed : Place → Char → Option (List Token × Place)
  | plain w, c =>
      match punctuation? c with
      | some ts => some (finished w ++ ts, plain [])
      | none =>
          if c = '|' then some (finished w, bar)
          else if isQuote c then some ([], quoted c (w ++ [c]))
          else some ([], plain (w ++ [c]))
  | quoted q w, c => some ([], if c = q then plain (w ++ [c]) else quoted q (w ++ [c]))
  | bar, c => if c = '|' then some ([.word "||"], plain []) else none

/-- The tokens of characters and the place behind them. -/
def pass : Place → List Char → Option (List Token × Place)
  | p, [] => some ([], p)
  | p, c :: cs =>
      match p.feed c with
      | some (ts, p) => (p.pass cs).map fun r ↦ (ts ++ r.1, r.2)
      | none => none

theorem pass_append (p : Place) (cs ds : List Char) :
    p.pass (cs ++ ds) =
      (p.pass cs).bind fun r ↦ (r.2.pass ds).map fun r' ↦ (r.1 ++ r'.1, r'.2) := by
  induction cs generalizing p with
  | nil => simp [pass]
  | cons c cs ih =>
      rw [List.cons_append, pass, pass]
      cases p.feed c with
      | none => rfl
      | some r =>
          simp only [ih, Option.map_bind, Option.bind_map]
          congr 1
          funext r'
          simp [Function.comp_def]

theorem feed_separator {c : Char} (hc : isSeparator c = true) (w : List Char) :
    (plain w).feed c = ((plain []).feed c).map fun r ↦ (finished w ++ r.1, r.2) := by
  cases hpunctuation : punctuation? c with
  | some ts => simp [feed, hpunctuation, finished]
  | none =>
      obtain rfl : c = '|' := by simpa [isSeparator, hpunctuation] using hc
      simp [feed, hpunctuation, finished]

/-- A separator ends the word in front of it and is read like at the start of a text. -/
theorem pass_separator {c : Char} (hc : isSeparator c = true) (w cs : List Char) :
    (plain w).pass (c :: cs) =
      ((plain []).pass (c :: cs)).map fun r ↦ (finished w ++ r.1, r.2) := by
  rw [pass, pass, feed_separator hc]
  cases (plain []).feed c with
  | none => rfl
  | some r => cases hrest : r.2.pass cs <;> simp [hrest]

end Place

def tokens? (cs : List Char) : Option (List Token) :=
  match (Place.plain []).pass cs with
  | some (ts, .plain w) => some (ts ++ finished w)
  | _ => none

/-- Characters behind whose tokens no word is left unfinished. -/
def Closes (cs : List Char) (ts : List Token) : Prop :=
  (Place.plain []).pass cs = some (ts, .plain [])

/-- Characters that a word can stand in front of. -/
def isSeparated (cs : List Char) : Bool := cs.head?.all isSeparator

theorem tokens?_of_pass {cs w : List Char} {ts : List Token}
    (h : (Place.plain []).pass cs = some (ts, .plain w)) :
    tokens? cs = some (ts ++ finished w) := by
  rw [tokens?, h]

theorem exists_pass_of_tokens? {cs : List Char} {ts : List Token} (h : tokens? cs = some ts) :
    ∃ us w, (Place.plain []).pass cs = some (us, .plain w) ∧ ts = us ++ finished w := by
  unfold tokens? at h
  split at h
  · rename_i us w hpass
    exact ⟨us, w, hpass, (Option.some.inj h).symm⟩
  · cases h

theorem Closes.tokens?_append {a b : List Char} {ts us : List Token} (ha : Closes a ts)
    (hb : tokens? b = some us) : tokens? (a ++ b) = some (ts ++ us) := by
  obtain ⟨vs, w, hpass, rfl⟩ := exists_pass_of_tokens? hb
  have hboth : (Place.plain []).pass (a ++ b) = some (ts ++ vs, .plain w) := by
    rw [Place.pass_append, ha, Option.bind_some, hpass, Option.map_some]
  rw [tokens?_of_pass hboth, List.append_assoc]

theorem tokens?_append {a b : List Char} {ts us : List Token} (ha : tokens? a = some ts)
    (hb : tokens? b = some us) (hseparated : isSeparated b = true) :
    tokens? (a ++ b) = some (ts ++ us) := by
  obtain ⟨vs, w, hpass, rfl⟩ := exists_pass_of_tokens? ha
  cases b with
  | nil =>
      obtain rfl : us = [] := (Option.some.inj hb).symm
      rw [List.append_nil, List.append_nil, ha]
  | cons c cs =>
      obtain ⟨vs', w', hpass', rfl⟩ := exists_pass_of_tokens? hb
      have hc : isSeparator c = true := by simpa [isSeparated] using hseparated
      have hboth : (Place.plain []).pass (a ++ c :: cs) =
          some (vs ++ (finished w ++ vs'), .plain w') := by
        rw [Place.pass_append, hpass, Option.bind_some, Place.pass_separator hc, hpass',
          Option.map_some, Option.map_some]
      rw [tokens?_of_pass hboth]
      simp only [List.append_assoc]

/-- A text that is one word and no operator. -/
def IsName (text : String) : Prop :=
  tokens? text.toList = some [.word text] ∧ Infix.ofWord? text = none

instance (text : String) : Decidable (IsName text) := inferInstanceAs (Decidable (_ ∧ _))

/-! ## Templates -/

def elementText (w : Nat → String) : Element → String
  | .text s => s
  | .arg i => w i
  | _ => ""

/-- The text of a template with texts in its slots. -/
def filled (w : Nat → String) : List Element → String
  | [] => ""
  | e :: es => elementText w e ++ filled w es

/-- Whether literal text that a word can stand in front of comes first, or nothing at all. -/
def startsSeparated : List Element → Bool
  | [] => true
  | .text s :: _ => s.toList.head?.any isSeparator
  | _ => false

/-- The tokens of a template with plain slots between literal texts. -/
def templateTokens? : List Element → Option (List Token)
  | [] => some []
  | [.text s] => tokens? s.toList
  | .text s :: es =>
      match (Place.plain []).pass s.toList, templateTokens? es with
      | some (ts, .plain []), some us => some (ts ++ us)
      | _, _ => none
  | .arg i :: es =>
      if startsSeparated es then (templateTokens? es).map (.slot i :: ·) else none
  | _ => none

theorem isSeparated_filled {es : List Element} (h : startsSeparated es = true)
    (w : Nat → String) : isSeparated (filled w es).toList = true := by
  match es with
  | [] => rfl
  | .text s :: es =>
      cases hs : s.toList with
      | nil => simp [startsSeparated, hs] at h
      | cons c cs => simpa [startsSeparated, isSeparated, filled, elementText, hs] using h

section

variable {σ : Nat → List Token}

theorem fillTokens_finished (w : List Char) : fillTokens σ (finished w) = finished w := by
  unfold finished
  split <;> rfl

theorem fillTokens_punctuation {c : Char} {ts : List Token} (h : punctuation? c = some ts) :
    fillTokens σ ts = ts := by
  unfold punctuation? at h
  split at h <;> first | (obtain rfl := Option.some.inj h; rfl) | cases h

theorem fillTokens_feed {p q : Place} {c : Char} {ts : List Token} (h : p.feed c = some (ts, q)) :
    fillTokens σ ts = ts := by
  cases p with
  | plain w =>
      cases hpunctuation : punctuation? c with
      | some us =>
          simp only [Place.feed, hpunctuation, Option.some.injEq, Prod.mk.injEq] at h
          rw [← h.1, fillTokens_append, fillTokens_finished, fillTokens_punctuation hpunctuation]
      | none =>
          simp only [Place.feed, hpunctuation] at h
          split at h
          · cases h
            exact fillTokens_finished w
          · split at h <;> cases h <;> rfl
  | quoted q w =>
      simp only [Place.feed, Option.some.injEq, Prod.mk.injEq] at h
      rw [← h.1]
      rfl
  | bar =>
      simp only [Place.feed] at h
      split at h
      · cases h
        rfl
      · cases h

theorem fillTokens_pass {p q : Place} {cs : List Char} {ts : List Token}
    (h : p.pass cs = some (ts, q)) : fillTokens σ ts = ts := by
  induction cs generalizing p ts with
  | nil => cases h; rfl
  | cons c cs ih =>
      rw [Place.pass] at h
      cases hfeed : p.feed c with
      | none => simp [hfeed] at h
      | some r =>
          simp only [hfeed, Option.map_eq_some_iff, Prod.mk.injEq] at h
          obtain ⟨r', hrest, rfl, rfl⟩ := h
          rw [fillTokens_append, fillTokens_feed hfeed, ih hrest]

theorem fillTokens_tokens? {cs : List Char} {ts : List Token} (h : tokens? cs = some ts) :
    fillTokens σ ts = ts := by
  obtain ⟨us, w, hpass, rfl⟩ := exists_pass_of_tokens? h
  rw [fillTokens_append, fillTokens_pass hpass, fillTokens_finished]

/-- A template is read as its own tokens, with those of the operands in its slots. -/
theorem tokens?_filled {w : Nat → String} {es : List Element} {ts : List Token}
    (h : templateTokens? es = some ts)
    (hw : ∀ i, Element.arg i ∈ es → tokens? (w i).toList = some (σ i)) :
    tokens? (filled w es).toList = some (fillTokens σ ts) := by
  fun_induction templateTokens? es generalizing ts with
  | case1 =>
      obtain rfl := Option.some.inj h
      rfl
  | case2 s =>
      rw [fillTokens_tokens? h]
      simpa [filled, elementText] using h
  | case3 s es hne us vs hrest hpass ih =>
      obtain rfl := Option.some.inj h
      have hclosed : Closes s.toList us := hpass
      rw [fillTokens_append, fillTokens_pass hpass, filled, String.toList_append]
      exact hclosed.tokens?_append (ih hrest fun i hi ↦ hw i (List.mem_cons_of_mem _ hi))
  | case5 i es hstart ih =>
      obtain ⟨us, hrest, rfl⟩ := Option.map_eq_some_iff.mp h
      have hbehind := ih hrest fun i hi ↦ hw i (List.mem_cons_of_mem _ hi)
      rw [filled, String.toList_append]
      exact tokens?_append (hw i List.mem_cons_self) hbehind (isSeparated_filled hstart w)
  | _ => cases h

end

end Calls

end TypedQuery
