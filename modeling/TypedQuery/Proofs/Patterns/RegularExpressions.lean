import TypedQuery.Proofs.Patterns.Matching

/-!
# What regular expressions match

A regular expression is read from its text by the common rules: alternatives bind loosest, then
parts one behind the other, then repetitions; a backslash makes punctuation literal, and in front of
a letter or digit it makes something else of it. Sets in brackets, counted repetitions and
references to groups are not read. An expression without groups and alternatives, between optional
anchors, matches what the tokens of its parts match.
-/

namespace TypedQuery.Text

inductive Regex
  | empty
  | char (holds : Char → Bool)
  | start
  | finish
  | append (r t : Regex)
  | or (r t : Regex)
  | star (r : Regex)

namespace Regex

open Like (Token)

/-- Whether a text consists of `n` pieces that match one after the other. -/
def Times (one : List Char → List Char → List Char → Prop) :
    Nat → List Char → List Char → List Char → Prop
  | 0, _, text, _ => text = []
  | n + 1, before, text, after => ∃ first rest, text = first ++ rest ∧
      one before first (rest ++ after) ∧ Times one n (before ++ first) rest after

/-- Whether an expression matches a text between what stands before and after it. -/
def Matches : Regex → List Char → List Char → List Char → Prop
  | empty, _, text, _ => text = []
  | char holds, _, text, _ => ∃ c, text = [c] ∧ holds c = true
  | start, before, text, _ => text = [] ∧ before = []
  | finish, _, text, after => text = [] ∧ after = []
  | append r t, before, text, after => ∃ first rest, text = first ++ rest ∧
      r.Matches before first (rest ++ after) ∧ t.Matches (before ++ first) rest after
  | or r t, before, text, after => r.Matches before text after ∨ t.Matches before text after
  | star r, before, text, after => ∃ n, Times r.Matches n before text after

/-- Expressions one behind the other. -/
def sequence (rs : List Regex) : Regex := rs.foldr append empty

def anyChar : Regex := char fun _ ↦ true

/-! ## Reading -/

/-- The control character that a letter names behind a backslash. -/
def control? : Char → Option Char
  | 'n' => some '\n'
  | 't' => some '\t'
  | 'r' => some '\r'
  | 'f' => some '\x0c'
  | _ => none

/-- The class of characters that a letter names behind a backslash. -/
def class? : Char → Option (Char → Bool)
  | 'd' => some Char.isDigit
  | 'D' => some (!·.isDigit)
  | 's' => some Char.isWhitespace
  | 'S' => some (!·.isWhitespace)
  | 'w' => some fun c ↦ c.isAlphanum || c == '_'
  | 'W' => some fun c ↦ !(c.isAlphanum || c == '_')
  | _ => none

/-- A character behind a backslash. -/
def escaped? (c : Char) : Option Regex :=
  match control? c, class? c with
  | some d, _ => some (char (· == d))
  | none, some holds => some (char holds)
  | none, none => if c.isAlphanum then none else some (char (· == c))

/-- What has been read of a group: its finished alternatives, and the parts of the one at hand from
the last to the first. -/
structure Level where
  alternatives : List Regex := []
  parts : List Regex := []
  /-- Whether a repetition may follow. -/
  repeatable : Bool := false

namespace Level

def regex (l : Level) : Regex :=
  l.alternatives.foldl (fun later r ↦ or r later) (sequence l.parts.reverse)

def part (l : Level) (r : Regex) : Level :=
  { l with parts := r :: l.parts, repeatable := true }

def anchor (l : Level) (r : Regex) : Level :=
  { l with parts := r :: l.parts, repeatable := false }

def repeated? (l : Level) (how : Regex → Regex) : Option Level :=
  match l.repeatable, l.parts with
  | true, r :: rs => some { l with parts := how r :: rs, repeatable := false }
  | _, _ => none

def nextAlternative (l : Level) : Level :=
  { alternatives := sequence l.parts.reverse :: l.alternatives }

end Level

/-- Reads on inside groups, the innermost first. -/
def read (outer : List Level) (l : Level) : List Char → Option Regex
  | [] => if outer.isEmpty then some l.regex else none
  | ['\\'] => none
  | '\\' :: c :: rest => (escaped? c).bind fun r ↦ read outer (l.part r) rest
  | '.' :: rest => read outer (l.part anyChar) rest
  | '^' :: rest => read outer (l.anchor start) rest
  | '$' :: rest => read outer (l.anchor finish) rest
  | '*' :: rest => (l.repeated? star).bind fun l ↦ read outer l rest
  | '+' :: rest => (l.repeated? fun r ↦ append r (star r)).bind fun l ↦ read outer l rest
  | '?' :: rest => (l.repeated? (or empty)).bind fun l ↦ read outer l rest
  | '|' :: rest => read outer l.nextAlternative rest
  | '(' :: rest => read (l :: outer) {} rest
  | ')' :: rest =>
      match outer with
      | [] => none
      | above :: outer => read outer (above.part l.regex) rest
  | c :: rest =>
      if c ∈ ['[', ']', '{', '}'] then none else read outer (l.part (char (· == c))) rest

def read? (cs : List Char) : Option Regex := read [] {} cs

/-- Whether a search for a regular expression succeeds in a text. -/
def Finds (regex text : String) : Prop :=
  ∃ r, read? regex.toList = some r ∧
    ∃ before found after, text.toList = before ++ found ++ after ∧ r.Matches before found after

/-- Whether a regular expression matches a whole text. -/
def MatchesWhole (regex text : String) : Prop :=
  ∃ r, read? regex.toList = some r ∧ r.Matches [] text.toList []

/-! ## Parts without groups and alternatives -/

inductive Part
  | char (c : Char)
  | escaped (c : Char)
  | anyChar
  | anyText

namespace Part

def text : Part → List Char
  | char c => [c]
  | escaped c => ['\\', c]
  | anyChar => ['.']
  | anyText => ['.', '*']

/-- Whether a part is no other construct: a character that has no meaning of its own, or one that
names no class behind its backslash. -/
def IsPlain : Part → Prop
  | char c => c ∉ Like.regexMeta
  | escaped c => class? c = none
  | _ => True

/-- What a part matches, if the character behind its backslash has a meaning. -/
def token? : Part → Option Token
  | char c => some (.literal c)
  | escaped c =>
      match control? c with
      | some d => some (.literal d)
      | none => if c.isAlphanum then none else some (.literal c)
  | anyChar => some .anyChar
  | anyText => some .anyText

end Part

/-- A token as an expression. -/
def ofToken : Token → Regex
  | .literal c => char (· == c)
  | .anyChar => anyChar
  | .anyText => star anyChar

namespace Level

def token (l : Level) (t : Token) : Level :=
  { l with parts := ofToken t :: l.parts, repeatable := decide (t ≠ .anyText) }

theorem parts_foldl_token (l : Level) (ts : List Token) :
    (ts.foldl token l).parts = (ts.map ofToken).reverse ++ l.parts := by
  induction ts generalizing l with
  | nil => rfl
  | cons t ts ih => simp [ih, token]

theorem alternatives_foldl_token (l : Level) (ts : List Token) :
    (ts.foldl token l).alternatives = l.alternatives := by
  induction ts generalizing l with
  | nil => rfl
  | cons t ts ih => simp [ih, token]

end Level

variable {outer : List Level} {l : Level}

theorem read_char {c : Char} (hc : c ∉ Like.regexMeta) (rest : List Char) :
    read outer l (c :: rest) = read outer (l.token (.literal c)) rest := by
  simp only [Like.regexMeta, List.mem_cons, List.not_mem_nil, or_false, not_or] at hc
  rw [read] <;> simp_all [Level.token, Level.part, ofToken]

theorem read_part {part : Part} (hpart : part.IsPlain) (rest : List Char) :
    read outer l (part.text ++ rest) =
      part.token?.bind fun t ↦ read outer (l.token t) rest := by
  cases part with
  | char c => exact read_char hpart rest
  | escaped c =>
      have hclass : class? c = none := hpart
      have hread : read outer l (Part.text (.escaped c) ++ rest) =
          (escaped? c).bind fun r ↦ read outer (l.part r) rest := rfl
      rw [hread]
      cases hcontrol : control? c with
      | some d => simp [escaped?, Part.token?, hcontrol, Level.token, Level.part, ofToken]
      | none =>
          by_cases hc : c.isAlphanum = true <;>
            simp [escaped?, Part.token?, hcontrol, hclass, hc, Level.token, Level.part, ofToken]
  | anyChar => rfl
  | anyText => rfl

theorem read_parts {parts : List Part} (hparts : ∀ part ∈ parts, part.IsPlain)
    (rest : List Char) :
    read outer l (parts.flatMap Part.text ++ rest) =
      (parts.mapM Part.token?).bind fun ts ↦ read outer (ts.foldl Level.token l) rest := by
  induction parts generalizing l with
  | nil => rfl
  | cons part parts ih =>
      obtain ⟨hpart, hparts⟩ := List.forall_mem_cons.mp hparts
      rw [List.flatMap_cons, List.append_assoc, read_part hpart, List.mapM_cons]
      cases part.token? with
      | none => rfl
      | some t =>
          simp only [Option.bind_some, ih hparts]
          cases parts.mapM Part.token? <;> rfl

/-! ## Matching -/

section Matching

variable {before text after : List Char}

theorem matches_sequence_append (rs ts : List Regex) :
    (sequence (rs ++ ts)).Matches before text after ↔
      ∃ first rest, text = first ++ rest ∧ (sequence rs).Matches before first (rest ++ after) ∧
        (sequence ts).Matches (before ++ first) rest after := by
  induction rs generalizing before text with
  | nil =>
      constructor
      · intro h
        exact ⟨[], text, rfl, rfl, by simpa using h⟩
      · rintro ⟨first, rest, rfl, hfirst, hrest⟩
        obtain rfl : first = [] := hfirst
        simpa using hrest
  | cons r rs ih =>
      have hcons : ∀ us before text after, (sequence (r :: us)).Matches before text after ↔
          ∃ first rest, text = first ++ rest ∧ r.Matches before first (rest ++ after) ∧
            (sequence us).Matches (before ++ first) rest after := fun _ _ _ _ ↦ Iff.rfl
      simp only [List.cons_append, hcons, ih]
      constructor
      · rintro ⟨first, _, rfl, hr, middle, rest, rfl, hrs, hts⟩
        refine ⟨first ++ middle, rest, by simp, ⟨first, middle, rfl, ?_, hrs⟩, ?_⟩
        · simpa using hr
        · simpa using hts
      · rintro ⟨_, rest, rfl, ⟨first, middle, rfl, hr, hrs⟩, hts⟩
        refine ⟨first, middle ++ rest, by simp, ?_, middle, rest, rfl, hrs, ?_⟩
        · simpa using hr
        · simpa using hts

theorem times_anyChar (n : Nat) : Times anyChar.Matches n before text after ↔ text.length = n := by
  induction n generalizing before text with
  | zero => simp [Times]
  | succ n ih =>
      simp only [Times, ih]
      cases text with
      | nil => simp [anyChar, Matches]
      | cons c text =>
          constructor
          · rintro ⟨first, rest, htext, ⟨d, rfl, _⟩, rfl⟩
            simp_all
          · intro h
            exact ⟨[c], text, rfl, ⟨c, rfl, rfl⟩, by simpa using h⟩

theorem matches_star_anyChar : (star anyChar).Matches before text after :=
  ⟨text.length, (times_anyChar _).mpr rfl⟩

theorem matches_tokens {ts : List Token} :
    (sequence (ts.map ofToken)).Matches before text after ↔ Like.accepts ts text = true := by
  induction ts generalizing before text with
  | nil => simp [sequence, Matches, Like.accepts]
  | cons t ts ih =>
      have hcons : (sequence ((t :: ts).map ofToken)).Matches before text after ↔
          ∃ first rest, text = first ++ rest ∧ (ofToken t).Matches before first (rest ++ after) ∧
            Like.accepts ts rest = true :=
        exists₂_congr fun _ _ ↦ and_congr_right fun _ ↦ and_congr_right fun _ ↦ ih
      rw [hcons]
      cases t with
      | anyText =>
          rw [Like.accepts_anyText]
          constructor
          · rintro ⟨first, rest, rfl, _, hrest⟩
            exact ⟨rest, List.suffix_append first rest, hrest⟩
          · rintro ⟨rest, ⟨first, rfl⟩, hrest⟩
            exact ⟨first, rest, rfl, matches_star_anyChar, hrest⟩
      | literal c | anyChar =>
          cases text <;>
            simp [ofToken, anyChar, Matches, Like.accepts, List.cons_eq_append_iff, and_assoc]

end Matching

/-! ## Parts between anchors -/

/-- Parts one behind the other, between anchors or not. -/
structure Row where
  atStart : Bool
  parts : List Part
  atEnd : Bool

def Row.text (row : Row) : List Char :=
  (if row.atStart then ['^'] else []) ++
    (row.parts.flatMap Part.text ++ if row.atEnd then ['$'] else [])

/-- Tokens between anchors as an expression. -/
def anchored (atStart : Bool) (ts : List Token) (atEnd : Bool) : Regex :=
  sequence ((if atStart then [start] else []) ++
    (ts.map ofToken ++ if atEnd then [finish] else []))

theorem read_atEnd (h : l.alternatives = []) (atEnd : Bool) :
    read [] l (if atEnd then ['$'] else []) =
      some (sequence (l.parts.reverse ++ if atEnd then [finish] else [])) := by
  cases atEnd <;> simp [read, Level.regex, Level.anchor, h]

theorem read?_row {row : Row} (hparts : ∀ part ∈ row.parts, part.IsPlain) :
    read? row.text =
      (row.parts.mapM Part.token?).map fun ts ↦ anchored row.atStart ts row.atEnd := by
  have hread : ∀ l : Level, l.alternatives = [] →
      read [] l (row.parts.flatMap Part.text ++ if row.atEnd then ['$'] else []) =
        (row.parts.mapM Part.token?).map fun ts ↦
          sequence (l.parts.reverse ++ (ts.map ofToken ++ if row.atEnd then [finish] else [])) := by
    intro l hl
    rw [read_parts hparts]
    cases row.parts.mapM Part.token? with
    | none => rfl
    | some ts =>
        rw [Option.bind_some, read_atEnd (by rw [Level.alternatives_foldl_token, hl]),
          Level.parts_foldl_token, List.reverse_append, List.reverse_reverse, List.append_assoc]
        rfl
  cases hstart : row.atStart with
  | true =>
      rw [read?, Row.text, hstart]
      exact hread (Level.anchor {} start) rfl
  | false =>
      rw [read?, Row.text, hstart]
      exact hread {} rfl

theorem matches_anchored {before text after : List Char} {atStart atEnd : Bool}
    {ts : List Token} :
    (anchored atStart ts atEnd).Matches before text after ↔
      (atStart = true → before = []) ∧ (atEnd = true → after = []) ∧
        Like.accepts ts text = true := by
  have hend : ∀ before : List Char,
      (sequence (ts.map ofToken ++ if atEnd then [finish] else [])).Matches before text after ↔
        (atEnd = true → after = []) ∧ Like.accepts ts text = true := by
    intro before
    rw [matches_sequence_append]
    simp only [matches_tokens]
    cases atEnd <;> simp [sequence, Matches, and_comm]
  unfold anchored
  cases atStart with
  | false => simpa using hend before
  | true =>
      have hstart : ∀ first rest : List Char,
          (sequence [start]).Matches before first rest ↔ first = [] ∧ before = [] := by
        simp [sequence, Matches]
      rw [matches_sequence_append]
      simp [hstart, hend]

/-- A search looks for a part of the text that the tokens match. -/
theorem finds_row {row : Row} (hparts : ∀ part ∈ row.parts, part.IsPlain) {ts : List Token}
    (hts : row.parts.mapM Part.token? = some ts) (text : String) :
    Finds (.ofList row.text) text ↔
      ∃ before found after, text.toList = before ++ found ++ after ∧
        (row.atStart = true → before = []) ∧ (row.atEnd = true → after = []) ∧
          Like.accepts ts found = true := by
  simp [Finds, read?_row hparts, hts, matches_anchored]

/-- Anchors make no difference to whole texts. -/
theorem matchesWhole_row {row : Row} (hparts : ∀ part ∈ row.parts, part.IsPlain)
    (text : String) :
    MatchesWhole (.ofList row.text) text ↔
      ∃ ts, row.parts.mapM Part.token? = some ts ∧ Like.accepts ts text.toList = true := by
  simp [MatchesWhole, read?_row hparts, matches_anchored]

end Regex

end TypedQuery.Text
