import TypedQuery.Proofs.Building
import TypedQuery.Proofs.Reading.Rendered

/-!
# Quoted names

A dialect with quotes writes a path as its names with dots between them, each name in quotes with
the quotes inside doubled, and the star as it is. Such a text is read in one way only, whatever
characters the names have.
-/

namespace TypedQuery

/-! ## Reading names -/

namespace Names

mutual

/-- Reads the names from the beginning of one up to the end of the text. -/
def read? (quote : Char) : List Char → Option (List String)
  | [] => none
  | c :: cs =>
      if c = quote then readQuoted? quote [] cs
      else if c = '*' then readStarred? quote cs
      else none

/-- Reads on between quotes. The name so far is kept in reverse. -/
def readQuoted? (quote : Char) (name : List Char) : List Char → Option (List String)
  | [] => none
  | c :: cs => if c = quote then readClosed? quote name cs else readQuoted? quote (c :: name) cs

/-- Reads on behind a quote inside of quotes: another one makes it a part of the name. -/
def readClosed? (quote : Char) (name : List Char) : List Char → Option (List String)
  | [] => some [.ofList name.reverse]
  | c :: cs =>
      if c = quote then readQuoted? quote (quote :: name) cs
      else if c = '.' then (read? quote cs).map (.ofList name.reverse :: ·)
      else none

/-- Reads on behind a star. -/
def readStarred? (quote : Char) : List Char → Option (List String)
  | [] => some ["*"]
  | c :: cs => if c = '.' then (read? quote cs).map ("*" :: ·) else none

end

variable {quote : Char}

/-- A text of some names, which reads as them in front of any others as well. -/
structure Spells (quote : Char) (text : List Char) (names : List String) : Prop where
  read? : read? quote text = some names
  read?_append : ∀ rest, Names.read? quote (text ++ '.' :: rest) =
    (Names.read? quote rest).map (names ++ ·)

theorem Spells.append {text text' : List Char} {names names' : List String}
    (h : Spells quote text names) (h' : Spells quote text' names') :
    Spells quote (text ++ '.' :: text') (names ++ names') where
  read? := by rw [h.read?_append, h'.read?, Option.map_some]
  read?_append rest := by
    rw [List.append_assoc, List.cons_append, h.read?_append, h'.read?_append, Option.map_map]
    congr 1
    funext names''
    exact (List.append_assoc ..).symm

theorem readQuoted?_doubled (name before rest : List Char) :
    readQuoted? quote before (name.flatMap (fun c ↦ if c = quote then [quote, quote] else [c]) ++
      rest) = readQuoted? quote (name.reverse ++ before) rest := by
  induction name generalizing before with
  | nil => rfl
  | cons c name ih =>
      by_cases hc : c = quote
      · simp [readQuoted?, readClosed?, hc, ih]
      · simp [readQuoted?, hc, ih]

/-- A name between quotes is closed by the one quote that no other one follows. -/
theorem read?_quoted (name rest : List Char) :
    read? quote (quote :: name.flatMap (fun c ↦ if c = quote then [quote, quote] else [c]) ++
      quote :: rest) = readClosed? quote name.reverse rest := by
  rw [List.cons_append, read?, if_pos rfl, readQuoted?_doubled, List.append_nil, readQuoted?,
    if_pos rfl]

theorem spells_quoted (hdot : quote ≠ '.') (name : List Char) :
    Spells quote (quote :: name.flatMap (fun c ↦ if c = quote then [quote, quote] else [c]) ++
      [quote]) [.ofList name] := by
  constructor
  · rw [read?_quoted, readClosed?, List.reverse_reverse]
  · intro rest
    rw [List.append_assoc, List.singleton_append, read?_quoted, readClosed?, if_neg hdot.symm,
      if_pos rfl, List.reverse_reverse]
    rfl

theorem spells_star (hstar : quote ≠ '*') : Spells quote ['*'] ["*"] where
  read? := by rw [Names.read?, if_neg hstar.symm, if_pos rfl, readStarred?]
  read?_append rest := by
    rw [List.singleton_append, Names.read?, if_neg hstar.symm, if_pos rfl, readStarred?,
      if_pos rfl]
    rfl

theorem spells_quoteIdent {p : Profile} (hquote : p.quote = some quote) (hstar : quote ≠ '*')
    (hdot : quote ≠ '.') (name : String) : Spells quote (p.quoteIdent name).toList [name] := by
  simp only [Profile.quoteIdent, hquote]
  by_cases hname : name = "*"
  · rw [if_pos hname, hname]
    exact spells_star hstar
  · rw [if_neg hname, String.toList_ofList]
    simpa using spells_quoted hdot name.toList

end Names

/-- Different names are written differently, whatever the quote. -/
theorem Profile.quoteIdent_injective (p : Profile) : Function.Injective p.quoteIdent := by
  intro a b h
  cases hquote : p.quote with
  | none => simpa [Profile.quoteIdent, hquote] using h
  | some quote =>
      have hquoted : ∀ name ≠ "*", (p.quoteIdent name).toList = quote ::
          name.toList.flatMap (fun c ↦ if c = quote then [quote, quote] else [c]) ++ [quote] := by
        intro name hname
        simp [Profile.quoteIdent, hquote, hname]
      have hstar : p.quoteIdent "*" = "*" := by simp [Profile.quoteIdent, hquote]
      -- between quotes a name has two characters at least
      have hlonger : ∀ name ≠ "*", p.quoteIdent name ≠ "*" := by
        intro name hname heq
        have hlength := congrArg List.length ((hquoted name hname).symm.trans (by rw [heq]))
        simp at hlength
      by_cases ha : a = "*" <;> by_cases hb : b = "*"
      · rw [ha, hb]
      · exact absurd (h.symm.trans (ha ▸ hstar)) (hlonger b hb)
      · exact absurd (h.trans (hb ▸ hstar)) (hlonger a ha)
      · have hread := congrArg (Names.read? quote ·.toList) h
        simp only [hquoted a ha, hquoted b hb, Names.read?_quoted, Names.readClosed?,
          List.reverse_reverse, String.ofList_toList] at hread
        simpa using hread

/-! ## Paths -/

namespace Path

/-- The names of a variable and of the properties below it, in this order. -/
def names : Path → List String
  | root _ name => [name]
  | property _ parent name => parent.names ++ [name]
  | _ => []

end Path

namespace Setup

variable {s : Setup} {quote : Char}

theorem spells_pathText (hquote : s.profile.quote = some quote) (hstar : quote ≠ '*')
    (hdot : quote ≠ '.') (hmetamodel : s.metamodel = {}) {p : Path} (hp : p.isPlain = true) :
    Names.Spells quote (s.pathText p).toList p.names := by
  match p with
  | .root type name => exact Names.spells_quoteIdent hquote hstar hdot name
  | .property type parent name =>
      have hparent := spells_pathText hquote hstar hdot hmetamodel (p := parent) hp
      have hname := Names.spells_quoteIdent hquote hstar hdot name
      simp only [pathText, Path.names, columnName_of_no_metamodel hmetamodel, String.toList_append]
      simpa using hparent.append hname

end Setup

/-! ## Known dialects -/

namespace Dialect

/-- The known dialects that write names between quotes. -/
def quotingNames : List String := ["postgres", "mysql", "sqlite"]

theorem exists_quote {name : String} {d : Dialect} (h : (name, Except.ok d) ∈ known)
    (hname : name ∈ quotingNames) :
    ∃ quote, d.quote = some quote ∧ quote ≠ '*' ∧ quote ≠ '.' := by
  obtain ⟨r, hr, rfl, hbuild⟩ := exists_recipe_of_mem h
  simp only [recipes, List.mem_cons, List.not_mem_nil, or_false] at hr
  rcases hr with rfl | rfl | rfl | rfl | rfl | rfl | rfl | rfl
  · exact absurd hname (by decide)
  · exact absurd hname (by decide)
  · exact ⟨'"', quote_of_build_cons hbuild rfl, by decide, by decide⟩
  · exact ⟨'\x60', quote_of_build_cons hbuild rfl, by decide, by decide⟩
  · exact ⟨'"', quote_of_build_cons hbuild rfl, by decide, by decide⟩
  · exact absurd hname (by decide)
  · exact absurd hname (by decide)
  · exact absurd hname (by decide)

end Dialect

namespace Serializer

variable {s : Serializer}

/-- In a known dialect a path of a variable and properties is written as its text. -/
theorem expr_path (hknown : s.dialect.IsKnown) {p : Path} (hp : p.isPlain = true) :
    s.expr (.path p) = .ok ⟨s.setup.pathText p, [], {}⟩ := by
  have hpaths : s.setup.HasPaths := ⟨hknown.get?_root, hknown.get?_property⟩
  -- outside of everything else no collection is written as its elements
  exact statement_of_writes (Setup.writes_pathOperand hpaths hp).1 {}

/-- Without a metamodel, the known dialects with quotes write a variable and its properties as a
text from which the names are read back, so that other names lead to another text. -/
theorem read?_expr_path {name : String} (hknown : (name, .ok s.dialect) ∈ Dialect.known)
    (hname : name ∈ Dialect.quotingNames) (hmetamodel : s.metamodel = {}) {p : Path}
    (hp : p.isPlain = true) :
    (∃ quote text, s.dialect.quote = some quote ∧ s.expr (.path p) = .ok ⟨text, [], {}⟩ ∧
      Names.read? quote text.toList = some p.names) ∧
    ∀ p' : Path, p'.isPlain = true → s.expr (.path p') = s.expr (.path p) →
      p'.names = p.names := by
  obtain ⟨quote, hquote, hstar, hdot⟩ := Dialect.exists_quote hknown hname
  have hexpr : ∀ {p : Path}, p.isPlain = true →
      s.expr (.path p) = .ok ⟨s.setup.pathText p, [], {}⟩ := expr_path ⟨name, hknown⟩
  have hread : ∀ {p : Path}, p.isPlain = true →
      Names.read? quote (s.setup.pathText p).toList = some p.names :=
    fun hp ↦ (Setup.spells_pathText hquote hstar hdot hmetamodel hp).read?
  refine ⟨⟨quote, _, hquote, hexpr hp, hread hp⟩, fun p' hp' hsame ↦ ?_⟩
  rw [hexpr hp', hexpr hp] at hsame
  have htext : s.setup.pathText p' = s.setup.pathText p :=
    congrArg Statement.text (Except.ok.inj hsame)
  have hnames := hread hp'
  rw [htext, hread hp] at hnames
  exact (Option.some.inj hnames).symm

/-- Names that are empty, the star, or made of dots and quotes. -/
def oddPath : Path :=
  .property .string (.property .object (.property .object (.root (.entity "Cat") "cat\".\"") "")
    "*") "\"\"."

theorem read?_expr_oddPath : ∃ d, ("postgres", .ok d) ∈ Dialect.known ∧
    "postgres" ∈ Dialect.quotingNames ∧ oddPath.isPlain = true ∧
    (∃ quote text, d.quote = some quote ∧
      ({ dialect := d } : Serializer).expr (.path oddPath) = .ok ⟨text, [], {}⟩ ∧
      Names.read? quote text.toList = some ["cat\".\"", "", "*", "\"\"."]) ∧
    ∀ p' : Path, p'.isPlain = true →
      ({ dialect := d } : Serializer).expr (.path p') =
        ({ dialect := d } : Serializer).expr (.path oddPath) →
      p'.names = ["cat\".\"", "", "*", "\"\"."] := by
  have hmem : ("postgres", Dialect.postgres) ∈ Dialect.known := by simp [Dialect.known]
  obtain ⟨d, hd⟩ := Dialect.exists_of_mem_known _ hmem
  have hknown : ("postgres", Except.ok d) ∈ Dialect.known := hd ▸ hmem
  exact ⟨d, hknown, by decide, rfl,
    read?_expr_path (s := { dialect := d }) hknown (by decide) rfl (p := oddPath) rfl⟩

end Serializer

end TypedQuery
