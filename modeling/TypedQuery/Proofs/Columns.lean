import TypedQuery.Proofs.Identifiers
import TypedQuery.Proofs.Injection.Safety

/-!
# Columns of inserts and merges

The columns and the keys of an insert or a merge are paths, of which only the names are written. A
name is looked up by the type of the root, but the last step of a path that is written as an
expression by the type of its parent. The two agree where both types have the same column for it.
-/

namespace TypedQuery

open List (Forall₂)
open Rendering (Writes)

namespace Rendering

theorem Writes.append_error {r t : Rendering} {text : String} {scope : Scope} {e : Error}
    (hr : Writes r text) (ht : t scope = .error e) : (r ++ t) scope = .error e := by
  obtain ⟨texts, hrendering, _⟩ := hr scope
  rw [append_apply, hrendering, ht]
  rfl

theorem Writes.separated {rs : List Rendering} {texts : List String} (separator : String)
    (h : Forall₂ Writes rs texts) :
    Writes (Rendering.separated separator rs) (separator.intercalate texts) := by
  induction h with
  | nil => exact .empty
  | cons hr hrs ih =>
      cases hrs with
      | nil => rwa [String.intercalate_singleton]
      | cons _ _ =>
          rw [String.intercalate_cons_cons]
          exact (hr.append (.text separator)).append ih

end Rendering

namespace Setup

variable {s : Setup} {root p : Path} {ps : List Path} {text before : String}

/-- The text that the last step of a property is written as in an expression. -/
def lastStep? (s : Setup) : Path → Option String
  | .property _ parent name => some (s.profile.quoteIdent (s.columnName parent.type name))
  | _ => none

/-- Whether the types of a root and of the parent of a property have the same column for it. -/
def SharesColumn (s : Setup) (root : Path) : Path → Prop
  | .property _ parent name => (s.metamodel.column? root.type name).getD name =
      (s.metamodel.column? parent.type name).getD name
  | _ => False

/-- A named path and the text that it is listed as, which is that of its last step just when root
and parent have the same column. -/
structure ListedAs (s : Setup) (root p : Path) (text : String) : Prop where
  name : ∃ name, p.name? = some name ∧
    text = s.profile.quoteIdent ((s.metamodel.column? root.type name).getD name)
  lastStep : s.lastStep? p = some text ↔ s.SharesColumn root p

def listed (before : String) (names : List String) : String :=
  if names.isEmpty then "" else before ++ ", ".intercalate names ++ ")"

theorem listedAs_of_name (hsql : s.profile.family = .sql) {name : String}
    (h : p.name? = some name) :
    s.ListedAs root p
      (s.profile.quoteIdent ((s.metamodel.column? root.type name).getD name)) where
  name := ⟨name, h, rfl⟩
  lastStep := by
    cases p with
    | root type variableName => exact ⟨nofun, False.elim⟩
    | property type parent property =>
        obtain rfl : property = name := Option.some.inj h
        -- quotes keep names apart, so the texts agree just when the columns do
        rw [lastStep?, columnName, hsql, Option.some_inj, s.profile.quoteIdent_injective.eq_iff]
        exact eq_comm
    | _ => cases h

theorem writes_column {name : String} (h : p.name? = some name) :
    Writes (s.column root p)
      (s.profile.quoteIdent ((s.metamodel.column? root.type name).getD name)) := by
  rw [column, h]
  exact .text _

theorem column_of_unnamed (h : p.name? = none) :
    s.column root p = .fail (.invalidArgument .unnamedColumn) := by
  rw [column, h]

theorem exists_listedAs (s : Setup) (root : Path) (hsql : s.profile.family = .sql)
    (h : ∀ p ∈ ps, p.name? ≠ none) :
    ∃ names, Forall₂ (s.ListedAs root) ps names ∧
      Forall₂ Writes (ps.map (s.column root)) names := by
  induction ps with
  | nil => exact ⟨[], .nil, .nil⟩
  | cons p ps ih =>
      rw [List.forall_mem_cons] at h
      obtain ⟨name, hname⟩ := Option.ne_none_iff_exists'.mp h.1
      obtain ⟨names, hlisted, hwrites⟩ := ih h.2
      exact ⟨_ :: names, .cons (listedAs_of_name hsql hname) hlisted,
        .cons (writes_column hname) hwrites⟩

theorem commas_columns_of_unnamed (h : ∃ p ∈ ps, p.name? = none) (scope : Scope) :
    Rendering.commas (ps.map (s.column root)) scope =
      .error (.invalidArgument .unnamedColumn) := by
  induction ps with
  | nil => exact absurd h (by simp)
  | cons p ps ih =>
      cases hname : p.name? with
      | none =>
          have hfirst : s.column root p scope = .error (.invalidArgument .unnamedColumn) := by
            rw [column_of_unnamed hname]
            rfl
          cases ps with
          | nil => exact hfirst
          | cons next ps =>
              exact Rendering.append_of_error (Rendering.append_of_error hfirst)
      | some name =>
          -- what is written of the first path does not keep the list from failing behind it
          have hothers : ∃ p ∈ ps, p.name? = none := by simpa [hname] using h
          cases ps with
          | nil => exact absurd hothers (by simp)
          | cons next ps =>
              exact ((writes_column hname).append (.text ", ")).append_error (ih hothers)

/-- Either all columns have names and are listed under them, or their list is refused. -/
theorem columns_cases (hsql : s.profile.family = .sql) (before : String) (root : Path)
    (ps : List Path) :
    (∃ names, Forall₂ (s.ListedAs root) ps names ∧
        Writes (s.columns before root ps) (listed before names)) ∨
      (∃ p ∈ ps, p.name? = none) ∧ ∀ scope,
        s.columns before root ps scope = .error (.invalidArgument .unnamedColumn) := by
  by_cases hnamed : ∀ p ∈ ps, p.name? ≠ none
  · obtain ⟨names, hlisted, hwrites⟩ := s.exists_listedAs root hsql hnamed
    refine .inl ⟨names, hlisted, ?_⟩
    cases hlisted with
    | nil => exact .empty
    | cons _ _ => exact ((Writes.text before).append (.separated ", " hwrites)).append (.text ")")
  · have hunnamed : ∃ p ∈ ps, p.name? = none := by simpa using hnamed
    refine .inr ⟨hunnamed, fun scope ↦ ?_⟩
    have hempty : ps.isEmpty = false := by
      obtain ⟨p, hp, _⟩ := hunnamed
      exact List.isEmpty_eq_false_iff_exists_mem.mpr ⟨p, hp⟩
    rw [columns, hempty, if_neg Bool.false_ne_true]
    exact Rendering.append_of_error
      ((Writes.text before).append_error (commas_columns_of_unnamed hunnamed scope))

theorem insert_of_sql (hsql : s.profile.family = .sql) (root : Path) (columns : List Path)
    (source : RowSource) :
    s.insert root columns source = .text ("insert into " ++ s.table root.type) ++
      s.columns " (" root columns ++ s.rowSource source := by
  rw [insert, hsql]

end Setup

namespace Serializer

open Setup (listed)

variable {s : Serializer}

theorem exists_text_of_writes {m : Modifiers} {r rest : Rendering} {front : String}
    (h : Writes r front) {t : Statement} (ht : s.statement m (r ++ rest) = .ok t) :
    ∃ behind, t.text = front ++ behind := by
  obtain ⟨chunks, hchunks, rfl⟩ := exists_of_map ht
  obtain ⟨before, behind, hbefore, _, rfl⟩ := Rendering.exists_of_append hchunks
  obtain ⟨texts, htexts, rfl⟩ := h {}
  obtain rfl := Except.ok.inj (htexts.symm.trans hbefore)
  simp only [layout_texts_append]
  exact ⟨_, rfl⟩

theorem statement_of_error {m : Modifiers} {r : Rendering} {e : Error} (h : r {} = .error e) :
    s.statement m r = .error e := by
  rw [statement, h]
  rfl

theorem insert_columns (hsql : s.dialect.family = .sql) (root : Path) (columns : List Path)
    (source : RowSource) :
    (∃ names, Forall₂ (s.setup.ListedAs root) columns names ∧
        ∀ t, s.insert root columns source = .ok t → ∃ behind, t.text =
          "insert into " ++ s.setup.table root.type ++ listed " (" names ++ behind) ∨
      (∃ p ∈ columns, p.name? = none) ∧
        s.insert root columns source = .error (.invalidArgument .unnamedColumn) := by
  have htable := Writes.text ("insert into " ++ s.setup.table root.type)
  rw [insert, Setup.insert_of_sql hsql]
  rcases s.setup.columns_cases hsql " (" root columns with
    ⟨names, hlisted, hwrites⟩ | ⟨hunnamed, herror⟩
  · exact .inl ⟨names, hlisted, fun t ↦ exists_text_of_writes (htable.append hwrites)⟩
  · exact .inr ⟨hunnamed,
      statement_of_error (Rendering.append_of_error (htable.append_error (herror {})))⟩

theorem merge_columns (hsql : s.dialect.family = .sql)
    (hmerge : s.dialect.capabilities.nativeMerge = true) (root : Path) (keys columns : List Path)
    (source : RowSource) :
    (∃ names keyNames, Forall₂ (s.setup.ListedAs root) columns names ∧
        Forall₂ (s.setup.ListedAs root) keys keyNames ∧
        ∀ t, s.merge root keys columns source = .ok t → ∃ behind, t.text =
          "merge into " ++ s.setup.table root.type ++ listed " (" names ++
            listed "\nkey (" keyNames ++ behind) ∨
      (∃ p ∈ columns ++ keys, p.name? = none) ∧
        s.merge root keys columns source = .error (.invalidArgument .unnamedColumn) := by
  have hrendering : s.setup.merge root keys columns source =
      .text ("merge into " ++ s.setup.table root.type) ++ s.setup.columns " (" root columns ++
        s.setup.columns "\nkey (" root keys ++ s.setup.rowSource source := if_pos hmerge
  have htable := Writes.text ("merge into " ++ s.setup.table root.type)
  rw [merge, hrendering]
  rcases s.setup.columns_cases hsql " (" root columns with
    ⟨names, hlisted, hwrites⟩ | ⟨⟨p, hp, hunnamed⟩, herror⟩
  · rcases s.setup.columns_cases hsql "\nkey (" root keys with
      ⟨keyNames, hkeysListed, hkeysWrite⟩ | ⟨⟨p, hp, hunnamed⟩, herror⟩
    · exact .inl ⟨names, keyNames, hlisted, hkeysListed,
        fun t ↦ exists_text_of_writes ((htable.append hwrites).append hkeysWrite)⟩
    · exact .inr ⟨⟨p, List.mem_append_right _ hp, hunnamed⟩, statement_of_error
        (Rendering.append_of_error ((htable.append hwrites).append_error (herror {})))⟩
  · exact .inr ⟨⟨p, List.mem_append_left _ hp, hunnamed⟩, statement_of_error
      (Rendering.append_of_error (Rendering.append_of_error (htable.append_error (herror {}))))⟩

/-- In SQL, the columns of an insert and the columns and keys of a merge are all named, and listed
behind the table under these names, or the statement is refused for a path without a name. -/
theorem columns_listedAs (hsql : s.dialect.family = .sql) (root : Path) (columns : List Path)
    (source : RowSource) :
    ((∃ names, Forall₂ (s.setup.ListedAs root) columns names ∧
        ∀ t, s.insert root columns source = .ok t → ∃ behind, t.text =
          "insert into " ++ s.setup.table root.type ++ listed " (" names ++ behind) ∨
      (∃ p ∈ columns, p.name? = none) ∧
        s.insert root columns source = .error (.invalidArgument .unnamedColumn)) ∧
    ∀ keys, if s.dialect.capabilities.nativeMerge then
        (∃ names keyNames, Forall₂ (s.setup.ListedAs root) columns names ∧
            Forall₂ (s.setup.ListedAs root) keys keyNames ∧
            ∀ t, s.merge root keys columns source = .ok t → ∃ behind, t.text =
              "merge into " ++ s.setup.table root.type ++ listed " (" names ++
                listed "\nkey (" keyNames ++ behind) ∨
          (∃ p ∈ columns ++ keys, p.name? = none) ∧
            s.merge root keys columns source = .error (.invalidArgument .unnamedColumn)
      else s.merge root keys columns source = .error (.unsupported .merge s.dialect.name) := by
  refine ⟨insert_columns hsql root columns source, fun keys ↦ ?_⟩
  split
  · exact merge_columns hsql ‹_› root keys columns source
  · have hrefused : s.setup.merge root keys columns source =
        .fail (.unsupported .merge s.dialect.name) := if_neg ‹_›
    exact statement_of_error (congrFun hrefused {})

theorem expr_of_lastStep? (hknown : s.dialect.IsKnown) {p : Path} (hp : p.isPlain = true)
    {text : String} (h : s.setup.lastStep? p = some text) :
    ∃ parent, p.parent? = some parent ∧
      s.expr (.path p) = .ok ⟨s.setup.pathText parent ++ "." ++ text, [], {}⟩ := by
  rw [expr_path hknown hp]
  cases p with
  | property type parent name =>
      obtain rfl := Option.some.inj h
      exact ⟨parent, rfl, rfl⟩
  | _ => cases h

/-! ## People and their addresses -/

def person : Path := .root (.entity "Person") "person"

def personName : Path := .property .string person "name"

def personStreet : Path :=
  .property .string (.property (.entity "Address") person "address") "street"

/-- Names of people and streets of addresses have columns of their own. -/
def addresses : Metamodel :=
  (Metamodel.column {} "Person" "name" "NAME").column "Address" "street" "STREET"

def insertPerson (s : Serializer) (p : Path) : Except Error Statement :=
  s.insert person [p] (.rows [[.param ⟨.string, "value"⟩]])

theorem insertPerson_eq (hsql : s.dialect.family = .sql)
    (hstyle : s.dialect.placeholders = .anonymous) (hquote : s.dialect.quote = none)
    (hmetamodel : s.metamodel = addresses) {p : Path} {name column : String}
    (hname : p.name? = some name)
    (hcolumn : (addresses.column? (.entity "Person") name).getD name = column) :
    s.insertPerson p = .ok ⟨"insert into " ++ s.setup.table (.entity "Person") ++
      (" (" ++ column ++ ")\nvalues (?)"), [.param ⟨.string, "value"⟩], {}⟩ := by
  have hlisted : s.setup.column person p = .text column := by
    have hquoted : s.setup.profile.quoteIdent column = column := by
      simp [Profile.quoteIdent, setup, hquote]
    rw [Setup.column, hname, ← hquoted, ← hcolumn, ← hmetamodel]
    rfl
  have hcolumns : s.setup.columns " (" person [p] =
      Rendering.text " (" ++ s.setup.column person p ++ .text ")" := rfl
  have htext : ∀ table : String, String.join
      ["insert into " ++ table, " (", column, ")", "\nvalues ", "(", "?", ")"] =
        "insert into " ++ table ++ (" (" ++ column ++ ")\nvalues (?)") :=
    fun table ↦ String.toList_inj.mp (by simp)
  rw [insertPerson, insert, statement, Setup.insert_of_sql hsql, hcolumns, hlisted, hstyle, ← htext]
  rfl

theorem exists_addresses : ∃ s : Serializer, ("h2", .ok s.dialect) ∈ Dialect.known ∧
    s.dialect.family = .sql ∧ s.dialect.placeholders = .anonymous ∧ s.dialect.quote = none ∧
    s.metamodel = addresses := by
  obtain ⟨d, hmem, hquote⟩ := Dialect.exists_h2
  exact ⟨{ dialect := d, metamodel := addresses }, hmem, Dialect.family_of_mem hmem,
    (Dialect.placeholders_eq_anonymous_iff hmem).mpr (by decide), hquote, rfl⟩

theorem insertPerson_name : ∃ s : Serializer, s.dialect.family = .sql ∧
    s.insertPerson personName = .ok ⟨"insert into " ++ s.setup.table (.entity "Person") ++
      " (NAME)\nvalues (?)", [.param ⟨.string, "value"⟩], {}⟩ ∧
    Forall₂ (s.setup.ListedAs person) [personName] ["NAME"] ∧
    s.expr (.path personName) =
      .ok ⟨s.setup.pathText person ++ "." ++ "NAME", [], {}⟩ := by
  obtain ⟨s, hmem, hsql, hstyle, hquote, hmetamodel⟩ := exists_addresses
  have hcolumn : (addresses.column? (.entity "Person") "name").getD "name" = "NAME" := by decide
  have hinsert := insertPerson_eq hsql hstyle hquote hmetamodel (p := personName) rfl hcolumn
  have htext : " (" ++ "NAME" ++ ")\nvalues (?)" = " (NAME)\nvalues (?)" := by decide
  rw [htext] at hinsert
  refine ⟨s, hsql, hinsert, ?_⟩
  rcases (columns_listedAs hsql person [personName]
      (.rows [[.param ⟨.string, "value"⟩]])).1 with ⟨names, hlisted, _⟩ | ⟨⟨p, hp, hunnamed⟩, _⟩
  · cases hlisted with
    | cons hfirst hrest =>
        cases hrest
        obtain ⟨name, hname, htext⟩ := hfirst.name
        obtain rfl : "name" = name := Option.some.inj hname
        have hlisted : s.setup.profile.quoteIdent
            ((s.metamodel.column? (.entity "Person") "name").getD "name") = "NAME" := by
          rw [hmetamodel, hcolumn]
          simp [Profile.quoteIdent, setup, hquote]
        obtain rfl := htext.trans hlisted
        obtain ⟨_, hparent, hexpr⟩ :=
          expr_of_lastStep? (p := personName) ⟨"h2", hmem⟩ rfl (hfirst.lastStep.mpr rfl)
        obtain rfl := Option.some.inj hparent
        exact ⟨.cons hfirst .nil, hexpr⟩
  · rw [List.mem_singleton.mp hp] at hunnamed
    cases hunnamed

/-- The street of an address is listed under its own name, although an expression has the name of
its column, and a variable is listed as if it were a column. -/
theorem insertPerson_street : ∃ s : Serializer, ("h2", .ok s.dialect) ∈ Dialect.known ∧
    s.insertPerson personStreet = .ok ⟨"insert into " ++ s.setup.table (.entity "Person") ++
      " (street)\nvalues (?)", [.param ⟨.string, "value"⟩], {}⟩ ∧
    s.expr (.path personStreet) = .ok ⟨"person.address.STREET", [], {}⟩ ∧
    s.insertPerson person = .ok ⟨"insert into " ++ s.setup.table (.entity "Person") ++
      " (person)\nvalues (?)", [.param ⟨.string, "value"⟩], {}⟩ := by
  obtain ⟨s, hmem, hsql, hstyle, hquote, hmetamodel⟩ := exists_addresses
  have hstreet : (addresses.column? (.entity "Person") "street").getD "street" = "street" := by
    decide
  have hperson : (addresses.column? (.entity "Person") "person").getD "person" = "person" := by
    decide
  have hlisted := insertPerson_eq hsql hstyle hquote hmetamodel (p := personStreet) rfl hstreet
  have hvariable := insertPerson_eq hsql hstyle hquote hmetamodel (p := person) rfl hperson
  have hstreetText : " (" ++ "street" ++ ")\nvalues (?)" = " (street)\nvalues (?)" := by decide
  have hpersonText : " (" ++ "person" ++ ")\nvalues (?)" = " (person)\nvalues (?)" := by decide
  rw [hstreetText] at hlisted
  rw [hpersonText] at hvariable
  refine ⟨s, hmem, hlisted, ?_, hvariable⟩
  have hname : ∀ owner name, s.setup.profile.quoteIdent (s.setup.columnName owner name) =
      (addresses.column? owner name).getD name := by
    intro owner name
    rw [← hmetamodel, Setup.columnName]
    simp [Profile.quoteIdent, setup, hquote, hsql]
  have hroot : s.setup.profile.quoteIdent "person" = "person" := by
    simp [Profile.quoteIdent, setup, hquote]
  rw [expr_path ⟨"h2", hmem⟩ rfl, personStreet, Setup.pathText, Setup.pathText, person,
    Setup.pathText, hroot, hname, hname]
  have htext : "person" ++ "." ++ (addresses.column? (.entity "Person") "address").getD "address" ++
      "." ++ (addresses.column? (.entity "Address") "street").getD "street" =
        "person.address.STREET" := by decide
  exact congrArg (fun text ↦ Except.ok (Statement.mk text [] {})) htext

end Serializer

end TypedQuery
