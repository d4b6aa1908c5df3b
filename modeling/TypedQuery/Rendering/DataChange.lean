import TypedQuery.Rendering.Expr

/-!
# Statements that change data

Deletes, updates, inserts and merges. The former two work on the first source of a query and its
filter, the latter two on rows or on the result of a query.
-/

namespace TypedQuery

/-- Where the rows of an insert or a merge come from. -/
inductive RowSource
  | rows (rows : List (List Expr))
  | query (q : Query Expr)

namespace Setup

def whereClause (s : Setup) (q : Query Expr) : Rendering :=
  clause "\nwhere " (q.filter.map s.expr)

def delete (s : Setup) (q : Query Expr) : Rendering :=
  match q.joins with
  | [] => .fail .missingRoot
  | j :: _ => .text "delete from " ++ s.source (s.operand j.target) ++ s.whereClause q

/-- A path and its new value; a constant null is written as a word. -/
def assignment (s : Setup) (a : Path × Expr) : Rendering :=
  let value := match a.2.value? with
    | some .null => .text "null"
    | _ => s.expr a.2
  (s.pathOperand a.1).render ++ .text " = " ++ value

def update (s : Setup) (q : Query Expr) (assignments : List (Path × Expr)) : Rendering :=
  match q.joins with
  | [] => .fail .missingRoot
  | j :: _ =>
      if assignments.isEmpty then .fail (.invalidArgument .noAssignments)
      else
        .text "update " ++ s.source (s.operand j.target) ++
          .text "\nset " ++ .commas (assignments.map s.assignment) ++ s.whereClause q

/-- The bare name of a column of the root's table. -/
def column (s : Setup) (root : Path) (p : Path) : Rendering :=
  match p.name? with
  | some name =>
      .text (s.profile.quoteIdent ((s.metamodel.column? root.type name).getD name))
  | none => .fail (.invalidArgument .unnamedColumn)

/-- Columns in parentheses behind a text, nothing for no columns. -/
def columns (s : Setup) (before : String) (root : Path) (ps : List Path) : Rendering :=
  if ps.isEmpty then .empty
  else (Rendering.commas (ps.map (s.column root))).between before ")"

def rowSource (s : Setup) : RowSource → Rendering
  | .rows rows =>
      if rows.isEmpty then .fail (.invalidArgument .noRows)
      else .text "\nvalues " ++
        .commas (rows.map fun row ↦ (Rendering.commas (row.map s.expr)).parenthesized)
  | .query q => .text "\n" ++ s.query (s.queryOperands q) false none

def insert (s : Setup) (root : Path) (columns : List Path) (source : RowSource) : Rendering :=
  match s.profile.family with
  | .jpql => .fail (.unsupported .insert s.profile.name)
  | .sql =>
      .text ("insert into " ++ s.table root.type) ++ s.columns " (" root columns ++
        s.rowSource source

def merge (s : Setup) (root : Path) (keys columns : List Path) (source : RowSource) : Rendering :=
  if s.profile.capabilities.nativeMerge then
    .text ("merge into " ++ s.table root.type) ++ s.columns " (" root columns ++
      s.columns "\nkey (" root keys ++ s.rowSource source
  else .fail (.unsupported .merge s.profile.name)

end Setup

end TypedQuery
