import SqlBatch.Statement.Basic
import SqlBatch.Tree.Layout

/-!
# Layouts of statements

Every statement but the beginning and the end of a transaction, which the dialect spells, is laid
out as its text and then the end of a statement. An element is anything that can be rendered by
itself, from a single value to several statements.
-/
namespace SqlBatch

/-! ### Rows handed back -/

/-- The output clause in front of the source of the rows; a dialect without any fails here. -/
def outputClause (d : Dialect) (columns : List String) (source : String) : Layout :=
  if columns.isEmpty then []
  else match d.outputStyle with
    | .none => Layout.failure (d.unsupported "OUTPUT/RETURNING clauses")
    | .output =>
      .text "\nOUTPUT " ::
        Layout.separated ", " (columns.map ([.text source, .text ".", .identifier ·]))
    | .returning => []

def returningClause (d : Dialect) (columns : List String) : Layout :=
  if columns.isEmpty || d.outputStyle ≠ .returning then []
  else .text "\nRETURNING " :: Layout.identifiers columns

/-! ### Changes to rows -/

namespace Insert

/-- The rows one after another. A row whose width is not that of the column list fails before
anything of it is written. -/
def rowsLayout (d : Dialect) (width : Nat) : (index : Nat) → List (List Expr) → Layout
  | _, [] => []
  | index, row :: rest =>
    (if width ≠ 0 ∧ row.length ≠ width then
      Layout.failure (.invalidElement "INSERT" ("row " ++ toString (index + 1) ++ " has " ++
        toString row.length ++ " values for " ++ toString width ++ " columns"))
    else []) ++
    (if index = 0 then [] else [.text ", "]) ++
    Layout.parenthesized (Layout.separated ", " (Expr.layouts d row)) ++
    rowsLayout d width (index + 1) rest

def sourceLayout (d : Dialect) (columns : List String) : InsertSource → Layout
  | .values [] =>
    if columns.isEmpty then [.text "\nDEFAULT VALUES"]
    else Layout.failure (.missingElement "INSERT" "VALUES rows")
  | .values rows => .text "\nVALUES " :: rowsLayout d columns.length 0 rows
  | .query q => .text "\n" :: q.layout d
  | .defaults =>
    if columns.isEmpty then [.text "\nDEFAULT VALUES"]
    else Layout.failure (.invalidElement "INSERT" "DEFAULT VALUES takes no column list")

def layout (d : Dialect) (s : Insert) : Layout :=
  match s.table with
  | none => Layout.failure (.missingElement "INSERT" "target table")
  | some table =>
    .text "INSERT INTO " :: .identifier table ::
      (if s.columns.isEmpty then []
        else .text " " :: Layout.parenthesized (Layout.identifiers s.columns)) ++
      outputClause d s.returning "INSERTED" ++ sourceLayout d s.columns s.source ++
      returningClause d s.returning

end Insert

def whereClause (d : Dialect) (filter : Option Condition) : Layout :=
  Layout.clause "\nWHERE " (Condition.layout? d filter)

def Assignment.layout (d : Dialect) (a : Assignment) : Layout :=
  .identifier a.column :: .text " = " :: a.value.layout d

def Update.layout (d : Dialect) (s : Update) : Layout :=
  match s.table with
  | none => Layout.failure (.missingElement "UPDATE" "target table")
  | some table =>
    if s.assignments.isEmpty then Layout.failure (.missingElement "UPDATE" "SET assignments")
    else
      .text "UPDATE " :: .identifier table :: .text "\nSET " ::
        Layout.separated ", " (s.assignments.map (Assignment.layout d)) ++
        outputClause d s.returning "INSERTED" ++ whereClause d s.filter ++
        returningClause d s.returning

def Delete.layout (d : Dialect) (s : Delete) : Layout :=
  match s.table with
  | none => Layout.failure (.missingElement "DELETE" "target table")
  | some table =>
    .text "DELETE FROM " :: .identifier table ::
      outputClause d s.returning "DELETED" ++ whereClause d s.filter ++
      returningClause d s.returning

/-! ### Compounds and tables -/

def Compound.layout (d : Dialect) (s : Compound) : Layout :=
  if s.members.length < 2 then
    Layout.failure (.invalidElement s.operator.keyword
      ("needs at least two members, found " ++ toString s.members.length))
  else
    Layout.separated ("\n" ++ s.operator.keyword ++ "\n") (s.members.map (Select.layout d))

def ColumnDefinition.layout (d : Dialect) (c : ColumnDefinition) : Layout :=
  .identifier c.name :: .text " " :: .text (d.formatType c.dataType) ::
    (if c.primaryKey then [.text " PRIMARY KEY"]
      else if c.nullable then [] else [.text " NOT NULL"]) ++
    (if c.unique && !c.primaryKey then [.text " UNIQUE"] else []) ++
    Layout.clause " DEFAULT " (c.default.map ([.literal ·]))

def CreateTable.layout (d : Dialect) (s : CreateTable) : Layout :=
  if s.columns.isEmpty then
    Layout.failure (.missingElement "CREATE TABLE" "column definitions")
  else
    .text "CREATE TABLE " :: (if s.ifNotExists then [.text "IF NOT EXISTS "] else []) ++
      .identifier s.name :: .text " " ::
      Layout.parenthesized (Layout.separated ", " (s.columns.map (ColumnDefinition.layout d)))

def DropTable.layout (s : DropTable) : Layout :=
  .text "DROP TABLE " :: (if s.ifExists then [.text "IF EXISTS "] else []) ++ [.identifier s.name]

namespace Statement

def layout (d : Dialect) : Statement → Layout
  | .select q => q.layout d ++ [.terminator]
  | .insert s => s.layout d ++ [.terminator]
  | .update s => s.layout d ++ [.terminator]
  | .delete s => s.layout d ++ [.terminator]
  | .compound s => s.layout d ++ [.terminator]
  | .createTable s => s.layout d ++ [.terminator]
  | .dropTable s => s.layout ++ [.terminator]
  | .begin options => d.beginTransaction options
  | .commit => d.commit
  | .rollback => d.rollback
  | .raw sql => [.text sql, .terminator]

/-- Statements one after another, each on lines of its own. -/
def script (d : Dialect) (statements : List Statement) : Layout :=
  Layout.separated "\n" (statements.map (layout d))

end Statement

/-! ### Elements -/

inductive Element
  | expr (e : Expr)
  | condition (c : Condition)
  | statement (s : Statement)
  | item (i : SelectItem)
  | sortKey (k : SortKey)
  | table (t : TableRef)
  | join (j : Join)
  | column (c : ColumnRef)
  | columnDefinition (c : ColumnDefinition)
  | value (v : Value)
  | constant (c : Constant)
  /-- Statements that are queued and run as one. -/
  | statements (ss : List Statement)

def Element.layout (d : Dialect) : Element → Layout
  | .expr e => e.layout d
  | .condition c => c.layout d
  | .statement s => s.layout d
  | .item i => i.layout d
  | .sortKey k => k.layout d
  | .table t => t.layout d
  | .join j => j.layout d
  | .column c => c.layout
  | .columnDefinition c => c.layout d
  | .value v => [.placeholder v]
  | .constant c => [.literal c]
  | .statements ss => Statement.script d ss

end SqlBatch
