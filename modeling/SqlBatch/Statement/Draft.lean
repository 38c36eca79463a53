import SqlBatch.Statement.Layout
import SqlBatch.Tree.Draft

/-!
# Drafts of statements

Every statement ends itself. The members of a compound are joined in a mode of several statements,
and the query that feeds an insertion is nested.
-/
namespace SqlBatch

namespace Insert

def rowsDraft (d : Dialect) (width : Nat) : (index : Nat) → List (List Expr) → Draft
  | _, [] => []
  | index, row :: rest =>
    (if width ≠ 0 ∧ row.length ≠ width then
      Draft.failure (.invalidElement "INSERT" ("row " ++ toString (index + 1) ++ " has " ++
        toString row.length ++ " values for " ++ toString width ++ " columns"))
    else []) ++
    (if index = 0 then [] else [.text ", "]) ++
    Draft.parenthesized (Draft.separated ", " (Expr.drafts d row)) ++
    rowsDraft d width (index + 1) rest

def sourceDraft (d : Dialect) (columns : List String) : InsertSource → Draft
  | .values [] =>
    if columns.isEmpty then [.text "\nDEFAULT VALUES"]
    else Draft.failure (.missingElement "INSERT" "VALUES rows")
  | .values rows => .text "\nVALUES " :: rowsDraft d columns.length 0 rows
  | .query q => [.text "\n", .nested (q.draft d)]
  | .defaults =>
    if columns.isEmpty then [.text "\nDEFAULT VALUES"]
    else Draft.failure (.invalidElement "INSERT" "DEFAULT VALUES takes no column list")

def draft (d : Dialect) (s : Insert) : Draft :=
  (match s.table with
    | none => Draft.failure (.missingElement "INSERT" "target table")
    | some table =>
      .text "INSERT INTO " :: .put (.identifier table) ::
        (if s.columns.isEmpty then []
          else .text " " :: Draft.parenthesized (Layout.identifiers s.columns).draft) ++
        (outputClause d s.returning "INSERTED").draft ++ sourceDraft d s.columns s.source ++
        (returningClause d s.returning).draft) ++
    [.put .terminator]

end Insert

def whereDraft (d : Dialect) (filter : Option Condition) : Draft :=
  Draft.clause "\nWHERE " (Condition.draft? d filter)

def Assignment.draft (d : Dialect) (a : Assignment) : Draft :=
  .put (.identifier a.column) :: .text " = " :: a.value.draft d

def Update.draft (d : Dialect) (s : Update) : Draft :=
  (match s.table with
    | none => Draft.failure (.missingElement "UPDATE" "target table")
    | some table =>
      if s.assignments.isEmpty then Draft.failure (.missingElement "UPDATE" "SET assignments")
      else
        .text "UPDATE " :: .put (.identifier table) :: .text "\nSET " ::
          Draft.separated ", " (s.assignments.map (Assignment.draft d)) ++
          (outputClause d s.returning "INSERTED").draft ++ whereDraft d s.filter ++
          (returningClause d s.returning).draft) ++
    [.put .terminator]

def Delete.draft (d : Dialect) (s : Delete) : Draft :=
  (match s.table with
    | none => Draft.failure (.missingElement "DELETE" "target table")
    | some table =>
      .text "DELETE FROM " :: .put (.identifier table) ::
        (outputClause d s.returning "DELETED").draft ++ whereDraft d s.filter ++
        (returningClause d s.returning).draft) ++
    [.put .terminator]

def Compound.draft (d : Dialect) (s : Compound) : Draft :=
  (if s.members.length < 2 then
    Draft.failure (.invalidElement s.operator.keyword
      ("needs at least two members, found " ++ toString s.members.length))
  else
    [.scoped .multiStatement nofun
      (Draft.separated ("\n" ++ s.operator.keyword ++ "\n") (s.members.map (Select.draft d)))]) ++
    [.put .terminator]

def Statement.draft (d : Dialect) : Statement → Draft
  | .select q => q.draft d
  | .insert s => s.draft d
  | .update s => s.draft d
  | .delete s => s.draft d
  | .compound s => s.draft d
  | .createTable s => (s.layout d).draft ++ [.put .terminator]
  | .dropTable s => s.layout.draft ++ [.put .terminator]
  | .begin options => (d.beginTransaction options).draft
  | .commit => d.commit.draft
  | .rollback => d.rollback.draft
  | .raw sql => [.text sql, .put .terminator]

def Element.draft (d : Dialect) : Element → Draft
  | .expr e => e.draft d
  | .condition c => c.draft d
  | .statement s => s.draft d
  | .item i => i.draft d
  | .sortKey k => k.draft d
  | .table t => t.draft d
  | .join j => j.draft d
  | .column c => c.layout.draft
  | .columnDefinition c => (c.layout d).draft
  | .value v => [.put (.placeholder v)]
  | .constant c => [.put (.literal c)]
  | .statements ss => Draft.separated "\n" (ss.map (Statement.draft d))

end SqlBatch
