import SqlBatch.Render.Draft
import SqlBatch.Tree.Layout

/-!
# Drafts of expressions, conditions and queries

Each query ends its statement; an expression, a condition or a table that holds one nests it.
-/
namespace SqlBatch

/-! ### Pages -/

/-- A query whose clauses are drafted already. -/
structure QueryDraft where
  distinct : Bool
  items : List Draft
  /-- Everything from the source of the rows to the filter on groups. -/
  clauses : Draft
  sortKeys : List Draft
  limit : Option UInt64
  offset : Option UInt64

namespace QueryDraft

/-- The query without anything drafted, which is all that the words of a window depend on. -/
def frame (q : QueryDraft) : QueryParts :=
  { q with items := [], clauses := [], sortKeys := [] }

def projection (q : QueryDraft) : Draft :=
  if q.items.isEmpty then [.text "*"] else Draft.separated ", " q.items

def sorting (q : QueryDraft) : Draft :=
  if q.sortKeys.isEmpty then [] else .text "\nORDER BY " :: Draft.separated ", " q.sortKeys

def body (q : QueryDraft) (top : Option UInt64) : Draft :=
  (q.frame.selectWords top).draft ++ q.projection ++ q.clauses ++ q.sorting

def numberedBody (q : QueryDraft) : Draft :=
  (q.frame.selectWords none).draft ++ q.projection ++
    .text ", ROW_NUMBER() OVER (ORDER BY " ::
      (if q.sortKeys.isEmpty then [.text "(SELECT NULL)"]
        else Draft.separated ", " q.sortKeys) ++
    .text ") AS RowNumber" :: q.clauses

def topDraft (q : QueryDraft) : Draft :=
  if q.offset.isNone then q.body q.limit
  else
    q.body none ++
      if q.sortKeys.isEmpty then
        Draft.failure (.missingElement "SELECT" "ORDER BY for OFFSET paging")
      else q.frame.fetchClause.draft

def rowNumberDraft (q : QueryDraft) : Draft :=
  .text "SELECT * FROM (\n" :: .nested q.numberedBody ::
    .text "\n) AS PagedQuery\nWHERE " :: q.frame.rowNumberBounds.draft ++
    [.text "\nORDER BY RowNumber"]

def rownumDraft (q : QueryDraft) : Draft :=
  match q.limit, q.offset with
  | some limit, none =>
    [.text "SELECT * FROM (\n", .nested (q.body none),
      .text ("\n) PagedQuery\nWHERE ROWNUM <= " ++ toString limit)]
  | limit, offset =>
    let skipped := offset.getD 0
    .text "SELECT * FROM (\nSELECT PagedQuery.*, ROWNUM AS RowNumber FROM (\n" ::
      .nested (q.body none) :: .text "\n) PagedQuery" ::
        (limit.toList.map fun limit =>
          .text ("\nWHERE ROWNUM <= " ++ toString (rowCountSum skipped limit))) ++
      [.text ("\n)\nWHERE RowNumber > " ++ toString skipped)]

def windowed (d : Dialect) (q : QueryDraft) : Draft :=
  if q.offset.isSome && !d.supportsOffset then Draft.failure (d.unsupported "OFFSET")
  else match d.paging with
    | .fetchFirst => q.body none ++ q.frame.fetchClause.draft
    | .top => q.topDraft
    | .limit => q.body none ++ (q.frame.limitClause d.unboundedLimit).draft
    | .limitWithOffset => q.body none ++ q.frame.limitPairClause.draft
    | .rowNumber => if q.frame.hasWindow then q.rowNumberDraft else q.body none
    | .rowNumberAutomatic => if q.frame.hasWindow then q.rownumDraft else q.body none

end QueryDraft

/-! ### Trees -/

def labelledDraft (inner : Draft) (label : Option String) : Draft :=
  inner ++ Draft.clause " AS " (label.map fun name => [.put (.identifier name)])

def Operator.draft (d : Dialect) (op : Operator) (operands : List Draft) : Draft :=
  if op.allows operands.length then
    Draft.separated (" " ++ op.symbolIn d ++ " ") operands
  else
    Draft.failure (.operatorArity op.symbol
      (if op.isVariadic then "at least 2" else "exactly 2") operands.length)

def Junction.draft (junction : Junction) (members : List Draft) : Draft :=
  if members.isEmpty then
    [.text (match junction with
      | .all => "1 = 1"
      | .any => "1 = 0")]
  else Draft.separated (" " ++ junction.keyword ++ " ") members

mutual

def Expr.draft (d : Dialect) : Expr → Draft
  | .column c => c.layout.draft
  | .value v => [.put (.placeholder v)]
  | .constant c => [.put (.literal c)]
  | .wildcard table =>
    (match table with
      | some table => [.put (.identifier table), .text "."]
      | none => []) ++ [.text "*"]
  | .operation op operands => op.draft d (Expr.operandDrafts d operands)
  | .negate e => .text "-" :: Draft.parenthesizedIf e.isOperation (Expr.draft d e)
  | .call function arguments distinct =>
    .text function :: .text "(" :: (if distinct then [.text "DISTINCT "] else []) ++
      Draft.separated ", " (Expr.drafts d arguments) ++ [.text ")"]
  | .cast e target =>
    match target.or e.inferredType? with
    | some dataType =>
      .text "CAST(" :: Expr.draft d e ++
        [.text " AS ", .text (d.formatType dataType), .text ")"]
    | none => Draft.failure (.missingElement "CAST" "target type")
  | .case branches otherwise =>
    if branches.isEmpty then Draft.failure (.missingElement "CASE" "WHEN branch")
    else
      .text "CASE" :: (WhenBranch.drafts d branches).flatten ++
        Draft.clause " ELSE " (Expr.draft? d otherwise) ++ [.text " END"]
  | .subquery q => Draft.parenthesized [.nested (Select.draft d q)]
  | .raw sql => [.text sql]

def Expr.operandDrafts (d : Dialect) : List Expr → List Draft
  | [] => []
  | e :: rest =>
    Draft.parenthesizedIf e.isOperation (Expr.draft d e) :: Expr.operandDrafts d rest

def Expr.drafts (d : Dialect) : List Expr → List Draft
  | [] => []
  | e :: rest => Expr.draft d e :: Expr.drafts d rest

def Expr.draft? (d : Dialect) : Option Expr → Option Draft
  | none => none
  | some e => some (Expr.draft d e)

def WhenBranch.draft (d : Dialect) : WhenBranch → Draft
  | ⟨condition, result⟩ =>
    .text " WHEN " :: Condition.draft d condition ++ .text " THEN " :: Expr.draft d result

def WhenBranch.drafts (d : Dialect) : List WhenBranch → List Draft
  | [] => []
  | branch :: rest => WhenBranch.draft d branch :: WhenBranch.drafts d rest

def Condition.draft (d : Dialect) : Condition → Draft
  | .compare left op right =>
    Expr.draft d left ++ .text (" " ++ op.symbol ++ " ") :: Expr.draft d right
  | .isNull e negated =>
    Expr.draft d e ++ [.text (if negated then " IS NOT NULL" else " IS NULL")]
  | .between e low high negated =>
    Expr.draft d e ++ .text " " :: (negation negated).draft ++ .text "BETWEEN " ::
      Expr.draft d low ++ .text " AND " :: Expr.draft d high
  | .inList e items negated =>
    if items.isEmpty then Draft.failure (.invalidElement "IN" "value list is empty")
    else
      Expr.draft d e ++ .text " " :: (negation negated).draft ++ .text "IN " ::
        Draft.parenthesized (Draft.separated ", " (Expr.drafts d items))
  | .inQuery e q negated =>
    Expr.draft d e ++ .text " " :: (negation negated).draft ++ .text "IN " ::
      Draft.parenthesized [.nested (Select.draft d q)]
  | .like e pattern negated =>
    Expr.draft d e ++ .text " " :: (negation negated).draft ++ .text "LIKE " ::
      Expr.draft d pattern
  | .existsIn q negated =>
    (negation negated).draft ++ .text "EXISTS " ::
      Draft.parenthesized [.nested (Select.draft d q)]
  | .not c => .text "NOT " :: Draft.parenthesized (Condition.draft d c)
  | .pair left right junction nested =>
    Draft.parenthesizedIf nested (junction.draft
      [Draft.parenthesizedIf (left.needsParentheses junction) (Condition.draft d left),
        Draft.parenthesizedIf (right.needsParentheses junction) (Condition.draft d right)])
  | .group members junction nested =>
    Draft.parenthesizedIf nested (junction.draft (Condition.memberDrafts d junction members))
  | .raw sql => [.text sql]

def Condition.memberDrafts (d : Dialect) (parent : Junction) : List Condition → List Draft
  | [] => []
  | c :: rest =>
    Draft.parenthesizedIf (c.needsParentheses parent) (Condition.draft d c) ::
      Condition.memberDrafts d parent rest

def Condition.draft? (d : Dialect) : Option Condition → Option Draft
  | none => none
  | some c => some (Condition.draft d c)

def SelectItem.draft (d : Dialect) : SelectItem → Draft
  | ⟨e, label⟩ => labelledDraft (Expr.draft d e) label

def SelectItem.drafts (d : Dialect) : List SelectItem → List Draft
  | [] => []
  | item :: rest => SelectItem.draft d item :: SelectItem.drafts d rest

def SortKey.draft (d : Dialect) : SortKey → Draft
  | ⟨e, direction⟩ =>
    Expr.draft d e ++ Draft.clause " " (direction.map ([.text ·.keyword]))

def SortKey.drafts (d : Dialect) : List SortKey → List Draft
  | [] => []
  | key :: rest => SortKey.draft d key :: SortKey.drafts d rest

def TableRef.draft (d : Dialect) : TableRef → Draft
  | .named name label => labelledDraft [.put (.identifier name)] label
  | .derived q label =>
    labelledDraft (Draft.parenthesized [.nested (Select.draft d q)]) (some label)

def TableRef.draft? (d : Dialect) : Option TableRef → Option Draft
  | none => none
  | some table => some (TableRef.draft d table)

def Join.draft (d : Dialect) : Join → Draft
  | ⟨kind, table, condition⟩ =>
    .text kind.keyword :: .text " " :: TableRef.draft d table ++
      match Condition.draft? d condition with
      | some condition => .text " ON " :: condition
      | none =>
        if kind = .cross then [] else Draft.failure (.missingElement "JOIN" "ON condition")

def Join.drafts (d : Dialect) : List Join → List Draft
  | [] => []
  | join :: rest => (.text "\n" :: Join.draft d join) :: Join.drafts d rest

def Select.draft (d : Dialect) : Select → Draft
  | ⟨distinct, items, source, joins, filter, groupBy, having, sortKeys, limit, offset⟩ =>
    QueryDraft.windowed d
      { distinct, limit, offset
        items := SelectItem.drafts d items
        clauses :=
          Draft.clause "\nFROM " (TableRef.draft? d source) ++
            (Join.drafts d joins).flatten ++
            Draft.clause "\nWHERE " (Condition.draft? d filter) ++
            (if groupBy.isEmpty then []
              else .text "\nGROUP BY " :: Draft.separated ", " (Expr.drafts d groupBy)) ++
            Draft.clause "\nHAVING " (Condition.draft? d having)
        sortKeys := SortKey.drafts d sortKeys } ++
      [.put .terminator]

end

end SqlBatch
