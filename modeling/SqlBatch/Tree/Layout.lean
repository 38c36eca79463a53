import SqlBatch.Paging
import SqlBatch.Tree.Builder

/-!
# Layouts of expressions, conditions and queries

A query inside another text is laid out without the end of a statement. Operations and groups of
conditions get the parentheses that keep them from being read with their neighbours.
-/
namespace SqlBatch

def negation (negated : Bool) : Layout := if negated then [.text "NOT "] else []

/-- The alias of a column or a table. -/
def labelled (inner : Layout) (label : Option String) : Layout :=
  inner ++ Layout.clause " AS " (label.map ([.identifier ·]))

def ColumnRef.layout (c : ColumnRef) : Layout :=
  (match c.table with
    | some table => [.identifier table, .text "."]
    | none => []) ++ [.identifier c.name]

def Operator.symbolIn (d : Dialect) : Operator → String
  | .concat => d.concatOperator
  | op => op.symbol

/-- An operation between operands that are laid out already; it fails on a wrong number of
them before anything is written. -/
def Operator.layout (d : Dialect) (op : Operator) (operands : List Layout) : Layout :=
  if op.allows operands.length then
    Layout.separated (" " ++ op.symbolIn d ++ " ") operands
  else
    Layout.failure (.operatorArity op.symbol
      (if op.isVariadic then "at least 2" else "exactly 2") operands.length)

def Expr.isOperation : Expr → Bool
  | .operation .. => true
  | _ => false

/-- The members of a group joined by its junction; an empty group is a condition of its own. -/
def Junction.layout (junction : Junction) (members : List Layout) : Layout :=
  if members.isEmpty then
    [.text (match junction with
      | .all => "1 = 1"
      | .any => "1 = 0")]
  else Layout.separated (" " ++ junction.keyword ++ " ") members

/-- A member that is joined otherwise than the group around it needs parentheses, unless it has
some of its own. -/
def Condition.needsParentheses (parent : Junction) (member : Condition) : Bool :=
  match member.openJunction? with
  | some junction => junction ≠ parent
  | none => false

mutual

def Expr.layout (d : Dialect) : Expr → Layout
  | .column c => c.layout
  | .value v => [.placeholder v]
  | .constant c => [.literal c]
  | .wildcard table =>
    (match table with
      | some table => [.identifier table, .text "."]
      | none => []) ++ [.text "*"]
  | .operation op operands => op.layout d (Expr.operandLayouts d operands)
  | .negate e => .text "-" :: Layout.parenthesizedIf e.isOperation (Expr.layout d e)
  | .call function arguments distinct =>
    .text function :: .text "(" :: (if distinct then [.text "DISTINCT "] else []) ++
      Layout.separated ", " (Expr.layouts d arguments) ++ [.text ")"]
  | .cast e target =>
    match target.or e.inferredType? with
    | some dataType =>
      .text "CAST(" :: Expr.layout d e ++
        [.text " AS ", .text (d.formatType dataType), .text ")"]
    | none => Layout.failure (.missingElement "CAST" "target type")
  | .case branches otherwise =>
    if branches.isEmpty then Layout.failure (.missingElement "CASE" "WHEN branch")
    else
      .text "CASE" :: (WhenBranch.layouts d branches).flatten ++
        Layout.clause " ELSE " (Expr.layout? d otherwise) ++ [.text " END"]
  | .subquery q => Layout.parenthesized (Select.layout d q)
  | .raw sql => [.text sql]

/-- The operands of an operation, other operations among them in parentheses. -/
def Expr.operandLayouts (d : Dialect) : List Expr → List Layout
  | [] => []
  | e :: rest =>
    Layout.parenthesizedIf e.isOperation (Expr.layout d e) :: Expr.operandLayouts d rest

def Expr.layouts (d : Dialect) : List Expr → List Layout
  | [] => []
  | e :: rest => Expr.layout d e :: Expr.layouts d rest

def Expr.layout? (d : Dialect) : Option Expr → Option Layout
  | none => none
  | some e => some (Expr.layout d e)

def WhenBranch.layout (d : Dialect) : WhenBranch → Layout
  | ⟨condition, result⟩ =>
    .text " WHEN " :: Condition.layout d condition ++ .text " THEN " :: Expr.layout d result

def WhenBranch.layouts (d : Dialect) : List WhenBranch → List Layout
  | [] => []
  | branch :: rest => WhenBranch.layout d branch :: WhenBranch.layouts d rest

def Condition.layout (d : Dialect) : Condition → Layout
  | .compare left op right =>
    Expr.layout d left ++ .text (" " ++ op.symbol ++ " ") :: Expr.layout d right
  | .isNull e negated =>
    Expr.layout d e ++ [.text (if negated then " IS NOT NULL" else " IS NULL")]
  | .between e low high negated =>
    Expr.layout d e ++ .text " " :: negation negated ++ .text "BETWEEN " :: Expr.layout d low ++
      .text " AND " :: Expr.layout d high
  | .inList e items negated =>
    if items.isEmpty then Layout.failure (.invalidElement "IN" "value list is empty")
    else
      Expr.layout d e ++ .text " " :: negation negated ++ .text "IN " ::
        Layout.parenthesized (Layout.separated ", " (Expr.layouts d items))
  | .inQuery e q negated =>
    Expr.layout d e ++ .text " " :: negation negated ++ .text "IN " ::
      Layout.parenthesized (Select.layout d q)
  | .like e pattern negated =>
    Expr.layout d e ++ .text " " :: negation negated ++ .text "LIKE " :: Expr.layout d pattern
  | .existsIn q negated =>
    negation negated ++ .text "EXISTS " :: Layout.parenthesized (Select.layout d q)
  | .not c => .text "NOT " :: Layout.parenthesized (Condition.layout d c)
  | .pair left right junction nested =>
    Layout.parenthesizedIf nested (junction.layout
      [Layout.parenthesizedIf (left.needsParentheses junction) (Condition.layout d left),
        Layout.parenthesizedIf (right.needsParentheses junction) (Condition.layout d right)])
  | .group members junction nested =>
    Layout.parenthesizedIf nested (junction.layout (Condition.memberLayouts d junction members))
  | .raw sql => [.text sql]

/-- The members of a group with the parentheses that they need there. -/
def Condition.memberLayouts (d : Dialect) (parent : Junction) : List Condition → List Layout
  | [] => []
  | c :: rest =>
    Layout.parenthesizedIf (c.needsParentheses parent) (Condition.layout d c) ::
      Condition.memberLayouts d parent rest

def Condition.layout? (d : Dialect) : Option Condition → Option Layout
  | none => none
  | some c => some (Condition.layout d c)

def SelectItem.layout (d : Dialect) : SelectItem → Layout
  | ⟨e, label⟩ => labelled (Expr.layout d e) label

def SelectItem.layouts (d : Dialect) : List SelectItem → List Layout
  | [] => []
  | item :: rest => SelectItem.layout d item :: SelectItem.layouts d rest

def SortKey.layout (d : Dialect) : SortKey → Layout
  | ⟨e, direction⟩ =>
    Expr.layout d e ++ Layout.clause " " (direction.map ([.text ·.keyword]))

def SortKey.layouts (d : Dialect) : List SortKey → List Layout
  | [] => []
  | key :: rest => SortKey.layout d key :: SortKey.layouts d rest

def TableRef.layout (d : Dialect) : TableRef → Layout
  | .named name label => labelled [.identifier name] label
  | .derived q label => labelled (Layout.parenthesized (Select.layout d q)) (some label)

def TableRef.layout? (d : Dialect) : Option TableRef → Option Layout
  | none => none
  | some table => some (TableRef.layout d table)

/-- Only a cross join goes without a condition. -/
def Join.layout (d : Dialect) : Join → Layout
  | ⟨kind, table, condition⟩ =>
    .text kind.keyword :: .text " " :: TableRef.layout d table ++
      match Condition.layout? d condition with
      | some condition => .text " ON " :: condition
      | none =>
        if kind = .cross then [] else Layout.failure (.missingElement "JOIN" "ON condition")

def Join.layouts (d : Dialect) : List Join → List Layout
  | [] => []
  | join :: rest => (.text "\n" :: Join.layout d join) :: Join.layouts d rest

/-- A query without the end of a statement, which the mode of a text around it leaves out. -/
def Select.layout (d : Dialect) : Select → Layout
  | ⟨distinct, items, source, joins, filter, groupBy, having, sortKeys, limit, offset⟩ =>
    QueryParts.layout d
      { distinct, limit, offset
        items := SelectItem.layouts d items
        clauses :=
          Layout.clause "\nFROM " (TableRef.layout? d source) ++
            (Join.layouts d joins).flatten ++
            Layout.clause "\nWHERE " (Condition.layout? d filter) ++
            (if groupBy.isEmpty then []
              else .text "\nGROUP BY " :: Layout.separated ", " (Expr.layouts d groupBy)) ++
            Layout.clause "\nHAVING " (Condition.layout? d having)
        sortKeys := SortKey.layouts d sortKeys }

end

end SqlBatch
