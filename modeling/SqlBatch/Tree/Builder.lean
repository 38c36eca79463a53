import SqlBatch.Error
import SqlBatch.Tree.Basic

/-!
# Building trees

The combinators that statements are written with. Joining onto a group keeps what was there: a
second filter narrows the first, and a sum that is added to grows by an operand.
-/
namespace SqlBatch

namespace ColumnRef

/-- A name is qualified by what stands before its last dot. -/
def splitLastDot : List Char → Option (List Char × List Char)
  | [] => none
  | c :: rest =>
    match splitLastDot rest with
    | some (table, name) => some (c :: table, name)
    | none => if c = '.' then some ([], rest) else none

def ofName (name : String) : ColumnRef :=
  match splitLastDot name.toList with
  | some (table, column) => ⟨some (String.ofList table), String.ofList column⟩
  | none => ⟨none, name⟩

end ColumnRef

namespace Expr

def col (name : String) : Expr := .column (.ofName name)

/-- The kind of an expression, as errors name it. -/
def kind : Expr → String
  | column _ => "column"
  | value _ => "value"
  | constant _ => "constant"
  | wildcard _ => "wildcard"
  | operation .. => "operation"
  | negate _ => "negation"
  | call .. => "function"
  | cast .. => "cast"
  | case .. => "case"
  | subquery _ => "subquery"
  | raw _ => "raw"

/-- Applies an operator; an operation of the same operator on the left takes the new operand in
when it may have more than two. -/
def chain (op : Operator) (left right : Expr) : Expr :=
  match left with
  | .operation leftOp operands =>
    if leftOp = op ∧ op.isVariadic then .operation op (operands ++ [right])
    else .operation op [left, right]
  | _ => .operation op [left, right]

/-- The bound value that an expression is. -/
def boundValue (e : Expr) : Except Error Value :=
  match e with
  | .value v => .ok v
  | other => .error (.parameterMisuse other.kind)

/-- The type that a cast without a target goes to. -/
def inferredType? : Expr → Option DataType
  | .value v => DataType.ofValue? v.content
  | .constant c => c.dataType?
  | _ => none

end Expr

namespace Condition

def and (left right : Condition) : Condition := .pair left right .all false

def or (left right : Condition) : Condition := .pair left right .any false

/-- Asks for parentheses around a pair or a group; other conditions never need them. -/
def nested : Condition → Condition
  | .pair left right junction _ => .pair left right junction true
  | .group members junction _ => .group members junction true
  | other => other

/-- The junction of a pair or a group that has no parentheses of its own. -/
def openJunction? : Condition → Option Junction
  | .pair _ _ junction false => some junction
  | .group _ junction false => some junction
  | _ => none

/-- A further condition on what a filter lets through already. -/
def narrow (filter : Option Condition) (condition : Condition) : Option Condition :=
  match filter with
  | some earlier => some (earlier.and condition)
  | none => some condition

end Condition

namespace TableRef

def table (name : String) : TableRef := .named name none

end TableRef

namespace Select

def withItems (q : Select) (items : List SelectItem) : Select :=
  { q with items := q.items ++ items }

def withJoin (q : Select) (join : Join) : Select := { q with joins := q.joins ++ [join] }

def filtered (q : Select) (condition : Condition) : Select :=
  { q with filter := Condition.narrow q.filter condition }

def groupedBy (q : Select) (key : Expr) : Select := { q with groupBy := q.groupBy ++ [key] }

def sortedBy (q : Select) (key : SortKey) : Select := { q with sortKeys := q.sortKeys ++ [key] }

end Select
end SqlBatch
