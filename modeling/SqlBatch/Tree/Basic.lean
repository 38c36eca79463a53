import SqlBatch.Tree.Constant

/-!
# Queries as trees

Expressions, conditions and queries contain one another: a query can stand inside an expression or
a condition, and is built from both.
-/
namespace SqlBatch

inductive Operator
  | add
  | sub
  | mul
  | div
  | mod
  | concat
  deriving DecidableEq

namespace Operator

def symbol : Operator → String
  | add => "+"
  | sub => "-"
  | mul => "*"
  | div => "/"
  | mod => "%"
  | concat => "||"

/-- Operators that are not associative take exactly two operands. -/
def isVariadic : Operator → Bool
  | add | mul | concat => true
  | sub | div | mod => false

def allows (op : Operator) (operands : Nat) : Bool :=
  if op.isVariadic then 2 ≤ operands else operands = 2

end Operator

inductive Comparison
  | eq
  | ne
  | lt
  | le
  | gt
  | ge
  deriving DecidableEq

def Comparison.symbol : Comparison → String
  | eq => "="
  | ne => "<>"
  | lt => "<"
  | le => "<="
  | gt => ">"
  | ge => ">="

/-- How the members of a group of conditions are joined. -/
inductive Junction
  | all
  | any
  deriving DecidableEq

def Junction.keyword : Junction → String
  | all => "AND"
  | any => "OR"

inductive JoinKind
  | inner
  | left
  | right
  | full
  | cross
  deriving DecidableEq

def JoinKind.keyword : JoinKind → String
  | inner => "INNER JOIN"
  | left => "LEFT JOIN"
  | right => "RIGHT JOIN"
  | full => "FULL JOIN"
  | cross => "CROSS JOIN"

inductive SortDirection
  | ascending
  | descending
  deriving DecidableEq

def SortDirection.keyword : SortDirection → String
  | ascending => "ASC"
  | descending => "DESC"

structure ColumnRef where
  table : Option String := none
  name : String
  deriving DecidableEq

mutual

inductive Expr
  | column (c : ColumnRef)
  | value (v : Value)
  | constant (c : Constant)
  /-- All columns, of one table or of all. -/
  | wildcard (table : Option String)
  | operation (op : Operator) (operands : List Expr)
  | negate (e : Expr)
  | call (function : String) (arguments : List Expr) (distinct : Bool)
  /-- A conversion; without a target it goes to the type of the value that stands in it. -/
  | cast (e : Expr) (target : Option DataType)
  | case (branches : List WhenBranch) (otherwise : Option Expr)
  | subquery (q : Select)
  | raw (sql : String)

inductive Condition
  | compare (left : Expr) (op : Comparison) (right : Expr)
  | isNull (e : Expr) (negated : Bool)
  | between (e low high : Expr) (negated : Bool)
  | inList (e : Expr) (items : List Expr) (negated : Bool)
  | inQuery (e : Expr) (q : Select) (negated : Bool)
  | like (e pattern : Expr) (negated : Bool)
  | existsIn (q : Select) (negated : Bool)
  | not (c : Condition)
  /-- Two conditions; `nested` asks for parentheses around them. -/
  | pair (left right : Condition) (junction : Junction) (nested : Bool)
  /-- Any number of conditions; with none of them it is true for `all` and false for `any`. -/
  | group (members : List Condition) (junction : Junction) (nested : Bool)
  | raw (sql : String)

structure WhenBranch where
  condition : Condition
  result : Expr

structure SelectItem where
  expr : Expr
  label : Option String := none

structure SortKey where
  expr : Expr
  direction : Option SortDirection := none

inductive TableRef
  | named (name : String) (label : Option String)
  | derived (q : Select) (label : String)

structure Join where
  kind : JoinKind
  table : TableRef
  condition : Option Condition := none

structure Select where
  distinct : Bool := false
  items : List SelectItem := []
  source : Option TableRef := none
  joins : List Join := []
  filter : Option Condition := none
  groupBy : List Expr := []
  having : Option Condition := none
  sortKeys : List SortKey := []
  limit : Option UInt64 := none
  offset : Option UInt64 := none

end

end SqlBatch
