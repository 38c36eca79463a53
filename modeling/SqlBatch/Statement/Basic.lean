import SqlBatch.Transaction
import SqlBatch.Tree.Builder

/-!
# Statements

What a text is made of at the top: queries, changes to rows and to tables, and transactions.
-/
namespace SqlBatch

/-! ### Rows -/

inductive InsertSource
  | values (rows : List (List Expr))
  | query (q : Select)
  /-- One row of the columns' defaults. -/
  | defaults

structure Insert where
  table : Option String := none
  columns : List String := []
  source : InsertSource := .values []
  returning : List String := []

structure Assignment where
  column : String
  value : Expr

structure Update where
  table : Option String := none
  assignments : List Assignment := []
  filter : Option Condition := none
  returning : List String := []

structure Delete where
  table : Option String := none
  filter : Option Condition := none
  returning : List String := []

/-- A further row joins the rows that are there and takes the place of any other source. -/
def Insert.withRow (s : Insert) (row : List Expr) : Insert :=
  match s.source with
  | .values rows => { s with source := .values (rows ++ [row]) }
  | _ => { s with source := .values [row] }

def Update.withAssignment (s : Update) (assignment : Assignment) : Update :=
  { s with assignments := s.assignments ++ [assignment] }

def Update.filtered (s : Update) (condition : Condition) : Update :=
  { s with filter := Condition.narrow s.filter condition }

def Delete.filtered (s : Delete) (condition : Condition) : Delete :=
  { s with filter := Condition.narrow s.filter condition }

/-! ### Compounds -/

inductive SetOperator
  | union
  | unionAll
  | intersect
  | except
  deriving DecidableEq

def SetOperator.keyword : SetOperator → String
  | union => "UNION"
  | unionAll => "UNION ALL"
  | intersect => "INTERSECT"
  | except => "EXCEPT"

structure Compound where
  operator : SetOperator
  members : List Select

/-! ### Tables -/

structure ColumnDefinition where
  name : String
  dataType : DataType
  nullable : Bool := true
  default : Option Constant := none
  primaryKey : Bool := false
  unique : Bool := false

/-- A primary key is never null. -/
def ColumnDefinition.asPrimaryKey (c : ColumnDefinition) : ColumnDefinition :=
  { c with primaryKey := true, nullable := false }

structure CreateTable where
  name : String
  columns : List ColumnDefinition := []
  ifNotExists : Bool := false

structure DropTable where
  name : String
  ifExists : Bool := false
  deriving DecidableEq

inductive Statement
  | select (q : Select)
  | insert (s : Insert)
  | update (s : Update)
  | delete (s : Delete)
  | compound (s : Compound)
  | createTable (s : CreateTable)
  | dropTable (s : DropTable)
  | begin (options : TransactionOptions)
  | commit
  | rollback
  | raw (sql : String)

end SqlBatch
