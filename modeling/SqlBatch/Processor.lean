import SqlBatch.Rows

/-!
# Processors

A processor makes of one set of rows what the caller asked for. Those shipped here answer or fail;
a caller's own may also break off without either.
-/
namespace SqlBatch

/-- What comes of code that belongs to somebody else. -/
inductive Attempt (α : Type)
  | finished (result : Except Error α)
  /-- It broke off without a result. -/
  | aborted

abbrev Processor (α : Type) := RowSet → Attempt α

/-- How a name is compared with the names of columns. -/
inductive NameMatching
  | exact
  | ignoringCase
  deriving DecidableEq

def Row.readNamed {α : Type} (convert : SqlValue → Except ConversionFault α)
    (matching : NameMatching) (row : Row) (name : String) : Except Error α :=
  match matching with
  | .exact => row.read convert (.name name)
  | .ignoringCase => row.readIgnoringCase convert name

/-- Makes a value of one row. -/
abbrev RowReader (α : Type) := Row → Except Error α

namespace RowReader

/-- Reads the columns from a position on, whatever they are called. -/
def positionsFrom {α : Type} (position : Nat) :
    List (SqlValue → Except ConversionFault α) → RowReader (List α)
  | [], _ => .ok []
  | convert :: rest, row => do
    let first ← row.read convert (.ordinal position)
    let others ← positionsFrom (position + 1) rest row
    .ok (first :: others)

def positions {α : Type} (converts : List (SqlValue → Except ConversionFault α)) :
    RowReader (List α) :=
  positionsFrom 0 converts

def named {α : Type} (matching : NameMatching) :
    List (String × (SqlValue → Except ConversionFault α)) → RowReader (List α)
  | [], _ => .ok []
  | (name, convert) :: rest, row => do
    let first ← row.readNamed convert matching name
    let others ← named matching rest row
    .ok (first :: others)

end RowReader

namespace RowSet

def firstRow (set : RowSet) : Except Error Row :=
  match set.rows.head? with
  | some row => .ok row
  | none => .error (.processor "expected at least one row")

/-- The first column of the first row. -/
def scalar {α : Type} (convert : SqlValue → Except ConversionFault α) (set : RowSet) :
    Except Error α :=
  match set.rows.head? with
  | some row => row.read convert (.ordinal 0)
  | none => .error (.processor "expected a scalar, got no rows")

/-- Every row read in turn; the first row that cannot be read decides the error. -/
def list {α : Type} (read : RowReader α) (set : RowSet) : Except Error (List α) :=
  set.rows.mapM read

end RowSet
end SqlBatch
