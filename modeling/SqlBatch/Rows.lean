import SqlBatch.Error
import SqlBatch.Value.Host

/-!
# Rows

What a store hands back for one statement: rows under named columns, and how many rows it changed.
A column is found by its position or by the first name that fits.
-/
namespace SqlBatch

structure Row where
  columns : List String
  values : List SqlValue
  deriving DecidableEq

structure RowSet where
  columns : List String := []
  /-- The values of each row, as many as there are columns. -/
  contents : List (List SqlValue) := []
  affected : UInt64 := 0
  deriving DecidableEq

inductive ColumnIndex
  | ordinal (n : Nat)
  | name (s : String)
  deriving DecidableEq

def ColumnIndex.describe : ColumnIndex → String
  | ordinal n => "#" ++ toString n
  | name s => s

def ColumnIndex.position? (columns : List String) : ColumnIndex → Option Nat
  | ordinal n => if n < columns.length then some n else none
  | name s => columns.findIdx? (· = s)

/-- Equal but for the case of ASCII letters. -/
def sameIgnoringCase (s t : String) : Bool := s.toList.map Char.toLower = t.toList.map Char.toLower

namespace Row

def value? (row : Row) (index : ColumnIndex) : Option SqlValue :=
  (index.position? row.columns).bind (row.values[·]?)

/-- Reads a column through a conversion; errors name the column as it was asked for. -/
def read {α : Type} (convert : SqlValue → Except ConversionFault α) (row : Row)
    (index : ColumnIndex) : Except Error α :=
  match row.value? index with
  | none => .error (.column index.describe "no such column")
  | some value => (convert value).mapError fun fault => .column index.describe fault.message

/-- Reads the first column whose name fits but for case, by its position. -/
def readIgnoringCase {α : Type} (convert : SqlValue → Except ConversionFault α) (row : Row)
    (name : String) : Except Error α :=
  match row.columns.findIdx? (sameIgnoringCase · name) with
  | some position => row.read convert (.ordinal position)
  | none => .error (.column name "no such column")

def get {α : Type} [FromSql α] (row : Row) (index : ColumnIndex) : Except Error α :=
  row.read fromSql index

end Row

namespace RowSet

def rows (set : RowSet) : List Row := set.contents.map (⟨set.columns, ·⟩)

def push (set : RowSet) (values : List SqlValue) : Except Error RowSet :=
  if values.length = set.columns.length then
    .ok { set with contents := set.contents ++ [values] }
  else
    .error (.column ("#" ++ toString values.length) ("row has " ++ toString values.length ++
      " values for " ++ toString set.columns.length ++ " columns"))

/-- Equal with doubles compared as numbers. -/
def agrees (a b : RowSet) : Bool :=
  a.columns = b.columns && a.contents.length = b.contents.length &&
    (a.contents.zip b.contents).all (fun (r, s) =>
      r.length = s.length && (r.zip s).all fun (x, y) => x.agrees y) &&
    a.affected = b.affected

end RowSet
end SqlBatch
