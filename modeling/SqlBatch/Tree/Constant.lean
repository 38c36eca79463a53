import SqlBatch.Value.Basic

/-!
# Constants and their types

The semantic types of columns and casts with their standard names, and the literals that are written
into the text itself instead of being bound.
-/
namespace SqlBatch

inductive DataType
  | smallint
  | integer
  | bigint
  | real
  | double
  | decimal (precision scale : Option UInt16)
  | char (length : Option UInt32)
  | varchar (length : Option UInt32)
  | text
  | blob
  | varbinary (length : Option UInt32)
  | date
  | time
  | timestamp
  | boolean
  /-- A type known to one engine only, by its name there. -/
  | custom (name : String)
  deriving DecidableEq

namespace DataType

def sized (name : String) : Option UInt32 → String
  | some length => name ++ "(" ++ toString length ++ ")"
  | none => name

/-- A decimal without a precision has no scale either. -/
def sql : DataType → String
  | smallint => "SMALLINT"
  | integer => "INTEGER"
  | bigint => "BIGINT"
  | real => "REAL"
  | double => "DOUBLE PRECISION"
  | decimal (some precision) (some scale) =>
    "DECIMAL(" ++ toString precision ++ ", " ++ toString scale ++ ")"
  | decimal (some precision) none => "DECIMAL(" ++ toString precision ++ ")"
  | decimal none _ => "DECIMAL"
  | char length => sized "CHAR" length
  | varchar length => sized "VARCHAR" length
  | text => "TEXT"
  | blob => "BLOB"
  | varbinary length => sized "VARBINARY" length
  | date => "DATE"
  | time => "TIME"
  | timestamp => "TIMESTAMP"
  | boolean => "BOOLEAN"
  | custom name => name

/-- The type of a value; a null has none. -/
def ofValue? : SqlValue → Option DataType
  | .null => none
  | .bool _ => some boolean
  | .int _ => some bigint
  | .float _ => some double
  | .text _ => some text
  | .blob _ => some blob
  | .date _ => some date
  | .timestamp _ => some timestamp

end DataType

/-! ### Constants -/

inductive Constant
  | null
  | bool (b : Bool)
  | int (n : Int64)
  | float (x : Binary64)
  | date (d : Date)
  | timestamp (t : Timestamp)
  /-- A text from a trusted place: its quotes are doubled and nothing else is checked. -/
  | string (s : String)
  deriving DecidableEq

namespace Constant

def dataType? : Constant → Option DataType
  | null => none
  | bool _ => some .boolean
  | int _ => some .bigint
  | float _ => some .double
  | date _ => some .date
  | timestamp _ => some .timestamp
  | string _ => some .text

/-- Equal as literals: doubles are compared as numbers. -/
def agrees : Constant → Constant → Bool
  | float x, float y => x.agrees y
  | c, d => c = d

end Constant
end SqlBatch
