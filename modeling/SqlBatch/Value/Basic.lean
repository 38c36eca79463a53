import SqlBatch.Number.Binary64
import SqlBatch.Calendar.Date

/-!
# Values

What a statement binds and what a row holds. Equality of values is equality of their content, bit
for bit; `SqlValue.agrees` compares doubles as numbers.
-/
namespace SqlBatch

local instance decidableEqBytes : DecidableEq ByteArray := ByteArray.instDecidableEq

inductive SqlValue
  | null
  | bool (b : Bool)
  | int (n : Int64)
  | float (x : Binary64)
  | text (s : String)
  | blob (bytes : ByteArray)
  | date (d : Date)
  | timestamp (t : Timestamp)
  deriving DecidableEq

namespace SqlValue

def isNull : SqlValue → Bool
  | null => true
  | _ => false

def kind : SqlValue → String
  | null => "null"
  | bool _ => "bool"
  | int _ => "integer"
  | float _ => "float"
  | text _ => "text"
  | blob _ => "blob"
  | date _ => "date"
  | timestamp _ => "timestamp"

def agrees : SqlValue → SqlValue → Bool
  | float x, float y => x.agrees y
  | x, y => x = y

end SqlValue

/-! ### Bound values -/

/-- A value as it stands in a tree. It is known by its key together with its content: two values
made under different keys stay apart even when they hold the same thing. -/
structure Value where
  key : Nat
  content : SqlValue
  deriving DecidableEq

end SqlBatch
