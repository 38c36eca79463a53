import SqlBatch.Value.Basic
import SqlBatch.Calendar.Reading

/-!
# Values of the host language

`ToSql` turns a host value into what is bound, and `FromSql` reads one back. Reading is more
generous than writing: stores without booleans, blobs or dates keep them as numbers and texts.
-/
namespace SqlBatch

class ToSql (α : Type) where
  toSql : α → SqlValue

export ToSql (toSql)

instance : ToSql SqlValue := ⟨id⟩
instance : ToSql Bool := ⟨.bool⟩
instance : ToSql Int64 := ⟨.int⟩
instance : ToSql Int32 := ⟨fun n => .int n.toInt64⟩
instance : ToSql Int16 := ⟨fun n => .int n.toInt64⟩
instance : ToSql UInt32 := ⟨fun n => .int (Int64.ofNat n.toNat)⟩
instance : ToSql UInt16 := ⟨fun n => .int (Int64.ofNat n.toNat)⟩
instance : ToSql UInt8 := ⟨fun n => .int (Int64.ofNat n.toNat)⟩
instance : ToSql Binary64 := ⟨.float⟩
instance : ToSql Binary32 := ⟨fun x => .float (.ofSingle x)⟩
instance : ToSql String := ⟨.text⟩
instance : ToSql ByteArray := ⟨.blob⟩
instance : ToSql Date := ⟨.date⟩
instance : ToSql Timestamp := ⟨.timestamp⟩

instance {α : Type} [ToSql α] : ToSql (Option α) where
  toSql
    | some a => toSql a
    | none => .null

/-! ### Reading back -/

/-- Why a value is not of the type asked for. -/
inductive ConversionFault
  | wrongKind (expected : String) (found : SqlValue)
  | tooWide (n : Int64)
  | negative (n : Int64)
  | unreadableDate (text : String) (fault : CalendarFault)
  | unreadableTimestamp (text : String) (fault : CalendarFault)
  /-- What a type of the caller's own has to say. -/
  | described (reason : String)
  deriving DecidableEq

def ConversionFault.message : ConversionFault → String
  | wrongKind expected found => "expected " ++ expected ++ ", found " ++ found.kind
  | tooWide n => "integer " ++ toString n ++ " does not fit in i32"
  | negative n => "integer " ++ toString n ++ " is negative"
  | unreadableDate text fault => "invalid date `" ++ text ++ "`: " ++ fault.message
  | unreadableTimestamp text fault => "invalid timestamp `" ++ text ++ "`: " ++ fault.message
  | described reason => reason

class FromSql (α : Type) where
  fromSql : SqlValue → Except ConversionFault α

export FromSql (fromSql)

namespace SqlValue

def asInt : SqlValue → Except ConversionFault Int64
  | int n => .ok n
  | bool b => .ok (if b then 1 else 0)
  | other => .error (.wrongKind "integer" other)

end SqlValue

instance : FromSql SqlValue := ⟨.ok⟩

instance : FromSql Int64 := ⟨SqlValue.asInt⟩

instance : FromSql Int32 where
  fromSql value := do
    let n ← value.asInt
    if Int32.minValue.toInt ≤ n.toInt ∧ n.toInt ≤ Int32.maxValue.toInt then .ok n.toInt32
    else .error (.tooWide n)

instance : FromSql UInt64 where
  fromSql value := do
    let n ← value.asInt
    if n < 0 then .error (.negative n) else .ok n.toUInt64

instance : FromSql Binary64 where
  fromSql
    | .float x => .ok x
    | .int n => .ok (.ofInt n)
    | other => .error (.wrongKind "float" other)

instance : FromSql Bool where
  fromSql
    | .bool b => .ok b
    | .int n => if n = 0 then .ok false else if n = 1 then .ok true
      else .error (.wrongKind "bool" (.int n))
    | other => .error (.wrongKind "bool" other)

instance : FromSql String where
  fromSql
    | .text s => .ok s
    | other => .error (.wrongKind "text" other)

instance : FromSql ByteArray where
  fromSql
    | .blob bytes => .ok bytes
    | .text s => .ok s.toUTF8
    | other => .error (.wrongKind "blob" other)

instance : FromSql Date where
  fromSql
    | .date d => .ok d
    | .text s => (Date.read s).mapError (.unreadableDate s)
    | other => .error (.wrongKind "date" other)

instance : FromSql Timestamp where
  fromSql
    | .timestamp t => .ok t
    | .text s => (Timestamp.read s).mapError (.unreadableTimestamp s)
    | other => .error (.wrongKind "timestamp" other)

instance {α : Type} [FromSql α] : FromSql (Option α) where
  fromSql value := if value.isNull then .ok none else (fromSql value).map some

end SqlBatch
