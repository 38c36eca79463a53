import SqlBatch.Dialect.Custom

/-!
# The SQLite dialect

Placeholders carry a number so that statements can share them, types fall together on the storage
classes, and dates are texts.
-/
namespace SqlBatch

/-- The storage class that stands for a type. -/
def DataType.storageClass : DataType → String
  | smallint | integer | bigint | boolean => "INTEGER"
  | real | double => "REAL"
  | decimal .. => "NUMERIC"
  | char _ | varchar _ | text | date | time | timestamp => "TEXT"
  | blob | varbinary _ => "BLOB"
  | custom name => name

namespace Dialect

/-- Transactions are always serializable and never read-only. -/
def sqliteBegin (options : TransactionOptions) : Layout :=
  if options.readOnly then .failure (.unsupportedFeature "sqlite" "read-only transactions")
  else if options.isolation = none ∨ options.isolation = some .serializable then
    [.text "BEGIN", .terminator]
  else .failure (.unsupportedFeature "sqlite" "isolation levels other than SERIALIZABLE")

def sqlite : Dialect where
  name := "sqlite"
  parameterName ordinal := "?" ++ toString ordinal
  formatBool := numericBool
  formatDate d := "'" ++ d.text ++ "'"
  formatTimestamp t := "'" ++ t.text ++ "'"
  formatType := DataType.storageClass
  unboundedLimit := some "-1"
  outputStyle := .returning
  beginTransaction := sqliteBegin

end Dialect
end SqlBatch
