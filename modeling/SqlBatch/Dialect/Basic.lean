import SqlBatch.Text
import SqlBatch.Calendar.Text
import SqlBatch.Number.Numeral
import SqlBatch.Transaction

/-!
# Dialects

A dialect is the set of choices in which engines differ. Every choice but the name has a standard
answer, so a dialect is written down as what it does differently.
-/
namespace SqlBatch

/-- How rows are limited and skipped. -/
inductive Paging
  /-- `OFFSET n ROWS FETCH FIRST m ROWS ONLY` -/
  | fetchFirst
  /-- `SELECT TOP m` -/
  | top
  /-- `LIMIT m OFFSET n` -/
  | limit
  /-- `LIMIT n, m` -/
  | limitWithOffset
  /-- A surrounding query filters on `ROW_NUMBER() OVER (...)`. -/
  | rowNumber
  /-- A surrounding query filters on `ROWNUM`. -/
  | rowNumberAutomatic
  deriving DecidableEq

/-- How statements that change rows hand them back. -/
inductive OutputStyle
  | none
  /-- `OUTPUT INSERTED.c` before the source of the rows -/
  | output
  /-- `RETURNING c` at the end -/
  | returning
  deriving DecidableEq

/-- A text between single quotes, in which each single quote is doubled. -/
def singleQuoted (s : String) : String :=
  String.ofList ('\'' :: doubled '\'' s.toList ++ ['\''])

structure Dialect where
  name : String
  quotes : Option QuotePair := some ⟨'"', '"'⟩
  quoteIdentifier : String → String := Identifier.quote quotes
  /-- The placeholder of the parameter with a given ordinal, counted from 1. -/
  parameterName : Nat → String := fun ordinal => "@P" ++ toString ordinal
  terminator : String := ";"
  formatString : String → String := singleQuoted
  formatBool : Bool → String := fun b => if b then "TRUE" else "FALSE"
  formatDate : Date → String := fun d => "DATE '" ++ d.text ++ "'"
  formatTimestamp : Timestamp → String := fun t => "TIMESTAMP '" ++ t.text ++ "'"
  formatType : DataType → String := DataType.sql
  concatOperator : String := "||"
  paging : Paging := .limit
  supportsOffset : Bool := true
  /-- The row count that stands for all rows where an offset needs a limit before it. -/
  unboundedLimit : Option String := none
  outputStyle : OutputStyle := .none
  beginTransaction : TransactionOptions → Layout :=
    TransactionSyntax.beginning .startTransaction name
  commit : Layout := TransactionSyntax.commit .startTransaction
  rollback : Layout := TransactionSyntax.rollback .startTransaction

namespace Dialect

def literal (d : Dialect) : Constant → String
  | .null => "NULL"
  | .bool b => d.formatBool b
  | .int n => toString n
  | .float x => x.numeral
  | .date date => d.formatDate date
  | .timestamp t => d.formatTimestamp t
  | .string s => d.formatString s

def unsupported (d : Dialect) (feature : String) : Error := .unsupportedFeature d.name feature

/-- Identifiers are written verbatim; all else is standard. -/
def generic : Dialect where
  name := "generic"
  quotes := none

end Dialect
end SqlBatch
