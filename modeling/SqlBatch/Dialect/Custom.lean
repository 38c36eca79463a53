import SqlBatch.Dialect.Basic

/-!
# Dialects by configuration

A configured dialect is fully described by nine settings.
-/
namespace SqlBatch

inductive BooleanLiterals
  | keywords
  | numeric
  deriving DecidableEq

structure DialectConfig where
  name : String := "custom"
  identifierQuote : Option QuotePair := some ⟨'"', '"'⟩
  parameterPrefix : String := "@P"
  paging : Paging := .limit
  supportsOffset : Bool := true
  outputStyle : OutputStyle := .none
  booleanLiterals : BooleanLiterals := .keywords
  transactionSyntax : TransactionSyntax := .startTransaction
  concatOperator : String := "||"
  deriving DecidableEq

def numericBool (b : Bool) : String := if b then "1" else "0"

namespace Dialect

def custom (config : DialectConfig) : Dialect where
  name := config.name
  quotes := config.identifierQuote
  parameterName ordinal := config.parameterPrefix ++ toString ordinal
  formatBool := match config.booleanLiterals with
    | .keywords => fun b => if b then "TRUE" else "FALSE"
    | .numeric => numericBool
  concatOperator := config.concatOperator
  paging := config.paging
  supportsOffset := config.supportsOffset
  outputStyle := config.outputStyle
  beginTransaction := config.transactionSyntax.beginning config.name
  commit := config.transactionSyntax.commit
  rollback := config.transactionSyntax.rollback

end Dialect
end SqlBatch
