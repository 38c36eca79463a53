import SqlBatch.Layout

/-!
# Transactions

The options of a transaction and the three ways in which engines spell its beginning and its end.
-/
namespace SqlBatch

inductive IsolationLevel
  | readUncommitted
  | readCommitted
  | repeatableRead
  | serializable
  | snapshot
  deriving DecidableEq

def IsolationLevel.sql : IsolationLevel → String
  | readUncommitted => "READ UNCOMMITTED"
  | readCommitted => "READ COMMITTED"
  | repeatableRead => "REPEATABLE READ"
  | serializable => "SERIALIZABLE"
  | snapshot => "SNAPSHOT"

/-- Without a level the engine's own default holds. -/
structure TransactionOptions where
  isolation : Option IsolationLevel := none
  readOnly : Bool := false
  deriving DecidableEq

inductive TransactionSyntax
  /-- `START TRANSACTION ISOLATION LEVEL x, READ ONLY` -/
  | startTransaction
  /-- `BEGIN ISOLATION LEVEL x READ ONLY` -/
  | beginWithModes
  /-- `SET TRANSACTION ISOLATION LEVEL x` and then `BEGIN TRANSACTION` -/
  | setThenBegin
  deriving DecidableEq

namespace TransactionSyntax

def startLayout (dialect : String) (options : TransactionOptions) : Layout :=
  if options.isolation = some .snapshot then
    .failure (.unsupportedFeature dialect "SNAPSHOT isolation")
  else
    let level := options.isolation.toList.map fun level => "ISOLATION LEVEL " ++ level.sql
    let modes := level ++ if options.readOnly then ["READ ONLY"] else []
    .text "START TRANSACTION" ::
      (if modes.isEmpty then [] else [.text " ", .text (", ".intercalate modes)]) ++ [.terminator]

def beginLayout (dialect : String) (options : TransactionOptions) : Layout :=
  if options.isolation = some .snapshot then
    .failure (.unsupportedFeature dialect "SNAPSHOT isolation")
  else
    .text "BEGIN" ::
      Layout.clause " ISOLATION LEVEL " (options.isolation.map fun level => [.text level.sql]) ++
      (if options.readOnly then [.text " READ ONLY"] else []) ++ [.terminator]

def setLayout (dialect : String) (options : TransactionOptions) : Layout :=
  if options.readOnly then .failure (.unsupportedFeature dialect "read-only transactions")
  else
    Layout.clause "SET TRANSACTION ISOLATION LEVEL "
        (options.isolation.map fun level => [.text level.sql, .terminator, .text "\n"]) ++
      [.text "BEGIN TRANSACTION", .terminator]

/-- The statements that begin a transaction, for a dialect of the given name. -/
def beginning (form : TransactionSyntax) : String → TransactionOptions → Layout :=
  match form with
  | startTransaction => startLayout
  | beginWithModes => beginLayout
  | setThenBegin => setLayout

def commit : TransactionSyntax → Layout
  | setThenBegin => [.text "COMMIT TRANSACTION", .terminator]
  | _ => [.text "COMMIT", .terminator]

def rollback : TransactionSyntax → Layout
  | setThenBegin => [.text "ROLLBACK TRANSACTION", .terminator]
  | _ => [.text "ROLLBACK", .terminator]

end TransactionSyntax
end SqlBatch
