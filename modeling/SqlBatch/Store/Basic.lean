import SqlBatch.Processor
import SqlBatch.Render.Context

/-!
# Stores

A store runs a rendered text. It answers a query with one set of rows for each statement and an
execution with the number of rows changed. Stores for trials answer from a script.
-/
namespace SqlBatch

structure Store where
  query : Rendered → Attempt (List RowSet)
  execute : Rendered → Attempt UInt64

inductive CallKind
  | query
  | execute
  deriving DecidableEq

/-- One request that a store was handed. -/
structure StoreCall where
  kind : CallKind
  request : Rendered
  deriving DecidableEq

/-- The texts of the statements of a request: the pieces between semicolons, without an empty last
one. -/
def statementTexts (sql : String) : List (List Char) :=
  let all := pieces ';' sql.toList
  if all.getLast? = some [] then all.dropLast else all

/-! ### Scripted stores -/

/-- What a store for trials answers. It answers an execution with the rows that its answer to the
query says were changed. -/
inductive StoreScript
  /-- One row for each statement: its place, counted from 1, and its text. -/
  | echo
  | fixed (sets : List RowSet)
  | fail (message : String)
  | abort

namespace StoreScript

def isPadding (c : Char) : Bool := c = ' ' || c = '\t' || c = '\r' || c = '\n'

def trimmed (cs : List Char) : List Char :=
  ((cs.dropWhile isPadding).reverse.dropWhile isPadding).reverse

def echoSet (index : Nat) (text : List Char) : RowSet where
  columns := ["ordinal", "sql"]
  contents := [[.int (Int64.ofNat index), .text (String.ofList (trimmed text))]]
  affected := UInt64.ofNat index

def answer (script : StoreScript) (request : Rendered) : Attempt (List RowSet) :=
  match script with
  | echo =>
    .finished (.ok (((statementTexts request.sql).zipIdx 1).map fun (text, index) =>
      echoSet index text))
  | fixed sets => .finished (.ok sets)
  | fail message => .finished (.error (.executor ("scripted failure: " ++ message)))
  | abort => .aborted

def store (script : StoreScript) : Store where
  query := script.answer
  execute request :=
    match script.answer request with
    | .finished (.ok sets) => .finished (.ok (sets.foldl (fun total set => total + set.affected) 0))
    | .finished (.error e) => .finished (.error e)
    | .aborted => .aborted

end StoreScript
end SqlBatch
