import SqlBatch.Statement.Layout
import SqlBatch.Store.Basic

/-!
# Commands

A command is a list of statements that are rendered into one text, with numbers of its own, and
run at once.
-/
namespace SqlBatch

structure Command where
  dialect : Dialect
  statements : List Statement := []

/-- What a run brought about: the requests made, in order, and the result. -/
structure CommandRun (α : Type) where
  calls : List StoreCall
  result : Attempt α

namespace Command

def render (c : Command) : Except Error Rendered :=
  if c.statements.isEmpty then .error (.missingElement "command" "statements")
  else (Statement.script c.dialect c.statements).render c.dialect

/-- Hands the text to a store; a text that does not render never gets there. -/
def run {α : Type} (c : Command) (kind : CallKind) (ask : Rendered → Attempt α) : CommandRun α :=
  match c.render with
  | .error e => ⟨[], .finished (.error e)⟩
  | .ok request => ⟨[⟨kind, request⟩], ask request⟩

def execute (c : Command) (store : Store) : CommandRun UInt64 := c.run .execute store.execute

def query (c : Command) (store : Store) : CommandRun (List RowSet) := c.run .query store.query

/-- Processes the rows of the last statement. -/
def process {α : Type} (c : Command) (store : Store) (processor : Processor α) : CommandRun α :=
  c.run .query fun request =>
    match store.query request with
    | .finished (.ok sets) => processor (sets.getLast?.getD {})
    | .finished (.error e) => .finished (.error e)
    | .aborted => .aborted

end Command
end SqlBatch
