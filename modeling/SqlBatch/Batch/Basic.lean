import SqlBatch.Statement.Layout
import SqlBatch.Processor
import SqlBatch.Render.Combine

/-!
# Deferred batches

Statements are queued, each with a processor for its rows, and run together on the first occasion.
A queued statement is known by the number of its handle; `cells` holds what each handle reads.
-/
namespace SqlBatch

inductive Phase
  | idle
  | executing
  | completed
  deriving DecidableEq

/-- Where the rows of an entry go. -/
inductive Delivery (α : Type)
  /-- Nobody waits for the rows of a transaction's beginning and end. -/
  | discard
  | process (handle : Nat) (processor : Processor α)

structure Entry (α : Type) where
  statements : Nat
  delivery : Delivery α

abbrev Cells (α : Type) := List (Option (Except Error α))

/-- One run of a processor: whose it is, and the number of the set that it was given, counting the
sets of the whole answer from 1. -/
structure Processing where
  handle : Nat
  set : Nat
  deriving DecidableEq

structure Batch (α : Type) where
  dialect : Dialect
  transaction : Option TransactionOptions := none
  phase : Phase := .idle
  scope : Scope := {}
  combined : Combined := {}
  entries : List (Entry α) := []
  /-- How many entries callers have queued. -/
  queued : Nat := 0
  failure : Option Error := none
  cells : Cells α := []
  /-- The processors that have been run, in order. -/
  processed : List Processing := []

structure Work (α : Type) where
  request : Rendered
  entries : List (Entry α)

/-! ### Delivery -/

structure Delivered (α : Type) where
  cells : Cells α
  processed : List Processing := []
  /-- How the call that triggered the batch ends. -/
  outcome : Attempt Unit

def Delivered.after {α : Type} (delivered : Delivered α) (first : Processing) : Delivered α :=
  { delivered with processed := first :: delivered.processed }

namespace Entry

variable {α : Type}

def put (entry : Entry α) (cells : Cells α) (result : Except Error α) : Cells α :=
  match entry.delivery with
  | .discard => cells
  | .process handle _ => cells.set handle (some result)

def failEach (entries : List (Entry α)) (e : Error) (cells : Cells α) : Cells α :=
  entries.foldl (fun cells entry => entry.put cells (.error e)) cells

/-- Hands the sets out in the order of the entries: each takes as many as it has statements and
processes the last of them, behind the `taken` sets that went before. A processor that breaks off
leaves its handle without a result and the entries behind it cancelled. -/
def distribute (expected : Nat) :
    (taken : Nat) → List (Entry α) → List RowSet → Cells α → Delivered α
  | _, [], _, cells => { cells, outcome := .finished (.ok ()) }
  | taken, entry :: rest, sets, cells =>
    let last := taken + entry.statements
    let others := sets.drop entry.statements
    match entry.delivery with
    | .discard => distribute expected last rest others cells
    | .process handle processor =>
      match (sets.take entry.statements).getLast? with
      | none =>
        distribute expected last rest others
          (cells.set handle (some (.error (.resultCountMismatch expected expected))))
      | some rows =>
        match processor rows with
        | .finished result =>
          (distribute expected last rest others (cells.set handle (some result))).after
            ⟨handle, last⟩
        | .aborted =>
          { cells := failEach rest .cancelled cells
            processed := [⟨handle, last⟩]
            outcome := .aborted }

end Entry

def Work.deliver {α : Type} (work : Work α) (answer : Attempt (List RowSet)) (cells : Cells α) :
    Delivered α :=
  match answer with
  | .finished (.ok sets) =>
    if sets.length = work.request.statements then
      Entry.distribute work.request.statements 0 work.entries sets cells
    else
      let e := Error.resultCountMismatch work.request.statements sets.length
      { cells := Entry.failEach work.entries e cells, outcome := .finished (.error e) }
  | .finished (.error e) =>
    { cells := Entry.failEach work.entries e cells, outcome := .finished (.error e) }
  | .aborted => { cells := Entry.failEach work.entries .cancelled cells, outcome := .aborted }

/-! ### Queueing -/

namespace Batch

variable {α : Type}

/-- Renders a layout with the numbers of the batch and adds it to the batch's text. A pass that does
not make it into the text gives its numbers back, wherever it goes wrong; the batch that is left
comes along with the outcome. -/
def attach (b : Batch α) (layout : Layout) (delivery : Delivery α) : Batch α × Except Error Unit :=
  let checkpoint := b.scope.issued
  match layout.renderIn b.dialect b.scope with
  | (.error e, scope) => ({ b with scope }, .error e)
  | (.ok rendered, scope) =>
    if rendered.statements = 0 then
      ({ b with scope := scope.rollback checkpoint },
        .error (.invalidElement "deferred batch" "element rendered no terminated statement"))
    else
      match b.combined.append rendered with
      | .error e => ({ b with scope := scope.rollback checkpoint }, .error e)
      | .ok combined =>
        ({ b with scope, combined, entries := b.entries ++ [⟨rendered.statements, delivery⟩] },
          .ok ())

def append (b : Batch α) (layout : Layout) (delivery : Delivery α) : Except Error (Batch α) :=
  match b.attach layout delivery with
  | (after, .ok ()) => .ok after
  | (_, .error e) => .error e

/-- An empty batch; the beginning of its transaction is part of it from the start. -/
def create (d : Dialect) (transaction : Option TransactionOptions) : Except Error (Batch α) :=
  let empty : Batch α := { dialect := d, transaction }
  match transaction with
  | none => .ok empty
  | some options => empty.append (Statement.begin options |>.layout d) .discard

/-- Queues an element and answers with the number of its handle. -/
def register (b : Batch α) (layout : Layout) (processor : Processor α) :
    Batch α × Except Error Nat :=
  match b.phase with
  | .executing => (b, .error .batchExecuting)
  | .completed => (b, .error .batchCompleted)
  | .idle =>
    let handle := b.cells.length
    match b.attach layout (.process handle processor) with
    | (after, .error e) => (after, .error e)
    | (after, .ok ()) =>
      ({ after with queued := after.queued + 1, cells := after.cells ++ [none] }, .ok handle)

def queue (b : Batch α) (layout : Layout) (processor : Processor α) :
    Except Error (Batch α × Nat) :=
  match b.register layout processor with
  | (after, .ok handle) => .ok (after, handle)
  | (_, .error e) => .error e

/-- A call to queue that unwinds out of its rendering. The pass went off with the scope, and only a
pass that comes to an end brings it back. -/
def unwind (b : Batch α) : Batch α :=
  match b.phase with
  | .idle => { b with scope := {} }
  | _ => b

/-! ### Running -/

def finish (b : Batch α) (outcome : Except Error Unit) : Batch α :=
  { b with
    phase := .completed
    failure := match outcome with
      | .error e => some e
      | .ok () => b.failure }

def outcome (b : Batch α) : Except Error Unit :=
  match b.failure with
  | some e => .error e
  | none => .ok ()

inductive Step (α : Type)
  | done (outcome : Except Error Unit)
  | run (work : Work α)

/-- Sends an idle batch on its way, its transaction ended. A batch without queued statements
completes without any work. -/
def take (b : Batch α) : Batch α × Step α :=
  match b.phase with
  | .completed => (b, .done b.outcome)
  | .executing => (b, .done (.error .batchExecuting))
  | .idle =>
    if b.queued = 0 then ({ b with entries := [], phase := .completed }, .done (.ok ()))
    else
      let ended := if b.transaction.isSome then
          b.append (Statement.commit.layout b.dialect) .discard
        else .ok b
      match ended with
      | .error e =>
        let failed := { b with entries := [], cells := Entry.failEach b.entries e b.cells }
        (failed.finish (.error e), .done (.error e))
      | .ok b =>
        ({ b with phase := .executing, combined := {}, entries := [] },
          .run ⟨b.combined.finish, b.entries⟩)

def complete (b : Batch α) (work : Work α) (answer : Attempt (List RowSet)) :
    Batch α × Attempt Unit :=
  let delivered := work.deliver answer b.cells
  let b := { b with
    cells := delivered.cells
    processed := b.processed ++ delivered.processed }
  match delivered.outcome with
  | .finished result => (b.finish result, .finished result)
  | .aborted => (b.finish (.error .cancelled), .aborted)

def cancel (b : Batch α) (work : Work α) : Batch α :=
  { b with cells := Entry.failEach work.entries .cancelled b.cells }.finish (.error .cancelled)

/-! ### Handles -/

def result? (b : Batch α) (handle : Nat) : Option (Except Error α) := (b.cells[handle]?).join

/-- What a handle reads once a trigger has come to an end. -/
def read (b : Batch α) (handle : Nat) (trigger : Except Error Unit) : Except Error α :=
  match b.result? handle with
  | some result => result
  | none => match trigger with
    | .error e => .error e
    | .ok () => .error .cancelled

end Batch
end SqlBatch
