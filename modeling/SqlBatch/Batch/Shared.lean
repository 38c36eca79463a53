import SqlBatch.Batch.Basic
import SqlBatch.Store.Basic

/-!
# Batches that several flights share

A flight is one call that waits for the batch. The latch lets one of them at a time at the batch
and holds it while the store works; the others queue up, and on release it goes straight to the
first of them, even before that one looks at it.
-/
namespace SqlBatch

abbrev FlightId := Nat

inductive Latch (α : Type)
  | free
  /-- Passed on to a flight that has not looked at it since. -/
  | granted (holder : FlightId) (waiting : List FlightId)
  /-- The holder's work is with the store. -/
  | running (holder : FlightId) (work : Work α) (waiting : List FlightId)

/-- A request and what the store made of it. -/
structure Exchange where
  request : Rendered
  reply : Attempt (List RowSet)

structure SharedBatch (α : Type) where
  batch : Batch α
  latch : Latch α := .free
  /-- The requests that the store was handed, in order. One that was given up has no reply. -/
  handed : List Rendered := []
  answered : List Exchange := []

inductive Progress
  | waiting
  /-- Its request is with the store. -/
  | submitted (request : Rendered)
  | returned (outcome : Except Error Unit)

/-- A store that may still be at work. -/
abbrev Responder := Rendered → Option (Attempt (List RowSet))

namespace SharedBatch

variable {α : Type}

/-! ### The latch -/

def passOn : List FlightId → Latch α
  | [] => .free
  | next :: waiting => .granted next waiting

/-- The holder of the latch takes the work of the batch, or leaves at once with the outcome. -/
def acquire (s : SharedBatch α) (flight : FlightId) (waiting : List FlightId) :
    SharedBatch α × Progress :=
  match s.batch.take with
  | (batch, .done outcome) => ({ s with batch, latch := passOn waiting }, .returned outcome)
  | (batch, .run work) =>
    ({ s with
        batch
        latch := .running flight work waiting
        handed := s.handed ++ [work.request] }, .submitted work.request)

def enqueue (flight : FlightId) (waiting : List FlightId) : List FlightId :=
  if flight ∈ waiting then waiting else waiting ++ [flight]

def poll (s : SharedBatch α) (flight : FlightId) : SharedBatch α × Progress :=
  match s.latch with
  | .free => s.acquire flight []
  | .granted holder waiting =>
    if holder = flight then s.acquire flight waiting
    else ({ s with latch := .granted holder (enqueue flight waiting) }, .waiting)
  | .running holder work waiting =>
    if holder = flight then (s, .submitted work.request)
    else ({ s with latch := .running holder work (enqueue flight waiting) }, .waiting)

/-- The store's answer reaches the flight whose work it has. -/
def answer (s : SharedBatch α) (reply : Attempt (List RowSet)) : SharedBatch α × Attempt Unit :=
  match s.latch with
  | .running _ work waiting =>
    let (batch, outcome) := s.batch.complete work reply
    ({ s with
        batch
        latch := passOn waiting
        answered := s.answered ++ [⟨work.request, reply⟩] }, outcome)
  | _ => (s, .finished s.batch.outcome)

def abandon (s : SharedBatch α) (flight : FlightId) : SharedBatch α :=
  match s.latch with
  | .free => s
  | .granted holder waiting =>
    if holder = flight then { s with latch := passOn waiting }
    else { s with latch := .granted holder (waiting.erase flight) }
  | .running holder work waiting =>
    if holder = flight then { s with batch := s.batch.cancel work, latch := passOn waiting }
    else { s with latch := .running holder work (waiting.erase flight) }

/-- Looks after a flight and lets the store answer it if it will; `none` means not yet. -/
def advance (s : SharedBatch α) (store : Responder) (flight : FlightId) :
    SharedBatch α × Option (Attempt Unit) :=
  match s.poll flight with
  | (s, .waiting) => (s, none)
  | (s, .returned outcome) => (s, some (.finished outcome))
  | (s, .submitted request) =>
    match store request with
    | none => (s, none)
    | some reply =>
      let (s, outcome) := s.answer reply
      (s, some outcome)

/-! ### Callers -/

/-- The requests that the store has worked on, in order. -/
def calls (s : SharedBatch α) : List StoreCall := s.answered.map (⟨.query, ·.request⟩)

def isFree (s : SharedBatch α) : Bool :=
  match s.latch with
  | .free => true
  | _ => false

def phase (s : SharedBatch α) : Phase := if s.isFree then s.batch.phase else .executing

def pending (s : SharedBatch α) : Nat :=
  if s.isFree ∧ s.batch.phase = .idle then s.batch.queued else 0

/-- Queues an element and answers with the number of its handle; the latch is not waited for. -/
def register (s : SharedBatch α) (layout : Layout) (processor : Processor α) :
    SharedBatch α × Except Error Nat :=
  if s.isFree then
    let (batch, outcome) := s.batch.register layout processor
    ({ s with batch }, outcome)
  else (s, .error .batchExecuting)

def queue (s : SharedBatch α) (layout : Layout) (processor : Processor α) :
    Except Error (SharedBatch α × Nat) :=
  match s.register layout processor with
  | (after, .ok handle) => .ok (after, handle)
  | (_, .error e) => .error e

/-- An element's own code unwinds out of being queued; the latch is given back on the way. -/
def unwind (s : SharedBatch α) : SharedBatch α :=
  if s.isFree then { s with batch := s.batch.unwind } else s

def readAfter (s : SharedBatch α) (handle : Nat) : Attempt Unit → Attempt α
  | .finished trigger => .finished (s.batch.read handle trigger)
  | .aborted => .aborted

/-- Whether giving up the context now would leave work behind. -/
def hasPendingWork (s : SharedBatch α) : Bool :=
  s.isFree && s.batch.phase = .idle && s.batch.queued ≠ 0

end SharedBatch
end SqlBatch
