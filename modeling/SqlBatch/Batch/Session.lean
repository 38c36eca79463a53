import SqlBatch.Batch.Shared

/-!
# Sessions with a batch

Everything a caller can do with one batch, from queueing statements to giving up the context, as
steps of one state. A call that has to wait is a flight: it is in the air until it returns or is
given up, and is looked after one poll at a time. Flights are numbered in the order in which they
start. Clones of a handle go by the same number.
-/
namespace SqlBatch

inductive BatchAction (α : Type)
  | queue (layout : Layout) (processor : Processor α)
  /-- Runs the batch and waits for the end. -/
  | flush
  | resolve (handle : Nat)
  /-- Runs the batch and gives the context up. -/
  | close
  /-- Gives the context up; work that is left is run first. -/
  | drop
  /-- Gives the context up inside a runtime, for which work that is left becomes a flight. -/
  | dropSpawning
  /-- Gives the context up inside a runtime that looks after that flight once and then ends. -/
  | dropInRuntime
  | poll (flight : FlightId)
  | cancel (flight : FlightId)

namespace BatchAction

variable {α : Type}

/-- A call that is polled by hand starts like any other. -/
def startFlush : BatchAction α := .flush

def startResolve (handle : Nat) : BatchAction α := .resolve handle

end BatchAction

inductive BatchResponse (α : Type)
  | pending
  | outcome (attempt : Attempt Unit)
  | value (attempt : Attempt α)

def BatchResponse.accepted {α : Type} : BatchResponse α := .outcome (.finished (.ok ()))

/-- What a flight does in the end. -/
inductive Purpose
  | flush
  | read (handle : Nat)
  /-- Holds the context, which goes with it. -/
  | close
  /-- Runs what a context left behind; only an abort is reported. -/
  | dispose
  deriving DecidableEq

/-- What a flight says when its trigger has come to an end. -/
def Purpose.response {α : Type} (purpose : Purpose) (shared : SharedBatch α) (attempt : Attempt Unit) :
    BatchResponse α :=
  match purpose with
  | .flush | .close => .outcome attempt
  | .read handle => .value (shared.readAfter handle attempt)
  | .dispose =>
    match attempt with
    | .finished _ => .accepted
    | .aborted => .outcome .aborted

structure Flight where
  id : FlightId
  purpose : Purpose
  deriving DecidableEq

structure BatchSession (α : Type) where
  shared : SharedBatch α
  /-- Whether the context has not been given up. -/
  present : Bool := true
  /-- The calls that wait, in the order in which they started. -/
  flights : List Flight := []
  nextFlight : FlightId := 0

namespace BatchSession

variable {α : Type}

/-- Puts a new flight into the air. -/
def start (s : BatchSession α) (purpose : Purpose) : BatchSession α :=
  { s with
    flights := s.flights ++ [⟨s.nextFlight, purpose⟩]
    nextFlight := s.nextFlight + 1 }

/-- A flight that has returned or is given up is in the air no more. -/
def land (s : BatchSession α) (flight : FlightId) : BatchSession α :=
  { s with flights := s.flights.filter (·.id ≠ flight) }

/-- Looks after a flight, which lands if it returns. -/
def attend (s : BatchSession α) (store : Responder) (flight : Flight) :
    BatchSession α × BatchResponse α :=
  match s.shared.advance store flight.id with
  | (shared, none) => ({ s with shared }, .pending)
  | (shared, some attempt) =>
    ({ s with shared }.land flight.id, flight.purpose.response shared attempt)

/-- Starts a flight and looks after it for the first time. -/
def launch (s : BatchSession α) (store : Responder) (purpose : Purpose) :
    BatchSession α × BatchResponse α :=
  (s.start purpose).attend store ⟨s.nextFlight, purpose⟩

/-- Gives the context up; work that is left is run first. -/
def drop (s : BatchSession α) (store : Responder) : BatchSession α × BatchResponse α :=
  let gone := { s with present := false }
  if s.shared.hasPendingWork then gone.launch store .dispose else (gone, .accepted)

/-- What becomes of the context when a flight has come to an end. -/
def afterFlight (s : BatchSession α) (store : Responder) (purpose : Purpose) : BatchSession α :=
  if purpose = .close then (s.drop store).1 else s

/-- Reads a handle, running the batch only if the handle has no result yet. -/
def resolve (s : BatchSession α) (store : Responder) (handle : Nat) :
    BatchSession α × BatchResponse α :=
  match s.shared.batch.result? handle with
  | some result => ({ s with nextFlight := s.nextFlight + 1 }, .value (.finished result))
  | none => s.launch store (.read handle)

/-- Looks after a flight, and after the context if that goes with it. -/
def look (s : BatchSession α) (store : Responder) (flight : Flight) :
    BatchSession α × BatchResponse α :=
  match s.attend store flight with
  | (s, .pending) => (s, .pending)
  | (s, response) => (s.afterFlight store flight.purpose, response)

def close (s : BatchSession α) (store : Responder) : BatchSession α × BatchResponse α :=
  ({ s with present := false }.start .close).look store ⟨s.nextFlight, .close⟩

def poll (s : BatchSession α) (store : Responder) (flight : FlightId) :
    BatchSession α × BatchResponse α :=
  match s.flights.find? (·.id = flight) with
  | none => (s, .pending)
  | some found => s.look store found

def cancel (s : BatchSession α) (store : Responder) (flight : FlightId) : BatchSession α :=
  match s.flights.find? (·.id = flight) with
  | none => s
  | some found =>
    ({ s with shared := s.shared.abandon flight }.land flight).afterFlight store found.purpose

def dropSpawning (s : BatchSession α) : BatchSession α :=
  let gone := { s with present := false }
  if s.shared.hasPendingWork then gone.start .dispose else gone

def step (s : BatchSession α) (store : Responder) : BatchAction α → BatchSession α × BatchResponse α
  | .queue layout processor =>
    match s.shared.register layout processor with
    | (shared, .ok _) => ({ s with shared }, .accepted)
    | (shared, .error e) => ({ s with shared }, .outcome (.finished (.error e)))
  | .flush => s.launch store .flush
  | .resolve handle => s.resolve store handle
  | .close => s.close store
  | .drop => s.drop store
  | .dropSpawning => (s.dropSpawning, .accepted)
  | .dropInRuntime =>
    ((s.dropSpawning.poll store s.nextFlight).1.cancel store s.nextFlight, .accepted)
  | .poll flight => s.poll store flight
  | .cancel flight => (s.cancel store flight, .accepted)

/-- Gives up every call that waits, in order, and then the context. -/
def finish (s : BatchSession α) (store : Responder) : BatchSession α :=
  let landed := s.flights.foldl (fun s flight => s.cancel store flight.id) s
  if landed.present then (landed.drop store).1 else landed

end BatchSession
end SqlBatch
