import SqlBatch.Batch.Session

/-!
# Runs of a session

A run is a list of turns: what a caller does, and how the store behaves meanwhile.
`next_shared` reduces what a turn does to the shared batch to three moves of a flight and to
queueing, accepted or refused, so a fact about runs is proved for those.
-/
namespace SqlBatch

variable {α : Type}

/-- One action of a caller, and the store while it lasts. -/
structure Turn (α : Type) where
  action : BatchAction α
  store : Responder

/-- Whether a flight in the air may be given up. -/
def BatchAction.givesUp : BatchAction α → Bool
  | .cancel _ | .dropInRuntime => true
  | _ => false

structure QueueCall (α : Type) where
  layout : Layout
  processor : Processor α

/-! ### The shared batch -/

namespace SharedBatch

/-- What flights and refused calls do to a batch, in any order and number. -/
inductive Progresses : SharedBatch α → SharedBatch α → Prop
  | refl (s : SharedBatch α) : Progresses s s
  | poll {s t : SharedBatch α} (flight : FlightId) :
      Progresses s t → Progresses s (t.poll flight).1
  | answer {s t : SharedBatch α} (reply : Attempt (List RowSet)) :
      Progresses s t → Progresses s (t.answer reply).1
  | abandon {s t : SharedBatch α} (flight : FlightId) :
      Progresses s t → Progresses s (t.abandon flight)
  | refuse {s t after : SharedBatch α} {layout : Layout} {processor : Processor α} {e : Error}
      (refused : t.register layout processor = (after, .error e)) :
      Progresses s t → Progresses s after

theorem Progresses.trans {s t u : SharedBatch α} (first : s.Progresses t) (second : t.Progresses u) :
    s.Progresses u := by
  induction second with
  | refl => exact first
  | poll flight _ ih => exact .poll flight ih
  | answer reply _ ih => exact .answer reply ih
  | abandon flight _ ih => exact .abandon flight ih
  | refuse refused _ ih => exact .refuse refused ih

theorem progresses_advance (s : SharedBatch α) (store : Responder) (flight : FlightId) :
    s.Progresses (s.advance store flight).1 := by
  have polled := Progresses.poll flight (.refl s)
  unfold advance
  split
  · rename_i t found
    simpa only [found] using polled
  · rename_i t outcome found
    simpa only [found] using polled
  · rename_i t request found
    rw [found] at polled
    split
    · exact polled
    · exact .answer _ polled

/-- What flights do to a batch that nobody gives up, with one store. -/
inductive Advances (store : Responder) : SharedBatch α → SharedBatch α → Prop
  | refl (s : SharedBatch α) : Advances store s s
  | advance {s t : SharedBatch α} (flight : FlightId) :
      Advances store s t → Advances store s (t.advance store flight).1

theorem Advances.trans {store : Responder} {s t u : SharedBatch α} (first : s.Advances store t)
    (second : t.Advances store u) : s.Advances store u := by
  induction second with
  | refl => exact first
  | advance flight _ ih => exact .advance flight ih

theorem Advances.progresses {store : Responder} {s t : SharedBatch α}
    (advanced : s.Advances store t) : s.Progresses t := by
  induction advanced with
  | refl => exact .refl s
  | advance flight _ ih => exact ih.trans (progresses_advance _ store flight)

end SharedBatch

/-! ### Sessions -/

namespace BatchSession

variable (s : BatchSession α) (store : Responder)

theorem advances_attend (flight : Flight) :
    s.shared.Advances store (s.attend store flight).1.shared := by
  have advanced : s.shared.Advances store (s.shared.advance store flight.id).1 :=
    .advance flight.id (.refl s.shared)
  unfold attend
  split
  · rename_i shared found
    simpa only [found] using advanced
  · rename_i shared attempt found
    simpa only [land, found] using advanced

theorem advances_launch (purpose : Purpose) :
    s.shared.Advances store (s.launch store purpose).1.shared :=
  (s.start purpose).advances_attend store _

theorem advances_drop : s.shared.Advances store (s.drop store).1.shared := by
  unfold drop
  dsimp only
  split
  · exact advances_launch { s with present := false } store .dispose
  · exact .refl _

theorem advances_afterFlight (purpose : Purpose) :
    s.shared.Advances store (s.afterFlight store purpose).shared := by
  unfold afterFlight
  split
  · exact s.advances_drop store
  · exact .refl _

theorem advances_look (flight : Flight) :
    s.shared.Advances store (s.look store flight).1.shared := by
  have attended := s.advances_attend store flight
  unfold look
  split
  · rename_i t found
    simpa only [found] using attended
  · rename_i t response _ found
    rw [found] at attended
    exact attended.trans (t.advances_afterFlight store flight.purpose)

theorem advances_resolve (handle : Nat) :
    s.shared.Advances store (s.resolve store handle).1.shared := by
  unfold resolve
  split
  · exact .refl _
  · exact s.advances_launch store (.read handle)

theorem advances_close : s.shared.Advances store (s.close store).1.shared :=
  ({ s with present := false }.start .close).advances_look store ⟨s.nextFlight, .close⟩

theorem advances_poll (flight : FlightId) :
    s.shared.Advances store (s.poll store flight).1.shared := by
  unfold poll
  split
  · exact .refl _
  · exact s.advances_look store _

theorem progresses_cancel (flight : FlightId) :
    s.shared.Progresses (s.cancel store flight).shared := by
  unfold cancel
  split
  · exact .refl _
  · rename_i found _
    have abandoned := SharedBatch.Progresses.abandon flight (.refl s.shared)
    let landed := { s with shared := s.shared.abandon flight }.land flight
    exact abandoned.trans (landed.advances_afterFlight store found.purpose).progresses

theorem shared_dropSpawning : s.dropSpawning.shared = s.shared := by
  unfold dropSpawning
  dsimp only
  split <;> rfl

/-! ### Turns -/

def next (turn : Turn α) : BatchSession α := (s.step turn.store turn.action).1

def response (turn : Turn α) : BatchResponse α := (s.step turn.store turn.action).2

def accepted? (turn : Turn α) : Option (QueueCall α) :=
  match turn.action with
  | .queue layout processor =>
    match s.shared.queue layout processor with
    | .ok _ => some ⟨layout, processor⟩
    | .error _ => none
  | _ => none

/-- A turn gives nothing up unless it says so: it tries to queue an element, or it lets flights move
on with the store. -/
theorem next_advances {turn : Turn α} (keeps : turn.action.givesUp = false) :
    (∃ layout processor, turn.action = .queue layout processor ∧
      (s.next turn).shared = (s.shared.register layout processor).1) ∨
    s.accepted? turn = none ∧ s.shared.Advances turn.store (s.next turn).shared := by
  rcases turn with ⟨action, store⟩
  cases action with
  | queue layout processor =>
    refine .inl ⟨layout, processor, rfl, ?_⟩
    simp only [next, step]
    rcases s.shared.register layout processor with ⟨shared, e | handle⟩ <;> rfl
  | flush => exact .inr ⟨rfl, s.advances_launch store .flush⟩
  | resolve handle => exact .inr ⟨rfl, s.advances_resolve store handle⟩
  | close => exact .inr ⟨rfl, s.advances_close store⟩
  | drop => exact .inr ⟨rfl, s.advances_drop store⟩
  | dropSpawning =>
    refine .inr ⟨rfl, ?_⟩
    simp only [next, step, shared_dropSpawning]
    exact .refl _
  | poll flight => exact .inr ⟨rfl, s.advances_poll store flight⟩
  | dropInRuntime => cases keeps
  | cancel flight => cases keeps

/-- A turn queues one element, or it lets flights move on. -/
theorem next_shared (turn : Turn α) :
    (∃ call shared handle, s.accepted? turn = some call ∧
      s.shared.queue call.layout call.processor = .ok (shared, handle) ∧
      (s.next turn).shared = shared) ∨
    s.accepted? turn = none ∧ s.shared.Progresses (s.next turn).shared := by
  by_cases keeps : turn.action.givesUp = false
  · rcases s.next_advances keeps with ⟨layout, processor, queues, becomes⟩ | ⟨refused, advanced⟩
    · rcases found : s.shared.register layout processor with ⟨shared, e | handle⟩
      · rw [becomes, found]
        refine .inr ⟨?_, .refuse found (.refl _)⟩
        simp only [accepted?, queues, SharedBatch.queue, found]
      · rw [becomes, found]
        refine .inl ⟨⟨layout, processor⟩, shared, handle, ?_, ?_, rfl⟩
        · simp only [accepted?, queues, SharedBatch.queue, found]
        · simp only [SharedBatch.queue, found]
    · exact .inr ⟨refused, advanced.progresses⟩
  · rcases turn with ⟨action, store⟩
    cases action with
    | dropInRuntime =>
      refine .inr ⟨rfl, ?_⟩
      have polled := (s.dropSpawning.advances_poll store s.nextFlight).progresses
      rw [s.shared_dropSpawning] at polled
      exact polled.trans (progresses_cancel _ store s.nextFlight)
    | cancel flight => exact .inr ⟨rfl, s.progresses_cancel store flight⟩
    | _ => exact (keeps rfl).elim

/-! ### Runs -/

def run (turns : List (Turn α)) : BatchSession α := turns.foldl next s

@[simp] theorem run_nil : s.run [] = s := rfl

@[simp] theorem run_cons (turn : Turn α) (turns : List (Turn α)) :
    s.run (turn :: turns) = (s.next turn).run turns := rfl

theorem run_append (first second : List (Turn α)) :
    s.run (first ++ second) = (s.run first).run second := List.foldl_append

/-- What a run queues, in order; the place of a call is the number of its handle. -/
def queuedIn (s : BatchSession α) : List (Turn α) → List (QueueCall α)
  | [] => []
  | turn :: rest => (s.accepted? turn).toList ++ (s.next turn).queuedIn rest

theorem queuedIn_append (first second : List (Turn α)) :
    s.queuedIn (first ++ second) = s.queuedIn first ++ (s.run first).queuedIn second := by
  induction first generalizing s with
  | nil => rfl
  | cons turn rest ih => simp only [List.cons_append, queuedIn, run_cons, ih, List.append_assoc]

end BatchSession

/-- The session in which nothing has happened to a batch yet. -/
def Batch.session (b : Batch α) : BatchSession α := { shared := { batch := b } }

end SqlBatch
