import SqlBatch.Proofs.Batch.Results

/-!
# The queue at the latch

Flights get the latch in the order in which they asked for it. Whoever stands in the queue is in the
air and stands there once (`Orderly.after`), so the latch is never passed on to nobody, and behind
the end of a batch each flight returns as soon as those before it have (`returns_in_turn`).
-/
namespace SqlBatch

variable {α : Type}

/-! ### The queue -/

/-- The holder of the latch and those behind it, in order. -/
def Latch.queue : Latch α → List FlightId
  | .free => []
  | .granted holder waiting | .running holder _ waiting => holder :: waiting

@[simp] theorem Latch.queue_free : (Latch.free : Latch α).queue = [] := rfl

@[simp] theorem Latch.queue_granted (holder : FlightId) (waiting : List FlightId) :
    (Latch.granted holder waiting : Latch α).queue = holder :: waiting := rfl

@[simp] theorem Latch.queue_running (holder : FlightId) (work : Work α) (waiting : List FlightId) :
    (Latch.running holder work waiting).queue = holder :: waiting := rfl

namespace SharedBatch

variable {s t : SharedBatch α}

@[simp] theorem queue_passOn (waiting : List FlightId) :
    (passOn waiting : Latch α).queue = waiting := by
  cases waiting <;> rfl

theorem isFree_iff : s.isFree = true ↔ s.latch.queue = [] := by
  unfold isFree
  cases s.latch <;> simp

theorem enqueue_of_mem {flight : FlightId} {waiting : List FlightId} (member : flight ∈ waiting) :
    enqueue flight waiting = waiting := if_pos member

theorem cons_enqueue {flight holder : FlightId} (other : holder ≠ flight)
    (waiting : List FlightId) : holder :: enqueue flight waiting = enqueue flight (holder :: waiting) := by
  have apart : flight ≠ holder := other.symm
  by_cases member : flight ∈ waiting <;> simp [enqueue, member, apart]

theorem mem_enqueue {flight id : FlightId} {waiting : List FlightId}
    (member : id ∈ enqueue flight waiting) : id ∈ waiting ∨ id = flight := by
  unfold enqueue at member
  split at member
  · exact .inl member
  · simpa using member

theorem nodup_enqueue {waiting : List FlightId} (once : waiting.Nodup) (flight : FlightId) :
    (enqueue flight waiting).Nodup := by
  unfold enqueue
  split
  · exact once
  · rename_i fresh
    rw [List.nodup_append]
    refine ⟨once, by simp, ?_⟩
    rintro id member other last rfl
    rw [List.mem_singleton.mp last] at member
    exact fresh member

theorem erase_of_enqueue {flight : FlightId} {queue waiting : List FlightId}
    (front : enqueue flight queue = flight :: waiting) : queue.erase flight = waiting := by
  unfold enqueue at front
  split at front
  · rw [front, List.erase_cons_head]
  · rename_i fresh
    cases queue with
    | nil => simpa using front
    | cons first rest =>
      obtain ⟨rfl, -⟩ := List.cons.inj front
      exact absurd List.mem_cons_self fresh

/-- A flight that returns leaves the queue, and one that does not is in it. -/
theorem queue_poll {flight : FlightId} {progress : Progress} (polled : s.poll flight = (t, progress)) :
    t.latch.queue = match progress with
      | .returned _ => s.latch.queue.erase flight
      | _ => enqueue flight s.latch.queue := by
  -- Whoever gets the latch returns and passes it on, or keeps it with the work.
  have acquired : ∀ waiting, s.acquire flight waiting = (t, progress) →
      t.latch.queue = match progress with
        | .returned _ => waiting
        | _ => flight :: waiting := by
    intro waiting acquired
    unfold acquire at acquired
    split at acquired <;> cases acquired
    · exact queue_passOn waiting
    · rfl
  unfold poll at polled
  cases latch : s.latch with
  | free =>
    rw [latch] at polled
    rw [acquired [] polled]
    cases progress <;> rfl
  | granted holder waiting =>
    simp only [latch] at polled
    split at polled
    · rename_i same
      rw [acquired waiting polled, same]
      cases progress <;> simp [enqueue_of_mem]
    · rename_i other
      cases polled
      exact cons_enqueue other waiting
  | running holder work waiting =>
    simp only [latch] at polled
    split at polled
    · rename_i same
      cases polled
      simp [latch, same, enqueue_of_mem]
    · rename_i other
      cases polled
      exact cons_enqueue other waiting

theorem queue_advance {store : Responder} {flight : FlightId} {attempt : Option (Attempt Unit)}
    (advanced : s.advance store flight = (t, attempt)) :
    t.latch.queue = if attempt.isSome then s.latch.queue.erase flight
      else enqueue flight s.latch.queue := by
  unfold advance at advanced
  rcases polled : s.poll flight with ⟨u, progress⟩
  have polls := queue_poll polled
  cases progress with
  | waiting =>
    simp only [polled] at advanced
    cases advanced
    exact polls
  | returned outcome =>
    simp only [polled] at advanced
    cases advanced
    exact polls
  | submitted request =>
    simp only [polled] at advanced
    split at advanced
    · cases advanced
      exact polls
    · obtain ⟨work, waiting, running, -⟩ := running_of_submitted polled
      cases advanced
      simp only [running, Latch.queue_running] at polls
      simp only [answer, running, queue_passOn, Option.isSome_some, if_true]
      exact (erase_of_enqueue polls.symm).symm

theorem queue_abandon (s : SharedBatch α) (flight : FlightId) :
    (s.abandon flight).latch.queue = s.latch.queue.erase flight := by
  unfold abandon
  cases latch : s.latch with
  | free => simp [latch]
  | granted holder waiting =>
    by_cases same : holder = flight
    · simp [same]
    · simp [same, List.erase_cons_tail]
  | running holder work waiting =>
    by_cases same : holder = flight
    · simp [same]
    · simp [same, List.erase_cons_tail]

theorem hasPendingWork_abandon (busy : s.batch.phase ≠ .idle) (id : FlightId) :
    (s.abandon id).hasPendingWork = false := by
  have phase : (s.abandon id).batch.phase ≠ .idle := by
    unfold SharedBatch.abandon
    split
    · exact busy
    · split <;> exact busy
    · split
      · exact Phase.noConfusion
      · exact busy
  simp [hasPendingWork, phase]

end SharedBatch

/-! ### Sessions in order -/

/-- Flights are numbered as they start, and those in the queue are in the air and stand there once. -/
structure BatchSession.Orderly (s : BatchSession α) : Prop where
  older : ∀ flight ∈ s.flights, flight.id < s.nextFlight
  airborne : ∀ id ∈ s.shared.latch.queue, ∃ flight ∈ s.flights, flight.id = id
  once : s.shared.latch.queue.Nodup

namespace BatchSession

variable {s : BatchSession α}

theorem mem_of_find? {id : FlightId} {flight : Flight}
    (found : s.flights.find? (·.id = id) = some flight) : flight ∈ s.flights ∧ flight.id = id :=
  ⟨List.mem_of_find?_eq_some found, by simpa using List.find?_some found⟩

theorem mem_land {flight : Flight} {id : FlightId} :
    flight ∈ (s.land id).flights ↔ flight ∈ s.flights ∧ flight.id ≠ id := by
  simp [land]

namespace Orderly

theorem exists_find? (orderly : s.Orderly) {id : FlightId} (queued : id ∈ s.shared.latch.queue) :
    ∃ flight, s.flights.find? (·.id = id) = some flight := by
  obtain ⟨flight, airborne, same⟩ := orderly.airborne id queued
  rw [← Option.isSome_iff_exists, List.find?_isSome]
  exact ⟨flight, airborne, by simpa using same⟩

theorem gone (orderly : s.Orderly) : Orderly { s with present := false } :=
  ⟨orderly.older, orderly.airborne, orderly.once⟩

theorem start (orderly : s.Orderly) (purpose : Purpose) : (s.start purpose).Orderly := by
  refine ⟨?_, ?_, orderly.once⟩
  · intro flight member
    rcases List.mem_append.mp member with earlier | last
    · exact Nat.lt_succ_of_lt (orderly.older flight earlier)
    · rw [List.mem_singleton.mp last]
      exact Nat.lt_succ_self s.nextFlight
  · intro id member
    obtain ⟨flight, airborne, same⟩ := orderly.airborne id member
    exact ⟨flight, List.mem_append_left _ airborne, same⟩

/-- A flight that has left the queue may land. -/
theorem land_of_erase (orderly : s.Orderly) {id : FlightId} {shared : SharedBatch α}
    (left : shared.latch.queue = s.shared.latch.queue.erase id) :
    ({ s with shared }.land id).Orderly := by
  refine ⟨?_, ?_, ?_⟩
  · intro flight member
    exact orderly.older flight (mem_land.mp member).1
  · intro other member
    have queued : other ∈ s.shared.latch.queue.erase id := left ▸ member
    rw [orderly.once.mem_erase_iff] at queued
    obtain ⟨flight, airborne, same⟩ := orderly.airborne other queued.2
    exact ⟨flight, mem_land.mpr ⟨airborne, same ▸ queued.1⟩, same⟩
  · change shared.latch.queue.Nodup
    rw [left]
    exact orderly.once.erase id

theorem attend (orderly : s.Orderly) (store : Responder) {flight : Flight}
    (airborne : flight ∈ s.flights) : (s.attend store flight).1.Orderly := by
  rcases advanced : s.shared.advance store flight.id with ⟨t, _ | attempt⟩
  · have queue := SharedBatch.queue_advance advanced
    simp only [BatchSession.attend, advanced]
    refine ⟨orderly.older, ?_, ?_⟩
    · intro id member
      rw [queue] at member
      rcases SharedBatch.mem_enqueue member with queued | rfl
      · exact orderly.airborne id queued
      · exact ⟨flight, airborne, rfl⟩
    · rw [queue]
      exact SharedBatch.nodup_enqueue orderly.once flight.id
  · simp only [BatchSession.attend, advanced]
    exact orderly.land_of_erase (SharedBatch.queue_advance advanced)

theorem launch (orderly : s.Orderly) (store : Responder) (purpose : Purpose) :
    (s.launch store purpose).1.Orderly :=
  (orderly.start purpose).attend store (List.mem_append_right _ List.mem_cons_self)

theorem drop (orderly : s.Orderly) (store : Responder) : (s.drop store).1.Orderly := by
  unfold BatchSession.drop
  dsimp only
  split
  · exact orderly.gone.launch store .dispose
  · exact orderly.gone

theorem afterFlight (orderly : s.Orderly) (store : Responder) (purpose : Purpose) :
    (s.afterFlight store purpose).Orderly := by
  unfold BatchSession.afterFlight
  split
  · exact orderly.drop store
  · exact orderly

theorem look (orderly : s.Orderly) (store : Responder) {flight : Flight}
    (airborne : flight ∈ s.flights) : (s.look store flight).1.Orderly := by
  have attended := orderly.attend store airborne
  unfold BatchSession.look
  split
  · rename_i t found
    rwa [found] at attended
  · rename_i t response _ found
    rw [found] at attended
    exact attended.afterFlight store flight.purpose

theorem poll (orderly : s.Orderly) (store : Responder) (id : FlightId) :
    (s.poll store id).1.Orderly := by
  unfold BatchSession.poll
  split
  · exact orderly
  · rename_i flight found
    exact orderly.look store (mem_of_find? found).1

theorem cancel (orderly : s.Orderly) (store : Responder) (id : FlightId) :
    (s.cancel store id).Orderly := by
  unfold BatchSession.cancel
  split
  · exact orderly
  · rename_i flight found
    exact (orderly.land_of_erase (s.shared.queue_abandon id)).afterFlight store flight.purpose

theorem dropSpawning (orderly : s.Orderly) : s.dropSpawning.Orderly := by
  unfold BatchSession.dropSpawning
  dsimp only
  split
  · exact orderly.gone.start .dispose
  · exact orderly.gone

theorem register (orderly : s.Orderly) (layout : Layout) (processor : Processor α) :
    Orderly { s with shared := (s.shared.register layout processor).1 } := by
  have same : (s.shared.register layout processor).1.latch = s.shared.latch := by
    unfold SharedBatch.register
    split <;> rfl
  refine ⟨orderly.older, ?_, ?_⟩
  · change ∀ id ∈ (s.shared.register layout processor).1.latch.queue, _
    rw [same]
    exact orderly.airborne
  · change (s.shared.register layout processor).1.latch.queue.Nodup
    rw [same]
    exact orderly.once

theorem resolve (orderly : s.Orderly) (store : Responder) (handle : Nat) :
    (s.resolve store handle).1.Orderly := by
  unfold BatchSession.resolve
  split
  · exact ⟨fun flight member => Nat.lt_succ_of_lt (orderly.older flight member),
      orderly.airborne, orderly.once⟩
  · exact orderly.launch store (.read handle)

theorem next (orderly : s.Orderly) (turn : Turn α) : (s.next turn).Orderly := by
  rcases turn with ⟨action, store⟩
  cases action with
  | queue layout processor =>
    have registered := orderly.register layout processor
    simp only [BatchSession.next, step]
    rcases found : s.shared.register layout processor with ⟨shared, e | handle⟩ <;>
      simpa only [found] using registered
  | flush => exact orderly.launch store .flush
  | resolve handle => exact orderly.resolve store handle
  | close =>
    exact (orderly.gone.start .close).look store (List.mem_append_right _ List.mem_cons_self)
  | drop => exact orderly.drop store
  | dropSpawning => exact orderly.dropSpawning
  | dropInRuntime => exact (orderly.dropSpawning.poll store s.nextFlight).cancel store s.nextFlight
  | poll flight => exact orderly.poll store flight
  | cancel flight => exact orderly.cancel store flight

end Orderly

/-! ### Behind the end -/

theorem find?_land {id other : FlightId} (apart : id ≠ other) :
    (s.land other).flights.find? (·.id = id) = s.flights.find? (·.id = id) := by
  simp only [land, List.find?_filter]
  congr 1
  funext flight
  by_cases same : flight.id = id <;> simp [same, apart]

/-- A flight that returns lands, and its context goes with it. -/
theorem step_poll_of_attend {flight : Flight} {id : FlightId}
    (found : s.flights.find? (·.id = id) = some flight) {store : Responder} {t : BatchSession α}
    {response : BatchResponse α} (attended : s.attend store flight = (t, response))
    (returns : response ≠ .pending) :
    s.step store (.poll id) = (t.afterFlight store flight.purpose, response) := by
  simp only [step, poll, found, look, attended]

/-- The first in the queue of a batch that is over tells the outcome and passes the latch on. -/
theorem poll_first (past : s.shared.Over) {first : FlightId} {rest : List FlightId}
    (queue : s.shared.latch.queue = first :: rest) {flight : Flight}
    (found : s.flights.find? (·.id = first) = some flight) (store : Responder) :
    let t := s.next ⟨.poll first, store⟩
    t.shared = { s.shared with latch := SharedBatch.passOn rest } ∧
      t.flights = (s.land first).flights ∧
      s.response ⟨.poll first, store⟩ =
        flight.purpose.response s.shared (.finished s.shared.batch.outcome) := by
  intro t
  -- Nobody runs a batch that is over, so the first flight in the queue has been granted the latch.
  have granted : s.shared.latch = .granted first rest := by
    cases latch : s.shared.latch with
    | free => simp [latch] at queue
    | granted holder waiting =>
      rw [latch] at queue
      obtain ⟨rfl, rfl⟩ := List.cons.inj queue
      rfl
    | running => exact (past.not_running latch).elim
  obtain rfl := (mem_of_find? found).2
  let passed : SharedBatch α := { s.shared with latch := SharedBatch.passOn rest }
  have advanced : s.shared.advance store flight.id =
      (passed, some (.finished s.shared.batch.outcome)) := by
    simp only [SharedBatch.advance, SharedBatch.poll, granted, if_true, past.acquire, passed]
  have agrees : s.shared.Agrees passed := ⟨rfl, rfl, rfl⟩
  have attended : s.attend store flight = ({ s with shared := passed }.land flight.id,
      flight.purpose.response s.shared (.finished s.shared.batch.outcome)) := by
    simp only [attend, advanced, flight.purpose.response_of_agrees agrees]
  have spent : passed.hasPendingWork = false := by
    simp [SharedBatch.hasPendingWork, passed, past.completed]
  have polled := step_poll_of_attend found attended (flight.purpose.response_ne_pending _ _)
  have kept : ∀ purpose, (({ s with shared := passed }.land flight.id).afterFlight store purpose).shared =
      passed ∧ (({ s with shared := passed }.land flight.id).afterFlight store purpose).flights =
        (s.land flight.id).flights := by
    intro purpose
    unfold afterFlight
    split
    · simp [drop, land, spent]
    · exact ⟨rfl, rfl⟩
  simp only [t, next, response, polled]
  exact ⟨(kept _).1, (kept _).2, trivial⟩

/-- A flight that is given up leaves the queue and the air. Only a context that goes with it and
leaves work behind does more. -/
theorem next_cancel {id : FlightId} {flight : Flight}
    (found : s.flights.find? (·.id = id) = some flight)
    (quiet : flight.purpose ≠ .close ∨ (s.shared.abandon id).hasPendingWork = false)
    (store : Responder) :
    let t := s.next ⟨.cancel id, store⟩
    t.shared = s.shared.abandon id ∧ t.flights = (s.land id).flights ∧
      t.nextFlight = s.nextFlight := by
  simp only [next, step, cancel, found, afterFlight]
  split
  · rename_i closes
    have spent := quiet.resolve_left (not_not_intro closes)
    simp [drop, land, spent]
  · exact ⟨rfl, rfl, rfl⟩

/-- The flight that has the work returns with the store's answer, and the latch goes to those who
queued up behind it. -/
theorem poll_runner {holder : FlightId} {work : Work α} {waiting : List FlightId}
    (running : s.shared.latch = .running holder work waiting) {flight : Flight}
    (found : s.flights.find? (·.id = holder) = some flight) {store : Responder}
    {reply : Attempt (List RowSet)} (replies : store work.request = some reply) :
    let t := s.next ⟨.poll holder, store⟩
    t.shared.Over ∧ t.shared.latch.queue = waiting ∧ s.response ⟨.poll holder, store⟩ ≠ .pending := by
  intro t
  obtain rfl := (mem_of_find? found).2
  let answered : SharedBatch α :=
    { s.shared with
      batch := (s.shared.batch.complete work reply).1
      latch := SharedBatch.passOn waiting
      answered := s.shared.answered ++ [⟨work.request, reply⟩] }
  have past : answered.Over := ⟨Batch.phase_complete _ _ _, isRunning_passOn waiting⟩
  have advanced : s.shared.advance store flight.id =
      (answered, some (s.shared.batch.complete work reply).2) := by
    simp only [SharedBatch.advance, SharedBatch.poll, SharedBatch.answer, running, if_true, replies,
      answered]
  have attended : s.attend store flight = ({ s with shared := answered }.land flight.id,
      flight.purpose.response answered (s.shared.batch.complete work reply).2) := by
    simp only [attend, advanced]
  have kept : (({ s with shared := answered }.land flight.id).afterFlight store
      flight.purpose).shared = answered := by
    unfold afterFlight
    split
    · exact shared_drop_of_over past store
    · rfl
  have returns := flight.purpose.response_ne_pending answered (s.shared.batch.complete work reply).2
  have polled := step_poll_of_attend found attended returns
  simp only [t, next, response, polled, kept]
  exact ⟨past, SharedBatch.queue_passOn waiting, returns⟩

/-- The turns in which flights are looked after in order. -/
def polls (store : Responder) (ids : List FlightId) : List (Turn α) :=
  ids.map fun id => ⟨.poll id, store⟩

/-- By induction on those at the front: each leaves the queue and the air, and nothing else changes. -/
theorem run_polls (orderly : s.Orderly) (past : s.shared.Over) {ahead behind : List FlightId}
    (queue : s.shared.latch.queue = ahead ++ behind) (store : Responder) :
    let t := s.run (polls store ahead)
    t.shared.Over ∧ s.shared.Agrees t.shared ∧ t.shared.latch.queue = behind ∧
      ∀ id ∈ behind, t.flights.find? (·.id = id) = s.flights.find? (·.id = id) := by
  induction ahead generalizing s with
  | nil => exact ⟨past, .refl _, queue, fun _ _ => rfl⟩
  | cons first rest ih =>
    have leads : first ∈ s.shared.latch.queue := by simp [queue]
    obtain ⟨flight, found⟩ := orderly.exists_find? leads
    obtain ⟨becomes, flights, -⟩ := poll_first past queue found store
    have agrees : s.shared.Agrees (s.next ⟨.poll first, store⟩).shared := by
      rw [becomes]
      exact ⟨rfl, rfl, rfl⟩
    obtain ⟨last, same, left, airborne⟩ := ih (orderly.next ⟨.poll first, store⟩)
      (by rw [becomes]; exact ⟨past.completed, isRunning_passOn _⟩)
      (by rw [becomes, SharedBatch.queue_passOn]; rfl)
    refine ⟨last, agrees.trans same, left, fun id member => (airborne id member).trans ?_⟩
    have once := orderly.once
    rw [queue] at once
    have apart : id ≠ first := by
      rintro rfl
      exact (List.nodup_cons.mp once).1 (List.mem_append_right rest member)
    rw [flights, find?_land apart]

/-- Once those before it have been looked after, each flight in the queue of a batch that is over
tells the outcome when it is looked after. -/
theorem returns_in_turn (orderly : s.Orderly) (past : s.shared.Over)
    {ahead behind : List FlightId} {id : FlightId}
    (queue : s.shared.latch.queue = ahead ++ id :: behind) (store : Responder) :
    ∃ flight, s.flights.find? (·.id = id) = some flight ∧
      (s.run (polls store ahead)).response ⟨.poll id, store⟩ =
        flight.purpose.response s.shared (.finished s.shared.batch.outcome) := by
  have queued : id ∈ s.shared.latch.queue := by simp [queue]
  obtain ⟨flight, found⟩ := orderly.exists_find? queued
  obtain ⟨still, agrees, left, airborne⟩ := run_polls orderly past queue store
  have found' := (airborne id List.mem_cons_self).trans found
  obtain ⟨-, -, tells⟩ := poll_first still left found' store
  rw [agrees.batch, flight.purpose.response_of_agrees agrees] at tells
  exact ⟨flight, found, tells⟩

end BatchSession

/-! ### Calls that nobody looks after -/

/-- A turn, or a call that is made and that nobody looks after. A call that somebody looks after
begins with a turn of its own. -/
inductive Event (α : Type)
  | turn (turn : Turn α)
  | made (purpose : Purpose)

/-- A shared batch in one of the stages of what some calls have gathered. -/
def SharedBatch.Staged (d : Dialect) (transaction : Option TransactionOptions) (start : Batch α)
    (s : SharedBatch α) : Prop :=
  ∃ calls gathered, start.gather calls = .ok gathered ∧ gathered.Gathered d transaction calls ∧
    Stage gathered s

theorem SharedBatch.Staged.over_of_completed {d : Dialect}
    {transaction : Option TransactionOptions} {start : Batch α} {s : SharedBatch α}
    (staged : s.Staged d transaction start) (completed : s.batch.phase = .completed) : s.Over := by
  obtain ⟨calls, gathered, -, known, stage⟩ := staged
  exact stage.over_of_completed known completed

namespace BatchSession

variable {s : BatchSession α} {d : Dialect} {transaction : Option TransactionOptions}
  {start : Batch α}

def meet (s : BatchSession α) : Event α → BatchSession α
  | .turn turn => s.next turn
  | .made purpose => s.start purpose

/-- What a session has come to behind some events. -/
def after (s : BatchSession α) (events : List (Event α)) : BatchSession α := events.foldl meet s

@[simp] theorem after_nil (s : BatchSession α) : s.after [] = s := rfl

@[simp] theorem after_cons (s : BatchSession α) (event : Event α) (events : List (Event α)) :
    s.after (event :: events) = (s.meet event).after events := rfl

theorem Orderly.meet (orderly : s.Orderly) (event : Event α) : (s.meet event).Orderly := by
  cases event with
  | turn turn => exact orderly.next turn
  | made purpose => exact orderly.start purpose

theorem Orderly.after (orderly : s.Orderly) (events : List (Event α)) :
    (s.after events).Orderly := by
  induction events generalizing s with
  | nil => exact orderly
  | cons event rest ih => exact ih (orderly.meet event)

theorem staged_meet (created : Batch.create d transaction = .ok start)
    (staged : s.shared.Staged d transaction start) (event : Event α) :
    (s.meet event).shared.Staged d transaction start ∧
      s.shared.phase.rank ≤ (s.meet event).shared.phase.rank := by
  cases event with
  | turn turn =>
    obtain ⟨calls, gathered, taken, -, stage⟩ := staged
    have empty := Batch.gathered_create created
    obtain ⟨next, known, stage, order⟩ := stage_run_from empty taken stage [turn]
    exact ⟨⟨_, next, known, empty.gather known, stage⟩, order⟩
  | made purpose => exact ⟨staged, Nat.le_refl _⟩

theorem staged_after (created : Batch.create d transaction = .ok start)
    (staged : s.shared.Staged d transaction start) (events : List (Event α)) :
    (s.after events).shared.Staged d transaction start ∧
      s.shared.phase.rank ≤ (s.after events).shared.phase.rank := by
  induction events generalizing s with
  | nil => exact ⟨staged, Nat.le_refl _⟩
  | cons event rest ih =>
    obtain ⟨now, order⟩ := staged_meet created staged event
    obtain ⟨last, later⟩ := ih now
    exact ⟨last, Nat.le_trans order later⟩

theorem over_after (past : s.shared.Over) (events : List (Event α)) :
    (s.after events).shared.Over ∧ s.shared.Agrees (s.after events).shared := by
  induction events generalizing s with
  | nil => exact ⟨past, .refl _⟩
  | cons event rest ih =>
    have now : (s.meet event).shared.Over ∧ s.shared.Agrees (s.meet event).shared := by
      cases event with
      | turn turn => exact ⟨(over_run past [turn]).1, (over_run past [turn]).2.1⟩
      | made purpose => exact ⟨past, .refl _⟩
    obtain ⟨last, same⟩ := ih now.1
    exact ⟨last, now.2.trans same⟩

end BatchSession

variable {d : Dialect} {transaction : Option TransactionOptions} {start : Batch α}

theorem Batch.orderly_session (start : Batch α) : start.session.Orderly :=
  ⟨List.forall_mem_nil _, List.forall_mem_nil _, List.nodup_nil⟩

theorem Batch.staged_session (created : Batch.create d transaction = .ok start) :
    start.session.shared.Staged d transaction start :=
  ⟨[], start, rfl, Batch.gathered_create created, .gathering⟩

end SqlBatch
