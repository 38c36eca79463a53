import SqlBatch.Proofs.Batch.Failure
import SqlBatch.Proofs.Batch.Waiting

/-!
# Giving up

A flight that is given up takes the batch with it only if it has the batch's work. The proof
compares two sessions of which one lacks the flight (`Beside`): whatever happens next happens in
both. `giving_up_touches_own_run` says so, and what becomes of a batch whose work is given up.
-/
namespace SqlBatch

variable {α : Type} {d : Dialect} {transaction : Option TransactionOptions} {origin : Batch α}

/-! ### Batches that differ in who waits -/

namespace SharedBatch

variable {s t : SharedBatch α} {flight : FlightId}

theorem Staged.progress (staged : s.Staged d transaction origin) (moved : s.Progresses t) :
    t.Staged d transaction origin := by
  obtain ⟨calls, gathered, taken, known, stage⟩ := staged
  exact ⟨calls, gathered, taken, known, (stage.progress known moved).1⟩

theorem Staged.over_or_running (staged : s.Staged d transaction origin)
    (busy : s.batch.phase ≠ .idle) : s.Over ∨ s.latch.isRunning := by
  obtain ⟨calls, gathered, -, known, stage⟩ := staged
  cases stage with
  | gathering => exact absurd known.phase busy
  | running => exact .inr rfl
  | past ending quiet => exact .inl ⟨ending.completed known, quiet⟩

/-- What is left when the work of a batch is given up. -/
theorem Staged.abandon (staged : s.Staged d transaction origin) {work : Work α}
    {waiting : List FlightId} (running : s.latch = .running flight work waiting) :
    let t := s.abandon flight
    t.Over ∧ t.batch.Failed s.batch.cells.length .cancelled ∧ t.latch.queue = waiting ∧
      t.handed = s.handed ∧ t.answered = [] := by
  obtain ⟨calls, gathered, -, known, stage⟩ := staged
  have sent := stage.sent_of_running known running
  have room : s.batch.cells.length = calls.length := by rw [sent.cells, List.length_replicate]
  have nothing : s.answered = [] := by
    cases stage with
    | running => rfl
    | gathering => cases running
    | past ending quiet =>
      cases running
      cases quiet
  simp only [SharedBatch.abandon, running, if_true]
  exact ⟨⟨rfl, isRunning_passOn waiting⟩, room ▸ sent.cancelled, queue_passOn waiting, trivial,
    nothing⟩

theorem Staged.busy_of_queue (staged : s.Staged d transaction origin)
    (queued : flight ∈ s.latch.queue) : s.batch.phase ≠ .idle := by
  obtain ⟨calls, gathered, -, known, stage⟩ := staged
  intro idle
  rw [stage.eq_of_idle known idle] at queued
  cases queued

/-- The same batch, at rest or with the same work at the store, whoever waits behind. The work is
not with `flight`. -/
inductive Like (flight : FlightId) : SharedBatch α → SharedBatch α → Prop
  | atRest {s : SharedBatch α} (free : s.latch = .free) : Like flight s s
  | running {batch : Batch α} {holder : FlightId} {work : Work α} {handed : List Rendered}
      {answered : List Exchange} (other : holder ≠ flight) (waiting waiting' : List FlightId) :
      Like flight ⟨batch, .running holder work waiting, handed, answered⟩
        ⟨batch, .running holder work waiting', handed, answered⟩

/-- Two batches that are over, with the same history. -/
structure Ended (s t : SharedBatch α) : Prop where
  first : s.Over
  second : t.Over
  same : s.Agrees t

theorem Ended.progress {s' t' : SharedBatch α} (ended : Ended s t) (moved : s.Progresses s')
    (moved' : t.Progresses t') : Ended s' t' := by
  obtain ⟨past, agrees⟩ := ended.first.progress moved
  obtain ⟨past', agrees'⟩ := ended.second.progress moved'
  exact ⟨past, past', agrees.symm.trans (ended.same.trans agrees')⟩

theorem Like.batch (like : Like flight s t) : t.batch = s.batch := by
  cases like <;> rfl

theorem Like.agrees (like : Like flight s t) : s.Agrees t := by
  cases like <;> exact ⟨rfl, rfl, rfl⟩

theorem Like.pending (like : Like flight s t) : t.pending = s.pending := by
  cases like <;> rfl

theorem Like.ended (like : Like flight s t) (past : s.Over) : Ended s t := by
  cases like with
  | atRest => exact ⟨past, past, .refl s⟩
  | running => exact (past.not_running rfl).elim

theorem Like.hasPendingWork (like : Like flight s t) : t.hasPendingWork = s.hasPendingWork := by
  cases like <;> rfl

/-- A flight that looks at two like batches waits at both, or is told the same by both and leaves
them over. -/
theorem Like.advance (staged : s.Staged d transaction origin) (like : Like flight s t)
    {id : FlightId} (other : id ≠ flight) (store : Responder) :
    (∃ s' t', s.advance store id = (s', none) ∧ t.advance store id = (t', none) ∧
      Like flight s' t') ∨
    ∃ s' t' attempt, s.advance store id = (s', some attempt) ∧
      t.advance store id = (t', some attempt) ∧ Ended s' t' := by
  cases like with
  | atRest free =>
    rcases advanced : s.advance store id with ⟨u, _ | attempt⟩
    · refine .inl ⟨u, u, rfl, rfl, ?_⟩
      simp only [SharedBatch.advance, SharedBatch.poll, free, SharedBatch.acquire] at advanced
      rcases taken : s.batch.take with ⟨batch, outcome | work⟩
      · rw [taken] at advanced
        cases advanced
      · simp only [taken] at advanced
        split at advanced <;> cases advanced
        exact .running other [] []
    · obtain ⟨calls, gathered, -, known, stage⟩ := staged
      have past := (stage.advance known advanced).1
      exact .inr ⟨u, u, attempt, rfl, rfl, past, past, .refl u⟩
  | @running batch holder work handed answered runs waiting waiting' =>
    by_cases holds : holder = id
    · simp only [SharedBatch.advance, SharedBatch.poll, if_pos holds]
      cases store work.request with
      | none => exact .inl ⟨_, _, rfl, rfl, .running runs waiting waiting'⟩
      | some reply =>
        have completed := Batch.phase_complete batch work reply
        exact .inr ⟨_, _, _, rfl, rfl, ⟨completed, isRunning_passOn waiting⟩,
          ⟨completed, isRunning_passOn waiting'⟩, rfl, rfl, rfl⟩
    · simp only [SharedBatch.advance, SharedBatch.poll, if_neg holds]
      exact .inl ⟨_, _, rfl, rfl, .running runs _ _⟩

theorem Like.abandon (like : Like flight s t) (id : FlightId) :
    Like flight (s.abandon id) (t.abandon id) ∨ Ended (s.abandon id) (t.abandon id) := by
  cases like with
  | atRest free =>
    simp only [SharedBatch.abandon, free]
    exact .inl (.atRest free)
  | @running batch holder work handed answered runs waiting waiting' =>
    by_cases holds : holder = id
    · simp only [SharedBatch.abandon, if_pos holds]
      exact .inr ⟨⟨rfl, isRunning_passOn waiting⟩, ⟨rfl, isRunning_passOn waiting'⟩, rfl, rfl, rfl⟩
    · simp only [SharedBatch.abandon, if_neg holds]
      exact .inl (.running runs _ _)

theorem Like.register (like : Like flight s t) (layout : Layout) (processor : Processor α) :
    Like flight (s.register layout processor).1 (t.register layout processor).1 := by
  cases like with
  | atRest free =>
    refine .atRest ?_
    unfold SharedBatch.register
    split <;> exact free
  | running runs waiting waiting' => exact .running runs waiting waiting'

/-- While the store is at work the flight itself only waits or leaves. -/
theorem Like.advance_left (like : Like flight s t) (running : s.latch.isRunning) (store : Responder) :
    ∃ s', s.advance store flight = (s', none) ∧ Like flight s' t := by
  cases like with
  | atRest free =>
    rw [free] at running
    cases running
  | running runs waiting waiting' =>
    simp only [SharedBatch.advance, SharedBatch.poll, if_neg runs]
    exact ⟨_, rfl, .running runs _ _⟩

theorem Like.abandon_left (like : Like flight s t) (running : s.latch.isRunning) :
    Like flight (s.abandon flight) t := by
  cases like with
  | atRest free =>
    rw [free] at running
    cases running
  | running runs waiting waiting' =>
    simp only [SharedBatch.abandon, if_neg runs]
    exact .running runs _ _

theorem like_abandon (running : s.latch.isRunning)
    (apart : ∀ work waiting, s.latch ≠ .running flight work waiting) :
    Like flight s (s.abandon flight) := by
  rcases s with ⟨batch, latch, handed, answered⟩
  cases latch with
  | running holder work waiting =>
    have other : holder ≠ flight := fun same => apart work waiting (same ▸ rfl)
    simp only [SharedBatch.abandon, if_neg other]
    exact .running other _ _
  | _ => cases running

end SharedBatch

/-! ### Sessions of which one lacks a flight -/

/-- Whether an event looks after a flight or gives it up. -/
def Event.touches (flight : FlightId) : Event α → Bool
  | .turn ⟨.poll id, _⟩ | .turn ⟨.cancel id, _⟩ => id = flight
  | _ => false

namespace BatchSession

variable {s t : BatchSession α} {flight : FlightId}

/-- The second session lacks the flight and is like the first one in all else, until both are
over. -/
inductive Beside (flight : FlightId) (s t : BatchSession α) : Prop
  | ended (ended : SharedBatch.Ended s.shared t.shared)
  | still (like : SharedBatch.Like flight s.shared t.shared)
      (flights : t.flights = (s.land flight).flights) (number : t.nextFlight = s.nextFlight)
      (older : flight < s.nextFlight)

theorem find?_beside (flights : t.flights = (s.land flight).flights) {id : FlightId}
    (other : id ≠ flight) : t.flights.find? (·.id = id) = s.flights.find? (·.id = id) := by
  rw [flights, find?_land other]

theorem land_land (s : BatchSession α) (first second : FlightId) :
    ((s.land first).land second).flights = ((s.land second).land first).flights := by
  simp only [land, List.filter_filter]
  congr 1
  funext flight
  exact Bool.and_comm _ _

theorem look_of_pending {store : Responder} {found : Flight} {u : SharedBatch α}
    (advanced : s.shared.advance store found.id = (u, none)) :
    s.look store found = ({ s with shared := u }, .pending) := by
  simp only [look, attend, advanced]

theorem shared_look_of_returned {store : Responder} {found : Flight} {u : SharedBatch α}
    {attempt : Attempt Unit} (advanced : s.shared.advance store found.id = (u, some attempt))
    (past : u.Over) : (s.look store found).1.shared = u := by
  have landed : ({ s with shared := u }.land found.id).shared.Over := past
  have kept := shared_drop_of_over landed store
  simp only [look, attend, advanced]
  split
  · rename_i pending
    rw [← (Prod.mk.inj pending).1]
    rfl
  · rename_i returned
    rw [← (Prod.mk.inj returned).1]
    unfold afterFlight
    split
    · exact kept
    · rfl

theorem next_queue (s : BatchSession α) (layout : Layout) (processor : Processor α)
    (store : Responder) :
    s.next ⟨.queue layout processor, store⟩ =
      { s with shared := (s.shared.register layout processor).1 } := by
  simp only [next, step]
  rcases s.shared.register layout processor with ⟨shared, e | handle⟩ <;> rfl

namespace Beside

theorem started (beside : Beside flight s t) (purpose : Purpose) :
    Beside flight (s.start purpose) (t.start purpose) := by
  cases beside with
  | ended ended => exact .ended ended
  | still like flights number older =>
    refine .still like ?_ (congrArg (· + 1) number) (Nat.lt_succ_of_lt older)
    have apart : s.nextFlight ≠ flight := (Nat.ne_of_lt older).symm
    simp [BatchSession.start, land, flights, number, apart]

theorem gone (beside : Beside flight s t) :
    Beside flight { s with present := false } { t with present := false } := by
  cases beside with
  | ended ended => exact .ended ended
  | still like flights number older => exact .still like flights number older

theorem attend (beside : Beside flight s t) (staged : s.shared.Staged d transaction origin)
    (store : Responder) (found : Flight) (other : found.id ≠ flight) :
    Beside flight (s.attend store found).1 (t.attend store found).1 := by
  cases beside with
  | ended ended =>
    exact .ended (ended.progress (s.advances_attend store found).progresses
      (t.advances_attend store found).progresses)
  | still like flights number older =>
    rcases like.advance staged other store with
      ⟨s', t', advanced, advanced', like⟩ | ⟨s', t', attempt, advanced, advanced', ended⟩
    · simp only [BatchSession.attend, advanced, advanced']
      exact .still like flights number older
    · simp only [BatchSession.attend, advanced, advanced']
      exact .ended ended

theorem look (beside : Beside flight s t) (staged : s.shared.Staged d transaction origin)
    (store : Responder) (found : Flight) (other : found.id ≠ flight) :
    Beside flight (s.look store found).1 (t.look store found).1 := by
  cases beside with
  | ended ended =>
    exact .ended (ended.progress (s.advances_look store found).progresses
      (t.advances_look store found).progresses)
  | still like flights number older =>
    rcases like.advance staged other store with
      ⟨s', t', advanced, advanced', like⟩ | ⟨s', t', attempt, advanced, advanced', ended⟩
    · rw [look_of_pending advanced, look_of_pending advanced']
      exact .still like flights number older
    · refine .ended ?_
      rw [shared_look_of_returned advanced ended.first, shared_look_of_returned advanced' ended.second]
      exact ended

theorem launch (beside : Beside flight s t) (staged : s.shared.Staged d transaction origin)
    (store : Responder) (purpose : Purpose) :
    Beside flight (s.launch store purpose).1 (t.launch store purpose).1 := by
  cases beside with
  | ended ended =>
    exact .ended (ended.progress (s.advances_launch store purpose).progresses
      (t.advances_launch store purpose).progresses)
  | still like flights number older =>
    have started := (Beside.still like flights number older).started purpose
    have apart : s.nextFlight ≠ flight := (Nat.ne_of_lt older).symm
    have launched := started.attend staged store ⟨s.nextFlight, purpose⟩ apart
    simpa only [BatchSession.launch, number] using launched

theorem drop (beside : Beside flight s t) (staged : s.shared.Staged d transaction origin)
    (store : Responder) : Beside flight (s.drop store).1 (t.drop store).1 := by
  cases beside with
  | ended ended =>
    exact .ended (ended.progress (s.advances_drop store).progresses
      (t.advances_drop store).progresses)
  | still like flights number older =>
    have gone := (Beside.still like flights number older).gone
    simp only [BatchSession.drop, like.hasPendingWork]
    split
    · exact gone.launch staged store .dispose
    · exact gone

theorem afterFlight (beside : Beside flight s t) (staged : s.shared.Staged d transaction origin)
    (store : Responder) (purpose : Purpose) :
    Beside flight (s.afterFlight store purpose) (t.afterFlight store purpose) := by
  unfold BatchSession.afterFlight
  split
  · exact beside.drop staged store
  · exact beside

theorem poll (beside : Beside flight s t) (staged : s.shared.Staged d transaction origin)
    (store : Responder) {id : FlightId} (other : id ≠ flight) :
    Beside flight (s.poll store id).1 (t.poll store id).1 := by
  cases beside with
  | ended ended =>
    exact .ended (ended.progress (s.advances_poll store id).progresses
      (t.advances_poll store id).progresses)
  | still like flights number older =>
    simp only [BatchSession.poll, find?_beside flights other]
    split
    · exact .still like flights number older
    · rename_i found airborne
      have same : found.id ≠ flight := (mem_of_find? airborne).2.symm ▸ other
      exact (Beside.still like flights number older).look staged store found same

theorem cancel (beside : Beside flight s t) (staged : s.shared.Staged d transaction origin)
    (store : Responder) {id : FlightId} (other : id ≠ flight) :
    Beside flight (s.cancel store id) (t.cancel store id) := by
  cases beside with
  | ended ended =>
    exact .ended (ended.progress (s.progresses_cancel store id) (t.progresses_cancel store id))
  | still like flights number older =>
    simp only [BatchSession.cancel, find?_beside flights other]
    split
    · exact .still like flights number older
    · rename_i found airborne
      have after : Beside flight ({ s with shared := s.shared.abandon id }.land id)
          ({ t with shared := t.shared.abandon id }.land id) := by
        rcases like.abandon id with like | ended
        · refine .still like ?_ number older
          have landed : (t.land id).flights = ((s.land flight).land id).flights := by
            simp only [land, flights]
          exact landed.trans (s.land_land flight id)
        · exact .ended ended
      exact after.afterFlight (staged.progress (.abandon id (.refl _))) store found.purpose

theorem resolve (beside : Beside flight s t) (staged : s.shared.Staged d transaction origin)
    (store : Responder) (handle : Nat) :
    Beside flight (s.resolve store handle).1 (t.resolve store handle).1 := by
  cases beside with
  | ended ended =>
    exact .ended (ended.progress (s.advances_resolve store handle).progresses
      (t.advances_resolve store handle).progresses)
  | still like flights number older =>
    simp only [BatchSession.resolve, like.batch]
    split
    · exact .still like flights (congrArg (· + 1) number) (Nat.lt_succ_of_lt older)
    · exact (Beside.still like flights number older).launch staged store (.read handle)

theorem close (beside : Beside flight s t) (staged : s.shared.Staged d transaction origin)
    (store : Responder) : Beside flight (s.close store).1 (t.close store).1 := by
  cases beside with
  | ended ended =>
    exact .ended (ended.progress (s.advances_close store).progresses
      (t.advances_close store).progresses)
  | still like flights number older =>
    have started := (Beside.still like flights number older).gone.started .close
    have apart : s.nextFlight ≠ flight := (Nat.ne_of_lt older).symm
    have looked := started.look staged store ⟨s.nextFlight, .close⟩ apart
    simpa only [BatchSession.close, number] using looked

theorem dropSpawning (beside : Beside flight s t) :
    Beside flight s.dropSpawning t.dropSpawning := by
  cases beside with
  | ended ended =>
    refine .ended ?_
    rw [s.shared_dropSpawning, t.shared_dropSpawning]
    exact ended
  | still like flights number older =>
    have gone := (Beside.still like flights number older).gone
    simp only [BatchSession.dropSpawning, like.hasPendingWork]
    split
    · exact gone.started .dispose
    · exact gone

theorem queue (beside : Beside flight s t) (layout : Layout) (processor : Processor α) :
    Beside flight { s with shared := (s.shared.register layout processor).1 }
      { t with shared := (t.shared.register layout processor).1 } := by
  cases beside with
  | ended ended =>
    have kept : (s.shared.register layout processor).1 = s.shared :=
      ended.first.register (Prod.eta _).symm
    have kept' : (t.shared.register layout processor).1 = t.shared :=
      ended.second.register (Prod.eta _).symm
    refine .ended ?_
    rw [kept, kept']
    exact ended
  | still like flights number older =>
    exact .still (like.register layout processor) flights number older

theorem dropInRuntime (beside : Beside flight s t) (staged : s.shared.Staged d transaction origin)
    (older : flight < s.nextFlight) (store : Responder) :
    Beside flight ((s.dropSpawning.poll store s.nextFlight).1.cancel store s.nextFlight)
      ((t.dropSpawning.poll store s.nextFlight).1.cancel store s.nextFlight) := by
  have apart : s.nextFlight ≠ flight := (Nat.ne_of_lt older).symm
  have spawned : s.dropSpawning.shared.Staged d transaction origin := by
    rwa [s.shared_dropSpawning]
  have polled := beside.dropSpawning.poll spawned store apart
  have moved := (s.dropSpawning.advances_poll store s.nextFlight).progresses
  exact polled.cancel (spawned.progress moved) store apart

theorem ended_next (ended : SharedBatch.Ended s.shared t.shared) (turn : Turn α) :
    Beside flight (s.next turn) (t.next turn) := by
  obtain ⟨past, same, -⟩ := over_run ended.first [turn]
  obtain ⟨past', same', -⟩ := over_run ended.second [turn]
  exact .ended ⟨past, past', same.symm.trans (ended.same.trans same')⟩

/-- A turn that leaves the flight alone. -/
theorem next (beside : Beside flight s t) (staged : s.shared.Staged d transaction origin)
    {turn : Turn α} (apart : (Event.turn turn).touches flight = false) :
    Beside flight (s.next turn) (t.next turn) := by
  cases beside with
  | ended ended => exact ended_next ended turn
  | still like flights number older =>
    have beside : Beside flight s t := .still like flights number older
    rcases turn with ⟨action, store⟩
    cases action with
    | queue layout processor =>
      rw [next_queue, next_queue]
      exact beside.queue layout processor
    | flush => exact beside.launch staged store .flush
    | resolve handle => exact beside.resolve staged store handle
    | close => exact beside.close staged store
    | drop => exact beside.drop staged store
    | dropSpawning => exact beside.dropSpawning
    | dropInRuntime =>
      simp only [BatchSession.next, step, number]
      exact beside.dropInRuntime staged older store
    | poll id => exact beside.poll staged store (of_decide_eq_false apart)
    | cancel id => exact beside.cancel staged store (of_decide_eq_false apart)

/-- While the store is at work, what is done with the flight itself changes nothing either. -/
theorem next_touched (beside : Beside flight s t) (staged : s.shared.Staged d transaction origin)
    (busy : s.shared.batch.phase ≠ .idle) {turn : Turn α}
    (touched : (Event.turn turn).touches flight) : Beside flight (s.next turn) (t.next turn) := by
  cases beside with
  | ended ended => exact ended_next ended turn
  | still like flights number older =>
    rcases staged.over_or_running busy with past | running
    · exact ended_next (like.ended past) turn
    -- The second session does not know the flight, so there it does nothing at all.
    have absent : t.flights.find? (·.id = flight) = none := by
      rw [flights, List.find?_eq_none]
      intro found member
      simpa using (mem_land.mp member).2
    rcases turn with ⟨action, store⟩
    cases action with
    | poll id =>
      obtain rfl : id = flight := of_decide_eq_true touched
      simp only [BatchSession.next, step, BatchSession.poll, absent]
      split
      · exact .still like flights number older
      · rename_i found airborne
        obtain rfl := (mem_of_find? airborne).2
        obtain ⟨left, advanced, like⟩ := like.advance_left running store
        rw [look_of_pending advanced]
        exact .still like flights number older
    | cancel id =>
      obtain rfl : id = flight := of_decide_eq_true touched
      have stays : t.next ⟨.cancel id, store⟩ = t := by
        simp only [BatchSession.next, step, BatchSession.cancel, absent]
      rw [stays]
      cases airborne : s.flights.find? (·.id = id) with
      | none =>
        simp only [BatchSession.next, step, BatchSession.cancel, airborne]
        exact .still like flights number older
      | some found =>
        have spent := SharedBatch.hasPendingWork_abandon busy id
        obtain ⟨shared, landed, same⟩ := next_cancel airborne (.inr spent) store
        refine .still ?_ ?_ (number.trans same.symm) (same.symm ▸ older)
        · rw [shared]
          exact like.abandon_left running
        · rw [flights]
          simp [land, landed, List.filter_filter]
    | _ => cases touched

theorem meet (beside : Beside flight s t) (staged : s.shared.Staged d transaction origin)
    {event : Event α} (free : s.shared.batch.phase ≠ .idle ∨ event.touches flight = false) :
    Beside flight (s.meet event) (t.meet event) := by
  cases event with
  | made purpose => exact beside.started purpose
  | turn turn =>
    cases touched : (Event.turn turn).touches flight with
    | false => exact beside.next staged touched
    | true =>
      have busy := free.resolve_right (by rw [touched]; exact Bool.noConfusion)
      exact beside.next_touched staged busy touched

theorem agrees (beside : Beside flight s t) : s.shared.Agrees t.shared := by
  cases beside with
  | ended ended => exact ended.same
  | still like => exact like.agrees

theorem pending (beside : Beside flight s t) : t.shared.pending = s.shared.pending := by
  cases beside with
  | ended ended =>
    simp [SharedBatch.pending, ended.first.completed, ended.second.completed]
  | still like => exact like.pending

end Beside

theorem busy_meet (created : Batch.create d transaction = .ok origin)
    (staged : s.shared.Staged d transaction origin) (busy : s.shared.batch.phase ≠ .idle)
    (event : Event α) : (s.meet event).shared.batch.phase ≠ .idle := by
  intro idle
  obtain ⟨⟨calls, gathered, -, known, stage⟩, order⟩ := staged_meet created staged event
  rw [stage.eq_of_idle known idle, rank_gathering known, Nat.le_zero] at order
  unfold SharedBatch.phase at order
  split at order
  · cases phase : s.shared.batch.phase with
    | idle => exact busy phase
    | executing | completed =>
      rw [phase] at order
      cases order
  · cases order

/-- By induction on what happens, with or without the flight. -/
theorem Beside.after (created : Batch.create d transaction = .ok origin)
    (beside : Beside flight s t) (staged : s.shared.Staged d transaction origin)
    {events : List (Event α)}
    (free : s.shared.batch.phase ≠ .idle ∨ ∀ event ∈ events, event.touches flight = false) :
    Beside flight (s.after events) (t.after events) := by
  induction events generalizing s t with
  | nil => exact beside
  | cons event rest ih =>
    refine ih (beside.meet staged ?_) (staged_meet created staged event).1 ?_
    · exact free.imp_right fun apart => apart event List.mem_cons_self
    · exact free.imp (busy_meet created staged · event)
        fun apart other member => apart other (List.mem_cons_of_mem _ member)

/-- A flight that does not have the batch's work is given up. -/
theorem beside_cancel (orderly : s.Orderly) (staged : s.shared.Staged d transaction origin)
    {found : Flight} (airborne : s.flights.find? (·.id = flight) = some found)
    (apart : ∀ work waiting, s.shared.latch ≠ .running flight work waiting)
    (quiet : found.purpose ≠ .close ∨ s.shared.batch.phase ≠ .idle) (store : Responder) :
    Beside flight s (s.next ⟨.cancel flight, store⟩) := by
  obtain ⟨shared, flights, number⟩ :=
    next_cancel airborne (quiet.imp_right (SharedBatch.hasPendingWork_abandon · flight)) store
  have older : flight < s.nextFlight := by
    obtain ⟨member, same⟩ := mem_of_find? airborne
    exact same ▸ orderly.older found member
  have like : SharedBatch.Like flight s.shared (s.shared.abandon flight) ∨
      SharedBatch.Ended s.shared (s.shared.abandon flight) := by
    -- Nobody has the latch of an idle batch, and a busy one is at the store or over.
    by_cases idle : s.shared.batch.phase = .idle
    · obtain ⟨calls, gathered, -, known, stage⟩ := staged
      rw [stage.eq_of_idle known idle]
      exact .inl (.atRest rfl)
    · rcases staged.over_or_running idle with past | running
      · exact .inr ⟨past, (past.abandon flight).1, (past.abandon flight).2⟩
      · exact .inl (SharedBatch.like_abandon running apart)
  rw [← shared] at like
  rcases like with like | ended
  · exact .still like flights number older
  · exact .ended ended

/-- What is left when the flight that has the work is given up: everyone hears that the batch was
cancelled, those in the queue in their turn, and the store is not asked again. -/
theorem work_given_up (created : Batch.create d transaction = .ok origin) (orderly : s.Orderly)
    (staged : s.shared.Staged d transaction origin) {found : Flight}
    (airborne : s.flights.find? (·.id = flight) = some found) {work : Work α}
    {waiting : List FlightId} (running : s.shared.latch = .running flight work waiting)
    (store : Responder) (later : List (Event α)) :
    let t := s.next ⟨.cancel flight, store⟩
    let u := t.after later
    t.shared.latch.queue = waiting ∧ u.shared.batch.phase = .completed ∧
      (∀ handle < s.shared.batch.cells.length,
        u.shared.batch.result? handle = some (.error .cancelled)) ∧
      u.shared.handed = s.shared.handed ∧ u.shared.answered = [] ∧
      (∀ turn purpose, u.purpose? turn.action = some purpose → purpose ≠ .dispose →
        (u.response turn = .pending ∨ (u.response turn).Errs .cancelled) ∧
          (u.Admits turn.action → (u.response turn).Errs .cancelled)) ∧
      ∀ ahead other behind, u.shared.latch.queue = ahead ++ other :: behind → ∀ store,
        ∃ next, u.flights.find? (·.id = other) = some next ∧ (next.purpose ≠ .dispose →
          ((u.run (polls store ahead)).response ⟨.poll other, store⟩).Errs .cancelled) := by
  intro t u
  have leads : flight ∈ s.shared.latch.queue := by simp [running]
  have busy := staged.busy_of_queue leads
  have spent := SharedBatch.hasPendingWork_abandon busy flight
  obtain ⟨past, failed, left, handed, answered⟩ := staged.abandon running
  rw [← (next_cancel airborne (.inr spent) store).1] at past failed left handed answered
  obtain ⟨still, same⟩ := over_after past later
  have failed : u.shared.batch.Failed s.shared.batch.cells.length .cancelled := by
    rw [same.batch]
    exact failed
  have moved := (staged_meet created staged (.turn ⟨.cancel flight, store⟩)).1
  obtain ⟨⟨calls, gathered, -, known, stage⟩, -⟩ := staged_after created moved later
  have ordered : u.Orderly := (orderly.next ⟨.cancel flight, store⟩).after later
  refine ⟨left, still.completed, fun handle inside => failed.result? inside,
    same.handed.trans handed, same.answered.trans answered, ?_, ?_⟩
  · intro turn purpose calling reports
    exact errs_after_failure known stage still failed calling reports
  · intro ahead other behind queue store
    obtain ⟨next, airborne, tells⟩ := returns_in_turn ordered still queue store
    refine ⟨next, airborne, fun reports => ?_⟩
    rw [tells]
    exact failed.errs reports

end BatchSession

/-! ### Runs -/

/-- A flight that is given up leaves the queue, in which the others keep their places. If it did not
have the batch's work, all that happens later leaves the batch, its handles and the store's calls as
if it had not been given up. If it did, the batch is over, and every handle and every call from then
on, the ones in the queue in their turn, report that it was cancelled. -/
theorem giving_up_touches_own_run (created : Batch.create d transaction = .ok origin)
    (events later : List (Event α)) {id : FlightId} {flight : Flight}
    (airborne : (origin.session.after events).flights.find? (·.id = id) = some flight)
    (store : Responder) :
    let s := origin.session.after events
    let t := s.next ⟨.cancel id, store⟩
    ((∀ work waiting, s.shared.latch ≠ .running id work waiting) →
      (id ∈ s.shared.latch.queue ∨
        flight.purpose ≠ .close ∧ ∀ event ∈ later, event.touches id = false) →
      t.shared.latch.queue = s.shared.latch.queue.erase id ∧
      s.shared.Agrees t.shared ∧ t.shared.pending = s.shared.pending ∧
      (s.after later).shared.Agrees (t.after later).shared ∧
      (t.after later).shared.pending = (s.after later).shared.pending) ∧
    (∀ work waiting, s.shared.latch = .running id work waiting →
      t.shared.latch.queue = waiting ∧
      let u := t.after later
      u.shared.batch.phase = .completed ∧
      (∀ handle < s.shared.batch.cells.length,
        u.shared.batch.result? handle = some (.error .cancelled)) ∧
      u.shared.handed = s.shared.handed ∧ u.shared.answered = [] ∧
      (∀ turn purpose, u.purpose? turn.action = some purpose → purpose ≠ .dispose →
        (u.response turn = .pending ∨ (u.response turn).Errs .cancelled) ∧
          (u.Admits turn.action → (u.response turn).Errs .cancelled)) ∧
      ∀ ahead other behind, u.shared.latch.queue = ahead ++ other :: behind → ∀ store,
        ∃ found, u.flights.find? (·.id = other) = some found ∧ (found.purpose ≠ .dispose →
          ((u.run (BatchSession.polls store ahead)).response ⟨.poll other, store⟩).Errs
            .cancelled)) := by
  intro s t
  have orderly : s.Orderly := origin.orderly_session.after events
  have staged := (BatchSession.staged_after created (Batch.staged_session created) events).1
  refine ⟨fun apart untouched => ?_, fun work waiting running => ?_⟩
  · have free : s.shared.batch.phase ≠ .idle ∨ flight.purpose ≠ .close ∧
        ∀ event ∈ later, event.touches id = false := untouched.imp_left staged.busy_of_queue
    have quiet := free.symm.imp_left And.left
    have beside := BatchSession.beside_cancel orderly staged airborne apart quiet store
    have beside' := beside.after created staged (free.imp_right And.right)
    have shared := (BatchSession.next_cancel airborne
      (quiet.imp_right (SharedBatch.hasPendingWork_abandon · id)) store).1
    refine ⟨?_, beside.agrees, beside.pending, beside'.agrees, beside'.pending⟩
    rw [shared, SharedBatch.queue_abandon]
  · exact BatchSession.work_given_up created orderly staged airborne running store later

/-- A flush and a read wait behind a running flush: the read is given up and the batch is served,
or the running flush is given up and the read is told so. -/
theorem giving_up_touches_own_run_behind_runner :
    let select : Layout := [.text "SELECT 1", .terminator]
    let stalled : Responder := fun _ => none
    let ready : Responder := fun _ => some (.finished (.ok [{}]))
    let s := (Batch.session { dialect := .generic }).after
      [.turn ⟨.queue select fun rows => .finished (.ok rows.contents.length), stalled⟩,
        .turn ⟨.flush, stalled⟩, .turn ⟨.flush, stalled⟩, .turn ⟨.resolve 0, stalled⟩]
    let later : List (Event Nat) := [.turn ⟨.poll 0, ready⟩, .turn ⟨.poll 1, ready⟩]
    s.shared.latch.queue = [0, 1, 2] ∧
      (s.next ⟨.cancel 2, stalled⟩).shared.latch.queue = [0, 1] ∧
      ((s.next ⟨.cancel 2, stalled⟩).after later).shared.batch.result? 0 = some (.ok 0) ∧
      ((s.next ⟨.cancel 0, stalled⟩).after later).shared.batch.result? 0 = some (.error .cancelled) ∧
      ((s.next ⟨.cancel 0, stalled⟩).after later).shared.answered = [] := by
  intro select stalled ready s later
  have created : Batch.create .generic none = .ok ({ dialect := .generic } : Batch Nat) := rfl
  obtain ⟨spared, -⟩ := @giving_up_touches_own_run Nat .generic none _ created
    [.turn ⟨.queue select fun rows => .finished (.ok rows.contents.length), stalled⟩,
      .turn ⟨.flush, stalled⟩, .turn ⟨.flush, stalled⟩, .turn ⟨.resolve 0, stalled⟩]
    later 2 ⟨2, .read 0⟩ rfl stalled
  obtain ⟨left, -, -, same, -⟩ := spared nofun (.inl (by decide))
  obtain ⟨-, given⟩ := @giving_up_touches_own_run Nat .generic none _ created
    [.turn ⟨.queue select fun rows => .finished (.ok rows.contents.length), stalled⟩,
      .turn ⟨.flush, stalled⟩, .turn ⟨.flush, stalled⟩, .turn ⟨.resolve 0, stalled⟩]
    later 0 ⟨0, .flush⟩ rfl stalled
  obtain ⟨-, -, cancelled, -, nothing, -⟩ := given _ _ rfl
  subst s
  refine ⟨by decide, left, ?_, cancelled 0 (by decide), nothing⟩
  rw [same.batch]
  rfl

end SqlBatch
