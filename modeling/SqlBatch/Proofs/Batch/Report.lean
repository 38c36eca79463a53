import SqlBatch.Proofs.Batch.Stage

/-!
# What calls report

A call that returns tells the outcome of the batch, unless the run that it triggered broke off.
`report` says so of every call that reports at all.
-/
namespace SqlBatch

variable {α : Type}

/-- What an attempt comes to for those who only hear of it. -/
def Attempt.settled {β : Type} : Attempt β → Except Error β
  | .finished result => result
  | .aborted => .error .cancelled

namespace Batch

variable (b : Batch α) (work : Work α) (reply : Attempt (List RowSet))

theorem cells_complete : (b.complete work reply).1.cells = (work.deliver reply b.cells).cells := by
  simp only [complete]
  split <;> rfl

theorem processed_complete :
    (b.complete work reply).1.processed =
      b.processed ++ (work.deliver reply b.cells).processed := by
  simp only [complete]
  split <;> rfl

theorem snd_complete : (b.complete work reply).2 = (work.deliver reply b.cells).outcome := by
  simp only [complete]
  split <;> simp_all

theorem outcome_complete (fresh : b.failure = none) :
    (b.complete work reply).1.outcome = (work.deliver reply b.cells).outcome.settled := by
  simp only [complete]
  split
  · rename_i result ended
    rw [ended]
    cases result <;> simp [finish, outcome, Attempt.settled, fresh]
  · rename_i ended
    rw [ended]
    rfl

end Batch

/-! ### Responses -/

theorem Purpose.response_of_agrees {s t : SharedBatch α} (same : s.Agrees t) (purpose : Purpose)
    (attempt : Attempt Unit) : purpose.response t attempt = purpose.response s attempt := by
  cases purpose with
  | read handle => cases attempt <;> simp only [Purpose.response, SharedBatch.readAfter, same.batch]
  | _ => rfl

theorem Purpose.response_ne_pending (purpose : Purpose) (s : SharedBatch α)
    (attempt : Attempt Unit) : purpose.response s attempt ≠ .pending := by
  cases purpose <;> cases attempt <;> exact nofun

/-! ### Flights -/

/-- The exchange in which the store answered a run that began with the batch `gathered`. -/
structure Completes (gathered : Batch α) (s t : SharedBatch α) (attempt : Attempt Unit) : Prop where
  before : s.answered = []
  exchange : ∃ batch work reply, gathered.take = (batch, .run work) ∧
    t.batch = (batch.complete work reply).1 ∧ t.answered = [⟨work.request, reply⟩] ∧
    attempt = (batch.complete work reply).2

section

variable {d : Dialect} {transaction : Option TransactionOptions} {calls : List (QueueCall α)}
  {gathered : Batch α} {s : SharedBatch α}

theorem Stage.answered_of_submitted (known : gathered.Gathered d transaction calls)
    (stage : Stage gathered s) {flight : FlightId} {t : SharedBatch α} {request : Rendered}
    (polled : s.poll flight = (t, .submitted request)) (reply : Attempt (List RowSet)) :
    (t.answer reply).1.Over ∧ Completes gathered s (t.answer reply).1 (t.answer reply).2 := by
  have running : ∃ batch work holder waiting, gathered.take = (batch, .run work) ∧
      s.answered = [] ∧ t = ⟨batch, .running holder work waiting, [work.request], []⟩ := by
    cases stage with
    | gathering =>
      simp only [SharedBatch.poll, SharedBatch.acquire] at polled
      rcases taken : gathered.take with ⟨batch, outcome | work⟩
      · rw [taken] at polled
        cases polled
      · rw [taken] at polled
        cases polled
        exact ⟨batch, work, flight, [], rfl, rfl, rfl⟩
    | @running batch work taken holder waiting =>
      simp only [SharedBatch.poll] at polled
      split at polled <;> cases polled
      exact ⟨batch, work, holder, waiting, taken, rfl, rfl⟩
    | @past batch handed answered ending latch quiet =>
      have past : SharedBatch.Over ⟨batch, latch, handed, answered⟩ :=
        ⟨ending.completed known, quiet⟩
      have reported := past.reported flight
      rw [polled] at reported
      split at reported <;> cases reported
  obtain ⟨batch, work, holder, waiting, taken, before, rfl⟩ := running
  exact ⟨⟨Batch.phase_complete _ _ _, isRunning_passOn _⟩, before, batch, work, reply, taken, rfl,
    rfl, rfl⟩

theorem Stage.returned (known : gathered.Gathered d transaction calls) (stage : Stage gathered s)
    {flight : FlightId} {t : SharedBatch α} {outcome : Except Error Unit}
    (polled : s.poll flight = (t, .returned outcome)) : t.Over ∧ outcome = t.batch.outcome := by
  cases stage with
  | gathering =>
    simp only [SharedBatch.poll, SharedBatch.acquire] at polled
    rcases taken : gathered.take with ⟨batch, result | work⟩
    · rw [taken] at polled
      cases polled
      exact ⟨⟨known.phase_of_done taken, rfl⟩, known.outcome_of_done taken⟩
    · rw [taken] at polled
      cases polled
  | running taken holder waiting =>
    simp only [SharedBatch.poll] at polled
    split at polled <;> cases polled
  | @past batch handed answered ending latch quiet =>
    have past : SharedBatch.Over ⟨batch, latch, handed, answered⟩ :=
      ⟨ending.completed known, quiet⟩
    have kept := past.poll flight
    rw [polled] at kept
    refine ⟨kept.1, ?_⟩
    have reported := past.reported flight
    rw [polled] at reported
    rw [kept.2.batch]
    split at reported <;> cases reported
    rfl

theorem Completes.settled (known : gathered.Gathered d transaction calls) {t : SharedBatch α}
    {attempt : Attempt Unit} (completes : Completes gathered s t attempt) :
    attempt = .finished t.batch.outcome ∨ attempt = .aborted := by
  obtain ⟨batch, work, reply, taken, becomes, -, rfl⟩ := completes.exchange
  rw [becomes, Batch.snd_complete, Batch.outcome_complete _ _ _ (known.sent taken).failure]
  cases (work.deliver reply batch.cells).outcome with
  | finished result => exact .inl rfl
  | aborted => exact .inr rfl

theorem Completes.cancelled (known : gathered.Gathered d transaction calls) {t : SharedBatch α}
    (completes : Completes gathered s t .aborted) : t.batch.outcome = .error .cancelled := by
  obtain ⟨batch, work, reply, taken, becomes, -, broke⟩ := completes.exchange
  rw [Batch.snd_complete] at broke
  rw [becomes, Batch.outcome_complete _ _ _ (known.sent taken).failure, ← broke]
  rfl

theorem Stage.completed_of_waiting (known : gathered.Gathered d transaction calls)
    (stage : Stage gathered s) {flight : FlightId} {t : SharedBatch α} {progress : Progress}
    (polled : s.poll flight = (t, progress)) (waits : ∀ outcome, progress ≠ .returned outcome)
    (completed : t.batch.phase = .completed) : s.batch.phase = .completed := by
  cases stage with
  | gathering =>
    simp only [SharedBatch.poll, SharedBatch.acquire] at polled
    rcases taken : gathered.take with ⟨batch, outcome | work⟩
    · rw [taken] at polled
      cases polled
      exact (waits _ rfl).elim
    · rw [taken] at polled
      cases polled
      exact Phase.noConfusion ((known.sent taken).phase.symm.trans completed)
  | running taken holder waiting =>
    simp only [SharedBatch.poll] at polled
    split at polled <;>
    · cases polled
      exact completed
  | past ending quiet => exact ending.completed known

theorem Stage.advance_none (known : gathered.Gathered d transaction calls)
    (stage : Stage gathered s) {store : Responder} {flight : FlightId} {t : SharedBatch α}
    (advanced : s.advance store flight = (t, none)) (completed : t.batch.phase = .completed) :
    s.batch.phase = .completed := by
  unfold SharedBatch.advance at advanced
  split at advanced
  · rename_i polled
    cases advanced
    refine stage.completed_of_waiting known polled ?_ completed
    intro outcome same
    cases same
  · cases advanced
  · rename_i polled
    split at advanced
    · cases advanced
      refine stage.completed_of_waiting known polled ?_ completed
      intro outcome same
      cases same
    · cases advanced

theorem Stage.advance (known : gathered.Gathered d transaction calls) (stage : Stage gathered s)
    {store : Responder} {flight : FlightId} {t : SharedBatch α} {attempt : Attempt Unit}
    (advanced : s.advance store flight = (t, some attempt)) :
    t.Over ∧ (attempt = .finished t.batch.outcome ∨
      attempt = .aborted ∧ Completes gathered s t .aborted) := by
  unfold SharedBatch.advance at advanced
  split at advanced
  · cases advanced
  · rename_i polled
    cases advanced
    obtain ⟨past, same⟩ := stage.returned known polled
    exact ⟨past, .inl (by rw [same])⟩
  · rename_i u request polled
    split at advanced
    · cases advanced
    · rename_i reply _
      obtain ⟨past, completes⟩ := stage.answered_of_submitted known polled reply
      rcases answered : u.answer reply with ⟨after, outcome⟩
      rw [answered] at advanced past completes
      cases advanced
      exact ⟨past, (completes.settled known).imp_right fun broke => ⟨broke, broke ▸ completes⟩⟩

theorem Stage.over_of_result (known : gathered.Gathered d transaction calls)
    (stage : Stage gathered s) {handle : Nat} {result : Except Error α}
    (found : s.batch.result? handle = some result) : s.Over := by
  have none_of_unset : ∀ {b : Batch α}, b.cells = List.replicate calls.length none →
      b.result? handle = none := by
    intro b unset
    rw [Batch.result?, unset, List.getElem?_replicate]
    split <;> rfl
  cases stage with
  | gathering =>
    rw [none_of_unset known.cells] at found
    cases found
  | running taken =>
    rw [none_of_unset (known.sent taken).cells] at found
    cases found
  | past ending quiet => exact ⟨ending.completed known, quiet⟩

end

/-! ### Calls -/

/-- How a call ends that began with the batch `gathered` and took the session from `s` to `t`: it
waits, it tells the outcome, or the run that it triggered broke off. -/
def Ends (gathered : Batch α) (purpose : Purpose) (s t : SharedBatch α)
    (response : BatchResponse α) : Prop :=
  response = .pending ∧ (t.batch.phase = .completed → s.batch.phase = .completed) ∨
    t.Over ∧ (response = purpose.response t (.finished t.batch.outcome) ∨
      response = purpose.response t .aborted ∧ Completes gathered s t .aborted)

namespace BatchSession

variable {d : Dialect} {transaction : Option TransactionOptions} {calls : List (QueueCall α)}
  {gathered : Batch α} {s : BatchSession α}

theorem shared_drop_of_over (past : s.shared.Over) (store : Responder) :
    (s.drop store).1.shared = s.shared := by
  have spent : s.shared.hasPendingWork = false := by
    simp [SharedBatch.hasPendingWork, past.completed]
  simp [drop, spent]

theorem attend_ends (known : gathered.Gathered d transaction calls)
    (stage : Stage gathered s.shared) (store : Responder) (flight : Flight) :
    Ends gathered flight.purpose s.shared (s.attend store flight).1.shared
      (s.attend store flight).2 := by
  rcases advanced : s.shared.advance store flight.id with ⟨t, _ | attempt⟩
  · simp only [attend, advanced]
    exact .inl ⟨rfl, stage.advance_none known advanced⟩
  · obtain ⟨past, rfl | ⟨rfl, completes⟩⟩ := stage.advance known advanced
    · simp only [attend, advanced, land]
      exact .inr ⟨past, .inl rfl⟩
    · simp only [attend, advanced, land]
      exact .inr ⟨past, .inr ⟨rfl, completes⟩⟩

theorem launch_ends (known : gathered.Gathered d transaction calls)
    (stage : Stage gathered s.shared) (store : Responder) (purpose : Purpose) :
    Ends gathered purpose s.shared (s.launch store purpose).1.shared
      (s.launch store purpose).2 := by
  have started : Stage gathered (s.start purpose).shared := stage
  exact attend_ends known started store _

theorem look_ends (known : gathered.Gathered d transaction calls)
    (stage : Stage gathered s.shared) (store : Responder) (flight : Flight) :
    Ends gathered flight.purpose s.shared (s.look store flight).1.shared
      (s.look store flight).2 := by
  have ends := attend_ends known stage store flight
  rcases attended : s.attend store flight with ⟨t, response⟩
  rw [attended] at ends
  rcases ends with ⟨waits, still⟩ | ⟨past, rest⟩
  · simp only at waits still
    subst waits
    simp only [look, attended]
    exact .inl ⟨rfl, still⟩
  · have same : (t.afterFlight store flight.purpose).shared = t.shared := by
      unfold afterFlight
      split
      · exact shared_drop_of_over past store
      · rfl
    have landed : s.look store flight = (t.afterFlight store flight.purpose, response) ∨
        s.look store flight = (t, response) := by
      unfold look
      rw [attended]
      cases response <;> simp
    rcases landed with landed | landed <;> rw [landed]
    · simp only [same]
      exact .inr ⟨past, rest⟩
    · exact .inr ⟨past, rest⟩

/-- What a call is for that says how the batch went. -/
def purpose? (s : BatchSession α) : BatchAction α → Option Purpose
  | .flush => some .flush
  | .resolve handle => some (.read handle)
  | .close => some .close
  | .poll flight => (s.flights.find? (·.id = flight)).map (·.purpose)
  | _ => none

/-- Every call waits, tells the outcome, or breaks off with the run that it triggered. -/
theorem report (known : gathered.Gathered d transaction calls) (stage : Stage gathered s.shared)
    {turn : Turn α} {purpose : Purpose} (calls : s.purpose? turn.action = some purpose) :
    Ends gathered purpose s.shared (s.next turn).shared (s.response turn) := by
  rcases turn with ⟨action, store⟩
  cases action with
  | flush =>
    cases calls
    exact launch_ends known stage store .flush
  | resolve handle =>
    cases calls
    rcases found : s.shared.batch.result? handle with _ | result
    · simp only [next, response, step, resolve, found]
      exact launch_ends known stage store (.read handle)
    · have past := stage.over_of_result known found
      simp only [next, response, step, resolve, found]
      refine .inr ⟨past, .inl ?_⟩
      simp only [Purpose.response, SharedBatch.readAfter, Batch.read, found]
  | close =>
    cases calls
    have launched : Stage gathered ({ s with present := false }.start .close).shared := stage
    exact look_ends known launched store ⟨s.nextFlight, .close⟩
  | poll flight =>
    obtain ⟨found, airborne, rfl⟩ := Option.map_eq_some_iff.mp calls
    simp only [next, response, step, poll, airborne]
    exact look_ends known stage store found
  | _ => cases calls

/-! ### Calls that come late -/

theorem attend_of_admits (past : s.shared.Over) (store : Responder) {flight : Flight}
    (admits : s.shared.admits flight.id) : (s.attend store flight).2 ≠ .pending := by
  have reported := past.reported flight.id
  rw [if_pos admits] at reported
  have advanced : (s.shared.advance store flight.id).2 =
      some (.finished s.shared.batch.outcome) := by
    rcases polled : s.shared.poll flight.id with ⟨t, progress⟩
    rw [polled] at reported
    simp only at reported
    subst reported
    simp only [SharedBatch.advance, polled]
  rcases found : s.shared.advance store flight.id with ⟨t, attempt⟩
  rw [found] at advanced
  simp only at advanced
  subst advanced
  simp only [attend, found]
  exact flight.purpose.response_ne_pending t _

theorem look_of_attend {store : Responder} {flight : Flight}
    (returns : (s.attend store flight).2 ≠ .pending) :
    (s.look store flight).2 ≠ .pending := by
  unfold look
  split
  · rename_i attended
    rw [attended] at returns
    exact absurd rfl returns
  · rename_i attended
    rwa [attended] at returns

/-- Whether a call would find the latch open to it. -/
def Admits (s : BatchSession α) : BatchAction α → Bool
  | .poll flight => s.shared.admits flight
  | _ => s.shared.isFree

theorem admits_of_isFree {t : SharedBatch α} (free : t.isFree) (flight : FlightId) :
    t.admits flight := by
  unfold SharedBatch.isFree at free
  split at free
  · rename_i latch
    simp [SharedBatch.admits, latch]
  · cases free

theorem returns_of_admits (past : s.shared.Over) {turn : Turn α} {purpose : Purpose}
    (calls : s.purpose? turn.action = some purpose) (admits : s.Admits turn.action) :
    s.response turn ≠ .pending := by
  rcases turn with ⟨action, store⟩
  cases action with
  | flush =>
    have started : (s.start .flush).shared.Over := past
    exact attend_of_admits started store (admits_of_isFree admits _)
  | resolve handle =>
    simp only [response, step, resolve]
    split
    · intro same
      cases same
    · have started : (s.start (.read handle)).shared.Over := past
      exact attend_of_admits started store (admits_of_isFree admits _)
  | close =>
    have started : ({ s with present := false }.start .close).shared.Over := past
    exact look_of_attend (attend_of_admits started store (admits_of_isFree admits _))
  | poll flight =>
    obtain ⟨found, airborne, -⟩ := Option.map_eq_some_iff.mp calls
    have same : found.id = flight := by simpa using List.find?_some airborne
    simp only [response, step, poll, airborne]
    exact look_of_attend (attend_of_admits past store (by rwa [same]))
  | _ => cases calls

theorem tells_of_over (known : gathered.Gathered d transaction calls)
    (stage : Stage gathered s.shared) (past : s.shared.Over) {turn : Turn α} {purpose : Purpose}
    (calls : s.purpose? turn.action = some purpose) :
    let told := purpose.response s.shared (.finished s.shared.batch.outcome)
    (s.response turn = .pending ∨ s.response turn = told) ∧
      (s.Admits turn.action → s.response turn = told) := by
  intro told
  have same : s.shared.Agrees (s.next turn).shared := (over_run past [turn]).2.1
  have either : s.response turn = .pending ∨ s.response turn = told := by
    rcases report known stage calls with ⟨waits, -⟩ | ⟨-, tells | ⟨-, completes⟩⟩
    · exact .inl waits
    · rw [purpose.response_of_agrees same, same.batch] at tells
      exact .inr tells
    · obtain ⟨batch, work, reply, -, -, answered, -⟩ := completes.exchange
      rw [same.answered, completes.before] at answered
      cases answered
  exact ⟨either, fun admits => either.resolve_left (returns_of_admits past calls admits)⟩

end BatchSession

end SqlBatch
