import SqlBatch.Proofs.Batch.Results

/-!
# Triggers

Who triggers a batch, and who waits for it or reads it when, decides nothing while no flight is
given up: `trigger_independent`. All there is to such a run is `Batch.concluded`.
-/
namespace SqlBatch

variable {α : Type} {answer : Rendered → Attempt (List RowSet)}

/-! ### Stores that keep to their answers -/

/-- A store that answers a request in one way only, now or later. -/
def Responder.Gives (store : Responder) (answer : Rendered → Attempt (List RowSet)) : Prop :=
  ∀ request reply, store request = some reply → reply = answer request

/-- A turn that gives no flight up, with a store that keeps to its answers. -/
structure Turn.Calm (answer : Rendered → Attempt (List RowSet)) (turn : Turn α) : Prop where
  keeps : turn.action.givesUp = false
  gives : turn.store.Gives answer

/-- The request that is with the store. -/
def Latch.requests : Latch α → List Rendered
  | .running _ work _ => [work.request]
  | _ => []

theorem requests_passOn (waiting : List FlightId) :
    (SharedBatch.passOn waiting : Latch α).requests = [] := by
  cases waiting <;> rfl

theorem Latch.requests_of_quiet {latch : Latch α} (quiet : latch.isRunning = false) :
    latch.requests = [] := by
  cases latch with
  | running => cases quiet
  | _ => rfl

namespace SharedBatch

/-- Each request that was handed to the store is still with it or got its answer. -/
structure Undisturbed (answer : Rendered → Attempt (List RowSet)) (s : SharedBatch α) : Prop where
  kept : s.handed = s.answered.map (·.request) ++ s.latch.requests
  answers : ∀ exchange ∈ s.answered, exchange.reply = answer exchange.request

variable {s t : SharedBatch α}

theorem Undisturbed.acquire (calm : s.Undisturbed answer) (quiet : s.latch.isRunning = false)
    (flight : FlightId) (waiting : List FlightId) :
    (s.acquire flight waiting).1.Undisturbed answer := by
  have kept := calm.kept
  rw [Latch.requests_of_quiet quiet] at kept
  unfold SharedBatch.acquire
  split
  · exact ⟨kept.trans (by rw [requests_passOn]), calm.answers⟩
  · exact ⟨by simp [kept, Latch.requests], calm.answers⟩

theorem Undisturbed.poll (calm : s.Undisturbed answer) (flight : FlightId) :
    (s.poll flight).1.Undisturbed answer := by
  have kept := calm.kept
  unfold SharedBatch.poll
  split
  · rename_i free
    exact calm.acquire (by rw [free]; rfl) flight []
  · rename_i holder waiting granted
    split
    · exact calm.acquire (by rw [granted]; rfl) flight waiting
    · exact ⟨by simpa [granted, Latch.requests] using kept, calm.answers⟩
  · rename_i holder work waiting running
    split
    · exact calm
    · exact ⟨by simpa [running, Latch.requests] using kept, calm.answers⟩

theorem Undisturbed.advance (calm : s.Undisturbed answer) {store : Responder}
    (gives : store.Gives answer) (flight : FlightId) :
    (s.advance store flight).1.Undisturbed answer := by
  have polled := calm.poll flight
  unfold SharedBatch.advance
  split
  · rename_i t found
    simpa only [found] using polled
  · rename_i t outcome found
    simpa only [found] using polled
  · rename_i t request found
    rw [found] at polled
    split
    · exact polled
    · rename_i reply answered
      obtain ⟨work, waiting, running, rfl⟩ := SharedBatch.running_of_submitted found
      have kept := polled.kept
      rw [running] at kept
      simp only [SharedBatch.answer, running]
      refine ⟨kept.trans ?_, ?_⟩
      · rw [requests_passOn, List.map_append, List.append_nil]
        rfl
      · refine List.forall_mem_append.mpr ⟨polled.answers, fun exchange member => ?_⟩
        obtain rfl := List.mem_singleton.mp member
        exact gives _ _ answered

theorem Undisturbed.advances (calm : s.Undisturbed answer) {store : Responder}
    (gives : store.Gives answer) (advanced : s.Advances store t) : t.Undisturbed answer := by
  induction advanced with
  | refl => exact calm
  | advance flight _ ih => exact ih.advance gives flight

theorem Undisturbed.register (calm : s.Undisturbed answer) (layout : Layout)
    (processor : Processor α) : (s.register layout processor).1.Undisturbed answer := by
  unfold SharedBatch.register
  split
  · exact ⟨calm.kept, calm.answers⟩
  · exact calm

end SharedBatch

theorem BatchSession.undisturbed_run {s : BatchSession α} (calm : s.shared.Undisturbed answer)
    {turns : List (Turn α)} (calls : ∀ turn ∈ turns, turn.Calm answer) :
    (s.run turns).shared.Undisturbed answer := by
  induction turns generalizing s with
  | nil => exact calm
  | cons turn rest ih =>
    obtain ⟨now, later⟩ := List.forall_mem_cons.mp calls
    refine ih ?_ later
    rcases s.next_advances now.keeps with ⟨layout, processor, -, becomes⟩ | ⟨-, advanced⟩
    · rw [becomes]
      exact calm.register layout processor
    · exact calm.advances now.gives advanced

theorem Batch.undisturbed_run (start : Batch α) {turns : List (Turn α)}
    (calls : ∀ turn ∈ turns, turn.Calm answer) :
    (start.session.run turns).shared.Undisturbed answer :=
  BatchSession.undisturbed_run ⟨rfl, List.forall_mem_nil _⟩ calls

/-! ### The one way to end -/

/-- How a batch ends that is run and not given up. -/
def Batch.concluded (answer : Rendered → Attempt (List RowSet)) (b : Batch α) : SharedBatch α :=
  match b.take with
  | (batch, .done _) => { batch }
  | (batch, .run work) =>
    let reply := answer work.request
    { batch := (batch.complete work reply).1
      handed := [work.request]
      answered := [⟨work.request, reply⟩] }

section

variable {d : Dialect} {transaction : Option TransactionOptions} {calls : List (QueueCall α)}
  {gathered : Batch α} {s : SharedBatch α}

/-- A request that was given up would have been handed over and be nowhere now. -/
theorem Stage.concluded (known : gathered.Gathered d transaction calls) (stage : Stage gathered s)
    (calm : s.Undisturbed answer) (completed : s.batch.phase = .completed) :
    (gathered.concluded answer).Agrees s := by
  cases stage with
  | gathering => exact Phase.noConfusion (known.phase.symm.trans completed)
  | running taken => exact Phase.noConfusion ((known.sent taken).phase.symm.trans completed)
  | past ending quiet =>
    have kept := calm.kept
    rw [Latch.requests_of_quiet quiet] at kept
    cases ending with
    | settled taken =>
      rw [Batch.concluded, taken]
      exact ⟨rfl, rfl, rfl⟩
    | @answered batch work taken reply =>
      have gives : reply = answer work.request :=
        calm.answers ⟨work.request, reply⟩ (List.mem_singleton.mpr rfl)
      subst gives
      rw [Batch.concluded, taken]
      exact ⟨rfl, rfl, rfl⟩
    | givenUp taken => cases kept

/-- A batch that has something to send and can end its transaction makes one call. -/
theorem Batch.Gathered.exists_call (known : gathered.Gathered d transaction calls)
    (nonempty : calls ≠ []) (committed : gathered.ended.isOk)
    (answer : Rendered → Attempt (List RowSet)) :
    ∃ request, (gathered.concluded answer).handed = [request] ∧
      (gathered.concluded answer).answered = [⟨request, answer request⟩] := by
  have taken := known.take_eq
  rw [if_neg nonempty] at taken
  cases outcome : gathered.ended with
  | error e =>
    rw [outcome] at committed
    cases committed
  | ok closed =>
    rw [outcome] at taken
    rw [Batch.concluded, taken]
    exact ⟨_, rfl, rfl⟩

end

/-! ### Results -/

section

variable {d : Dialect} {transaction : Option TransactionOptions} {calls : List (QueueCall α)}
  {gathered : Batch α} {s t : SharedBatch α}

theorem made_ne_aborted {lead : Nat} {sets : List RowSet}
    (whole : ∀ call ∈ calls, ∀ rows, call.processor rows ≠ .aborted) (handle : Nat) :
    made lead calls sets handle ≠ some .aborted := by
  intro broke
  obtain ⟨call, found, fed⟩ := Option.bind_eq_some_iff.mp broke
  obtain ⟨rows, -, aborted⟩ := Option.map_eq_some_iff.mp fed
  exact whole call (List.mem_of_getElem? found) rows aborted

theorem Stage.exists_result (known : gathered.Gathered d transaction calls)
    (stage : Stage gathered s) (completed : s.batch.phase = .completed)
    (whole : ∀ call ∈ calls, ∀ rows, call.processor rows ≠ .aborted) {handle : Nat}
    (inside : handle < calls.length) : ∃ result, s.batch.result? handle = some result := by
  rcases stage.failed_or_answered known completed with
    empty | ⟨e, failed⟩ | ⟨request, sets, answered, complete⟩
  · rw [empty] at inside
    cases inside
  · exact ⟨_, failed.result? inside⟩
  · have handed := stage.handedOut known answered complete
    obtain ⟨result | -, makes⟩ := handed.fed handle inside
    · exact ⟨result, handed.own handle result makes fun earlier _ => made_ne_aborted whole earlier⟩
    · exact (made_ne_aborted whole handle makes).elim

theorem Batch.Sent.aborted_of_whole {b : Batch α} {work : Work α}
    (sent : b.Sent d transaction calls work)
    (whole : ∀ call ∈ calls, ∀ rows, call.processor rows ≠ .aborted) {reply : Attempt (List RowSet)}
    (broke : (work.deliver reply b.cells).outcome = .aborted) : reply = .aborted := by
  cases failure : Exchange.failure? ⟨work.request, reply⟩ with
  | some e => exact Work.aborted_of_failure failure broke
  | none =>
    rcases reply with (error | sets) | -
    · cases failure
    · have complete : sets.length = work.request.statements := by
        simpa [Exchange.failure?] using failure
      have served := sent.intact complete fun handle _ => made_ne_aborted whole handle
      rw [served.outcome] at broke
      cases broke
    · rfl

/-- Where no processor breaks off, a run does so only with the store. -/
theorem Completes.aborted_of_whole (known : gathered.Gathered d transaction calls)
    (whole : ∀ call ∈ calls, ∀ rows, call.processor rows ≠ .aborted)
    (completes : Completes gathered s t .aborted) :
    ∃ request, t.answered = [⟨request, .aborted⟩] := by
  obtain ⟨batch, work, reply, taken, -, answered, broke⟩ := completes.exchange
  rw [Batch.snd_complete] at broke
  obtain rfl := (known.sent taken).aborted_of_whole whole broke.symm
  exact ⟨work.request, answered⟩

end

/-- Each call in a run that reads a handle waits or tells the given result. Only a call that meets a
store that breaks off breaks off, too. -/
def ReadsAs (start : Batch α) (turns : List (Turn α)) (handle : Nat) (result : Except Error α) :
    Prop :=
  ∀ before turn after, turns = before ++ turn :: after →
    (start.session.run before).purpose? turn.action = some (.read handle) →
    let response := (start.session.run before).response turn
    response = .pending ∨ response = .value (.finished result) ∨
      response = .value .aborted ∧
        ∃ request, (start.session.run turns).shared.answered = [⟨request, .aborted⟩]

theorem readsAs_of_result? {d : Dialect} {transaction : Option TransactionOptions}
    {start : Batch α} (created : Batch.create d transaction = .ok start) {turns : List (Turn α)}
    (whole : ∀ call ∈ start.session.queuedIn turns, ∀ rows, call.processor rows ≠ .aborted)
    {handle : Nat} {result : Except Error α}
    (found : (start.session.run turns).shared.batch.result? handle = some result) :
    ReadsAs start turns handle result := by
  intro before turn after split calling response
  obtain ⟨gathered, -, known, stage⟩ := BatchSession.stage_run created before
  have kept : ((start.session.run before).next turn).shared.Over →
      ((start.session.run before).next turn).shared.Agrees (start.session.run turns).shared := by
    intro past
    rw [split, BatchSession.run_append]
    exact (BatchSession.over_run past after).2.1
  rcases BatchSession.report known stage calling with
    ⟨waits, -⟩ | ⟨past, tells | ⟨breaks, completes⟩⟩
  · exact .inl waits
  · refine .inr (.inl ?_)
    rw [(kept past).batch] at found
    simp only [response, tells, Purpose.response, SharedBatch.readAfter, Batch.read, found]
  · refine .inr (.inr ⟨breaks, ?_⟩)
    rw [split, BatchSession.queuedIn_append] at whole
    obtain ⟨request, answered⟩ :=
      completes.aborted_of_whole known fun call earlier => whole call (List.mem_append_left _ earlier)
    exact ⟨request, (kept past).answered.trans answered⟩

/-! ### Two runs -/

/-- Two complete runs that queue the same elements, and in which no flight is given up and no
processor breaks off, end with the same batch behind the same call of the store, and every handle
reads the same in both. -/
theorem trigger_independent {d : Dialect} {transaction : Option TransactionOptions}
    {start : Batch α} (created : Batch.create d transaction = .ok start)
    {turns others : List (Turn α)} (calm : ∀ turn ∈ turns, turn.Calm answer)
    (calm' : ∀ turn ∈ others, turn.Calm answer)
    (same : start.session.queuedIn others = start.session.queuedIn turns)
    (whole : ∀ call ∈ start.session.queuedIn turns, ∀ rows, call.processor rows ≠ .aborted)
    (completed : (start.session.run turns).shared.batch.phase = .completed)
    (completed' : (start.session.run others).shared.batch.phase = .completed) :
    let calls := start.session.queuedIn turns
    let s := (start.session.run turns).shared
    let t := (start.session.run others).shared
    s.Agrees t ∧
      (calls ≠ [] → ((start.gather calls).bind Batch.ended).isOk →
        ∃ request, s.handed = [request] ∧ s.answered = [⟨request, answer request⟩]) ∧
      ∀ handle < calls.length, ∃ result,
        s.batch.result? handle = some result ∧ t.batch.result? handle = some result ∧
          ReadsAs start turns handle result ∧ ReadsAs start others handle result := by
  intro calls s t
  obtain ⟨gathered, taken, known, stage⟩ := BatchSession.stage_run created turns
  obtain ⟨gathered', taken', known', stage'⟩ := BatchSession.stage_run created others
  rw [same] at taken' known'
  obtain rfl : gathered = gathered' := Except.ok.inj (taken.symm.trans taken')
  -- Neither run has a choice: both end as the batch does that they gathered.
  have ends := stage.concluded known (start.undisturbed_run calm) completed
  have ends' := stage'.concluded known' (start.undisturbed_run calm') completed'
  have agrees : s.Agrees t := ends.symm.trans ends'
  refine ⟨agrees, ?_, ?_⟩
  · intro nonempty committed
    rw [taken] at committed
    obtain ⟨request, handed, answered⟩ := known.exists_call nonempty committed answer
    exact ⟨request, ends.handed.trans handed, ends.answered.trans answered⟩
  · intro handle inside
    obtain ⟨result, found⟩ := stage.exists_result known completed whole inside
    have found' : t.batch.result? handle = some result := by rw [agrees.batch, found]
    refine ⟨result, found, found', readsAs_of_result? created whole found, ?_⟩
    exact readsAs_of_result? created (by rwa [same]) found'

/-- One run flushes and reads while the store is at work; in the other one the context goes first. -/
theorem trigger_independent_of_drop :
    let answer : Rendered → Attempt (List RowSet) := fun _ => .finished (.ok [{ affected := 7 }])
    let select : Layout := [.text "SELECT 1", .terminator]
    let stalled : Responder := fun _ => none
    let ready : Responder := fun request => some (answer request)
    let processor : Processor Nat := fun rows => .finished (.ok rows.affected.toNat)
    let queue : Turn Nat := ⟨.queue select processor, stalled⟩
    let turns := [queue, ⟨.flush, stalled⟩, ⟨.resolve 0, stalled⟩, ⟨.poll 0, ready⟩, ⟨.poll 1, ready⟩]
    let others := [queue, ⟨.drop, ready⟩, ⟨.resolve 0, stalled⟩]
    let start : Batch Nat := { dialect := .generic }
    (start.session.run turns).shared.Agrees (start.session.run others).shared ∧
      ReadsAs start turns 0 (.ok 7) ∧ ReadsAs start others 0 (.ok 7) := by
  intro answer select stalled ready processor queue turns others start
  have waits : stalled.Gives answer := nofun
  have gives : ready.Gives answer := fun request reply same => (Option.some.inj same).symm
  have calm : ∀ turn ∈ turns, turn.Calm answer := by
    simp only [turns, List.forall_mem_cons]
    exact ⟨⟨rfl, waits⟩, ⟨rfl, waits⟩, ⟨rfl, waits⟩, ⟨rfl, gives⟩, ⟨rfl, gives⟩, nofun⟩
  have calm' : ∀ turn ∈ others, turn.Calm answer := by
    simp only [others, List.forall_mem_cons]
    exact ⟨⟨rfl, waits⟩, ⟨rfl, gives⟩, ⟨rfl, waits⟩, nofun⟩
  have created : Batch.create .generic none = .ok start := rfl
  have queued : start.session.queuedIn turns = [⟨select, processor⟩] := rfl
  have same : start.session.queuedIn others = start.session.queuedIn turns := rfl
  have whole : ∀ call ∈ start.session.queuedIn turns, ∀ rows, call.processor rows ≠ .aborted := by
    rw [queued, List.forall_mem_singleton]
    exact nofun
  have read : (start.session.run turns).shared.batch.result? 0 = some (.ok 7) := by decide +kernel
  obtain ⟨agrees, -, reads⟩ := trigger_independent created calm calm' same whole
    (by decide +kernel) (by decide +kernel)
  obtain ⟨result, found, -, first, second⟩ := reads 0 (by rw [queued]; exact Nat.zero_lt_one)
  rw [read] at found
  obtain rfl := Option.some.inj found
  exact ⟨agrees, first, second⟩

end SqlBatch
