import SqlBatch.Proofs.Batch.Waiting

/-!
# Spent batches

A batch whose run is over takes no more elements. What it reports depends on who waits: while
flights are queued up the latch is held and the batch reports `executing`, and it reports `completed`
for good from the moment on at which none is (`phase_of_spent`).
-/
namespace SqlBatch

variable {α : Type}

namespace SharedBatch

variable {s : SharedBatch α}

theorem Over.phase_eq (past : s.Over) :
    s.phase = if s.latch.queue = [] then .completed else .executing := by
  unfold SharedBatch.phase
  rw [past.completed]
  exact if_congr isFree_iff rfl rfl

theorem Over.refuses (past : s.Over) (layout : Layout) (processor : Processor α) :
    ∃ e, s.register layout processor = (s, .error e) ∧
      (s.latch.queue = [] → e = .batchCompleted) := by
  by_cases free : s.isFree
  · refine ⟨.batchCompleted, ?_, fun _ => rfl⟩
    simp [SharedBatch.register, free, Batch.register, past.completed]
  · refine ⟨.batchExecuting, by simp [SharedBatch.register, free], fun empty => ?_⟩
    exact absurd (isFree_iff.mpr empty) free

end SharedBatch

theorem BatchSession.phase_after_of_completed {d : Dialect} {transaction : Option TransactionOptions}
    {start : Batch α} (created : Batch.create d transaction = .ok start) {s : BatchSession α}
    (staged : s.shared.Staged d transaction start) (completed : s.shared.phase = .completed)
    (later : List (Event α)) : (s.after later).shared.phase = .completed := by
  have order := (staged_after created staged later).2
  rw [completed] at order
  generalize (s.after later).shared.phase = phase at order ⊢
  cases phase with
  | completed => rfl
  | _ => exact absurd order (by decide)

/-- Giving up a flight takes it out of the queue of a batch that is over, and changes no place of
another. -/
theorem BatchSession.queue_cancel {s : BatchSession α} (orderly : s.Orderly) (past : s.shared.Over)
    (id : FlightId) (store : Responder) :
    (s.next ⟨.cancel id, store⟩).shared.latch.queue = s.shared.latch.queue.erase id := by
  cases found : s.flights.find? (·.id = id) with
  | none =>
    have unqueued : id ∉ s.shared.latch.queue := by
      intro queued
      obtain ⟨flight, airborne⟩ := orderly.exists_find? queued
      cases found.symm.trans airborne
    simp only [next, step, cancel, found, List.erase_of_not_mem unqueued]
  | some flight =>
    have busy : s.shared.batch.phase ≠ .idle := by simp [past.completed]
    have spent := SharedBatch.hasPendingWork_abandon busy id
    rw [(next_cancel found (.inr spent) store).1, s.shared.queue_abandon]

/-- The flight that has the work returns with the store's answer and leaves a completed batch. From
the end of its run on a batch refuses every element. It reports `completed` for good if no flight
is queued up, else `executing` until each of those has been looked after or given up. -/
theorem phase_of_spent {d : Dialect} {transaction : Option TransactionOptions} {start : Batch α}
    (created : Batch.create d transaction = .ok start) (events : List (Event α)) :
    let s := start.session.after events
    let queue := s.shared.latch.queue
    (∀ holder work waiting store reply, s.shared.latch = .running holder work waiting →
      store work.request = some reply →
      let t := s.next ⟨.poll holder, store⟩
      s.response ⟨.poll holder, store⟩ ≠ .pending ∧ t.shared.batch.phase = .completed ∧
        t.shared.latch.queue = waiting) ∧
    (s.shared.batch.phase = .completed →
      s.shared.phase = (if queue = [] then .completed else .executing) ∧
      (∀ layout processor, ∃ e, s.shared.register layout processor = (s.shared, .error e) ∧
        (queue = [] → e = .batchCompleted)) ∧
      (∀ later, (s.after later).shared.batch.phase = .completed ∧
        (queue = [] → (s.after later).shared.phase = .completed)) ∧
      (∀ id ∈ queue, ∃ flight, s.flights.find? (·.id = id) = some flight) ∧
      (∀ id store, (s.next ⟨.cancel id, store⟩).shared.latch.queue = queue.erase id) ∧
      ∀ store, (s.run (BatchSession.polls store queue)).shared.phase = .completed) := by
  intro s queue
  have orderly : s.Orderly := start.orderly_session.after events
  have staged := (BatchSession.staged_after created (Batch.staged_session created) events).1
  refine ⟨?_, fun completed => ?_⟩
  · intro holder work waiting store reply running replies t
    have leads : holder ∈ s.shared.latch.queue := by simp [running]
    obtain ⟨flight, found⟩ := orderly.exists_find? leads
    obtain ⟨past, left, returns⟩ := BatchSession.poll_runner running found replies
    exact ⟨returns, past.completed, left⟩
  have past := staged.over_of_completed completed
  refine ⟨past.phase_eq, past.refuses, fun later => ⟨?_, fun empty => ?_⟩,
    fun id queued => orderly.exists_find? queued, BatchSession.queue_cancel orderly past, ?_⟩
  · exact (BatchSession.over_after past later).1.completed
  · have reported : s.shared.phase = .completed := by
      rw [past.phase_eq]
      exact if_pos empty
    exact BatchSession.phase_after_of_completed created staged reported later
  · intro store
    obtain ⟨still, -, left, -⟩ :=
      BatchSession.run_polls orderly past (List.append_nil queue).symm store
    rw [still.phase_eq, left]
    rfl

/-- A flush waits behind the one that runs the batch, whose return leaves it in the queue. -/
theorem phase_of_spent_behind_waiter :
    let select : Layout := [.text "SELECT 1", .terminator]
    let processor : Processor Nat := fun rows => .finished (.ok rows.contents.length)
    let stalled : Responder := fun _ => none
    let ready : Responder := fun _ => some (.finished (.ok [{}]))
    let s := (Batch.session { dialect := .generic }).after
      [.turn ⟨.queue select processor, stalled⟩, .turn ⟨.flush, stalled⟩, .turn ⟨.flush, stalled⟩]
    let t := s.next ⟨.poll 0, ready⟩
    s.response ⟨.poll 0, ready⟩ ≠ .pending ∧ t.shared.phase = .executing ∧
      t.shared.latch.queue = [1] ∧ (t.run (BatchSession.polls stalled [1])).shared.phase = .completed ∧
      (t.next ⟨.cancel 1, stalled⟩).shared.phase = .completed := by
  intro select processor stalled ready s t
  have created : Batch.create .generic none = .ok ({ dialect := .generic } : Batch Nat) := rfl
  obtain ⟨running, -⟩ := phase_of_spent created
    [.turn ⟨.queue select processor, stalled⟩, .turn ⟨.flush, stalled⟩, .turn ⟨.flush, stalled⟩]
  obtain ⟨returns, -, queue⟩ := running 0 _ [1] ready _ rfl rfl
  obtain ⟨-, spent⟩ := phase_of_spent created [.turn ⟨.queue select processor, stalled⟩,
    .turn ⟨.flush, stalled⟩, .turn ⟨.flush, stalled⟩, .turn ⟨.poll 0, ready⟩]
  obtain ⟨reported, -, -, -, -, drained⟩ := spent rfl
  obtain ⟨-, left⟩ := phase_of_spent created [.turn ⟨.queue select processor, stalled⟩,
    .turn ⟨.flush, stalled⟩, .turn ⟨.flush, stalled⟩, .turn ⟨.poll 0, ready⟩,
    .turn ⟨.cancel 1, stalled⟩]
  exact ⟨returns, reported, queue, drained stalled, (left rfl).1⟩

/-- Two flights trigger a batch; when the first one has returned, the second has not been looked
after again. -/
theorem executing_when_spent :
    let select : Layout := [.text "SELECT 1", .terminator]
    let processor : Processor Nat := fun rows => .finished (.ok rows.contents.length)
    let stalled : Responder := fun _ => none
    let ready : Responder := fun _ => some (.finished (.ok [{}]))
    let before := (Batch.session { dialect := .generic }).run
      [⟨.queue select processor, stalled⟩, ⟨.flush, stalled⟩, ⟨.flush, stalled⟩]
    let s := before.next ⟨.poll 0, ready⟩
    before.response ⟨.poll 0, ready⟩ = .outcome (.finished (.ok ())) ∧
      s.shared.batch.phase = .completed ∧ s.shared.phase = .executing ∧
      (s.shared.register select processor).2 = .error .batchExecuting :=
  ⟨rfl, by decide +kernel, by decide +kernel, rfl⟩

end SqlBatch
