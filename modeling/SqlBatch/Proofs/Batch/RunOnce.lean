import SqlBatch.Proofs.Batch.Stage

/-!
# One run

A batch goes to the store at most once, however many flights trigger it and wherever they are given
up. `runs_at_most_once` counts the requests over a whole run and follows the phase into every
continuation of it.
-/
namespace SqlBatch

variable {α : Type}

/-! ### Requests are never taken back -/

namespace SharedBatch

theorem handed_acquire (s : SharedBatch α) (flight : FlightId) (waiting : List FlightId) :
    s.handed <+: (s.acquire flight waiting).1.handed := by
  unfold acquire
  split
  · exact List.prefix_refl _
  · exact List.prefix_append _ _

theorem handed_poll (s : SharedBatch α) (flight : FlightId) :
    s.handed <+: (s.poll flight).1.handed := by
  unfold poll
  split
  · exact s.handed_acquire flight []
  · split
    · exact s.handed_acquire flight _
    · exact List.prefix_refl _
  · split <;> exact List.prefix_refl _

theorem handed_answer (s : SharedBatch α) (reply : Attempt (List RowSet)) :
    (s.answer reply).1.handed = s.handed := by
  unfold answer
  split <;> rfl

theorem handed_abandon (s : SharedBatch α) (flight : FlightId) :
    (s.abandon flight).handed = s.handed := by
  unfold abandon
  split
  · rfl
  · split <;> rfl
  · split <;> rfl

theorem handed_register {s after : SharedBatch α} {layout : Layout} {processor : Processor α}
    {outcome : Except Error Nat} (h : s.register layout processor = (after, outcome)) :
    after.handed = s.handed := by
  by_cases free : s.isFree
  · obtain ⟨batch, -, rfl⟩ := register_of_free free h
    rfl
  · rw [register_of_held (Bool.eq_false_iff.mpr free) h]

theorem Progresses.handed {s t : SharedBatch α} (moved : s.Progresses t) : s.handed <+: t.handed := by
  induction moved with
  | refl => exact List.prefix_refl _
  | poll flight _ ih => exact ih.trans (handed_poll _ flight)
  | answer reply _ ih => rwa [handed_answer]
  | abandon flight _ ih => rwa [handed_abandon]
  | refuse refused _ ih => rwa [handed_register refused]

end SharedBatch

namespace BatchSession

theorem handed_run (s : BatchSession α) (turns : List (Turn α)) :
    s.shared.handed <+: (s.run turns).shared.handed := by
  induction turns generalizing s with
  | nil => exact List.prefix_refl _
  | cons turn rest ih =>
    have first : s.shared.handed <+: (s.next turn).shared.handed := by
      rcases s.next_shared turn with ⟨call, shared, handle, -, queued, becomes⟩ | ⟨-, moved⟩
      · obtain ⟨-, batch, -, rfl⟩ := SharedBatch.queue_eq_ok queued
        have same : (s.next turn).shared.handed = s.shared.handed := by rw [becomes]
        exact same ▸ List.prefix_refl _
      · exact moved.handed
    exact first.trans (ih _)

end BatchSession

/-! ### Stages and requests -/

section

variable {d : Dialect} {transaction : Option TransactionOptions} {calls : List (QueueCall α)}
  {gathered : Batch α} {s : SharedBatch α}

theorem Ending.handed {batch : Batch α} {handed : List Rendered} {answered : List Exchange}
    (ending : Ending gathered batch handed answered) :
    handed.length ≤ 1 ∧ answered.map (·.request) <+: handed := by
  cases ending with
  | settled => exact ⟨Nat.zero_le _, List.prefix_refl _⟩
  | answered => exact ⟨Nat.le_refl _, List.prefix_refl _⟩
  | givenUp => exact ⟨Nat.le_refl _, List.nil_prefix⟩

theorem Stage.handed (stage : Stage gathered s) :
    s.handed.length ≤ 1 ∧ s.answered.map (·.request) <+: s.handed := by
  cases stage with
  | gathering => exact ⟨Nat.zero_le _, List.prefix_refl _⟩
  | running => exact ⟨Nat.le_refl _, List.nil_prefix⟩
  | past ending => exact ending.handed

theorem Stage.nonempty_of_handed (known : gathered.Gathered d transaction calls)
    (stage : Stage gathered s) (handed : s.handed ≠ []) : calls ≠ [] := by
  cases stage with
  | gathering => exact absurd rfl handed
  | running taken => exact (known.sent taken).nonempty
  | past ending =>
    cases ending with
    | settled => exact absurd rfl handed
    | answered taken => exact (known.sent taken).nonempty
    | givenUp taken => exact (known.sent taken).nonempty

end

/-! ### Runs -/

/-- At most one request goes to the store, none if nothing was queued, none is taken back, and the
phase only moves forward. -/
theorem runs_at_most_once {d : Dialect} {transaction : Option TransactionOptions} {start : Batch α}
    (created : Batch.create d transaction = .ok start) (turns more : List (Turn α)) :
    let s := start.session.run turns
    s.shared.handed.length ≤ 1 ∧
      s.shared.answered.map (·.request) <+: s.shared.handed ∧
      s.shared.handed <+: (s.run more).shared.handed ∧
      (start.session.queuedIn turns = [] → s.shared.handed = []) ∧
      s.shared.phase.rank ≤ (s.run more).shared.phase.rank := by
  intro s
  obtain ⟨gathered, known, facts, stage⟩ := BatchSession.stage_run created turns
  have once := stage.handed
  have later := BatchSession.stage_run_from (Batch.gathered_create created) known stage more
  obtain ⟨after, -, -, order⟩ := later
  refine ⟨once.1, once.2, s.handed_run more, ?_, order⟩
  intro nothing
  refine Classical.byContradiction fun handed => ?_
  exact stage.nonempty_of_handed facts handed nothing

/-- The first flush is given up while the store is at work, and the second asks nothing of it. -/
theorem runs_at_most_once_after_cancel :
    let select : Layout := [.text "SELECT 1", .terminator]
    let stalled : Responder := fun _ => none
    let turns : List (Turn Nat) :=
      [⟨.queue select fun rows => .finished (.ok rows.rows.length), stalled⟩, ⟨.flush, stalled⟩]
    let more : List (Turn Nat) :=
      [⟨.cancel 0, stalled⟩, ⟨.flush, fun _ => some (.finished (.ok []))⟩]
    let s := (Batch.session { dialect := .generic }).run turns
    Batch.create .generic none = .ok ({ dialect := .generic } : Batch Nat) ∧
      s.shared.handed.length ≤ 1 ∧ s.shared.phase.rank ≤ (s.run more).shared.phase.rank := by
  intro select stalled turns more s
  have created : Batch.create .generic none = .ok ({ dialect := .generic } : Batch Nat) := rfl
  have once := runs_at_most_once created turns more
  exact ⟨created, once.1, once.2.2.2.2⟩

end SqlBatch
