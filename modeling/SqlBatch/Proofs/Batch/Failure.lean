import SqlBatch.Proofs.Batch.Delivery
import SqlBatch.Proofs.Batch.Report

/-!
# Failed batches

A batch fails as a whole when the store refuses it, miscounts or breaks off, and when its
transaction cannot be ended. Everyone then hears of the same error: `failure_reaches_all`.
-/
namespace SqlBatch

variable {α : Type}

/-- The error that an exchange comes to for the whole batch. -/
def Exchange.failure? (exchange : Exchange) : Option Error :=
  match exchange.reply with
  | .finished (.ok sets) =>
    if sets.length = exchange.request.statements then none
    else some (.resultCountMismatch exchange.request.statements sets.length)
  | .finished (.error e) => some e
  | .aborted => some .cancelled

/-- What entries are left with when their batch fails. -/
structure Work.Fails (work : Work α) (e : Error) (cells : Cells α) (delivered : Delivered α) :
    Prop where
  cells : delivered.cells = Entry.failEach work.entries e cells
  processed : delivered.processed = []
  outcome : delivered.outcome.settled = .error e

theorem Work.fails_deliver {work : Work α} {reply : Attempt (List RowSet)} {e : Error}
    (failure : Exchange.failure? ⟨work.request, reply⟩ = some e) (cells : Cells α) :
    work.Fails e cells (work.deliver reply cells) := by
  simp only [Exchange.failure?] at failure
  unfold Work.deliver
  rcases reply with (error | sets) | -
  · cases failure
    exact ⟨rfl, rfl, rfl⟩
  · dsimp only at failure ⊢
    split at failure
    · cases failure
    · rename_i wrong
      cases failure
      rw [if_neg wrong]
      exact ⟨rfl, rfl, rfl⟩
  · cases failure
    exact ⟨rfl, rfl, rfl⟩

theorem Work.aborted_of_failure {work : Work α} {reply : Attempt (List RowSet)} {e : Error}
    {cells : Cells α} (failure : Exchange.failure? ⟨work.request, reply⟩ = some e)
    (aborted : (work.deliver reply cells).outcome = .aborted) : reply = .aborted := by
  simp only [Exchange.failure?] at failure
  unfold Work.deliver at aborted
  rcases reply with (error | sets) | -
  · cases aborted
  · dsimp only at failure aborted
    split at failure
    · cases failure
    · rename_i wrong
      rw [if_neg wrong] at aborted
      cases aborted
  · rfl

/-! ### Batches that failed -/

namespace Batch

/-- A batch that ended with an error before any processor was run. -/
structure Failed (handles : Nat) (e : Error) (b : Batch α) : Prop where
  outcome : b.outcome = .error e
  cells : b.cells = List.replicate handles (some (.error e))
  processed : b.processed = []

theorem Failed.result? {handles handle : Nat} {e : Error} {b : Batch α} (failed : b.Failed handles e)
    (inside : handle < handles) : b.result? handle = some (.error e) := by
  rw [Batch.result?, failed.cells, List.getElem?_replicate, if_pos inside]
  rfl

theorem Failed.read {handles : Nat} {e : Error} {b : Batch α} (failed : b.Failed handles e)
    (handle : Nat) : b.read handle b.outcome = .error e := by
  unfold Batch.read
  rw [failed.outcome, Batch.result?, failed.cells, List.getElem?_replicate]
  by_cases inside : handle < handles
  · rw [if_pos inside]
    rfl
  · rw [if_neg inside]
    rfl

variable {d : Dialect} {transaction : Option TransactionOptions} {calls : List (QueueCall α)}
  {b : Batch α} {work : Work α} {e : Error}

theorem Sent.failEach_eq (sent : Sent d transaction calls b work) (e : Error) :
    Entry.failEach work.entries e b.cells = List.replicate calls.length (some (.error e)) := by
  obtain ⟨tail, entries, -⟩ := sent.entries
  rw [entries]
  exact failEach_entriesOf _ _ e (by rw [sent.cells, List.length_replicate])

theorem Sent.failed (sent : Sent d transaction calls b work) {reply : Attempt (List RowSet)}
    (failure : Exchange.failure? ⟨work.request, reply⟩ = some e) :
    (b.complete work reply).1.Failed calls.length e := by
  have fails := Work.fails_deliver failure b.cells
  refine ⟨?_, ?_, ?_⟩
  · rw [outcome_complete _ _ _ sent.failure, fails.outcome]
  · rw [cells_complete, fails.cells, sent.failEach_eq]
  · rw [processed_complete, sent.processed, fails.processed]
    rfl

theorem Sent.cancelled (sent : Sent d transaction calls b work) :
    (b.cancel work).Failed calls.length .cancelled :=
  ⟨rfl, sent.failEach_eq .cancelled, sent.processed⟩

theorem Gathered.unended (known : b.Gathered d transaction calls) (e : Error) :
    (b.unended e).Failed calls.length e := by
  refine ⟨rfl, ?_, known.processed⟩
  have room : b.cells.length = calls.length := by rw [known.cells, List.length_replicate]
  have cells := failEach_entriesOf (leadOf d transaction) [] e room
  rw [List.append_nil, ← known.entries] at cells
  exact cells

end Batch

/-! ### Runs that failed -/

/-- How the batch of a run fails as a whole. -/
inductive Fails (start : Batch α) (turns : List (Turn α)) (e : Error) : Prop
  | answered {exchange : Exchange}
      (answered : (start.session.run turns).shared.answered = [exchange])
      (failure : exchange.failure? = some e)
  /-- The end of the transaction is refused before the store is asked. -/
  | unended {gathered : Batch α} (completed : (start.session.run turns).shared.batch.phase = .completed)
      (nonempty : start.session.queuedIn turns ≠ [])
      (gathers : start.gather (start.session.queuedIn turns) = .ok gathered)
      (refused : gathered.ended = .error e)

/-- A response that reports an error, as the outcome of the batch or as the result of a handle. -/
inductive BatchResponse.Errs (e : Error) : BatchResponse α → Prop
  | outcome : Errs e (.outcome (.finished (.error e)))
  | value : Errs e (.value (.finished (.error e)))

theorem Batch.Failed.errs {handles : Nat} {e : Error} {s : SharedBatch α}
    (failed : s.batch.Failed handles e) {purpose : Purpose} (reports : purpose ≠ .dispose) :
    (purpose.response s (.finished s.batch.outcome)).Errs e := by
  cases purpose with
  | dispose => exact (reports rfl).elim
  | read handle =>
    simp only [Purpose.response, SharedBatch.readAfter, failed.read]
    exact .value
  | _ =>
    simp only [Purpose.response, failed.outcome]
    exact .outcome

section

variable {d : Dialect} {transaction : Option TransactionOptions} {calls : List (QueueCall α)}
  {gathered : Batch α} {s : SharedBatch α}

theorem Stage.exists_work (known : gathered.Gathered d transaction calls) (stage : Stage gathered s)
    {exchange : Exchange} (answered : s.answered = [exchange]) :
    ∃ batch work, Batch.Sent d transaction calls batch work ∧ work.request = exchange.request ∧
      s.batch = (batch.complete work exchange.reply).1 ∧ s.Over := by
  cases stage with
  | gathering => cases answered
  | running => cases answered
  | past ending quiet =>
    have completed := ending.completed known
    cases ending with
    | settled => cases answered
    | answered taken reply =>
      cases answered
      exact ⟨_, _, known.sent taken, rfl, rfl, completed, quiet⟩
    | givenUp => cases answered

end

namespace BatchSession

theorem failed_of_fails {d : Dialect} {transaction : Option TransactionOptions} {start : Batch α}
    (created : Batch.create d transaction = .ok start) {turns : List (Turn α)} {e : Error}
    (fails : Fails start turns e) :
    let s := (start.session.run turns).shared
    s.Over ∧ s.batch.Failed (start.session.queuedIn turns).length e ∧
      ∀ exchange, s.answered = [exchange] → exchange.failure? = some e := by
  intro s
  obtain ⟨gathered, known, facts, stage⟩ := stage_run created turns
  cases fails with
  | answered answered failure =>
    obtain ⟨batch, work, sent, request, becomes, past⟩ := stage.exists_work facts answered
    refine ⟨past, ?_, ?_⟩
    · rw [becomes]
      apply sent.failed
      rw [request]
      exact failure
    · intro other found
      cases answered.symm.trans found
      exact failure
  | unended completed nonempty gathers refused =>
    cases known.symm.trans gathers
    have taken : gathered.take = (gathered.unended e, .done (.error e)) := by
      rw [facts.take_eq, if_neg nonempty, refused]
    change s.batch.phase = .completed at completed
    change Stage gathered s at stage
    generalize s = s at stage completed ⊢
    cases stage with
    | gathering => exact Phase.noConfusion (facts.phase.symm.trans completed)
    | running gone =>
      rw [taken] at gone
      cases gone
    | past ending quiet =>
      refine ⟨⟨ending.completed facts, quiet⟩, ?_⟩
      cases ending with
      | settled left =>
        rw [taken] at left
        cases left
        exact ⟨facts.unended e, nofun⟩
      | answered gone =>
        rw [taken] at gone
        cases gone
      | givenUp gone =>
        rw [taken] at gone
        cases gone

end BatchSession

namespace BatchSession

variable {d : Dialect} {transaction : Option TransactionOptions} {calls : List (QueueCall α)}
  {gathered : Batch α} {s : BatchSession α} {turn : Turn α} {purpose : Purpose} {handles : Nat}
  {e : Error}

theorem errs_after_failure (known : gathered.Gathered d transaction calls)
    (stage : Stage gathered s.shared) (past : s.shared.Over) (failed : s.shared.batch.Failed handles e)
    (calling : s.purpose? turn.action = some purpose) (reports : purpose ≠ .dispose) :
    (s.response turn = .pending ∨ (s.response turn).Errs e) ∧
      (s.Admits turn.action → (s.response turn).Errs e) := by
  have told := tells_of_over known stage past calling
  have errs := failed.errs reports
  constructor
  · rcases told.1 with waits | tells
    · exact .inl waits
    · rw [tells]
      exact .inr errs
  · intro admits
    rw [told.2 admits]
    exact errs

theorem errs_of_failing (known : gathered.Gathered d transaction calls)
    (stage : Stage gathered s.shared) (unfinished : s.shared.batch.phase ≠ .completed)
    (past : (s.next turn).shared.Over) (failed : (s.next turn).shared.batch.Failed handles e)
    (sole : ∀ exchange, (s.next turn).shared.answered = [exchange] → exchange.failure? = some e)
    (calling : s.purpose? turn.action = some purpose) (reports : purpose ≠ .dispose) :
    (s.response turn).Errs e ∨
      s.response turn = purpose.response (s.next turn).shared .aborted ∧
        ∃ request, (s.next turn).shared.answered = [⟨request, .aborted⟩] := by
  rcases report known stage calling with ⟨-, waits⟩ | ⟨-, tells | ⟨breaks, completes⟩⟩
  · exact (unfinished (waits past.completed)).elim
  · rw [tells]
    exact .inl (failed.errs reports)
  · obtain ⟨batch, work, reply, -, -, answered, broke⟩ := completes.exchange
    rw [Batch.snd_complete] at broke
    rw [Work.aborted_of_failure (sole _ answered) broke.symm] at answered
    exact .inr ⟨breaks, work.request, answered⟩

end BatchSession

/-- Once a batch has failed as a whole, every handle and every later call reports the error, and so
does the call that ran it unless the store broke off. No processor runs, and the store is not asked
again. -/
theorem failure_reaches_all {d : Dialect} {transaction : Option TransactionOptions}
    {start : Batch α} (created : Batch.create d transaction = .ok start) {turns : List (Turn α)}
    {e : Error} (fails : Fails start turns e) (later : List (Turn α)) :
    let s := start.session.run turns
    let t := s.run later
    s.queuedIn later = [] ∧
      (∀ handle < (start.session.queuedIn turns).length,
        t.shared.batch.result? handle = some (.error e)) ∧
      (∀ turn purpose, t.purpose? turn.action = some purpose → purpose ≠ .dispose →
        (t.response turn = .pending ∨ (t.response turn).Errs e) ∧
          (t.Admits turn.action → (t.response turn).Errs e)) ∧
      (∀ before turn purpose, turns = before ++ [turn] →
        (start.session.run before).shared.batch.phase ≠ .completed →
        (start.session.run before).purpose? turn.action = some purpose → purpose ≠ .dispose →
        ((start.session.run before).response turn).Errs e ∨
          (start.session.run before).response turn = purpose.response s.shared .aborted ∧
            ∃ request, s.shared.answered = [⟨request, .aborted⟩]) ∧
      t.shared.batch.processed = [] ∧ t.shared.handed = s.shared.handed := by
  intro s t
  obtain ⟨past, failed, sole⟩ := BatchSession.failed_of_fails created fails
  obtain ⟨still, same, nothing⟩ := BatchSession.over_run past later
  have after : t.shared.batch.Failed (start.session.queuedIn turns).length e := by
    rw [same.batch]
    exact failed
  refine ⟨nothing, fun handle inside => after.result? inside, ?_, ?_, after.processed, same.handed⟩
  · intro turn purpose calling reports
    obtain ⟨gathered, -, known, stage⟩ := BatchSession.stage_run created (turns ++ later)
    rw [BatchSession.run_append] at stage
    exact BatchSession.errs_after_failure known stage still after calling reports
  · intro before turn purpose last unfinished calling reports
    obtain ⟨gathered, -, known, stage⟩ := BatchSession.stage_run created before
    have here : start.session.run turns = (start.session.run before).next turn := by
      rw [last, BatchSession.run_append]
      rfl
    simp only [s, here] at past failed sole ⊢
    exact BatchSession.errs_of_failing known stage unfinished past failed sole calling reports

/-- The store answers two statements with three sets, and a later flush hears of it like the first. -/
theorem failure_reaches_all_miscounted :
    let select : Layout := [.text "SELECT 1", .terminator]
    let queue : BatchAction Nat := .queue select fun rows => .finished (.ok rows.contents.length)
    let store : Responder := fun _ => some (.finished (.ok [{}, {}, {}]))
    let turns : List (Turn Nat) := [⟨queue, store⟩, ⟨queue, store⟩, ⟨.flush, store⟩]
    let t := ((Batch.session { dialect := .generic }).run turns).run [⟨.flush, store⟩]
    Fails { dialect := .generic } turns (.resultCountMismatch 2 3) ∧
      (∀ handle < 2, t.shared.batch.result? handle = some (.error (.resultCountMismatch 2 3))) ∧
      (t.response ⟨.resolve 1, store⟩).Errs (.resultCountMismatch 2 3) ∧
      t.shared.batch.processed = [] := by
  intro select queue store turns t
  have created : Batch.create .generic none = .ok ({ dialect := .generic } : Batch Nat) := rfl
  have fails : Fails ({ dialect := .generic } : Batch Nat) turns (.resultCountMismatch 2 3) :=
    .answered rfl rfl
  have all := failure_reaches_all created fails [⟨.flush, store⟩]
  exact ⟨fails, all.2.1, (all.2.2.1 ⟨.resolve 1, store⟩ _ rfl nofun).2 rfl, all.2.2.2.2.1⟩

end SqlBatch
