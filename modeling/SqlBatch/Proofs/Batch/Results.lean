import Mathlib.Data.Nat.Find
import SqlBatch.Proofs.Batch.Failure

/-!
# What handles read

A complete answer is handed out set by set. `own_results` says that every handle reads what its own
processor made of the last of its own sets, up to the first processor that breaks off, and
`unresolved_iff` that the handle of that one is the only one that is ever left without a result.
-/
namespace SqlBatch

variable {α : Type}

/-- How the sets of a complete answer went to the handles, of which none loses to another unless an
earlier processor breaks off. -/
structure HandedOut (lead : Nat) (calls : List (QueueCall α)) (sets : List RowSet) (b : Batch α) :
    Prop where
  fed : ∀ handle < calls.length, ∃ attempt, made lead calls sets handle = some attempt
  own : ∀ handle result, made lead calls sets handle = some (.finished result) →
    (∀ earlier < handle, made lead calls sets earlier ≠ some .aborted) →
    b.result? handle = some result
  cancelled : ∀ handle < calls.length, ∀ earlier < handle,
    made lead calls sets earlier = some .aborted → b.result? handle = some (.error .cancelled)
  /-- Which processors were run, and on which sets. -/
  processed : ∀ handle set, ⟨handle, set⟩ ∈ b.processed ↔ handle < calls.length ∧
    set = setNumber lead calls handle ∧
      ∀ earlier < handle, made lead calls sets earlier ≠ some .aborted
  apart : (b.processed.map (·.set)).Nodup
  outcome : (∀ handle, made lead calls sets handle ≠ some .aborted) → b.outcome = .ok ()

theorem lt_length_of_made {lead : Nat} {calls : List (QueueCall α)} {sets : List RowSet}
    {handle : Nat} {attempt : Attempt α} (makes : made lead calls sets handle = some attempt) :
    handle < calls.length := by
  refine Nat.lt_of_not_le fun outside => ?_
  simp [made, List.getElem?_eq_none outside] at makes

/-- Of the handles of a complete answer only that of the first processor to break off reads nothing. -/
theorem HandedOut.aborted_of_unresolved {lead : Nat} {calls : List (QueueCall α)}
    {sets : List RowSet} {b : Batch α} (handed : HandedOut lead calls sets b) {handle : Nat}
    (inside : handle < calls.length) (silent : b.result? handle = none) :
    made lead calls sets handle = some .aborted ∧
      ∀ earlier < handle, made lead calls sets earlier ≠ some .aborted := by
  have first : ∀ earlier < handle, made lead calls sets earlier ≠ some .aborted := by
    intro earlier before broke
    rw [handed.cancelled handle inside earlier before broke] at silent
    cases silent
  obtain ⟨result | -, makes⟩ := handed.fed handle inside
  · rw [handed.own handle result makes first] at silent
    cases silent
  · exact ⟨makes, first⟩

namespace Batch.Sent

variable {d : Dialect} {transaction : Option TransactionOptions} {calls : List (QueueCall α)}
  {b : Batch α} {work : Work α} {sets : List RowSet}

theorem fed (sent : Sent d transaction calls b work) (complete : sets.length = work.request.statements)
    {handle : Nat} (inside : handle < calls.length) :
    ∃ attempt, made (beginning d transaction) calls sets handle = some attempt := by
  obtain ⟨rows, makes, -⟩ := exists_rows _ sent.positive_calls (sent.enough complete) inside
  rw [width_leadOf] at makes
  exact ⟨_, makes⟩

theorem result?_complete (b : Batch α) (work : Work α) (reply : Attempt (List RowSet)) (handle : Nat) :
    (b.complete work reply).1.result? handle = (work.deliver reply b.cells).cells[handle]?.join := by
  rw [result?, cells_complete]

theorem handedOut_of_broken (sent : Sent d transaction calls b work)
    (complete : sets.length = work.request.statements) {broken : Nat}
    (intact : ∀ handle < broken, made (beginning d transaction) calls sets handle ≠ some .aborted)
    (broke : made (beginning d transaction) calls sets broken = some .aborted) :
    HandedOut (beginning d transaction) calls sets (b.complete work (.finished (.ok sets))).1 := by
  have left := sent.broken complete intact broke
  refine ⟨fun handle => sent.fed complete, ?_, ?_, ?_, ?_, fun whole => (whole _ broke).elim⟩
  · intro handle result makes first
    have before : handle < broken := by
      rcases Nat.lt_trichotomy handle broken with before | rfl | behind
      · exact before
      · rw [makes] at broke
        cases broke
      · exact (first broken behind broke).elim
    rw [result?_complete, left.done handle before result makes]
    rfl
  · intro handle inside earlier before breaks
    have behind : broken < handle := by
      refine Nat.lt_of_not_le fun early => intact earlier (by omega) breaks
    rw [result?_complete, left.cancelled handle behind inside]
    rfl
  · intro handle set
    have inside := lt_length_of_made broke
    rw [processed_complete, sent.processed, left.processed, List.nil_append, mem_processings]
    constructor
    · rintro ⟨early, rfl⟩
      exact ⟨by omega, rfl, fun earlier before => intact earlier (by omega)⟩
    · rintro ⟨-, rfl, first⟩
      exact ⟨Nat.lt_of_not_le fun late => first broken (by omega) broke, rfl⟩
  · rw [processed_complete, sent.processed, left.processed, List.nil_append]
    exact nodup_processings sent.positive_calls (lt_length_of_made broke)

theorem handedOut_of_intact (sent : Sent d transaction calls b work)
    (complete : sets.length = work.request.statements)
    (intact : ∀ handle, made (beginning d transaction) calls sets handle ≠ some .aborted) :
    HandedOut (beginning d transaction) calls sets (b.complete work (.finished (.ok sets))).1 := by
  have left := sent.intact complete fun handle _ => intact handle
  refine ⟨fun handle => sent.fed complete, ?_, ?_, ?_, ?_, fun _ => ?_⟩
  · intro handle result makes _
    rw [result?_complete, left.done handle (lt_length_of_made makes) result makes]
    rfl
  · intro handle _ earlier _ broke
    exact (intact earlier broke).elim
  · intro handle set
    rw [processed_complete, sent.processed, left.processed, List.nil_append, mem_processings]
    constructor
    · rintro ⟨inside, rfl⟩
      exact ⟨inside, rfl, fun earlier _ => intact earlier⟩
    · rintro ⟨inside, rfl, -⟩
      exact ⟨inside, rfl⟩
  · rw [processed_complete, sent.processed, left.processed, List.nil_append]
    exact nodup_processings sent.positive_calls (Nat.le_refl _)
  · rw [outcome_complete _ _ _ sent.failure, left.outcome]
    rfl

theorem handedOut (sent : Sent d transaction calls b work)
    (complete : sets.length = work.request.statements) :
    HandedOut (beginning d transaction) calls sets (b.complete work (.finished (.ok sets))).1 := by
  by_cases breaks : ∃ handle, made (beginning d transaction) calls sets handle = some .aborted
  · classical
    -- Behind the first processor that breaks off nothing depends on the others.
    exact sent.handedOut_of_broken complete (fun handle => Nat.find_min breaks)
      (Nat.find_spec breaks)
  · exact sent.handedOut_of_intact complete fun handle broke => breaks ⟨handle, broke⟩

end Batch.Sent

/-! ### Stages -/

section

variable {d : Dialect} {transaction : Option TransactionOptions} {calls : List (QueueCall α)}
  {gathered : Batch α} {s : SharedBatch α}

theorem Stage.over_of_completed (known : gathered.Gathered d transaction calls)
    (stage : Stage gathered s) (completed : s.batch.phase = .completed) : s.Over := by
  cases stage with
  | gathering => exact Phase.noConfusion (known.phase.symm.trans completed)
  | running taken => exact Phase.noConfusion ((known.sent taken).phase.symm.trans completed)
  | past ending quiet => exact ⟨completed, quiet⟩

theorem Stage.over_of_answered (known : gathered.Gathered d transaction calls)
    (stage : Stage gathered s) (answered : s.answered ≠ []) : s.Over := by
  cases stage with
  | gathering => exact (answered rfl).elim
  | running => exact (answered rfl).elim
  | past ending quiet => exact ⟨ending.completed known, quiet⟩

/-- A batch that is over was never queued to, failed as a whole, or got a complete answer. -/
theorem Stage.failed_or_answered (known : gathered.Gathered d transaction calls)
    (stage : Stage gathered s) (completed : s.batch.phase = .completed) :
    calls = [] ∨ (∃ e, s.batch.Failed calls.length e) ∨
      ∃ request sets, s.answered = [⟨request, .finished (.ok sets)⟩] ∧
        sets.length = request.statements := by
  cases stage with
  | gathering => exact Phase.noConfusion (known.phase.symm.trans completed)
  | running taken => exact Phase.noConfusion ((known.sent taken).phase.symm.trans completed)
  | past ending quiet =>
    cases ending with
    | settled taken =>
      rw [known.take_eq] at taken
      split at taken
      · rename_i empty
        exact .inl empty
      · split at taken <;> cases taken
        exact .inr (.inl ⟨_, known.unended _⟩)
    | @answered batch work taken reply =>
      rcases failure : Exchange.failure? ⟨work.request, reply⟩ with _ | e
      · rcases reply with (error | sets) | -
        · cases failure
        · refine .inr (.inr ⟨work.request, sets, rfl, ?_⟩)
          simpa [Exchange.failure?] using failure
        · cases failure
      · exact .inr (.inl ⟨e, (known.sent taken).failed failure⟩)
    | givenUp taken => exact .inr (.inl ⟨_, (known.sent taken).cancelled⟩)

theorem Stage.handedOut (known : gathered.Gathered d transaction calls) (stage : Stage gathered s)
    {request : Rendered} {sets : List RowSet}
    (answered : s.answered = [⟨request, .finished (.ok sets)⟩])
    (complete : sets.length = request.statements) :
    HandedOut (beginning d transaction) calls sets s.batch := by
  obtain ⟨batch, work, sent, same, becomes, -⟩ := stage.exists_work known answered
  rw [becomes]
  exact sent.handedOut (by rw [same, complete])

end

/-! ### Runs -/

theorem BatchSession.ends_well {d : Dialect} {transaction : Option TransactionOptions}
    {calls : List (QueueCall α)} {gathered : Batch α} {s : BatchSession α} {turn : Turn α}
    {purpose : Purpose} (known : gathered.Gathered d transaction calls)
    (stage : Stage gathered s.shared) (waited : s.shared.answered = [])
    (brought : (s.next turn).shared.answered ≠ []) (past : (s.next turn).shared.Over)
    (well : (s.next turn).shared.batch.outcome = .ok ())
    (calling : s.purpose? turn.action = some purpose) :
    s.response turn = purpose.response (s.next turn).shared (.finished (.ok ())) := by
  rcases report known stage calling with ⟨-, waits⟩ | ⟨-, tells | ⟨-, completes⟩⟩
  · have already := stage.over_of_completed known (waits past.completed)
    have stays := (over_run already [turn]).2.1.answered
    exact (brought (stays.trans waited)).elim
  · rw [tells, well]
  · rw [completes.cancelled known] at well
    cases well

/-- After a complete answer every handle reads what its own processor makes of its own set, unless
an earlier processor breaks off; and if none does, the call that brought the answer in ends well. -/
theorem own_results {d : Dialect} {transaction : Option TransactionOptions} {start : Batch α}
    (created : Batch.create d transaction = .ok start) {turns : List (Turn α)} {request : Rendered}
    {sets : List RowSet}
    (answered : (start.session.run turns).shared.answered = [⟨request, .finished (.ok sets)⟩])
    (complete : sets.length = request.statements) :
    let s := start.session.run turns
    let calls := start.session.queuedIn turns
    HandedOut (beginning d transaction) calls sets s.shared.batch ∧
      ∀ before turn after purpose, turns = before ++ turn :: after →
        (start.session.run before).shared.answered = [] →
        ((start.session.run before).next turn).shared.answered ≠ [] →
        (start.session.run before).purpose? turn.action = some purpose →
        (∀ handle, made (beginning d transaction) calls sets handle ≠ some .aborted) →
        (start.session.run before).response turn =
          purpose.response s.shared (.finished (.ok ())) := by
  intro s calls
  obtain ⟨gathered, -, facts, stage⟩ := BatchSession.stage_run created turns
  have handed := stage.handedOut facts answered complete
  refine ⟨handed, ?_⟩
  intro before turn after purpose split waited brought calling whole
  obtain ⟨_, -, known, earlier⟩ := BatchSession.stage_run created before
  obtain ⟨_, -, known', later⟩ := BatchSession.stage_run created (before ++ [turn])
  rw [BatchSession.run_append] at later
  have past := later.over_of_answered known' brought
  have same : ((start.session.run before).next turn).shared.Agrees s.shared := by
    have kept := (BatchSession.over_run past after).2.1
    simp only [s, split, BatchSession.run_append]
    exact kept
  have well := handed.outcome whole
  rw [same.batch] at well
  rw [BatchSession.ends_well known earlier waited brought past well calling,
    purpose.response_of_agrees same]

/-- Two statements begin the transaction and two more belong to the first element, whose processor
refuses its rows: the second element reads the fifth set, and the flush ends well. -/
theorem own_results_behind_refusal :
    let d : Dialect := { Dialect.generic with
      beginTransaction := TransactionSyntax.setThenBegin.beginning "generic" }
    let select : Layout := [.text "SELECT 1", .terminator]
    let sets : List RowSet := [{}, {}, {}, { affected := 3 }, { affected := 4 }, {}]
    let store : Responder := fun _ => some (.finished (.ok sets))
    let queued : List (Turn Nat) :=
      [⟨.queue (select ++ select) fun _ => .finished (.error (.processor "refused")), store⟩,
        ⟨.queue select fun rows => .finished (.ok rows.affected.toNat), store⟩]
    ∃ start, Batch.create d (some { isolation := some .serializable }) = .ok start ∧
      (start.session.run (queued ++ [⟨.flush, store⟩])).shared.batch.result? 1 = some (.ok 4) ∧
      (start.session.run queued).response ⟨.flush, store⟩ = .outcome (.finished (.ok ())) := by
  intro d select sets store queued
  refine ⟨_, rfl, ?_⟩
  have all := @own_results Nat d (some { isolation := some .serializable }) _ rfl
    (queued ++ [⟨.flush, store⟩]) _ sets rfl rfl
  have intact : ∀ handle, handle < 2 → made 2
      [⟨select ++ select, fun _ => .finished (.error (.processor "refused"))⟩,
        ⟨select, fun rows => .finished (.ok rows.affected.toNat)⟩] sets handle ≠ some .aborted := by
    intro handle inside
    obtain rfl | rfl : handle = 0 ∨ handle = 1 := by omega
    · exact nofun
    · exact nofun
  refine ⟨all.1.own 1 _ rfl fun earlier before => intact earlier (by omega), ?_⟩
  refine all.2 queued ⟨.flush, store⟩ [] .flush rfl rfl nofun rfl fun handle broke => ?_
  exact intact handle (lt_length_of_made broke) broke

/-- The processor of the first handle breaks off, and the second handle loses a result. -/
theorem lost_behind_abort :
    let select : Layout := [.text "SELECT 1", .terminator]
    let sets : List RowSet := [{ affected := 1 }, { affected := 2 }]
    let store : Responder := fun _ => some (.finished (.ok sets))
    let turns : List (Turn Nat) :=
      [⟨.queue select fun _ => .aborted, store⟩,
        ⟨.queue select fun rows => .finished (.ok rows.affected.toNat), store⟩, ⟨.flush, store⟩]
    let start : Batch Nat := { dialect := .generic }
    let s := (start.session.run turns).shared
    (∃ request, s.answered = [⟨request, .finished (.ok sets)⟩] ∧
        sets.length = request.statements) ∧
      ¬ ∀ handle result,
        made (beginning .generic none) (start.session.queuedIn turns) sets handle =
            some (.finished result) → s.batch.result? handle = some result := by
  intro select sets store turns start s
  refine ⟨⟨_, rfl, rfl⟩, fun all => ?_⟩
  have read : s.batch.result? 1 = some (.ok 2) := all 1 (.ok 2) rfl
  have cancelled : s.batch.result? 1 = some (.error .cancelled) := rfl
  rw [cancelled] at read
  cases read

/-- When a batch is completed, a handle has no result only if its own processor broke off. -/
theorem unresolved_iff {d : Dialect} {transaction : Option TransactionOptions} {start : Batch α}
    (created : Batch.create d transaction = .ok start) {turns : List (Turn α)}
    (completed : (start.session.run turns).shared.phase = .completed) {handle : Nat}
    (inside : handle < (start.session.queuedIn turns).length) :
    let s := (start.session.run turns).shared
    let calls := start.session.queuedIn turns
    s.batch.result? handle = none ↔
      ∃ request sets, s.answered = [⟨request, .finished (.ok sets)⟩] ∧
        sets.length = request.statements ∧
        made (beginning d transaction) calls sets handle = some .aborted ∧
        ∀ earlier < handle, made (beginning d transaction) calls sets earlier ≠ some .aborted := by
  intro s calls
  obtain ⟨gathered, -, facts, stage⟩ := BatchSession.stage_run created turns
  have ended : s.batch.phase = .completed := by
    simp only [SharedBatch.phase] at completed
    split at completed
    · exact completed
    · cases completed
  constructor
  · intro silent
    rcases stage.failed_or_answered facts ended with
      empty | ⟨e, failed⟩ | ⟨request, sets, answered, complete⟩
    · rw [empty] at inside
      cases inside
    · rw [failed.result? inside] at silent
      cases silent
    · have handed := stage.handedOut facts answered complete
      exact ⟨request, sets, answered, complete, handed.aborted_of_unresolved inside silent⟩
  · rintro ⟨request, sets, answered, complete, broke, first⟩
    obtain ⟨batch, work, sent, same, becomes, -⟩ := stage.exists_work facts answered
    have left := sent.broken (by rw [same, complete]) first broke
    rw [becomes, Batch.Sent.result?_complete, left.silent]
    rfl

theorem unresolved_iff_alone :
    let select : Layout := [.text "SELECT 1", .terminator]
    let store : Responder := fun _ => some (.finished (.ok [{}]))
    let turns : List (Turn Nat) := [⟨.queue select fun _ => .aborted, store⟩, ⟨.flush, store⟩]
    let s := ((Batch.session { dialect := .generic }).run turns).shared
    s.phase = .completed ∧ s.batch.result? 0 = none := by
  intro select store turns s
  have created : Batch.create .generic none = .ok ({ dialect := .generic } : Batch Nat) := rfl
  have silent := @unresolved_iff Nat .generic none _ created turns rfl 0 (Nat.zero_lt_one)
  exact ⟨rfl, silent.mpr ⟨_, [{}], rfl, rfl, rfl, nofun⟩⟩

/-- A completed batch whose only handle has no result. -/
theorem unresolved_after_abort :
    let select : Layout := [.text "SELECT 1", .terminator]
    let store : Responder := fun _ => some (.finished (.ok [{}]))
    let turns : List (Turn Nat) := [⟨.queue select fun _ => .aborted, store⟩, ⟨.flush, store⟩]
    let start : Batch Nat := { dialect := .generic }
    let s := (start.session.run turns).shared
    s.phase = .completed ∧
      ¬ ∀ handle < (start.session.queuedIn turns).length, (s.batch.result? handle).isSome := by
  intro select store turns start s
  exact ⟨rfl, fun all => Bool.noConfusion (all 0 Nat.zero_lt_one)⟩

end SqlBatch
