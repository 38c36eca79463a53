import SqlBatch.Proofs.Batch.Gathering

/-!
# The stages of a batch

Whatever flights do and in whatever order, a batch gathers, has its work with the store, or is
over. `stage_run` says so of every run, and that the calls it took decide what the batch gathered.
-/
namespace SqlBatch

variable {α : Type}

/-! ### Stages -/

def Latch.isRunning : Latch α → Bool
  | .running .. => true
  | _ => false

/-- How a gathered batch ends: the batch then, what the store was handed and what it answered. -/
inductive Ending (gathered : Batch α) : Batch α → List Rendered → List Exchange → Prop
  /-- It never gets to the store. -/
  | settled {batch : Batch α} {outcome : Except Error Unit}
      (taken : gathered.take = (batch, .done outcome)) : Ending gathered batch [] []
  | answered {batch : Batch α} {work : Work α} (taken : gathered.take = (batch, .run work))
      (reply : Attempt (List RowSet)) :
      Ending gathered (batch.complete work reply).1 [work.request] [⟨work.request, reply⟩]
  | givenUp {batch : Batch α} {work : Work α} (taken : gathered.take = (batch, .run work)) :
      Ending gathered (batch.cancel work) [work.request] []

inductive Stage (gathered : Batch α) : SharedBatch α → Prop
  | gathering : Stage gathered { batch := gathered }
  | running {batch : Batch α} {work : Work α} (taken : gathered.take = (batch, .run work))
      (holder : FlightId) (waiting : List FlightId) :
      Stage gathered ⟨batch, .running holder work waiting, [work.request], []⟩
  | past {batch : Batch α} {handed : List Rendered} {answered : List Exchange}
      (ending : Ending gathered batch handed answered) {latch : Latch α}
      (quiet : latch.isRunning = false) : Stage gathered ⟨batch, latch, handed, answered⟩

def Phase.rank : Phase → Nat
  | .idle => 0
  | .executing => 1
  | .completed => 2

/-! ### The end -/

namespace Batch

theorem phase_complete (b : Batch α) (work : Work α) (reply : Attempt (List RowSet)) :
    (b.complete work reply).1.phase = .completed := by
  simp only [complete]
  split <;> rfl

variable {d : Dialect} {transaction : Option TransactionOptions} {calls : List (QueueCall α)}
  {gathered : Batch α}

theorem Gathered.phase_of_done (known : gathered.Gathered d transaction calls) {batch : Batch α}
    {outcome : Except Error Unit} (taken : gathered.take = (batch, .done outcome)) :
    batch.phase = .completed := by
  rw [known.take_eq] at taken
  split at taken
  · cases taken
    rfl
  · split at taken <;> cases taken
    rfl

theorem Gathered.outcome_of_done (known : gathered.Gathered d transaction calls) {batch : Batch α}
    {outcome : Except Error Unit} (taken : gathered.take = (batch, .done outcome)) :
    outcome = batch.outcome := by
  rw [known.take_eq] at taken
  split at taken
  · cases taken
    simp only [Batch.outcome, known.failure]
  · split at taken <;> cases taken
    rfl

end Batch

theorem Ending.completed {d : Dialect} {transaction : Option TransactionOptions}
    {calls : List (QueueCall α)} {gathered batch : Batch α} {handed : List Rendered}
    {answered : List Exchange} (known : gathered.Gathered d transaction calls)
    (ending : Ending gathered batch handed answered) : batch.phase = .completed := by
  cases ending with
  | settled taken => exact known.phase_of_done taken
  | answered taken reply => exact Batch.phase_complete _ _ reply
  | givenUp taken => rfl

theorem isRunning_passOn (waiting : List FlightId) :
    (SharedBatch.passOn waiting : Latch α).isRunning = false := by
  cases waiting <;> rfl

theorem Stage.eq_of_idle {d : Dialect} {transaction : Option TransactionOptions}
    {calls : List (QueueCall α)} {gathered : Batch α} {s : SharedBatch α}
    (known : gathered.Gathered d transaction calls) (stage : Stage gathered s)
    (idle : s.batch.phase = .idle) : s = { batch := gathered } := by
  cases stage with
  | gathering => rfl
  | running taken => exact Phase.noConfusion (idle.symm.trans (known.sent taken).phase)
  | past ending => exact Phase.noConfusion (idle.symm.trans (ending.completed known))

theorem Stage.phase_of_quiet {d : Dialect} {transaction : Option TransactionOptions}
    {calls : List (QueueCall α)} {gathered : Batch α} {s : SharedBatch α}
    (known : gathered.Gathered d transaction calls) (stage : Stage gathered s)
    (quiet : s.latch.isRunning = false) :
    s.batch.phase = .idle ∨ s.batch.phase = .completed := by
  cases stage with
  | gathering => exact .inl known.phase
  | running => cases quiet
  | past ending => exact .inr (ending.completed known)

theorem Stage.sent_of_running {d : Dialect} {transaction : Option TransactionOptions}
    {calls : List (QueueCall α)} {gathered : Batch α} {s : SharedBatch α}
    (known : gathered.Gathered d transaction calls) (stage : Stage gathered s)
    {holder : FlightId} {work : Work α} {waiting : List FlightId}
    (running : s.latch = .running holder work waiting) :
    s.batch.Sent d transaction calls work := by
  cases stage with
  | gathering => cases running
  | running taken =>
    cases running
    exact known.sent taken
  | past ending quiet =>
    cases running
    cases quiet

/-! ### Moves -/

namespace SharedBatch

variable {s after : SharedBatch α} {layout : Layout} {processor : Processor α}
  {outcome : Except Error Nat}

theorem running_of_submitted {flight : FlightId} {request : Rendered}
    (polled : s.poll flight = (after, .submitted request)) :
    ∃ work waiting, after.latch = .running flight work waiting ∧ work.request = request := by
  have acquired : ∀ waiting, s.acquire flight waiting = (after, .submitted request) →
      ∃ work waiting, after.latch = .running flight work waiting ∧ work.request = request := by
    intro waiting acquired
    unfold acquire at acquired
    split at acquired <;> cases acquired
    exact ⟨_, _, rfl, rfl⟩
  unfold poll at polled
  split at polled
  · exact acquired _ polled
  · split at polled
    · exact acquired _ polled
    · cases polled
  · rename_i running
    split at polled
    · rename_i same
      cases polled
      exact ⟨_, _, by rw [running, same], rfl⟩
    · cases polled

theorem register_of_free (free : s.isFree) (h : s.register layout processor = (after, outcome)) :
    ∃ batch, s.batch.register layout processor = (batch, outcome) ∧ after = { s with batch } := by
  unfold register at h
  rw [if_pos free] at h
  cases h
  exact ⟨_, rfl, rfl⟩

theorem register_of_held (held : s.isFree = false)
    (h : s.register layout processor = (after, outcome)) : after = s := by
  unfold register at h
  rw [if_neg (Bool.eq_false_iff.mp held)] at h
  cases h
  rfl

end SharedBatch

section

variable {d : Dialect} {transaction : Option TransactionOptions} {calls : List (QueueCall α)}
  {gathered : Batch α} {s : SharedBatch α}

theorem answer_of_quiet (quiet : s.latch.isRunning = false) (reply : Attempt (List RowSet)) :
    (s.answer reply).1 = s := by
  unfold SharedBatch.answer
  split
  · rename_i running
    rw [running] at quiet
    cases quiet
  · rfl

theorem rank_gathering (known : gathered.Gathered d transaction calls) :
    ({ batch := gathered } : SharedBatch α).phase.rank = 0 := by
  simp [SharedBatch.phase, SharedBatch.isFree, known.phase, Phase.rank]

/-- While the latch is held the phase is `executing`, which comes before every phase of a completed
batch. -/
theorem rank_held_le {t : SharedBatch α} (held : s.isFree = false)
    (completed : t.batch.phase = .completed) : s.phase.rank ≤ t.phase.rank := by
  have now : s.phase = .executing := by simp [SharedBatch.phase, held]
  rw [now, SharedBatch.phase, completed]
  split <;> decide

theorem Stage.poll (known : gathered.Gathered d transaction calls) (stage : Stage gathered s)
    (flight : FlightId) :
    Stage gathered (s.poll flight).1 ∧ s.phase.rank ≤ (s.poll flight).1.phase.rank := by
  cases stage with
  | gathering =>
    rw [rank_gathering known]
    simp only [SharedBatch.poll, SharedBatch.acquire]
    rcases taken : gathered.take with ⟨batch, outcome | work⟩
    · exact ⟨.past (.settled taken) rfl, Nat.zero_le _⟩
    · exact ⟨.running taken flight [], Nat.zero_le _⟩
  | running taken holder waiting =>
    simp only [SharedBatch.poll]
    split
    · exact ⟨.running taken holder waiting, Nat.le_refl _⟩
    · exact ⟨.running taken holder _, Nat.le_refl _⟩
  | @past batch handed answered ending latch quiet =>
    have spent := Batch.take_of_completed (ending.completed known)
    cases latch with
    | free =>
      simp only [SharedBatch.poll, SharedBatch.acquire, spent]
      exact ⟨.past ending rfl, Nat.le_refl _⟩
    | granted holder waiting =>
      simp only [SharedBatch.poll]
      split
      · simp only [SharedBatch.acquire, spent]
        exact ⟨.past ending (isRunning_passOn waiting), rank_held_le rfl (ending.completed known)⟩
      · exact ⟨.past ending rfl, Nat.le_refl _⟩
    | running => cases quiet

theorem Stage.answer (known : gathered.Gathered d transaction calls) (stage : Stage gathered s)
    (reply : Attempt (List RowSet)) :
    Stage gathered (s.answer reply).1 ∧ s.phase.rank ≤ (s.answer reply).1.phase.rank := by
  cases stage with
  | gathering => exact ⟨.gathering, Nat.le_refl _⟩
  | running taken holder waiting =>
    have ending := Ending.answered taken reply
    exact ⟨.past ending (isRunning_passOn waiting), rank_held_le rfl (ending.completed known)⟩
  | past ending quiet =>
    rw [answer_of_quiet quiet]
    exact ⟨.past ending quiet, Nat.le_refl _⟩

theorem Stage.abandon (known : gathered.Gathered d transaction calls) (stage : Stage gathered s)
    (flight : FlightId) :
    Stage gathered (s.abandon flight) ∧ s.phase.rank ≤ (s.abandon flight).phase.rank := by
  cases stage with
  | gathering => exact ⟨.gathering, Nat.le_refl _⟩
  | running taken holder waiting =>
    have ending := Ending.givenUp taken
    simp only [SharedBatch.abandon]
    split
    · exact ⟨.past ending (isRunning_passOn waiting), rank_held_le rfl (ending.completed known)⟩
    · exact ⟨.running taken holder _, Nat.le_refl _⟩
  | @past batch handed answered ending latch quiet =>
    cases latch with
    | free => exact ⟨.past ending rfl, Nat.le_refl _⟩
    | granted holder waiting =>
      simp only [SharedBatch.abandon]
      split
      · exact ⟨.past ending (isRunning_passOn waiting), rank_held_le rfl (ending.completed known)⟩
      · exact ⟨.past ending rfl, Nat.le_refl _⟩
    | running => cases quiet

theorem Stage.refuse (known : gathered.Gathered d transaction calls) (stage : Stage gathered s)
    {layout : Layout} {processor : Processor α} {after : SharedBatch α} {e : Error}
    (refused : s.register layout processor = (after, .error e)) : after = s := by
  by_cases free : s.isFree
  · obtain ⟨batch, registered, rfl⟩ := SharedBatch.register_of_free free refused
    have same : batch = s.batch := by
      by_cases idle : s.batch.phase = .idle
      · obtain rfl := stage.eq_of_idle known idle
        have numbered := known.scope
        rw [← known.dialect] at numbered
        exact Batch.register_refused numbered registered
      · exact Batch.register_of_not_idle idle registered
    rw [same]
  · exact SharedBatch.register_of_held (Bool.eq_false_iff.mpr free) refused

/-- Flights keep a batch in its stages and its phases in their order. -/
theorem Stage.progress {t : SharedBatch α} (known : gathered.Gathered d transaction calls)
    (stage : Stage gathered s) (moved : s.Progresses t) :
    Stage gathered t ∧ s.phase.rank ≤ t.phase.rank := by
  induction moved with
  | refl => exact ⟨stage, Nat.le_refl _⟩
  | poll flight _ ih =>
    have step := ih.1.poll known flight
    exact ⟨step.1, Nat.le_trans ih.2 step.2⟩
  | answer reply _ ih =>
    have step := ih.1.answer known reply
    exact ⟨step.1, Nat.le_trans ih.2 step.2⟩
  | abandon flight _ ih =>
    have step := ih.1.abandon known flight
    exact ⟨step.1, Nat.le_trans ih.2 step.2⟩
  | refuse refused _ ih =>
    rw [ih.1.refuse known refused]
    exact ih

end

/-! ### What is over stays over -/

namespace SharedBatch

structure Over (s : SharedBatch α) : Prop where
  completed : s.batch.phase = .completed
  quiet : s.latch.isRunning = false

theorem Over.not_running {s : SharedBatch α} (past : s.Over) {holder : FlightId} {work : Work α}
    {waiting : List FlightId} (running : s.latch = .running holder work waiting) : False := by
  have quiet := past.quiet
  rw [running] at quiet
  cases quiet

/-- The same batch with the same history, whoever holds the latch. -/
structure Agrees (s t : SharedBatch α) : Prop where
  batch : t.batch = s.batch
  handed : t.handed = s.handed
  answered : t.answered = s.answered

theorem Agrees.refl (s : SharedBatch α) : s.Agrees s := ⟨rfl, rfl, rfl⟩

theorem Agrees.symm {s t : SharedBatch α} (same : s.Agrees t) : t.Agrees s :=
  ⟨same.batch.symm, same.handed.symm, same.answered.symm⟩

theorem Agrees.trans {s t u : SharedBatch α} (first : s.Agrees t) (second : t.Agrees u) :
    s.Agrees u :=
  ⟨second.batch.trans first.batch, second.handed.trans first.handed,
    second.answered.trans first.answered⟩

variable {s t : SharedBatch α}

theorem Over.acquire (past : s.Over) (flight : FlightId) (waiting : List FlightId) :
    s.acquire flight waiting =
      ({ s with latch := passOn waiting }, .returned s.batch.outcome) := by
  simp only [SharedBatch.acquire, Batch.take_of_completed past.completed]

theorem Over.poll (past : s.Over) (flight : FlightId) :
    (s.poll flight).1.Over ∧ s.Agrees (s.poll flight).1 := by
  unfold SharedBatch.poll
  split
  · rw [past.acquire]
    exact ⟨⟨past.completed, rfl⟩, rfl, rfl, rfl⟩
  · rename_i holder waiting _
    split
    · rw [past.acquire]
      exact ⟨⟨past.completed, isRunning_passOn waiting⟩, rfl, rfl, rfl⟩
    · exact ⟨⟨past.completed, rfl⟩, rfl, rfl, rfl⟩
  · rename_i running
    exact (past.not_running running).elim

/-- Whether a flight that looks at the latch now may have it. -/
def admits (s : SharedBatch α) (flight : FlightId) : Bool :=
  match s.latch with
  | .free => true
  | .granted holder _ | .running holder _ _ => holder = flight

theorem Over.reported (past : s.Over) (flight : FlightId) :
    (s.poll flight).2 = if s.admits flight then .returned s.batch.outcome else .waiting := by
  cases latch : s.latch with
  | free => simp only [SharedBatch.poll, admits, latch, past.acquire, if_true]
  | granted holder waiting =>
    by_cases same : holder = flight
    · simp [SharedBatch.poll, admits, latch, past.acquire, same]
    · simp [SharedBatch.poll, admits, latch, same]
  | running holder work waiting => exact (past.not_running latch).elim

theorem Over.abandon (past : s.Over) (flight : FlightId) :
    (s.abandon flight).Over ∧ s.Agrees (s.abandon flight) := by
  unfold SharedBatch.abandon
  split
  · exact ⟨past, .refl s⟩
  · rename_i holder waiting _
    split
    · exact ⟨⟨past.completed, isRunning_passOn waiting⟩, rfl, rfl, rfl⟩
    · exact ⟨⟨past.completed, rfl⟩, rfl, rfl, rfl⟩
  · rename_i running
    exact (past.not_running running).elim

theorem Over.register (past : s.Over) {layout : Layout} {processor : Processor α}
    {after : SharedBatch α} {outcome : Except Error Nat}
    (h : s.register layout processor = (after, outcome)) : after = s := by
  by_cases free : s.isFree
  · obtain ⟨batch, registered, rfl⟩ := register_of_free free h
    have busy : s.batch.phase ≠ .idle := by
      rw [past.completed]
      exact nofun
    rw [Batch.register_of_not_idle busy registered]
  · exact register_of_held (Bool.eq_false_iff.mpr free) h

theorem Over.progress (past : s.Over) (moved : s.Progresses t) : t.Over ∧ s.Agrees t := by
  induction moved with
  | refl => exact ⟨past, .refl s⟩
  | poll flight _ ih =>
    have step := ih.1.poll flight
    exact ⟨step.1, ih.2.trans step.2⟩
  | answer reply _ ih =>
    rw [answer_of_quiet ih.1.quiet]
    exact ih
  | abandon flight _ ih =>
    have step := ih.1.abandon flight
    exact ⟨step.1, ih.2.trans step.2⟩
  | refuse refused _ ih =>
    rw [ih.1.register refused]
    exact ih

theorem queue_eq_ok {layout : Layout} {processor : Processor α} {after : SharedBatch α}
    {handle : Nat} (h : s.queue layout processor = .ok (after, handle)) :
    s.isFree ∧ ∃ batch, s.batch.queue layout processor = .ok (batch, handle) ∧
      after = { s with batch } := by
  unfold SharedBatch.queue at h
  rcases found : s.register layout processor with ⟨left, e | number⟩
  · simp only [found] at h
    cases h
  · simp only [found] at h
    cases h
    by_cases free : s.isFree
    · obtain ⟨batch, registered, rfl⟩ := register_of_free free found
      exact ⟨free, batch, by simp only [Batch.queue, registered], rfl⟩
    · unfold register at found
      rw [if_neg free] at found
      cases found

end SharedBatch

/-! ### Runs -/

namespace BatchSession

variable {s : BatchSession α}

theorem over_run (past : s.shared.Over) (turns : List (Turn α)) :
    (s.run turns).shared.Over ∧ s.shared.Agrees (s.run turns).shared ∧ s.queuedIn turns = [] := by
  induction turns generalizing s with
  | nil => exact ⟨past, .refl _, rfl⟩
  | cons turn rest ih =>
    rcases s.next_shared turn with ⟨call, shared, handle, -, queued, -⟩ | ⟨refused, moved⟩
    · obtain ⟨-, batch, taken, -⟩ := SharedBatch.queue_eq_ok queued
      have idle := (Batch.queue_eq_ok taken).1
      rw [past.completed] at idle
      cases idle
    · obtain ⟨still, same⟩ := past.progress moved
      obtain ⟨last, kept, nothing⟩ := ih still
      exact ⟨last, same.trans kept, by simp only [queuedIn, refused, nothing]; rfl⟩

/-- By induction on the turns: an accepted call adds to what is gathered, and nothing else does. -/
theorem stage_run_from {d : Dialect} {transaction : Option TransactionOptions}
    {calls : List (QueueCall α)} {start gathered : Batch α}
    (created : start.Gathered d transaction []) (known : start.gather calls = .ok gathered)
    (stage : Stage gathered s.shared) (turns : List (Turn α)) :
    ∃ after, start.gather (calls ++ s.queuedIn turns) = .ok after ∧
      Stage after (s.run turns).shared ∧
      s.shared.phase.rank ≤ (s.run turns).shared.phase.rank := by
  induction turns generalizing s calls gathered with
  | nil => exact ⟨gathered, by simpa [queuedIn] using known, stage, Nat.le_refl _⟩
  | cons turn rest ih =>
    have facts := created.gather known
    rcases s.next_shared turn with ⟨call, shared, handle, taken, queued, becomes⟩ | ⟨refused, moved⟩
    · obtain ⟨free, batch, took, rfl⟩ := SharedBatch.queue_eq_ok queued
      have idle := (Batch.queue_eq_ok took).1
      have gathering := stage.eq_of_idle facts idle
      rw [gathering] at took becomes
      have more := Batch.gather_concat known took
      have next : Stage batch (s.next turn).shared := by
        rw [becomes]
        exact .gathering
      obtain ⟨after, final, last, later⟩ := ih more next
      refine ⟨after, ?_, last, ?_⟩
      · simpa [queuedIn, taken] using final
      · rw [gathering, rank_gathering facts]
        exact Nat.zero_le _
    · obtain ⟨same, order⟩ := stage.progress facts moved
      obtain ⟨after, final, last, later⟩ := ih known same
      refine ⟨after, ?_, last, Nat.le_trans order later⟩
      simpa [queuedIn, refused] using final

/-- After every run the batch is in one of its stages, with all that the accepted calls gathered. -/
theorem stage_run {d : Dialect} {transaction : Option TransactionOptions} {start : Batch α}
    (created : Batch.create d transaction = .ok start) (turns : List (Turn α)) :
    ∃ gathered, start.gather (start.session.queuedIn turns) = .ok gathered ∧
      gathered.Gathered d transaction (start.session.queuedIn turns) ∧
      Stage gathered (start.session.run turns).shared := by
  have empty := Batch.gathered_create created
  obtain ⟨gathered, known, stage, -⟩ :=
    @stage_run_from _ start.session _ _ [] _ _ empty rfl .gathering turns
  exact ⟨gathered, known, empty.gather known, stage⟩

end BatchSession

end SqlBatch
