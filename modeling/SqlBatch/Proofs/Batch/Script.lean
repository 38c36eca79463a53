import SqlBatch.Command
import SqlBatch.Proofs.Batch.Stage
import SqlBatch.Proofs.Render.Merging

/-!
# The text of a batch

What a batch gathers is one text with one table. `collides_iff` says which calls that text cannot
take, and `request_eq_command` that it becomes the text of a command with the same statements.
-/
namespace SqlBatch

variable {α : Type}

/-! ### Gathered texts -/

namespace Batch

variable {d : Dialect} {transaction : Option TransactionOptions} {b after : Batch α}

theorem spells_append {layouts : List Layout} (names : Function.Injective d.parameterName)
    (dialect : b.dialect = d) (scope : b.scope = .numbering d (rollOf layouts))
    (spells : b.combined.Spells d layouts) {layout : Layout} {delivery : Delivery α}
    (h : b.append layout delivery = .ok after) : after.combined.Spells d (layouts ++ [layout]) := by
  obtain ⟨whole, ending, combined, joined, rfl⟩ := append_eq_ok dialect scope h
  exact spells.append names whole ending joined

theorem spells_create (names : Function.Injective d.parameterName)
    (created : create d transaction = .ok b) :
    b.combined.Spells d (scriptOf d transaction ([] : List (QueueCall α))) := by
  cases transaction with
  | none =>
    cases created
    exact Combined.spells_empty d
  | some options =>
    exact spells_append names rfl rfl (Combined.spells_empty d) created

theorem Gathered.spells_gather {calls more : List (QueueCall α)}
    (names : Function.Injective d.parameterName) (gathered : b.Gathered d transaction calls)
    (spells : b.combined.Spells d (scriptOf d transaction calls)) (h : b.gather more = .ok after) :
    after.combined.Spells d (scriptOf d transaction (calls ++ more)) := by
  induction more generalizing calls b with
  | nil =>
    cases h
    simpa using spells
  | cons call rest ih =>
    unfold Batch.gather at h
    split at h
    · rename_i next handle queued
      obtain ⟨-, -, extended, appended, becomes⟩ := queue_eq_ok queued
      have longer := spells_append names gathered.dialect gathered.scope spells appended
      rw [← scriptOf_concat] at longer
      have same : next.combined = extended.combined := by rw [becomes]
      rw [← same] at longer
      simpa using ih (gathered.queue queued) longer h
    · cases h

theorem spells_gather {start : Batch α} {calls : List (QueueCall α)}
    (names : Function.Injective d.parameterName) (created : create d transaction = .ok start)
    (h : start.gather calls = .ok b) : b.combined.Spells d (scriptOf d transaction calls) :=
  (gathered_create created).spells_gather names (spells_create names created) h

/-! ### Collisions -/

/-- What an idle batch that knows some values says to a layout. -/
def verdict (d : Dialect) (known : List Value) (layout : Layout) : Except Error Unit :=
  match layout.failure? with
  | some e => .error e
  | none =>
    if layout.endings = 0 then
      .error (.invalidElement "deferred batch" "element rendered no terminated statement")
    else match clash? known layout.bound with
      | some v => .error (.parameterCollision (parameterOn d known v).name)
      | none => .ok ()

theorem verdict_eq_collision {known : List Value} {layout : Layout} {name : String} :
    verdict d known layout = .error (.parameterCollision name) ↔
      layout.failure? = some (.parameterCollision name) ∨
        layout.failure? = none ∧ 0 < layout.endings ∧
          ∃ v, clash? known layout.bound = some v ∧ name = (parameterOn d known v).name := by
  unfold verdict
  cases layout.failure? with
  | some e => simp
  | none =>
    by_cases empty : layout.endings = 0
    · simp [empty]
    · cases clash? known layout.bound <;> simp [empty, Nat.pos_of_ne_zero, eq_comm]

theorem Gathered.attach_verdict {calls : List (QueueCall α)}
    (names : Function.Injective d.parameterName) (known : b.Gathered d transaction calls)
    (spells : b.combined.Spells d (scriptOf d transaction calls)) (layout : Layout)
    (delivery : Delivery α) :
    (b.attach layout delivery).2 = verdict d (rollOf (scriptOf d transaction calls)) layout := by
  have joined := Combined.append_rendering names spells.parameters layout
  unfold attach verdict
  rw [known.dialect, known.scope, Layout.renderIn_numbering]
  cases layout.failure? with
  | some e => rfl
  | none =>
    have width := layout.statements_rendering d (rollOf (scriptOf d transaction calls))
    simp only [width]
    by_cases empty : layout.endings = 0
    · simp only [if_pos empty]
    · simp only [if_neg empty, joined]
      cases clash? (rollOf (scriptOf d transaction calls)) layout.bound <;> rfl

theorem Gathered.register_verdict {calls : List (QueueCall α)}
    (names : Function.Injective d.parameterName) (known : b.Gathered d transaction calls)
    (spells : b.combined.Spells d (scriptOf d transaction calls)) (layout : Layout)
    (processor : Processor α) :
    (b.register layout processor).2 =
      (verdict d (rollOf (scriptOf d transaction calls)) layout).map fun _ => calls.length := by
  have place : b.cells.length = calls.length := by rw [known.cells, List.length_replicate]
  have outcome := known.attach_verdict names spells layout (.process b.cells.length processor)
  rw [← place, ← outcome]
  unfold register
  rw [known.phase]
  dsimp only
  rcases b.attach layout (.process b.cells.length processor) with ⟨left, e | ⟨⟩⟩ <;> rfl

end Batch

theorem SharedBatch.register_of_phase {s : SharedBatch α} (busy : s.phase ≠ .idle) (layout : Layout)
    (processor : Processor α) :
    (s.register layout processor).2 = .error .batchExecuting ∨
      (s.register layout processor).2 = .error .batchCompleted := by
  unfold SharedBatch.phase at busy
  unfold SharedBatch.register
  by_cases free : s.isFree
  · rw [if_pos free] at busy ⊢
    unfold Batch.register
    cases phase : s.batch.phase with
    | idle => exact (busy phase).elim
    | executing => exact .inl rfl
    | completed => exact .inr rfl
  · rw [if_neg free]
    exact .inl rfl

theorem Stage.register_verdict {d : Dialect} {transaction : Option TransactionOptions}
    {calls : List (QueueCall α)} {gathered : Batch α} {s : SharedBatch α}
    (names : Function.Injective d.parameterName) (known : gathered.Gathered d transaction calls)
    (spells : gathered.combined.Spells d (scriptOf d transaction calls)) (stage : Stage gathered s)
    (idle : s.phase = .idle) (layout : Layout) (processor : Processor α) :
    (s.register layout processor).2 =
      (Batch.verdict d (rollOf (scriptOf d transaction calls)) layout).map fun _ => calls.length := by
  have batch : s.batch.phase = .idle := by
    unfold SharedBatch.phase at idle
    split at idle
    · exact idle
    · cases idle
  obtain rfl := stage.eq_of_idle known batch
  exact known.register_verdict names spells layout processor

theorem BatchSession.response_queue (s : BatchSession α) (layout : Layout) (processor : Processor α)
    (store : Responder) (e : Error) :
    s.response ⟨.queue layout processor, store⟩ = .outcome (.finished (.error e)) ↔
      (s.shared.register layout processor).2 = .error e := by
  simp only [response, step]
  rcases s.shared.register layout processor with ⟨after, fault | handle⟩
  · simp
  · simp [BatchResponse.accepted]

/-- A call to queue an element collides just when the batch is idle and the element either fails
with a collision of its own or binds a value that is bound already and differs from itself. -/
theorem collides_iff {d : Dialect} {transaction : Option TransactionOptions} {start : Batch α}
    (created : Batch.create d transaction = .ok start) (names : Function.Injective d.parameterName)
    (turns : List (Turn α)) (layout : Layout) (processor : Processor α) (store : Responder)
    (name : String) :
    let s := start.session.run turns
    let known := rollOf (scriptOf d transaction (start.session.queuedIn turns))
    s.response ⟨.queue layout processor, store⟩ =
        .outcome (.finished (.error (.parameterCollision name))) ↔
      s.shared.phase = .idle ∧
        (layout.failure? = some (.parameterCollision name) ∨
          layout.failure? = none ∧ 0 < layout.endings ∧
            ∃ v, clash? known layout.bound = some v ∧ name = (parameterOn d known v).name) := by
  intro s known
  obtain ⟨gathered, taken, facts, stage⟩ := BatchSession.stage_run created turns
  have spells := Batch.spells_gather names created taken
  rw [BatchSession.response_queue]
  by_cases idle : s.shared.phase = .idle
  · rw [stage.register_verdict names facts spells idle, and_iff_right idle,
      ← Batch.verdict_eq_collision]
    change (Batch.verdict d known layout).map _ = _ ↔ _
    cases Batch.verdict d known layout <;> simp [Except.map]
  · rcases SharedBatch.register_of_phase idle layout processor with busy | busy <;>
      simp [busy, idle]

/-- A value that is not shared does not matter; the one behind it is shared and collides. -/
theorem collides_iff_behind_fresh :
    let nan : Value := ⟨0, .float ⟨0x7ff8000000000000⟩⟩
    let fresh : Value := ⟨1, .float ⟨0x7ff8000000000000⟩⟩
    let first : Layout := [.text "SELECT ", .placeholder nan, .terminator]
    let second : Layout :=
      [.text "SELECT ", .placeholder fresh, .text " = ", .placeholder nan, .terminator]
    let queue (layout : Layout) : Turn Nat :=
      ⟨.queue layout fun _ => .finished (.ok 0), fun _ => none⟩
    let start : Batch Nat := { dialect := .generic }
    Batch.create .generic none = .ok start ∧
      (start.session.run [queue first]).response (queue second) =
        .outcome (.finished (.error (.parameterCollision "@P1"))) := by
  have created : Batch.create .generic none = .ok ({ dialect := .generic } : Batch Nat) := rfl
  refine ⟨created, (collides_iff created injective_generic _ _ _ _ _).mpr ⟨rfl, .inr ?_⟩⟩
  refine ⟨rfl, by decide, ⟨0, .float ⟨0x7ff8000000000000⟩⟩, ?_, ?_⟩
  · decide +kernel
  · decide +kernel

/-- Names are told apart, the batch is idle, and the same selection collides with itself. -/
theorem collides_on_nan :
    let nan : Value := ⟨0, .float ⟨0x7ff8000000000000⟩⟩
    let select : Statement := .select { items := [⟨.value nan, none⟩] }
    let queue : Turn Nat :=
      ⟨.queue (select.layout .generic) fun _ => .finished (.ok 0), fun _ => none⟩
    let start : Batch Nat := { dialect := .generic }
    let s := start.session.run [queue]
    Function.Injective Dialect.generic.parameterName ∧ Batch.create .generic none = .ok start ∧
      s.shared.phase = .idle ∧
      s.response queue = .outcome (.finished (.error (.parameterCollision "@P1"))) := by
  refine ⟨injective_generic, rfl, by decide +kernel, ?_⟩
  rfl

/-! ### Requests -/

/-- The statements of a batch, within its transaction if it has one. -/
def inTransaction (transaction : Option TransactionOptions) (statements : List Statement) :
    List Statement :=
  transaction.toList.map .begin ++ statements ++ transaction.toList.map fun _ => .commit

section

variable {d : Dialect} {transaction : Option TransactionOptions} {calls : List (QueueCall α)}
  {gathered closed : Batch α}

theorem Batch.Gathered.spells_ended (names : Function.Injective d.parameterName)
    (known : gathered.Gathered d transaction calls)
    (spells : gathered.combined.Spells d (scriptOf d transaction calls))
    (committed : gathered.ended = .ok closed) :
    closed.combined.Spells d (scriptOf d transaction calls ++
      transaction.toList.map fun _ => Statement.commit.layout d) := by
  unfold Batch.ended at committed
  rw [known.transaction, known.dialect] at committed
  cases transaction with
  | none =>
    cases committed
    simpa using spells
  | some options => exact Batch.spells_append names known.dialect known.scope spells committed

theorem Batch.Gathered.take_of_ended (known : gathered.Gathered d transaction calls)
    (nonempty : calls ≠ []) (committed : gathered.ended = .ok closed) :
    gathered.take = ({ closed with phase := .executing, combined := {}, entries := [] },
      .run ⟨closed.combined.finish, closed.entries⟩) := by
  rw [known.take_eq, if_neg nonempty, committed]

/-- A batch that can be sent goes to the store on the first occasion. -/
theorem Stage.handed_of_ended {s : SharedBatch α} (known : gathered.Gathered d transaction calls)
    (stage : Stage gathered s) (nonempty : calls ≠ []) (committed : gathered.ended = .ok closed) :
    s.handed = if s.phase = .idle then [] else [closed.combined.finish] := by
  have sends := known.take_of_ended nonempty committed
  cases stage with
  | gathering => simp [SharedBatch.phase, SharedBatch.isFree, known.phase]
  | running taken =>
    rw [taken] at sends
    cases sends
    rfl
  | @past batch handed answered ending latch quiet =>
    have busy : SharedBatch.phase ⟨batch, latch, handed, answered⟩ ≠ .idle := by
      intro idle
      unfold SharedBatch.phase at idle
      dsimp only at idle
      rw [ending.completed known] at idle
      split at idle <;> cases idle
    rw [if_neg busy]
    cases ending with
    | settled taken =>
      rw [taken] at sends
      cases sends
    | answered taken reply =>
      rw [taken] at sends
      cases sends
      rfl
    | givenUp taken =>
      rw [taken] at sends
      cases sends
      rfl

end

end SqlBatch
