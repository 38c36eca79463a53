import SqlBatch.Proofs.Batch.Delivery
import SqlBatch.Proofs.Batch.Script

/-!
# The books of a batch

What a batch counts and numbers fits together as long as it gathers, and whoever has the latch finds
it gathering or over: `books_balance`. So a complete answer has a set for every entry. A call to
queue that unwinds is what the books do not survive, once anything has been numbered.
-/
namespace SqlBatch

variable {α : Type}

/-! ### Gathering -/

structure Batch.Balanced (b : Batch α) : Prop where
  positive : ∀ entry ∈ b.entries, 0 < entry.statements
  counted : (b.entries.map (·.statements)).sum = b.combined.statements
  placed : b.entries.length = b.queued + if b.transaction.isSome then 1 else 0
  issued : b.scope.issued = b.combined.parameters.entries.length
  ordinals : b.combined.parameters.entries.map (·.ordinal) = List.range' 1 b.scope.issued

theorem ordinals_tableOn (d : Dialect) {roll : List Value} (distinct : roll.Nodup) :
    (tableOn d roll roll).entries.map (·.ordinal) = List.range' 1 roll.length := by
  apply List.ext_getElem
  · simp [tableOn]
  · intro i inside _
    have within : i < roll.length := by simpa [tableOn] using inside
    simp [tableOn, parameterOn, distinct.idxOf_getElem i within, Nat.add_comm]

theorem Batch.Gathered.balanced {d : Dialect} {transaction : Option TransactionOptions}
    {calls : List (QueueCall α)} {b : Batch α} (known : b.Gathered d transaction calls)
    (spells : b.combined.Spells d (scriptOf d transaction calls)) : b.Balanced := by
  have distinct : (rollOf (scriptOf d transaction calls)).Nodup := nodup_enrollAll List.nodup_nil _
  refine ⟨known.positive, known.counted.symm, ?_, ?_, ?_⟩
  · rw [known.entries, known.queued, known.transaction, List.length_append, length_entriesOf,
      Nat.add_comm]
    cases transaction <;> rfl
  · rw [known.scope, spells.parameters, tableOn, List.length_map]
    rfl
  · rw [known.scope, spells.parameters]
    exact ordinals_tableOn d distinct

/-- The numbers are lost with the scope, and the table of the parameters stays. -/
theorem Batch.Balanced.unwind_iff {b : Batch α} (balanced : b.Balanced) (idle : b.phase = .idle) :
    b.unwind.Balanced ↔ b.scope.issued = 0 := by
  have lost : b.unwind = { b with scope := {} } := by
    unfold unwind
    rw [idle]
  rw [lost]
  constructor
  · intro after
    rw [balanced.issued]
    exact after.issued.symm
  · intro none
    have empty := balanced.issued.symm.trans none
    refine ⟨balanced.positive, balanced.counted, balanced.placed, empty.symm, ?_⟩
    rw [balanced.ordinals, none]

/-! ### Handing out -/

namespace Entry

/-- Whether there is a set for each entry that takes its share of some sets in turn. -/
def Fed : List (Entry α) → List RowSet → Prop
  | [], _ => True
  | entry :: rest, sets =>
    (sets.take entry.statements).getLast? ≠ none ∧ Fed rest (sets.drop entry.statements)

theorem fed_of_width_le {entries : List (Entry α)} {sets : List RowSet}
    (positive : ∀ entry ∈ entries, 0 < entry.statements) (enough : width entries ≤ sets.length) :
    Fed entries sets := by
  induction entries generalizing sets with
  | nil => trivial
  | cons entry rest ih =>
    obtain ⟨some, positive⟩ := List.forall_mem_cons.mp positive
    have split : width (entry :: rest) = entry.statements + width rest := by simp [width]
    refine ⟨fun missing => ?_, ih positive (by rw [List.length_drop]; omega)⟩
    rw [List.getLast?_eq_none_iff, List.take_eq_nil_iff] at missing
    rcases missing with nothing | rfl
    · omega
    · rw [List.length_nil] at enough
      omega

theorem Fed.distribute_eq {entries : List (Entry α)} {sets : List RowSet} (fed : Fed entries sets)
    (expected other taken : Nat) (cells : Cells α) :
    distribute expected taken entries sets cells = distribute other taken entries sets cells := by
  induction entries generalizing sets taken cells with
  | nil => rfl
  | cons entry rest ih =>
    obtain ⟨here, later⟩ := fed
    obtain ⟨rows, last⟩ := Option.ne_none_iff_exists'.mp here
    cases delivery : entry.delivery with
    | discard => simp only [distribute, delivery, ih later]
    | process handle processor => simp only [distribute_process delivery last, ih later]

end Entry

/-! ### Runs -/

/-- At every moment of a run in which no call unwinds, also within a turn: while no work is with the
store the batch is idle or completed, an idle batch is balanced, and no complete answer leaves an
entry without a set. A call to queue that unwinds then leaves it balanced exactly if no placeholder
had been numbered. -/
theorem books_balance {d : Dialect} (names : Function.Injective d.parameterName)
    {transaction : Option TransactionOptions} {start : Batch α}
    (created : Batch.create d transaction = .ok start) (turns : List (Turn α)) {s : SharedBatch α}
    (moved : (start.session.run turns).shared.Progresses s) :
    (s.latch.isRunning = false → s.batch.phase = .idle ∨ s.batch.phase = .completed) ∧
      (s.batch.phase = .idle → s.batch.Balanced ∧
        (s.latch = .free → (s.unwind.batch.Balanced ↔ s.batch.scope.issued = 0))) ∧
      ∀ holder work waiting, s.latch = .running holder work waiting →
        ∀ sets : List RowSet, sets.length = work.request.statements →
          Entry.Fed work.entries sets ∧ ∀ expected, work.deliver (.finished (.ok sets)) s.batch.cells =
            Entry.distribute expected 0 work.entries sets s.batch.cells := by
  obtain ⟨gathered, taken, known, before⟩ := BatchSession.stage_run created turns
  have stage := (before.progress known moved).1
  refine ⟨stage.phase_of_quiet known, fun idle => ?_, ?_⟩
  · have balanced : s.batch.Balanced := by
      rw [stage.eq_of_idle known idle]
      exact known.balanced (Batch.spells_gather names created taken)
    refine ⟨balanced, fun free => ?_⟩
    have unwound : s.unwind.batch = s.batch.unwind := by
      rw [SharedBatch.unwind, SharedBatch.isFree, free]
      rfl
    rw [unwound]
    exact balanced.unwind_iff idle
  · intro holder work waiting running sets complete
    have sent := stage.sent_of_running known running
    have enough : Entry.width work.entries ≤ sets.length := by
      rw [complete, sent.counted]
      exact Nat.le_refl _
    have fed := Entry.fed_of_width_le sent.positive enough
    exact ⟨fed, fun expected => (Batch.Sent.deliver_eq (b := s.batch) complete).trans
      (fed.distribute_eq ..)⟩

theorem books_balance_in_transaction :
    let seven : Value := ⟨0, .int 7⟩
    let queue (layout : Layout) : Turn Nat :=
      ⟨.queue layout fun _ => .finished (.ok 0), fun _ => none⟩
    let turns := [queue [.placeholder seven, .terminator, .placeholder seven, .terminator],
      queue [.placeholder ⟨1, .null⟩, .failure .cancelled],
      queue [.placeholder ⟨2, .null⟩, .placeholder seven, .terminator]]
    let start : Batch Nat :=
      { dialect := .generic
        transaction := some {}
        combined := { sql := "START TRANSACTION;", statements := 1, parts := 1 }
        entries := [⟨1, .discard⟩] }
    let s := (start.session.run turns).shared
    Batch.create .generic (some {}) = .ok start ∧ s.batch.phase = .idle ∧ s.batch.scope.issued = 2 ∧
      s.batch.Balanced ∧ (s.poll 0).1.latch.isRunning ∧
      ∀ holder work waiting, (s.poll 0).1.latch = .running holder work waiting →
        ∀ sets : List RowSet, sets.length = work.request.statements → Entry.Fed work.entries sets := by
  intro seven queue turns start s
  have created : Batch.create .generic (some {}) = .ok start := rfl
  have idle : s.batch.phase = .idle := by decide +kernel
  have before := books_balance injective_generic created turns (.refl s)
  have after := books_balance injective_generic created turns (.poll 0 (.refl s))
  refine ⟨created, idle, by decide +kernel, (before.2.1 idle).1, by decide +kernel, ?_⟩
  intro holder work waiting running sets complete
  exact (after.2.2 holder work waiting running sets complete).1

/-- Behind a value that is numbered, a call to queue unwinds and gives the latch back: the batch
gathers on with a parameter in its table and none in its scope, and the next value is refused the
number that it is given. -/
theorem unwinding_unbalances :
    let queue (v : Value) : Layout := [.placeholder v, .terminator]
    let processor : Processor Nat := fun _ => .finished (.ok 0)
    let start : Batch Nat := { dialect := .generic }
    let s := (start.session.run
      [⟨.queue (queue ⟨0, .int 7⟩) processor, fun _ => none⟩]).shared.unwind
    Batch.create .generic none = .ok start ∧ s.isFree ∧ s.batch.phase = .idle ∧
      s.batch.scope.issued = 0 ∧ s.batch.combined.parameters.entries.length = 1 ∧
      ¬s.batch.Balanced ∧
      (s.register (queue ⟨1, .int 8⟩) processor).2 = .error (.parameterCollision "@P1") := by
  intro queue processor start s
  have issued : s.batch.scope.issued = 0 := by decide +kernel
  have listed : s.batch.combined.parameters.entries.length = 1 := by decide +kernel
  refine ⟨rfl, by decide +kernel, by decide +kernel, issued, listed, fun balanced => ?_, ?_⟩
  · have both := balanced.issued
    rw [issued, listed] at both
    cases both
  · decide +kernel

end SqlBatch
