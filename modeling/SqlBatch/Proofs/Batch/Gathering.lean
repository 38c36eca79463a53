import Mathlib.Algebra.Ring.Nat
import SqlBatch.Proofs.Batch.Run
import SqlBatch.Proofs.Render.Pass

/-!
# Gathered batches

What a batch holds after its transaction began and some elements were queued, and what it sends on
its way. `Batch.Gathered.gather` describes a batch by the calls that it took.
-/
namespace SqlBatch

variable {α : Type}

theorem Combined.statements_append {c combined : Combined} {rendered : Rendered}
    (h : c.append rendered = .ok combined) :
    combined.statements = c.statements + rendered.statements := by
  unfold append at h
  split at h
  · cases h
    rfl
  · cases h

/-! ### What a batch holds -/

def QueueCall.entry (call : QueueCall α) (handle : Nat) : Entry α :=
  ⟨call.layout.endings, .process handle call.processor⟩

def entriesOf (calls : List (QueueCall α)) : List (Entry α) :=
  calls.mapIdx fun handle call => call.entry handle

/-- How many statements begin a transaction. -/
def beginning (d : Dialect) : Option TransactionOptions → Nat
  | none => 0
  | some options => ((Statement.begin options).layout d).endings

/-- The entry of a transaction's beginning, which nobody waits for. -/
def leadOf (d : Dialect) (transaction : Option TransactionOptions) : List (Entry α) :=
  transaction.toList.map fun _ => ⟨beginning d transaction, .discard⟩

/-- The layouts that make up the text of a batch, the beginning of its transaction among them. -/
def scriptOf (d : Dialect) (transaction : Option TransactionOptions)
    (calls : List (QueueCall α)) : List Layout :=
  transaction.toList.map (fun options => (Statement.begin options).layout d) ++
    calls.map (·.layout)

theorem scriptOf_concat (d : Dialect) (transaction : Option TransactionOptions)
    (calls : List (QueueCall α)) (call : QueueCall α) :
    scriptOf d transaction (calls ++ [call]) = scriptOf d transaction calls ++ [call.layout] := by
  simp [scriptOf]

namespace Batch

/-- A batch that has taken some calls and has not been sent. -/
structure Gathered (d : Dialect) (transaction : Option TransactionOptions)
    (calls : List (QueueCall α)) (b : Batch α) : Prop where
  phase : b.phase = .idle
  entries : b.entries = leadOf d transaction ++ entriesOf calls
  positive : ∀ entry ∈ b.entries, 0 < entry.statements
  counted : b.combined.statements = (b.entries.map (·.statements)).sum
  queued : b.queued = calls.length
  failure : b.failure = none
  cells : b.cells = List.replicate calls.length none
  processed : b.processed = []
  scope : b.scope = .numbering d (rollOf (scriptOf d transaction calls))
  dialect : b.dialect = d
  transaction : b.transaction = transaction

def gather (b : Batch α) : List (QueueCall α) → Except Error (Batch α)
  | [] => .ok b
  | call :: rest =>
    match b.queue call.layout call.processor with
    | .ok (after, _) => after.gather rest
    | .error e => .error e

theorem append_eq_ok {d : Dialect} {roll : List Value} {b after : Batch α} {layout : Layout}
    {delivery : Delivery α} (dialect : b.dialect = d) (numbered : b.scope = .numbering d roll)
    (h : b.append layout delivery = .ok after) :
    layout.failure? = none ∧ 0 < layout.endings ∧
      ∃ combined, b.combined.append (layout.rendering d roll) = .ok combined ∧
        after = { b with
          scope := .numbering d (enrollAll roll layout.bound), combined
          entries := b.entries ++ [⟨layout.endings, delivery⟩] } := by
  unfold append attach at h
  rw [dialect, numbered, Layout.renderIn_numbering] at h
  cases fails : layout.failure? with
  | some e =>
    simp only [fails] at h
    cases h
  | none =>
    simp only [fails] at h
    by_cases empty : (layout.rendering d roll).statements = 0
    · rw [if_pos empty] at h
      cases h
    · rw [if_neg empty] at h
      cases joined : b.combined.append (layout.rendering d roll) with
      | error e =>
        rw [joined] at h
        cases h
      | ok combined =>
        rw [joined] at h
        cases h
        exact ⟨rfl, Nat.pos_of_ne_zero empty, combined, rfl, by rw [dialect, Layout.statements_rendering]⟩

theorem queue_eq_ok {b after : Batch α} {layout : Layout} {processor : Processor α} {handle : Nat}
    (h : b.queue layout processor = .ok (after, handle)) :
    b.phase = .idle ∧ handle = b.cells.length ∧
      ∃ extended, b.append layout (.process handle processor) = .ok extended ∧
        after = { extended with queued := extended.queued + 1, cells := extended.cells ++ [none] } := by
  unfold queue register at h
  cases phase : b.phase with
  | executing =>
    simp only [phase] at h
    cases h
  | completed =>
    simp only [phase] at h
    cases h
  | idle =>
    simp only [phase] at h
    rcases attached : b.attach layout (.process b.cells.length processor) with ⟨extended, e | ⟨⟩⟩
    · simp only [attached] at h
      cases h
    · simp only [attached] at h
      cases h
      exact ⟨rfl, rfl, extended, by simp only [append, attached], rfl⟩

/-- A pass that does not make it into the text leaves nothing behind. -/
theorem attach_refused {b after : Batch α} {roll : List Value}
    (numbered : b.scope = .numbering b.dialect roll) {layout : Layout} {delivery : Delivery α}
    {e : Error} (h : b.attach layout delivery = (after, .error e)) : after = b := by
  have restored : (Scope.numbering b.dialect (enrollAll roll layout.bound)).rollback
      b.scope.issued = b.scope := by
    rw [numbered]
    exact Scope.rollback_numbering b.dialect roll layout.bound
  unfold attach at h
  rcases rendering : layout.renderIn b.dialect b.scope with ⟨fault | rendered, scope⟩
  · simp only [rendering] at h
    rw [numbered, Layout.renderIn_numbering] at rendering
    split at rendering
    · cases rendering
      cases h
      rw [← numbered]
    · cases rendering
  · simp only [rendering] at h
    rw [numbered] at rendering
    obtain ⟨-, -, rfl⟩ := Layout.renderIn_eq_ok rendering
    rw [restored] at h
    by_cases empty : rendered.statements = 0
    · rw [if_pos empty] at h
      cases h
      rfl
    · rw [if_neg empty] at h
      cases joined : b.combined.append rendered with
      | error fault =>
        rw [joined] at h
        cases h
        rfl
      | ok combined =>
        rw [joined] at h
        cases h

theorem register_refused {b after : Batch α} {roll : List Value}
    (numbered : b.scope = .numbering b.dialect roll) {layout : Layout} {processor : Processor α}
    {e : Error} (h : b.register layout processor = (after, .error e)) : after = b := by
  unfold register at h
  cases phase : b.phase with
  | executing =>
    simp only [phase] at h
    cases h
    rfl
  | completed =>
    simp only [phase] at h
    cases h
    rfl
  | idle =>
    simp only [phase] at h
    rcases attached : b.attach layout (.process b.cells.length processor) with ⟨left, fault | ⟨⟩⟩
    · simp only [attached] at h
      cases h
      exact attach_refused numbered attached
    · simp only [attached] at h
      cases h

theorem register_of_not_idle {b after : Batch α} (busy : b.phase ≠ .idle) {layout : Layout}
    {processor : Processor α} {outcome : Except Error Nat}
    (h : b.register layout processor = (after, outcome)) : after = b := by
  unfold register at h
  cases phase : b.phase with
  | idle => exact (busy phase).elim
  | _ =>
    simp only [phase] at h
    cases h
    rfl

theorem gathered_create {d : Dialect} {transaction : Option TransactionOptions} {b : Batch α}
    (created : create d transaction = .ok b) : b.Gathered d transaction [] := by
  cases transaction with
  | none =>
    cases created
    exact ⟨rfl, rfl, by simp, rfl, rfl, rfl, rfl, rfl, rfl, rfl, rfl⟩
  | some options =>
    obtain ⟨-, positive, combined, joined, rfl⟩ := @append_eq_ok _ d [] _ _ _ _ rfl rfl created
    refine ⟨rfl, rfl, ?_, ?_, rfl, rfl, rfl, rfl, ?_, rfl, rfl⟩
    · intro entry member
      obtain rfl : entry = _ := by simpa using member
      exact positive
    · simpa using Combined.statements_append joined
    · simp [rollOf, scriptOf]

theorem Gathered.queue {d : Dialect} {transaction : Option TransactionOptions}
    {calls : List (QueueCall α)} {b after : Batch α} (gathered : b.Gathered d transaction calls)
    {layout : Layout} {processor : Processor α} {handle : Nat}
    (h : b.queue layout processor = .ok (after, handle)) :
    after.Gathered d transaction (calls ++ [⟨layout, processor⟩]) := by
  obtain ⟨-, rfl, extended, appended, rfl⟩ := queue_eq_ok h
  obtain ⟨-, positive, combined, joined, rfl⟩ :=
    append_eq_ok gathered.dialect gathered.scope appended
  have total := Combined.statements_append joined
  have place : b.cells.length = calls.length := by rw [gathered.cells, List.length_replicate]
  refine ⟨gathered.phase, ?_, ?_, ?_, ?_, gathered.failure, ?_, gathered.processed,
    ?_, gathered.dialect, gathered.transaction⟩
  · simp [gathered.entries, entriesOf, QueueCall.entry, place]
  · intro entry member
    rcases List.mem_append.mp member with old | new
    · exact gathered.positive entry old
    · obtain rfl : entry = _ := by simpa using new
      exact positive
  · simp [total, gathered.counted]
  · simp [gathered.queued]
  · simp [gathered.cells, List.replicate_succ']
  · rw [scriptOf_concat, rollOf_concat]

theorem gather_concat {b gathered after : Batch α} {calls : List (QueueCall α)}
    (h : b.gather calls = .ok gathered) {layout : Layout} {processor : Processor α} {handle : Nat}
    (queued : gathered.queue layout processor = .ok (after, handle)) :
    b.gather (calls ++ [⟨layout, processor⟩]) = .ok after := by
  induction calls generalizing b with
  | nil =>
    cases h
    simp only [List.nil_append, gather, queued]
  | cons call rest ih =>
    simp only [List.cons_append, gather] at h ⊢
    split at h
    · exact ih h
    · cases h

theorem Gathered.gather {d : Dialect} {transaction : Option TransactionOptions}
    {calls more : List (QueueCall α)} {b after : Batch α} (gathered : b.Gathered d transaction calls)
    (h : b.gather more = .ok after) : after.Gathered d transaction (calls ++ more) := by
  induction more generalizing calls b with
  | nil =>
    cases h
    simpa using gathered
  | cons call rest ih =>
    unfold Batch.gather at h
    split at h
    · rename_i next handle queued
      simpa using ih (gathered.queue queued) h
    · cases h

/-! ### What a batch sends -/

theorem take_of_completed {b : Batch α} (completed : b.phase = .completed) :
    b.take = (b, .done b.outcome) := by
  simp only [take, completed]

/-- A batch on its way to the store, and its work. -/
structure Sent (d : Dialect) (transaction : Option TransactionOptions)
    (calls : List (QueueCall α)) (sent : Batch α) (work : Work α) : Prop where
  phase : sent.phase = .executing
  cells : sent.cells = List.replicate calls.length none
  failure : sent.failure = none
  processed : sent.processed = []
  nonempty : calls ≠ []
  entries : ∃ tail, work.entries = leadOf d transaction ++ entriesOf calls ++ tail ∧
    ∀ entry ∈ tail, entry.delivery = .discard
  positive : ∀ entry ∈ work.entries, 0 < entry.statements
  counted : work.request.statements = (work.entries.map (·.statements)).sum

/-- The end of the transaction, as far as a batch has one. -/
def ended (b : Batch α) : Except Error (Batch α) :=
  if b.transaction.isSome then b.append (Statement.commit.layout b.dialect) .discard else .ok b

def unended (b : Batch α) (e : Error) : Batch α :=
  { b with entries := [], cells := Entry.failEach b.entries e b.cells }.finish (.error e)

theorem Gathered.take_eq {d : Dialect} {transaction : Option TransactionOptions}
    {calls : List (QueueCall α)} {b : Batch α} (gathered : b.Gathered d transaction calls) :
    b.take =
      if calls = [] then ({ b with entries := [], phase := .completed }, .done (.ok ()))
      else match b.ended with
        | .error e => (b.unended e, .done (.error e))
        | .ok b =>
          ({ b with phase := .executing, combined := {}, entries := [] },
            .run ⟨b.combined.finish, b.entries⟩) := by
  have untouched : b.queued = 0 ↔ calls = [] := by rw [gathered.queued, List.length_eq_zero_iff]
  unfold take
  rw [gathered.phase]
  by_cases empty : calls = []
  · rw [if_pos empty]
    exact if_pos (untouched.mpr empty)
  · rw [if_neg empty]
    exact (if_neg (mt untouched.mp empty)).trans rfl

theorem Gathered.sent {d : Dialect} {transaction : Option TransactionOptions}
    {calls : List (QueueCall α)} {b sent : Batch α} {work : Work α}
    (gathered : b.Gathered d transaction calls) (taken : b.take = (sent, .run work)) :
    Sent d transaction calls sent work := by
  rw [gathered.take_eq] at taken
  split at taken
  · cases taken
  · rename_i nonempty
    split at taken
    · cases taken
    · rename_i after closed
      cases taken
      unfold ended at closed
      split at closed
      · obtain ⟨-, positive, combined, joined, rfl⟩ :=
          append_eq_ok gathered.dialect gathered.scope closed
        have total := Combined.statements_append joined
        refine ⟨rfl, gathered.cells, gathered.failure, gathered.processed, nonempty,
          ⟨_, congrArg (· ++ _) gathered.entries, by simp⟩, ?_, ?_⟩
        · intro entry member
          rcases List.mem_append.mp member with old | new
          · exact gathered.positive entry old
          · obtain rfl : entry = _ := by simpa using new
            exact positive
        · simp [Combined.finish, total, gathered.counted]
      · cases closed
        exact ⟨rfl, gathered.cells, gathered.failure, gathered.processed, nonempty,
          ⟨[], by rw [gathered.entries, List.append_nil], by simp⟩, gathered.positive, gathered.counted⟩

end Batch
end SqlBatch
