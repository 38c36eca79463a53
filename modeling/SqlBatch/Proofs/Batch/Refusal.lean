import SqlBatch.Proofs.Batch.Stage

/-!
# Refused calls

A call that queueing refuses leaves a session as it was, whatever its pass had numbered by then.
`refusals_leave_no_trace` takes all refused calls out of a run at once.
-/
namespace SqlBatch

variable {α : Type}

namespace BatchSession

variable {s : BatchSession α}

def transcript (s : BatchSession α) : List (Turn α) → List (Turn α × BatchResponse α)
  | [] => []
  | turn :: rest => (turn, s.response turn) :: (s.next turn).transcript rest

/-- Whether an element was to be queued and an error came back. -/
def isRefusal : Turn α × BatchResponse α → Bool
  | (⟨.queue _ _, _⟩, .outcome (.finished (.error _))) => true
  | _ => false

def accepted (s : BatchSession α) (turns : List (Turn α)) : List (Turn α × BatchResponse α) :=
  (s.transcript turns).filter (!isRefusal ·)

theorem accepted_cons (s : BatchSession α) (turn : Turn α) (rest : List (Turn α)) :
    s.accepted (turn :: rest) =
      if isRefusal (turn, s.response turn) then (s.next turn).accepted rest
      else (turn, s.response turn) :: (s.next turn).accepted rest := by
  by_cases refused : isRefusal (turn, s.response turn)
  · rw [if_pos refused]
    exact List.filter_cons_of_neg (by simp [refused])
  · rw [if_neg refused]
    exact List.filter_cons_of_pos (by simp [refused])

theorem queue_of_isRefusal {turn : Turn α} (refused : isRefusal (turn, s.response turn)) :
    ∃ layout processor e,
      turn.action = .queue layout processor ∧ (s.shared.register layout processor).2 = .error e := by
  rcases turn with ⟨action, store⟩
  cases action with
  | queue layout processor =>
    rcases found : s.shared.register layout processor with ⟨after, e | handle⟩
    · exact ⟨layout, processor, e, rfl, by rw [found]⟩
    · simp only [isRefusal, response, step, found, BatchResponse.accepted] at refused
      cases refused
  | _ => cases refused

variable {d : Dialect} {transaction : Option TransactionOptions} {calls : List (QueueCall α)}
  {gathered : Batch α}

theorem next_of_isRefusal (known : gathered.Gathered d transaction calls)
    (stage : Stage gathered s.shared) {turn : Turn α}
    (refused : isRefusal (turn, s.response turn)) : s.next turn = s := by
  obtain ⟨layout, processor, e, action, outcome⟩ := queue_of_isRefusal refused
  have found : s.shared.register layout processor =
      ((s.shared.register layout processor).1, .error e) := by rw [← outcome]
  have same := stage.refuse known found
  rw [same] at found
  simp only [next, step, action, found]

/-- By induction on the turns: the session before a refused call is the session behind it. -/
theorem run_accepted {start : Batch α} (created : Batch.create d transaction = .ok start)
    (before turns : List (Turn α)) :
    let s := start.session.run before
    s.transcript ((s.accepted turns).map (·.1)) = s.accepted turns ∧
      s.run ((s.accepted turns).map (·.1)) = s.run turns := by
  induction turns generalizing before with
  | nil => exact ⟨rfl, rfl⟩
  | cons turn rest ih =>
    have later := ih (before ++ [turn])
    rw [run_append, run_cons, run_nil] at later
    obtain ⟨gathered, -, known, stage⟩ := stage_run created before
    generalize start.session.run before = s at later stage
    dsimp only at later ⊢
    rw [accepted_cons, run_cons]
    by_cases refused : isRefusal (turn, s.response turn)
    · have same := next_of_isRefusal known stage refused
      rw [same] at later ⊢
      rw [if_pos refused]
      exact later
    · rw [if_neg refused, List.map_cons, run_cons]
      exact ⟨congrArg _ later.1, later.2⟩

end BatchSession

/-- Without the calls that were refused, a run is told the same at every other turn and ends in the
same session: with the same request to the store, the same handles and the same count of queued
elements. -/
theorem refusals_leave_no_trace {d : Dialect} {transaction : Option TransactionOptions}
    {start : Batch α} (created : Batch.create d transaction = .ok start) (turns : List (Turn α)) :
    let kept := start.session.accepted turns
    start.session.transcript (kept.map (·.1)) = kept ∧
      start.session.run (kept.map (·.1)) = start.session.run turns :=
  BatchSession.run_accepted created [] turns

/-- Three calls are refused: a pass that fails behind two values, one of them known, an element that
ends no statement, and a number that differs from itself. -/
theorem refusals_leave_no_trace_mixed :
    let nan : Value := ⟨0, .float ⟨0x7ff8000000000000⟩⟩
    let seven : Value := ⟨1, .int 7⟩
    let queue (layout : Layout) : Turn Nat :=
      ⟨.queue layout fun _ => .finished (.ok 0), fun _ => none⟩
    let turns := [queue [.placeholder nan, .terminator],
      queue [.placeholder seven, .placeholder nan, .failure .cancelled],
      queue [.placeholder seven], queue [.placeholder nan, .terminator],
      queue [.placeholder seven, .terminator], ⟨.flush, fun _ => none⟩]
    let start : Batch Nat := { dialect := .generic }
    Batch.create .generic none = .ok start ∧
      (start.session.transcript turns).map BatchSession.isRefusal =
        [false, true, true, true, false, false] ∧
      (start.session.run turns).shared.handed.map (·.sql) = ["@P1;\n@P2;"] ∧
      start.session.run ((start.session.accepted turns).map (·.1)) = start.session.run turns := by
  refine ⟨rfl, ?_, ?_, (@refusals_leave_no_trace Nat .generic none _ rfl _).2⟩
  · decide +kernel
  · decide +kernel

end SqlBatch
