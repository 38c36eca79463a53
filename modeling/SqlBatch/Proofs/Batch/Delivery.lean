import SqlBatch.Proofs.Batch.Gathering

/-!
# Handing out an answer

The sets of a complete answer go to the entries in turn. `Batch.Sent.intact` says what every handle
reads if no processor breaks off, and `Batch.Sent.broken` if one does.
-/
namespace SqlBatch

variable {α : Type}

namespace Entry

/-! ### Entries that fail -/

def handle? (entry : Entry α) : Option Nat :=
  match entry.delivery with
  | .discard => none
  | .process handle _ => some handle

@[simp] theorem length_put (entry : Entry α) (cells : Cells α) (result : Except Error α) :
    (entry.put cells result).length = cells.length := by
  unfold put
  split
  · rfl
  · exact List.length_set

theorem getElem?_put_same {entry : Entry α} {cells : Cells α} {handle : Nat}
    (reads : entry.handle? = some handle) (inside : handle < cells.length)
    (result : Except Error α) : (entry.put cells result)[handle]? = some (some result) := by
  unfold handle? at reads
  unfold put
  split
  · rename_i found
    rw [found] at reads
    cases reads
  · rename_i found
    rw [found] at reads
    cases reads
    exact List.getElem?_set_self inside

theorem getElem?_put_other {entry : Entry α} {handle : Nat} (other : entry.handle? ≠ some handle)
    (cells : Cells α) (result : Except Error α) :
    (entry.put cells result)[handle]? = cells[handle]? := by
  unfold handle? at other
  unfold put
  split
  · rfl
  · rename_i found
    rw [found] at other
    exact List.getElem?_set_ne fun same => other (congrArg some same)

theorem failEach_append (first second : List (Entry α)) (e : Error) (cells : Cells α) :
    failEach (first ++ second) e cells = failEach second e (failEach first e cells) :=
  List.foldl_append

@[simp] theorem length_failEach (entries : List (Entry α)) (e : Error) (cells : Cells α) :
    (failEach entries e cells).length = cells.length := by
  induction entries generalizing cells with
  | nil => rfl
  | cons entry rest ih => exact (ih _).trans (entry.length_put cells _)

theorem getElem?_failEach_other {entries : List (Entry α)} {handle : Nat}
    (others : ∀ entry ∈ entries, entry.handle? ≠ some handle) (e : Error) (cells : Cells α) :
    (failEach entries e cells)[handle]? = cells[handle]? := by
  induction entries generalizing cells with
  | nil => rfl
  | cons entry rest ih =>
    have here := getElem?_put_other (others entry List.mem_cons_self) cells (.error e)
    exact (ih (fun entry member => others entry (List.mem_cons_of_mem _ member)) _).trans here

theorem getElem?_failEach_same {entries : List (Entry α)} {handle : Nat}
    (reads : ∃ entry ∈ entries, entry.handle? = some handle) (e : Error) {cells : Cells α}
    (inside : handle < cells.length) :
    (failEach entries e cells)[handle]? = some (some (.error e)) := by
  induction entries generalizing cells with
  | nil => simp at reads
  | cons first rest ih =>
    have step : failEach (first :: rest) e cells = failEach rest e (first.put cells (.error e)) := rfl
    rw [step]
    by_cases later : ∃ entry ∈ rest, entry.handle? = some handle
    · exact ih later (by rwa [length_put])
    · have here : first.handle? = some handle := by
        obtain ⟨entry, member, same⟩ := reads
        rcases List.mem_cons.mp member with rfl | found
        · exact same
        · exact (later ⟨entry, found, same⟩).elim
      rw [getElem?_failEach_other fun entry found same => later ⟨entry, found, same⟩]
      exact getElem?_put_same here inside _

/-! ### Entries in turn -/

def width (entries : List (Entry α)) : Nat := (entries.map (·.statements)).sum

theorem width_append (first second : List (Entry α)) :
    width (first ++ second) = width first + width second := by
  simp [width]

/-- What is handed out to some entries decides what becomes of those behind them. -/
theorem distribute_append (expected taken : Nat) (first second : List (Entry α))
    (sets : List RowSet) (cells : Cells α) :
    distribute expected taken (first ++ second) sets cells =
      let before := distribute expected taken first sets cells
      match before.outcome with
      | .finished _ =>
        let behind := distribute expected (taken + width first) second (sets.drop (width first))
          before.cells
        { behind with processed := before.processed ++ behind.processed }
      | .aborted => { before with cells := failEach second .cancelled before.cells } := by
  induction first generalizing taken sets cells with
  | nil => simp [distribute, width]
  | cons entry rest ih =>
    have moved : taken + entry.statements + width rest = taken + width (entry :: rest) := by
      simp [width, Nat.add_assoc]
    have dropped : (sets.drop entry.statements).drop (width rest) =
        sets.drop (width (entry :: rest)) := by
      simp [width, List.drop_drop]
    simp only [List.cons_append, distribute]
    cases entry.delivery with
    | discard =>
      dsimp only
      rw [ih, moved, dropped]
    | process handle processor =>
      dsimp only
      cases (sets.take entry.statements).getLast? with
      | none =>
        dsimp only
        rw [ih, moved, dropped]
      | some rows =>
        dsimp only
        cases processor rows with
        | finished result =>
          dsimp only
          rw [ih]
          simp only [moved, dropped, Delivered.after]
          split <;> rfl
        | aborted => simp [failEach_append]

theorem distribute_discard {entries : List (Entry α)} (discarded : ∀ entry ∈ entries, entry.delivery = .discard)
    (expected taken : Nat) (sets : List RowSet) (cells : Cells α) :
    distribute expected taken entries sets cells = { cells, outcome := .finished (.ok ()) } := by
  induction entries generalizing taken sets with
  | nil => rfl
  | cons entry rest ih =>
    simp only [distribute, discarded entry List.mem_cons_self]
    exact ih (fun entry member => discarded entry (List.mem_cons_of_mem _ member)) _ _

theorem distribute_process {entry : Entry α} {handle : Nat} {processor : Processor α}
    (delivery : entry.delivery = .process handle processor) {sets : List RowSet} {rows : RowSet}
    (last : (sets.take entry.statements).getLast? = some rows)
    (expected taken : Nat) (rest : List (Entry α)) (cells : Cells α) :
    distribute expected taken (entry :: rest) sets cells =
      match processor rows with
      | .finished result =>
        (distribute expected (taken + entry.statements) rest (sets.drop entry.statements)
          (cells.set handle (some result))).after ⟨handle, taken + entry.statements⟩
      | .aborted =>
        { cells := failEach rest .cancelled cells
          processed := [⟨handle, taken + entry.statements⟩]
          outcome := .aborted } := by
  cases processed : processor rows <;> simp only [distribute, delivery, last, processed]

theorem getLast?_share {sets : List RowSet} {before share : Nat} (positive : 0 < share)
    (enough : before + share ≤ sets.length) :
    ((sets.drop before).take share).getLast? = sets[before + share - 1]? := by
  have inside : before + share - 1 < sets.length := by omega
  rw [List.getLast?_take, if_neg (by omega), List.getElem?_drop,
    show before + (share - 1) = before + share - 1 by omega, List.getElem?_eq_getElem inside]
  rfl

end Entry

/-! ### The sets of a batch -/

/-- The number of the set that is processed for a handle, where `lead` sets go before those of the
queued elements: the last set of its own element. -/
def setNumber (lead : Nat) (calls : List (QueueCall α)) (handle : Nat) : Nat :=
  lead + ((calls.take (handle + 1)).map (·.layout.endings)).sum

/-- What the processor of a handle makes of that set. -/
def made (lead : Nat) (calls : List (QueueCall α)) (sets : List RowSet) (handle : Nat) :
    Option (Attempt α) :=
  calls[handle]?.bind fun call => sets[setNumber lead calls handle - 1]?.map call.processor

theorem length_entriesOf (calls : List (QueueCall α)) : (entriesOf calls).length = calls.length :=
  List.length_mapIdx

theorem width_take_entriesOf (calls : List (QueueCall α)) (count : Nat) :
    Entry.width ((entriesOf calls).take count) =
      ((calls.take count).map (·.layout.endings)).sum := by
  have same : ((entriesOf calls).take count).map (·.statements) =
      (calls.take count).map (·.layout.endings) := by
    apply List.ext_getElem?
    intro i
    simp only [entriesOf, List.getElem?_map, List.getElem?_take, List.getElem?_mapIdx]
    split
    · rw [Option.map_map]
      rfl
    · rfl
  rw [Entry.width, same]

theorem width_leadOf (d : Dialect) (transaction : Option TransactionOptions) :
    Entry.width (leadOf d transaction : List (Entry α)) = beginning d transaction := by
  cases transaction <;> rfl

theorem discard_of_mem_leadOf {d : Dialect} {transaction : Option TransactionOptions}
    {entry : Entry α} (member : entry ∈ leadOf d transaction) : entry.delivery = .discard := by
  cases transaction with
  | none => cases member
  | some options =>
    obtain rfl : entry = _ := by simpa [leadOf] using member
    rfl

theorem sum_take_succ {calls : List (QueueCall α)} {handle : Nat} (inside : handle < calls.length) :
    ((calls.take (handle + 1)).map (·.layout.endings)).sum =
      ((calls.take handle).map (·.layout.endings)).sum + calls[handle].layout.endings := by
  rw [List.take_succ_eq_append_getElem inside, List.map_append, List.sum_append_nat]
  rfl

theorem setNumber_eq (lead : List (Entry α)) {calls : List (QueueCall α)} {handle : Nat}
    (inside : handle < calls.length) :
    setNumber (Entry.width lead) calls handle =
      Entry.width (lead ++ (entriesOf calls).take handle) + calls[handle].layout.endings := by
  rw [Entry.width_append, width_take_entriesOf, setNumber, sum_take_succ inside, Nat.add_assoc]

theorem setNumber_lt {lead : Nat} {calls : List (QueueCall α)}
    (positive : ∀ call ∈ calls, 0 < call.layout.endings) {first second : Nat}
    (before : first < second) (inside : second < calls.length) :
    setNumber lead calls first < setNumber lead calls second := by
  induction second with
  | zero => omega
  | succ second ih =>
    have step : setNumber lead calls (second + 1) =
        setNumber lead calls second + calls[second + 1].layout.endings := by
      rw [setNumber, sum_take_succ inside, ← Nat.add_assoc]
      rfl
    have more := positive _ (List.getElem_mem inside)
    rcases Nat.lt_or_ge first second with earlier | latest
    · have := ih earlier (by omega)
      omega
    · obtain rfl : first = second := by omega
      omega

theorem setNumber_le (lead : List (Entry α)) (calls : List (QueueCall α)) (handle : Nat) :
    setNumber (Entry.width lead) calls handle ≤ Entry.width (lead ++ entriesOf calls) := by
  have parts := congrArg Entry.width (List.take_append_drop (handle + 1) (entriesOf calls))
  rw [Entry.width_append, width_take_entriesOf] at parts
  rw [Entry.width_append, setNumber]
  omega

def processings (lead : Nat) (calls : List (QueueCall α)) (count : Nat) : List Processing :=
  (List.range count).map fun handle => ⟨handle, setNumber lead calls handle⟩

theorem mem_processings {lead : Nat} {calls : List (QueueCall α)} {count handle set : Nat} :
    ⟨handle, set⟩ ∈ processings lead calls count ↔
      handle < count ∧ set = setNumber lead calls handle := by
  simp only [processings, List.mem_map, List.mem_range, Processing.mk.injEq]
  constructor
  · rintro ⟨_, inside, rfl, rfl⟩
    exact ⟨inside, rfl⟩
  · rintro ⟨inside, rfl⟩
    exact ⟨handle, inside, rfl, rfl⟩

theorem nodup_processings {lead : Nat} {calls : List (QueueCall α)}
    (positive : ∀ call ∈ calls, 0 < call.layout.endings) {count : Nat}
    (within : count ≤ calls.length) :
    ((processings lead calls count).map (·.set)).Nodup := by
  rw [processings, List.map_map, List.Nodup, List.pairwise_map]
  refine List.Pairwise.imp_of_mem ?_ List.pairwise_lt_range
  intro first second _ member before
  have inside : second < calls.length := by
    have := List.mem_range.mp member
    omega
  exact Nat.ne_of_lt (setNumber_lt positive before inside)

/-- What is left when the first `count` handles have been served and none of their processors broke
off. -/
structure Served (lead : Nat) (calls : List (QueueCall α)) (sets : List RowSet) (cells : Cells α)
    (count : Nat) (delivered : Delivered α) : Prop where
  outcome : delivered.outcome = .finished (.ok ())
  processed : delivered.processed = processings lead calls count
  length : delivered.cells.length = cells.length
  done : ∀ handle < count, ∀ result, made lead calls sets handle = some (.finished result) →
    delivered.cells[handle]? = some (some result)
  waiting : ∀ handle, count ≤ handle → delivered.cells[handle]? = cells[handle]?

section

variable {lead : List (Entry α)} {calls : List (QueueCall α)} {sets : List RowSet} {cells : Cells α}
  {count : Nat}

theorem getElem?_entriesOf (inside : count < calls.length) :
    (entriesOf calls)[count]? = some (calls[count].entry count) := by
  rw [entriesOf, List.getElem?_mapIdx, List.getElem?_eq_getElem inside]
  rfl

/-- There is a set for every handle, and it is the last one of its share. -/
theorem exists_rows (lead : List (Entry α)) (positive : ∀ call ∈ calls, 0 < call.layout.endings)
    (enough : Entry.width (lead ++ entriesOf calls) ≤ sets.length) (inside : count < calls.length) :
    ∃ rows, made (Entry.width lead) calls sets count = some (calls[count].processor rows) ∧
      ((sets.drop (Entry.width (lead ++ (entriesOf calls).take count))).take
        calls[count].layout.endings).getLast? = some rows := by
  have more := positive _ (List.getElem_mem inside)
  have number := setNumber_eq lead inside
  have bound := setNumber_le lead calls count
  have found : setNumber (Entry.width lead) calls count - 1 < sets.length := by omega
  refine ⟨sets[setNumber (Entry.width lead) calls count - 1], ?_, ?_⟩
  · simp only [made, List.getElem?_eq_getElem inside, List.getElem?_eq_getElem found]
    rfl
  · rw [Entry.getLast?_share more (by omega), ← number, List.getElem?_eq_getElem found]

/-- By induction on the handles served: each takes its share of what the others have left. -/
theorem served_distribute (discarded : ∀ entry ∈ lead, entry.delivery = .discard)
    (positive : ∀ call ∈ calls, 0 < call.layout.endings)
    (enough : Entry.width (lead ++ entriesOf calls) ≤ sets.length)
    (room : calls.length ≤ cells.length) (within : count ≤ calls.length)
    (intact : ∀ handle < count, made (Entry.width lead) calls sets handle ≠ some .aborted)
    (expected : Nat) :
    Served (Entry.width lead) calls sets cells count
      (Entry.distribute expected 0 (lead ++ (entriesOf calls).take count) sets cells) := by
  induction count with
  | zero =>
    rw [List.take_zero, List.append_nil, Entry.distribute_discard discarded]
    exact ⟨rfl, rfl, rfl, fun _ h => absurd h (by omega), fun _ _ => rfl⟩
  | succ count ih =>
    have served := ih (by omega) fun handle early => intact handle (by omega)
    obtain ⟨rows, makes, last⟩ := exists_rows lead positive enough (show count < calls.length by omega)
    have whole : calls[count].processor rows ≠ .aborted := fun broke =>
      intact count (by omega) (makes.trans (congrArg some broke))
    rw [List.take_add_one, getElem?_entriesOf (by omega), ← List.append_assoc,
      Entry.distribute_append]
    generalize Entry.distribute expected 0 (lead ++ (entriesOf calls).take count) sets cells = before
      at served ⊢
    simp only [served.outcome, Nat.zero_add, Option.toList]
    rw [Entry.distribute_process rfl last]
    cases processed : calls[count].processor rows with
    | aborted => exact (whole processed).elim
    | finished result =>
      have inside : count < before.cells.length := by rw [served.length]; omega
      refine ⟨rfl, ?_, ?_, ?_, ?_⟩
      · simp [served.processed, Delivered.after, Entry.distribute, processings, List.range_succ,
          setNumber_eq lead (show count < calls.length by omega), QueueCall.entry]
      · simp [Delivered.after, Entry.distribute, served.length]
      · intro handle early result' makes'
        simp only [Delivered.after, Entry.distribute]
        by_cases same : handle = count
        · subst same
          rw [makes, processed] at makes'
          cases makes'
          exact List.getElem?_set_self inside
        · rw [List.getElem?_set_ne (Ne.symm same)]
          exact served.done handle (by omega) result' makes'
      · intro handle late
        simp only [Delivered.after, Entry.distribute]
        rw [List.getElem?_set_ne (by omega)]
        exact served.waiting handle (by omega)

/-- What is left when the processor of the handle `broken` was the first to break off. -/
structure Broken (lead : Nat) (calls : List (QueueCall α)) (sets : List RowSet) (broken : Nat)
    (delivered : Delivered α) : Prop where
  outcome : delivered.outcome = .aborted
  processed : delivered.processed = processings lead calls (broken + 1)
  done : ∀ handle < broken, ∀ result, made lead calls sets handle = some (.finished result) →
    delivered.cells[handle]? = some (some result)
  silent : delivered.cells[broken]? = some none
  cancelled : ∀ handle, broken < handle → handle < calls.length →
    delivered.cells[handle]? = some (some (.error .cancelled))

theorem exists_entry {handle : Nat} (late : count ≤ handle) (inside : handle < calls.length) :
    ∃ entry ∈ (entriesOf calls).drop count, entry.handle? = some handle := by
  refine ⟨calls[handle].entry handle, ?_, rfl⟩
  apply List.mem_of_getElem? (i := handle - count)
  rw [List.getElem?_drop, show count + (handle - count) = handle by omega]
  exact getElem?_entriesOf inside

theorem handle_of_mem_drop {entry : Entry α} (member : entry ∈ (entriesOf calls).drop count) :
    ∃ handle, count ≤ handle ∧ entry.handle? = some handle := by
  obtain ⟨i, found⟩ := List.mem_iff_getElem?.mp member
  rw [List.getElem?_drop, entriesOf, List.getElem?_mapIdx] at found
  obtain ⟨call, -, rfl⟩ := Option.map_eq_some_iff.mp found
  exact ⟨count + i, by omega, rfl⟩

namespace Batch.Sent

variable {d : Dialect} {transaction : Option TransactionOptions} {b : Batch α} {work : Work α}

theorem positive_calls (sent : Sent d transaction calls b work) :
    ∀ call ∈ calls, 0 < call.layout.endings := by
  intro call member
  obtain ⟨tail, entries, -⟩ := sent.entries
  obtain ⟨i, inside, rfl⟩ := List.mem_iff_getElem.mp member
  have here : calls[i].entry i ∈ work.entries := by
    rw [entries]
    exact List.mem_append_left _ (List.mem_append_right _
      (List.mem_of_getElem? (getElem?_entriesOf inside)))
  exact sent.positive _ here

theorem enough (sent : Sent d transaction calls b work) (complete : sets.length = work.request.statements) :
    Entry.width (leadOf d transaction ++ entriesOf calls) ≤ sets.length := by
  obtain ⟨tail, entries, -⟩ := sent.entries
  have total : work.request.statements = Entry.width work.entries := sent.counted
  rw [entries, Entry.width_append] at total
  omega

theorem served (sent : Sent d transaction calls b work)
    (complete : sets.length = work.request.statements) (within : count ≤ calls.length)
    (intact : ∀ handle < count, made (beginning d transaction) calls sets handle ≠ some .aborted) :
    Served (beginning d transaction) calls sets b.cells count
      (Entry.distribute work.request.statements 0
        (leadOf d transaction ++ (entriesOf calls).take count) sets b.cells) := by
  have room : calls.length ≤ b.cells.length := by simp [sent.cells]
  rw [← width_leadOf (α := α)] at intact ⊢
  exact served_distribute (fun _ => discard_of_mem_leadOf) sent.positive_calls (sent.enough complete)
    room within intact _

theorem deliver_eq {work : Work α} (complete : sets.length = work.request.statements) :
    work.deliver (.finished (.ok sets)) b.cells =
      Entry.distribute work.request.statements 0 work.entries sets b.cells :=
  if_pos complete

theorem intact (sent : Sent d transaction calls b work)
    (complete : sets.length = work.request.statements)
    (intact : ∀ handle < calls.length,
      made (beginning d transaction) calls sets handle ≠ some .aborted) :
    Served (beginning d transaction) calls sets b.cells calls.length
      (work.deliver (.finished (.ok sets)) b.cells) := by
  have served := sent.served complete (Nat.le_refl _) intact
  obtain ⟨tail, entries, discarded⟩ := sent.entries
  rw [← length_entriesOf calls, List.take_length, length_entriesOf] at served
  rw [deliver_eq complete, entries, Entry.distribute_append]
  simp only [served.outcome]
  rw [Entry.distribute_discard discarded]
  exact ⟨rfl, by simpa using served.processed, served.length, served.done, served.waiting⟩

theorem broken (sent : Sent d transaction calls b work)
    (complete : sets.length = work.request.statements) {broken : Nat}
    (intact : ∀ handle < broken, made (beginning d transaction) calls sets handle ≠ some .aborted)
    (broke : made (beginning d transaction) calls sets broken = some .aborted) :
    Broken (beginning d transaction) calls sets broken
      (work.deliver (.finished (.ok sets)) b.cells) := by
  have inside : broken < calls.length := by
    refine Nat.lt_of_not_le fun outside => ?_
    simp [made, List.getElem?_eq_none outside] at broke
  have served := sent.served complete (Nat.le_of_lt inside) intact
  obtain ⟨rows, makes, last⟩ := exists_rows _ sent.positive_calls (sent.enough complete) inside
  rw [width_leadOf, broke] at makes
  obtain ⟨tail, entries, discarded⟩ := sent.entries
  have number := setNumber_eq (leadOf d transaction) inside
  rw [width_leadOf] at number
  have split : work.entries = leadOf d transaction ++ (entriesOf calls).take broken ++
      calls[broken].entry broken :: ((entriesOf calls).drop (broken + 1) ++ tail) := by
    have parts := List.take_append_drop broken (entriesOf calls)
    rw [List.drop_eq_getElem?_toList_append, getElem?_entriesOf inside] at parts
    rw [entries]
    refine (congrArg (leadOf d transaction ++ · ++ tail) parts.symm).trans ?_
    simp
  rw [deliver_eq complete, split, Entry.distribute_append]
  generalize Entry.distribute work.request.statements 0
    (leadOf d transaction ++ (entriesOf calls).take broken) sets b.cells = before at served ⊢
  simp only [served.outcome, Nat.zero_add]
  rw [Entry.distribute_process rfl last, ← Option.some.inj makes]
  have vacant : before.cells[broken]? = some none := by
    rw [served.waiting broken (Nat.le_refl _), sent.cells, List.getElem?_replicate, if_pos inside]
  have others : ∀ handle ≤ broken,
      ∀ entry ∈ (entriesOf calls).drop (broken + 1) ++ tail, entry.handle? ≠ some handle := by
    intro handle early entry member same
    rcases List.mem_append.mp member with queued | ends
    · obtain ⟨other, late, reads⟩ := handle_of_mem_drop queued
      rw [reads] at same
      cases same
      omega
    · simp [Entry.handle?, discarded entry ends] at same
  refine ⟨rfl, ?_, ?_, ?_, ?_⟩
  · simp [served.processed, processings, List.range_succ, number, QueueCall.entry]
  · intro handle early result makes
    rw [Entry.getElem?_failEach_other (others handle (by omega))]
    exact served.done handle early result makes
  · rw [Entry.getElem?_failEach_other (others broken (Nat.le_refl _)), vacant]
  · intro handle late inside
    obtain ⟨entry, member, reads⟩ := exists_entry (show broken + 1 ≤ handle from late) inside
    apply Entry.getElem?_failEach_same ⟨entry, List.mem_append_left _ member, reads⟩
    rw [served.length, sent.cells, List.length_replicate]
    exact inside

end Batch.Sent

end

theorem failEach_entriesOf (lead tail : List (Entry α)) {calls : List (QueueCall α)} (e : Error)
    {cells : Cells α} (room : cells.length = calls.length) :
    Entry.failEach (lead ++ entriesOf calls ++ tail) e cells =
      List.replicate calls.length (some (.error e)) := by
  apply List.ext_getElem?
  intro handle
  rw [List.getElem?_replicate]
  split
  · rename_i inside
    obtain ⟨entry, member, reads⟩ := exists_entry (Nat.zero_le handle) inside
    apply Entry.getElem?_failEach_same ⟨entry, ?_, reads⟩ e (by omega)
    exact List.mem_append_left _ (List.mem_append_right _ member)
  · rw [List.getElem?_eq_none]
    rw [Entry.length_failEach]
    omega

end SqlBatch
