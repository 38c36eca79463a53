import Mathlib.Data.List.Sort
import SqlBatch.Proofs.Render.Numbering
import SqlBatch.Proofs.Tree.Windows

/-!
# Pages of distinct rows

A page counts rows. A clause of a query, and a query around it, count the rows that `DISTINCT` has
left; a column of row numbers is computed before, and then no two rows are the same any more.
-/
namespace SqlBatch

variable {α : Type} [DecidableEq α]

/-! ### Reading a framed query -/

/-- The rows that `DISTINCT` leaves, if it is there: of equal rows the first one. -/
def distinctRows (distinct : Bool) (rows : List α) : List α :=
  if distinct then rows.eraseDups else rows

def Window.keep {α : Type} (w : Window) (numbered : List (α × Nat)) : List (α × Nat) :=
  numbered.filter fun row => w.Holds row.2

/-- What a query in a frame returns, the column of row numbers apart, when its projection yields
certain rows in its order. -/
def Frame.rows (f : Frame) (w : Window) (distinct : Bool) (yielded : List α) : List α :=
  if f.numbered then
    -- `DISTINCT` compares the rows together with their numbers; the query around sorts by these.
    let inner := distinctRows distinct (yielded.zipIdx 1)
    ((w.keep inner).insertionSort fun a b => a.2 ≤ b.2).map Prod.fst
  else
    (w.keep ((distinctRows distinct yielded).zipIdx 1)).map Prod.fst

/-- The rows behind those to skip, as many as the limit says. -/
def QueryParts.page {α : Type} (q : QueryParts) (rows : List α) : List α :=
  let behind := rows.drop q.skipped
  q.limit.elim behind fun limit => behind.take limit.toNat

/-! ### Numbered rows -/

theorem eraseDups_of_nodup {rows : List α} (nodup : rows.Nodup) : rows.eraseDups = rows := by
  induction rows with
  | nil => rfl
  | cons a rest ih =>
    obtain ⟨fresh, others⟩ := List.nodup_cons.mp nodup
    have same : rest.filter (fun b => !b == a) = rest := by
      refine List.filter_eq_self.mpr fun b member => ?_
      have other : b ≠ a := fun equal => fresh (equal ▸ member)
      simpa using other
    rw [List.eraseDups_cons, same, ih others]

section

variable {α : Type} (rows : List α)

theorem pairwise_zipIdx (k : Nat) : (rows.zipIdx k).Pairwise fun a b => a.2 < b.2 := by
  have numbers : ((rows.zipIdx k).map Prod.snd).Pairwise (· < ·) := by
    rw [List.zipIdx_map_snd]
    exact List.pairwise_lt_range' 1
  exact List.pairwise_map.mp numbers

theorem nodup_zipIdx (k : Nat) : (rows.zipIdx k).Nodup :=
  (pairwise_zipIdx rows k).imp fun less same => absurd (same ▸ less) (Nat.lt_irrefl _)

/-- A window on numbered rows that holds what is wanted shows the page. -/
theorem Window.keep_eq_page {w : Window} {q : QueryParts}
    (holds : ∀ row ≤ rows.length, 1 ≤ row → (w.Holds row ↔ q.Wants row)) :
    (w.keep (rows.zipIdx 1)).map Prod.fst = q.page rows := by
  have wanted : ∀ row ∈ rows.zipIdx 1, (w.Holds row.2 ↔ q.Wants row.2) := by
    intro row member
    have least := List.le_snd_of_mem_zipIdx member
    have most := List.snd_lt_add_of_mem_zipIdx member
    exact holds row.2 (by omega) least
  unfold QueryParts.page
  cases limited : q.limit with
  | none =>
    have kept : w.keep (rows.zipIdx 1) = (rows.drop q.skipped).zipIdx (1 + q.skipped) := by
      rw [← filter_from]
      refine List.filter_congr fun row member => decide_eq_decide.mpr ?_
      rw [wanted row member, QueryParts.Wants, limited]
      simp only [Option.mem_def, reduceCtorEq, IsEmpty.forall_iff, implies_true, and_true]
      omega
    rw [kept, List.zipIdx_map_fst]
    rfl
  | some limit =>
    have kept : w.keep (rows.zipIdx 1) =
        ((rows.drop q.skipped).take limit.toNat).zipIdx (1 + q.skipped) := by
      rw [← filter_below, ← filter_from, List.filter_filter]
      refine List.filter_congr fun row member => ?_
      rw [← Bool.decide_and, decide_eq_decide, wanted row member, QueryParts.Wants, limited]
      simp only [Option.mem_def, Option.some.injEq, forall_eq']
      omega
    rw [kept, List.zipIdx_map_fst]
    rfl

end

/-! ### Pages -/

namespace Frame

variable {f : Frame} {w : Window} {q : QueryParts}

theorem rows_of_numbered (numbered : f.numbered = true) (distinct : Bool) (yielded : List α) :
    f.rows w distinct yielded = (w.keep (yielded.zipIdx 1)).map Prod.fst := by
  have apart : distinctRows distinct (yielded.zipIdx 1) = yielded.zipIdx 1 := by
    unfold distinctRows
    rw [eraseDups_of_nodup (nodup_zipIdx yielded 1), ite_self]
  have sorted : (w.keep (yielded.zipIdx 1)).Pairwise fun a b => a.2 ≤ b.2 :=
    ((pairwise_zipIdx yielded 1).filter _).imp Nat.le_of_lt
  rw [rows, if_pos numbered, apart]
  dsimp only
  rw [sorted.insertionSort_eq]

theorem rows_eq_page {distinct : Bool} {yielded counted : List α}
    (count : distinctRows (distinct && !f.numbered) yielded = counted)
    (holds : ∀ row ≤ counted.length, 1 ≤ row → (w.Holds row ↔ q.Wants row)) :
    f.rows w distinct yielded = q.page counted := by
  subst count
  cases numbered : f.numbered with
  | true =>
    rw [numbered, Bool.not_true, Bool.and_false] at holds
    rw [rows_of_numbered numbered, Bool.not_true, Bool.and_false]
    exact Window.keep_eq_page yielded holds
  | false =>
    rw [numbered, Bool.not_false, Bool.and_true] at holds
    rw [rows, numbered, if_neg Bool.false_ne_true, Bool.not_false, Bool.and_true]
    exact Window.keep_eq_page _ holds

end Frame

/-- A page of a query with `DISTINCT` holds the rows that are wanted of its distinct rows, unless
the dialect writes pages by row numbers: then `DISTINCT` is without any effect. -/
theorem page_of_distinct {d : Dialect} (q : Select) (distinct : q.distinct = true)
    (sorted : q.sortKeys ≠ []) (paged : q.limit.isSome ∨ q.offset.isSome)
    (skips : d.supportsOffset = true)
    (all : ∀ rows, d.unboundedLimit = some rows → MeansAll rows) :
    ∃ (frame : Frame) (window : Window),
      q.layout d = frame.layout (q.parts d) ∧
      frame.window? d.unboundedLimit = some window ∧
      ∀ yielded counted : List α,
        counted = (if d.paging = .rowNumber then yielded else yielded.eraseDups) →
        counted.length < maxRowCount →
        frame.rows window q.distinct yielded = (q.parts d).page counted := by
  have keys : d.paging = .top → (q.parts d).offset.isSome → (q.parts d).sortKeys ≠ [] := by
    intro _ _
    simpa [Select.parts] using sorted
  have bounded : (q.parts d).hasWindow = true := by
    show (q.limit.isSome || q.offset.isSome) = true
    simpa using paged
  obtain ⟨frame, window, numbered, framed, read, holds⟩ :=
    (q.parts d).showsBy_layout (fun _ => skips) keys all
  refine ⟨frame, window, (q.layout_eq_parts d).trans framed, read, ?_⟩
  intro yielded counted count small
  have left : distinctRows (q.distinct && !frame.numbered) yielded = counted := by
    rw [numbered, distinct, bounded, count]
    by_cases byNumbers : d.paging = .rowNumber <;> simp [byNumbers, distinctRows]
  apply Frame.rows_eq_page left
  intro row most least
  rw [holds row (by omega) least]
  refine or_iff_left ?_
  -- The last row number there is lies behind all rows.
  rintro ⟨-, -, -, last⟩
  omega

theorem page_of_distinct_second :
    let d : Dialect := .custom { paging := .rowNumberAutomatic }
    let a : Expr := .column ⟨none, "a"⟩
    let q : Select :=
      { distinct := true, items := [⟨a, none⟩], source := some (.table "t"), sortKeys := [⟨a, none⟩]
        limit := some 1, offset := some 1 }
    ∃ (frame : Frame) (window : Window), q.layout d = frame.layout (q.parts d) ∧
      frame.window? d.unboundedLimit = some window ∧
      frame.rows window q.distinct [1, 1, 2] = [2] := by
  intro d a q
  obtain ⟨frame, window, framed, read, pages⟩ :=
    page_of_distinct (d := d) (α := Nat) q rfl (List.cons_ne_nil _ _) (.inl rfl) rfl nofun
  exact ⟨frame, window, framed, read, pages [1, 1, 2] [1, 2] rfl (by decide)⟩

/-- The second row is the same as the first one, but it has another number. -/
theorem duplicate_shown :
    let d : Dialect := .custom { paging := .rowNumber }
    let a : Expr := .column ⟨none, "a"⟩
    let q : Select :=
      { distinct := true, items := [⟨a, none⟩], source := some (.table "t"), sortKeys := [⟨a, none⟩]
        limit := some 1, offset := some 1 }
    let frame : Frame :=
      { front := [.text "SELECT * FROM (\n"]
        numbered := true
        back := [.text "\n) AS PagedQuery\nWHERE ", .text "RowNumber BETWEEN 2 AND 2",
          .text "\nORDER BY RowNumber"] }
    let window : Window := ⟨2, some 2⟩
    d.supportsOffset = true ∧ q.layout d = frame.layout (q.parts d) ∧
      frame.window? d.unboundedLimit = some window ∧
      frame.rows window q.distinct [1, 1, 2] = [1] ∧
      (q.parts d).page [1, 1, 2].eraseDups = [2] :=
  ⟨rfl, by decide +kernel, by decide +kernel, by decide, by decide⟩

end SqlBatch
