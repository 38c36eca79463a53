import SqlBatch.Dialect.Sqlite
import SqlBatch.Proofs.Text.Words
import SqlBatch.Proofs.Tree.Node

/-!
# Windows of rows

A page of a query is written around the query's own text. Read word by word, what is written there
names a first row and perhaps a last one. `window_of_page` says which rows the page holds, whichever
way it is written.
-/
namespace SqlBatch

/-! ### Windows -/

/-- The rows from a first one to a last one, counted from 1. -/
structure Window where
  first : Nat := 1
  last : Option Nat := none
  deriving DecidableEq

namespace Window

def Holds (w : Window) (row : Nat) : Prop := w.first ≤ row ∧ ∀ last ∈ w.last, row ≤ last

instance (w : Window) (row : Nat) : Decidable (w.Holds row) := inferInstanceAs (Decidable (_ ∧ _))

/-- What a clause behind a query says. A row count is a number, or the dialect's word for all rows. -/
def ofClause (unbounded : Option String) : List String → Option Window
  | [] => some {}
  | ["LIMIT", count] => do
    return { last := some (← number? count) }
  | ["LIMIT", count, "OFFSET", skipped] => do
    let skipped ← number? skipped
    match number? count with
    | some count => return { first := skipped + 1, last := some (skipped + count) }
    | none => if unbounded = some count then some { first := skipped + 1 } else none
  | ["LIMIT", skipped, count] => do
    let skipped ← listed? skipped
    return { first := skipped + 1, last := some (skipped + (← number? count)) }
  | ["OFFSET", skipped] | ["OFFSET", skipped, "ROWS"] => do
    return { first := (← number? skipped) + 1 }
  | ["FETCH", "FIRST", count, "ROWS", "ONLY"] => do
    return { last := some (← number? count) }
  | ["OFFSET", skipped, "ROWS", "FETCH", "NEXT", count, "ROWS", "ONLY"] => do
    let skipped ← number? skipped
    return { first := skipped + 1, last := some (skipped + (← number? count)) }
  | _ => none

/-- What a query says that filters on the row numbers that the query inside has computed. -/
def ofRowNumber : List String → Option Window
  | [")", "AS", "PagedQuery", "WHERE", "RowNumber", "BETWEEN", first, "AND", last,
      "ORDER", "BY", "RowNumber"] => do
    return { first := ← number? first, last := some (← number? last) }
  | [")", "AS", "PagedQuery", "WHERE", "RowNumber", "<=", last, "ORDER", "BY", "RowNumber"] => do
    return { last := some (← number? last) }
  | [")", "AS", "PagedQuery", "WHERE", "RowNumber", ">", skipped, "ORDER", "BY", "RowNumber"] => do
    return { first := (← number? skipped) + 1 }
  | _ => none

def ofRownum : List String → Option Window
  | [")", "PagedQuery", "WHERE", "ROWNUM", "<=", last] => do
    return { last := some (← number? last) }
  | _ => none

/-- What two queries say of which the outer one filters on the row numbers that the inner one
hands on. -/
def ofNestedRownum : List String → Option Window
  | [")", "PagedQuery", ")", "WHERE", "RowNumber", ">", skipped] => do
    return { first := (← number? skipped) + 1 }
  | [")", "PagedQuery", "WHERE", "ROWNUM", "<=", last, ")", "WHERE", "RowNumber", ">", skipped] => do
    return { first := (← number? skipped) + 1, last := some (← number? last) }
  | _ => none

def ofFrame (unbounded : Option String) :
    (numbered : Bool) → (front middle back : List String) → Option Window
  | false, [], [], back => ofClause unbounded back
  | false, [], ["TOP", count], [] => do
    return { last := some (← number? count) }
  | true, ["SELECT", "*", "FROM", "("], [], back => ofRowNumber back
  | false, ["SELECT", "*", "FROM", "("], [], back => ofRownum back
  | false, ["SELECT", "*", "FROM", "(", "SELECT", "PagedQuery.*,", "ROWNUM", "AS", "RowNumber",
      "FROM", "("], [], back => ofNestedRownum back
  | _, _, _, _ => none

end Window

/-! ### Frames -/

def Layout.text? : Layout → Option String
  | [] => some ""
  | .text s :: rest => (s ++ ·) <$> text? rest
  | _ => none

/-- What is written around the text of a query to get a page of it. -/
structure Frame where
  front : Layout := []
  /-- What stands between `SELECT` and the projection. -/
  middle : Layout := []
  /-- Whether the sort keys have moved into a column of row numbers. -/
  numbered : Bool := false
  back : Layout := []

namespace Frame

def layout (f : Frame) (q : QueryParts) : Layout :=
  f.front ++
    (if f.numbered then q.numberedBody
      else q.selectWords none ++ f.middle ++ q.projection ++ q.clauses ++ q.sorting) ++
    f.back

def window? (f : Frame) (unbounded : Option String) : Option Window := do
  Window.ofFrame unbounded f.numbered (words (← f.front.text?)) (words (← f.middle.text?))
    (words (← f.back.text?))

end Frame

/-! ### Pages -/

def maxRowCount : Nat := 18446744073709551615

theorem toNat_rowCountSum (a b : UInt64) :
    (rowCountSum a b).toNat = min (a.toNat + b.toNat) maxRowCount := by
  unfold rowCountSum
  split
  · rename_i fits
    have small : a.toNat + b.toNat ≤ maxRowCount := Nat.le_of_lt_succ fits
    rw [UInt64.toNat_add, Nat.mod_eq_of_lt fits, Nat.min_eq_left small]
  · rename_i large
    have great : maxRowCount ≤ a.toNat + b.toNat := Nat.le_of_succ_le (Nat.le_of_not_lt large)
    rw [Nat.min_eq_right great]
    rfl

/-- A text that stands for all rows: one word and, if it is a number, one that no row is behind. -/
structure MeansAll (rows : String) : Prop where
  word : words rows = [rows]
  large : ∀ count, number? rows = some count → maxRowCount ≤ count

namespace QueryParts

variable {q : QueryParts} {unbounded : Option String} {layout : Layout} {rows : Nat → Prop}

def skipped (q : QueryParts) : Nat := q.offset.elim 0 UInt64.toNat

/-- Whether a row of the whole query is in the page. -/
def Wants (q : QueryParts) (row : Nat) : Prop :=
  q.skipped < row ∧ ∀ limit ∈ q.limit, row ≤ q.skipped + limit.toNat

def window (q : QueryParts) : Window :=
  { first := q.skipped + 1, last := q.limit.map (q.skipped + ·.toNat) }

theorem holds_window (q : QueryParts) (row : Nat) : q.window.Holds row ↔ q.Wants row := by
  refine and_congr Iff.rfl ?_
  simp [window]

theorem holds_of_last {first last : Nat} (next : first = q.skipped + 1)
    (row : Nat) (same : row ≤ last ↔ ∀ limit ∈ q.limit, row ≤ q.skipped + limit.toNat) :
    Window.Holds ⟨first, some last⟩ row ↔ q.Wants row := by
  subst next
  refine and_congr Iff.rfl (Iff.trans ?_ same)
  simp

/-- A layout frames a query, and the frame reads as a window on certain rows. -/
def Shows (unbounded : Option String) (q : QueryParts) (layout : Layout) (rows : Nat → Prop) : Prop :=
  ∃ (f : Frame) (w : Window), layout = f.layout q ∧ f.window? unbounded = some w ∧
    ∀ row ≤ maxRowCount, 1 ≤ row → (w.Holds row ↔ rows row)

/-- The same, with row numbers in the frame or without any. -/
def ShowsBy (numbered : Bool) (unbounded : Option String) (q : QueryParts) (layout : Layout)
    (rows : Nat → Prop) : Prop :=
  ∃ (f : Frame) (w : Window), f.numbered = numbered ∧ layout = f.layout q ∧
    f.window? unbounded = some w ∧ ∀ row ≤ maxRowCount, 1 ≤ row → (w.Holds row ↔ rows row)

theorem ShowsBy.shows {numbered : Bool} (shown : q.ShowsBy numbered unbounded layout rows) :
    q.Shows unbounded layout rows := by
  obtain ⟨f, w, -, framed, read, holds⟩ := shown
  exact ⟨f, w, framed, read, holds⟩

/-- A frame is read word by word: what stands in front says how to read what stands behind. -/
theorem shows_frame (f : Frame) (framed : layout = f.layout q) {a b c : String}
    (written : f.front.text? = some a ∧ f.middle.text? = some b ∧ f.back.text? = some c)
    (reader : List String → Option Window)
    (around : Window.ofFrame unbounded f.numbered (words a) (words b) = reader)
    {ws : List String} (read : words c = ws) {w : Window} (means : reader ws = some w)
    (holds : ∀ row ≤ maxRowCount, 1 ≤ row → (w.Holds row ↔ rows row)) :
    q.ShowsBy f.numbered unbounded layout rows := by
  refine ⟨f, w, rfl, framed, ?_, holds⟩
  obtain ⟨first, second, third⟩ := written
  rw [Frame.window?, first, second, third, ← means, ← around, ← read]
  rfl

theorem shows_clause {clause : Layout} {text : String} {ws : List String} {w : Window}
    (written : clause.text? = some text) (read : words text = ws)
    (means : Window.ofClause unbounded ws = some w)
    (holds : ∀ row ≤ maxRowCount, 1 ≤ row → (w.Holds row ↔ rows row)) :
    q.ShowsBy false unbounded (q.body none ++ clause) rows :=
  shows_frame { back := clause } (by simp [Frame.layout, body, selectWords])
    ⟨rfl, rfl, written⟩ (Window.ofClause unbounded) rfl read means holds

theorem shows_exact {clause : Layout} {text : String} {ws : List String}
    (written : clause.text? = some text) (read : words text = ws)
    (means : Window.ofClause unbounded ws = some q.window) :
    q.ShowsBy false unbounded (q.body none ++ clause) q.Wants :=
  shows_clause written read means fun row _ _ => q.holds_window row

/-! ### Clauses -/

theorem shows_fetchClause (q : QueryParts) :
    q.ShowsBy false unbounded (q.body none ++ q.fetchClause) q.Wants := by
  obtain ⟨distinct, items, clauses, sortKeys, limit, offset⟩ := q
  rcases limit with _ | limit <;> rcases offset with _ | offset
  · exact shows_exact rfl rfl rfl
  · have read : words ("\nOFFSET " ++ toString offset ++ " ROWS" ++ "") =
        ["OFFSET", toString offset, "ROWS"] := by
      simp +decide [String.append_assoc]
      rfl
    exact shows_exact rfl read (by simp [Window.ofClause, window, skipped])
  · have read : words ("\nFETCH " ++ "FIRST" ++ " " ++ toString limit ++ " ROWS ONLY" ++ "") =
        ["FETCH", "FIRST", toString limit, "ROWS", "ONLY"] := by
      simp +decide [String.append_assoc]
      rfl
    exact shows_exact rfl read (by simp [Window.ofClause, window, skipped])
  · have read : words ("\nOFFSET " ++ toString offset ++ " ROWS" ++ ("\nFETCH " ++ "NEXT" ++ " " ++
        toString limit ++ " ROWS ONLY" ++ "")) =
        ["OFFSET", toString offset, "ROWS", "FETCH", "NEXT", toString limit, "ROWS", "ONLY"] := by
      simp +decide [String.append_assoc]
      rfl
    exact shows_exact rfl read (by simp [Window.ofClause, window, skipped])

theorem shows_limitClause (q : QueryParts) (all : ∀ rows, unbounded = some rows → MeansAll rows) :
    q.ShowsBy false unbounded (q.body none ++ q.limitClause unbounded) q.Wants := by
  obtain ⟨distinct, items, clauses, sortKeys, limit, offset⟩ := q
  rcases limit with _ | limit <;> rcases offset with _ | offset
  · exact shows_exact rfl rfl rfl
  · cases unbounded with
    | none =>
      have read : words ("\nOFFSET " ++ toString offset ++ "") = ["OFFSET", toString offset] := by
        simp +decide
        rfl
      exact shows_exact rfl read (by simp [Window.ofClause, window, skipped])
    | some rows =>
      obtain ⟨word, large⟩ := all rows rfl
      have read : words ("\nLIMIT " ++ rows ++ " OFFSET " ++ toString offset ++ "") =
          ["LIMIT", rows, "OFFSET", toString offset] := by
        simp +decide [String.append_assoc, word]
        rfl
      cases counted : number? rows with
      | none => exact shows_exact rfl read (by simp [Window.ofClause, counted, window, skipped])
      | some count =>
        refine shows_clause rfl read (w := ⟨offset.toNat + 1, some (offset.toNat + count)⟩)
          (by simp [Window.ofClause, counted]) fun row most _ => holds_of_last (by rfl) row ?_
        -- The dialect's word is a number, and its sum with the offset is behind every row.
        have behind : row ≤ offset.toNat + count :=
          Nat.le_trans most (Nat.le_trans (large count counted) (Nat.le_add_left _ _))
        exact iff_of_true behind nofun
  · have read : words ("\nLIMIT " ++ toString limit ++ "") = ["LIMIT", toString limit] := by
      simp +decide
      rfl
    exact shows_exact rfl read (by simp [Window.ofClause, window, skipped])
  · have read : words ("\nLIMIT " ++ toString limit ++ " OFFSET " ++ toString offset ++ "") =
        ["LIMIT", toString limit, "OFFSET", toString offset] := by
      simp +decide [String.append_assoc]
      rfl
    exact shows_exact rfl read (by simp [Window.ofClause, window, skipped])

theorem shows_limitPairClause (q : QueryParts) :
    q.ShowsBy false unbounded (q.body none ++ q.limitPairClause) q.Wants := by
  obtain ⟨distinct, items, clauses, sortKeys, limit, offset⟩ := q
  rcases limit with _ | limit <;> rcases offset with _ | offset
  · exact shows_exact rfl rfl rfl
  · have read : words ("\nLIMIT " ++ toString offset ++ ", 18446744073709551615" ++ "") =
        ["LIMIT", toString offset ++ ",", "18446744073709551615"] := by
      have apart : "\nLIMIT " ++ toString offset ++ ", 18446744073709551615" ++ "" =
          "\nLIMIT " ++ (toString offset ++ ", " ++ "18446744073709551615") := by
        simp only [String.append_assoc, String.append_empty]
        rfl
      rw [apart, words_append_of_endsBlank (by decide), words_count_comma]
      rfl
    have largest : number? "18446744073709551615" = some maxRowCount := number?_toString maxRowCount
    refine shows_clause rfl read (w := ⟨offset.toNat + 1, some (offset.toNat + maxRowCount)⟩)
      (by simp [Window.ofClause, largest]) fun row most _ => holds_of_last (by rfl) row ?_
    -- No row is behind as many as there can be.
    exact iff_of_true (Nat.le_trans most (Nat.le_add_left _ _)) nofun
  · have read : words ("\nLIMIT " ++ toString limit ++ "") = ["LIMIT", toString limit] := by
      simp +decide
      rfl
    exact shows_exact rfl read (by simp [Window.ofClause, window, skipped])
  · have read : words ("\nLIMIT " ++ toString offset ++ ", " ++ toString limit ++ "") =
        ["LIMIT", toString offset ++ ",", toString limit] := by
      have apart : "\nLIMIT " ++ toString offset ++ ", " ++ toString limit ++ "" =
          "\nLIMIT " ++ (toString offset ++ ", " ++ toString limit) := by
        simp only [String.append_assoc, String.append_empty]
      rw [apart, words_append_of_endsBlank (by decide), words_count_comma, words_count]
      rfl
    exact shows_exact rfl read (by simp [Window.ofClause, window, skipped])

theorem shows_topLayout (q : QueryParts) (sorted : q.offset.isSome → q.sortKeys ≠ []) :
    q.ShowsBy false unbounded q.topLayout q.Wants := by
  have fetched : q.ShowsBy false unbounded (q.body none ++ q.fetchClause) q.Wants :=
    q.shows_fetchClause
  obtain ⟨distinct, items, clauses, sortKeys, limit, offset⟩ := q
  cases offset with
  | some offset =>
    have keys : sortKeys ≠ [] := sorted rfl
    simpa [topLayout, keys] using fetched
  | none =>
    cases limit with
    | none => simpa [topLayout, fetchClause] using fetched
    | some limit =>
      have read : words ("TOP " ++ toString limit ++ " " ++ "") = ["TOP", toString limit] := by
        simp +decide [String.append_assoc]
        rfl
      have nothing : words "" = [] := rfl
      exact shows_frame { middle := [.text ("TOP " ++ toString limit ++ " ")] }
        (by simp [topLayout, Frame.layout, body, selectWords]) ⟨rfl, rfl, rfl⟩
        (Window.ofFrame unbounded false [] ["TOP", toString limit]) (by rw [read]; rfl) nothing
        (by simp [Window.ofFrame, window, skipped]) fun row _ _ => holds_window _ row

/-! ### Queries around the query -/

theorem shows_rownumLayout (q : QueryParts) (paged : q.hasWindow) :
    q.ShowsBy false unbounded q.rownumLayout q.Wants := by
  obtain ⟨distinct, items, clauses, sortKeys, limit, offset⟩ := q
  rcases limit with _ | limit <;> rcases offset with _ | offset
  · cases paged
  · have read : words ("\n) PagedQuery" ++ ("\n)\nWHERE RowNumber > " ++ toString offset ++ "")) =
        [")", "PagedQuery", ")", "WHERE", "RowNumber", ">", toString offset] := by
      simp +decide
      rfl
    exact shows_frame
      { front := [.text "SELECT * FROM (\nSELECT PagedQuery.*, ROWNUM AS RowNumber FROM (\n"]
        back := [.text "\n) PagedQuery", .text ("\n)\nWHERE RowNumber > " ++ toString offset)] }
      (by simp [rownumLayout, Frame.layout, body, selectWords]) ⟨rfl, rfl, rfl⟩
      Window.ofNestedRownum rfl read
      (by simp [Window.ofNestedRownum, window, skipped]) fun row _ _ => holds_window _ row
  · have read : words ("\n) PagedQuery\nWHERE ROWNUM <= " ++ toString limit ++ "") =
        [")", "PagedQuery", "WHERE", "ROWNUM", "<=", toString limit] := by
      simp +decide
      rfl
    exact shows_frame
      { front := [.text "SELECT * FROM (\n"]
        back := [.text ("\n) PagedQuery\nWHERE ROWNUM <= " ++ toString limit)] }
      (by simp [rownumLayout, Frame.layout, body, selectWords]) ⟨rfl, rfl, rfl⟩
      Window.ofRownum rfl read
      (by simp [Window.ofRownum, window, skipped]) fun row _ _ => holds_window _ row
  · have read : words ("\n) PagedQuery" ++ ("\nWHERE ROWNUM <= " ++
        toString (rowCountSum offset limit) ++ ("\n)\nWHERE RowNumber > " ++ toString offset ++ ""))) =
        [")", "PagedQuery", "WHERE", "ROWNUM", "<=", toString (rowCountSum offset limit), ")",
          "WHERE", "RowNumber", ">", toString offset] := by
      simp +decide [String.append_assoc]
      rfl
    refine shows_frame
      { front := [.text "SELECT * FROM (\nSELECT PagedQuery.*, ROWNUM AS RowNumber FROM (\n"]
        back := [.text "\n) PagedQuery",
          .text ("\nWHERE ROWNUM <= " ++ toString (rowCountSum offset limit)),
          .text ("\n)\nWHERE RowNumber > " ++ toString offset)] }
      (by simp [rownumLayout, Frame.layout, body, selectWords]) ⟨rfl, rfl, rfl⟩
      Window.ofNestedRownum rfl read
      (w := ⟨offset.toNat + 1, some (rowCountSum offset limit).toNat⟩)
      (by simp [Window.ofNestedRownum]) fun row most _ => holds_of_last (by rfl) row ?_
    -- Where the sum stops short, the row asked about is not behind it either.
    rw [toNat_rowCountSum, Nat.le_min, and_iff_left most]
    simp [skipped]

theorem ShowsBy.exactly {numbered : Bool} {slips : Nat → Prop}
    (shown : q.ShowsBy numbered unbounded layout q.Wants) (sound : ∀ row, ¬slips row) :
    q.ShowsBy numbered unbounded layout fun row => q.Wants row ∨ slips row := by
  obtain ⟨f, w, frame, framed, read, holds⟩ := shown
  refine ⟨f, w, frame, framed, read, fun row most least => (holds row most least).trans ?_⟩
  exact (or_iff_left (sound row)).symm

/-- The row that a page by row numbers shows although it is among those to skip: as row numbers stop
at the largest row count, so does the first one that is asked for. -/
def Slips (q : QueryParts) (row : Nat) : Prop :=
  q.limit.isSome ∧ q.skipped = maxRowCount ∧ row = maxRowCount

theorem shows_rowNumberLayout (q : QueryParts) (paged : q.hasWindow) :
    q.ShowsBy true unbounded q.rowNumberLayout fun row => q.Wants row ∨ q.Slips row := by
  let f : Frame :=
    { front := [.text "SELECT * FROM (\n"]
      numbered := true
      back := .text "\n) AS PagedQuery\nWHERE " :: q.rowNumberBounds ++
        [.text "\nORDER BY RowNumber"] }
  have framed : q.rowNumberLayout = f.layout q := by simp [rowNumberLayout, f, Frame.layout]
  obtain ⟨distinct, items, clauses, sortKeys, limit, offset⟩ := q
  rcases limit with _ | limit <;> rcases offset with _ | offset
  · cases paged
  · have read : words ("\n) AS PagedQuery\nWHERE " ++ ("RowNumber > " ++ toString offset ++
        ("\nORDER BY RowNumber" ++ ""))) = [")", "AS", "PagedQuery", "WHERE", "RowNumber", ">",
          toString offset, "ORDER", "BY", "RowNumber"] := by
      simp +decide [String.append_assoc]
      rfl
    refine ShowsBy.exactly ?_ fun row slips => Bool.false_ne_true slips.1
    exact shows_frame f framed ⟨rfl, rfl, rfl⟩ Window.ofRowNumber rfl read
      (by simp [Window.ofRowNumber, window, skipped]) fun row _ _ => holds_window _ row
  · have read : words ("\n) AS PagedQuery\nWHERE " ++ ("RowNumber <= " ++ toString limit ++
        ("\nORDER BY RowNumber" ++ ""))) = [")", "AS", "PagedQuery", "WHERE", "RowNumber", "<=",
          toString limit, "ORDER", "BY", "RowNumber"] := by
      simp +decide [String.append_assoc]
      rfl
    refine ShowsBy.exactly ?_ fun row slips => by simp [Slips, skipped, maxRowCount] at slips
    exact shows_frame f framed ⟨rfl, rfl, rfl⟩ Window.ofRowNumber rfl read
      (by simp [Window.ofRowNumber, window, skipped]) fun row _ _ => holds_window _ row
  · have read : words ("\n) AS PagedQuery\nWHERE " ++ ("RowNumber BETWEEN " ++
        toString (rowCountSum offset 1) ++ " AND " ++ toString (rowCountSum offset limit) ++
        ("\nORDER BY RowNumber" ++ ""))) = [")", "AS", "PagedQuery", "WHERE", "RowNumber", "BETWEEN",
          toString (rowCountSum offset 1), "AND", toString (rowCountSum offset limit), "ORDER", "BY",
          "RowNumber"] := by
      simp +decide [String.append_assoc]
      rfl
    refine shows_frame f framed ⟨rfl, rfl, rfl⟩ Window.ofRowNumber rfl read
      (w := ⟨(rowCountSum offset 1).toNat, some (rowCountSum offset limit).toNat⟩)
      (by simp [Window.ofRowNumber]) fun row most _ => ?_
    have range : offset.toNat ≤ maxRowCount := Nat.le_of_lt_succ offset.toNat_lt
    have bounds : (rowCountSum offset 1).toNat = min (offset.toNat + 1) maxRowCount ∧
        (rowCountSum offset limit).toNat = min (offset.toNat + limit.toNat) maxRowCount :=
      ⟨toNat_rowCountSum offset 1, toNat_rowCountSum offset limit⟩
    simp only [Window.Holds, Wants, Slips, skipped, Option.mem_some_iff, forall_eq',
      Option.elim_some, Option.isSome_some, true_and]
    omega

/-! ### All pages -/

theorem shows_unpaged (q : QueryParts) (whole : ¬q.hasWindow) :
    q.ShowsBy false unbounded (q.body none) q.Wants := by
  obtain ⟨distinct, items, clauses, sortKeys, limit, offset⟩ := q
  rcases limit with _ | limit <;> rcases offset with _ | offset
  · rw [← List.append_nil (body _ none)]
    exact shows_exact rfl rfl rfl
  all_goals exact (whole rfl).elim

theorem showsBy_layout {d : Dialect} (q : QueryParts) (skips : q.offset.isSome → d.supportsOffset)
    (sorted : d.paging = .top → q.offset.isSome → q.sortKeys ≠ [])
    (all : ∀ rows, d.unboundedLimit = some rows → MeansAll rows) :
    q.ShowsBy (d.paging = .rowNumber && q.hasWindow) d.unboundedLimit (q.layout d) fun row =>
      q.Wants row ∨ d.paging = .rowNumber ∧ q.Slips row := by
  have expressible : (q.offset.isSome && !d.supportsOffset) = false := by
    cases asked : q.offset.isSome
    · rfl
    · simp [skips asked]
  unfold QueryParts.layout
  rw [expressible, if_neg Bool.false_ne_true]
  cases paging : d.paging with
  | fetchFirst => exact q.shows_fetchClause.exactly nofun
  | top => exact (q.shows_topLayout (sorted paging)).exactly nofun
  | limit => exact (q.shows_limitClause all).exactly nofun
  | limitWithOffset => exact q.shows_limitPairClause.exactly nofun
  | rowNumber =>
    change q.ShowsBy q.hasWindow _ (if q.hasWindow then _ else _) _
    cases paged : q.hasWindow with
    | true => simpa only [if_pos, true_and] using q.shows_rowNumberLayout paged
    | false =>
      have unpaged : ¬q.hasWindow := Bool.eq_false_iff.mp paged
      have sound : ∀ row, ¬(Paging.rowNumber = .rowNumber ∧ q.Slips row) :=
        fun row slips => unpaged (by simp [hasWindow, slips.2.1])
      exact (q.shows_unpaged unpaged).exactly sound
  | rowNumberAutomatic =>
    change q.ShowsBy false _ _ _
    by_cases paged : q.hasWindow
    · simpa only [if_pos paged] using (q.shows_rownumLayout paged).exactly nofun
    · simpa only [if_neg paged] using (q.shows_unpaged paged).exactly nofun

theorem shows_layout {d : Dialect} (q : QueryParts) (skips : q.offset.isSome → d.supportsOffset)
    (sorted : d.paging = .top → q.offset.isSome → q.sortKeys ≠ [])
    (all : ∀ rows, d.unboundedLimit = some rows → MeansAll rows) :
    q.Shows d.unboundedLimit (q.layout d) fun row =>
      q.Wants row ∨ d.paging = .rowNumber ∧ q.Slips row :=
  (q.showsBy_layout skips sorted all).shows

theorem layout_of_unpaged {d : Dialect} (q : QueryParts) :
    { q with limit := none, offset := none }.layout d = Frame.layout {} q := by
  unfold QueryParts.layout Frame.layout
  cases d.paging <;>
    simp [fetchClause, topLayout, limitClause, limitPairClause, hasWindow, body, selectWords,
      projection, sorting]

end QueryParts

/-- However a dialect writes pages, what is written around the query names the rows that are wanted:
those behind the offset, as many as the limit says. The exception is the last row number there is,
which a page by row numbers shows when as many rows are to be skipped. -/
theorem window_of_page {d : Dialect} (q : Select) (skips : q.offset.isSome → d.supportsOffset)
    (sorted : d.paging = .top → q.offset.isSome → q.sortKeys ≠ [])
    (all : ∀ rows, d.unboundedLimit = some rows → MeansAll rows) :
    let skipped := q.offset.elim 0 UInt64.toNat
    { q with limit := none, offset := none }.layout d = Frame.layout {} (q.parts d) ∧
    ∃ (frame : Frame) (window : Window),
      q.layout d = frame.layout (q.parts d) ∧
      frame.window? d.unboundedLimit = some window ∧
      ∀ row ≤ maxRowCount, 1 ≤ row → (window.Holds row ↔
        (skipped < row ∧ ∀ limit ∈ q.limit, row ≤ skipped + limit.toNat) ∨
        (d.paging = .rowNumber ∧ q.limit.isSome ∧ skipped = maxRowCount ∧ row = maxRowCount)) := by
  intro skipped
  constructor
  · rw [Select.layout_eq_parts]
    exact QueryParts.layout_of_unpaged (q.parts d)
  · have keys : d.paging = .top → (q.parts d).offset.isSome → (q.parts d).sortKeys ≠ [] := by
      intro top asked
      simpa [Select.parts] using sorted top asked
    obtain ⟨frame, window, framed, read, holds⟩ := (q.parts d).shows_layout skips keys all
    exact ⟨frame, window, (q.layout_eq_parts d).trans framed, read, holds⟩

theorem window_of_page_unlimited :
    let q : Select := { source := some (.table "t"), offset := some 5 }
    ∃ (frame : Frame) (window : Window), q.layout .sqlite = frame.layout (q.parts .sqlite) ∧
      frame.window? (some "-1") = some window ∧ ¬window.Holds 5 ∧ window.Holds 6 := by
  intro q
  have all : ∀ rows, Dialect.sqlite.unboundedLimit = some rows → MeansAll rows := by
    rintro rows ⟨⟩
    exact ⟨by decide, by decide⟩
  obtain ⟨-, frame, window, framed, read, holds⟩ :=
    window_of_page (d := .sqlite) q (fun _ => rfl) nofun all
  refine ⟨frame, window, framed, read, ?_, ?_⟩
  · rw [holds 5 (by decide) (by decide)]
    rintro (⟨behind, -⟩ | ⟨paging, -⟩)
    · exact absurd behind (by decide)
    · cases paging
  · rw [holds 6 (by decide) (by decide)]
    exact .inl ⟨by decide, nofun⟩

/-- As many rows are skipped as can be, and the last of them is shown. -/
theorem last_skipped_row_shown :
    let d := Dialect.custom { paging := .rowNumber }
    let q : Select :=
      { source := some (.table "t"), limit := some 1, offset := some 18446744073709551615 }
    let frame : Frame :=
      { front := [.text "SELECT * FROM (\n"]
        numbered := true
        back := [.text "\n) AS PagedQuery\nWHERE ",
          .text "RowNumber BETWEEN 18446744073709551615 AND 18446744073709551615",
          .text "\nORDER BY RowNumber"] }
    let window : Window := ⟨18446744073709551615, some 18446744073709551615⟩
    d.supportsOffset ∧ q.layout d = frame.layout (q.parts d) ∧
      frame.window? d.unboundedLimit = some window ∧
      ¬∀ row ≤ maxRowCount, 1 ≤ row → (window.Holds row ↔
        18446744073709551615 < row ∧ row ≤ 18446744073709551615 + 1) := by
  refine ⟨rfl, by decide +kernel, by decide +kernel, fun same => ?_⟩
  have shown := same 18446744073709551615 (by decide) (by decide)
  exact absurd (shown.mp (by decide)).1 (by decide)

end SqlBatch
