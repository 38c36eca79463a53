import SqlBatch.Proofs.Render.Merging
import SqlBatch.Proofs.Store.Binding
import SqlBatch.Proofs.Text.Digits
import SqlBatch.Proofs.Text.Quoted
import SqlBatch.Proofs.Tree.Node

/-!
# Projections of bound values

A query that only projects values comes back as one row with what the values hold. Nothing in a
column's name ends the column, the line or the statement, since the name is in quotes.
-/
namespace SqlBatch.Sqlite

/-! ### Pieces outside of quotes -/

theorem outerPieces_ne_nil (separator : Char) (quoted : Bool) (text : List Char) :
    outerPieces separator quoted text ≠ [] := by
  cases text with
  | nil => exact List.cons_ne_nil _ _
  | cons c rest =>
    rw [outerPieces]
    split
    · exact List.cons_ne_nil _ _
    · split <;> exact List.cons_ne_nil _ _

theorem outerPieces_cons {separator c : Char} {quoted : Bool}
    (kept : c = separator → quoted = true) (rest : List Char) :
    outerPieces separator quoted (c :: rest) =
      (outerPieces separator (if c = '"' then !quoted else quoted) rest).modifyHead (c :: ·) := by
  have stays : ¬(c = separator ∧ quoted = false) := by
    rintro ⟨same, outside⟩
    rw [kept same] at outside
    cases outside
  rw [outerPieces, if_neg stays]
  split
  · exact absurd ‹_› (outerPieces_ne_nil _ _ _)
  · rename_i found
    rw [found, List.modifyHead_cons]

/-- A text that stays together, whatever comes behind it. -/
def Whole (separator : Char) (text : List Char) : Prop :=
  ∀ rest, outerPieces separator false (text ++ rest) =
    (outerPieces separator false rest).modifyHead (text ++ ·)

namespace Whole

variable {separator : Char} {text first second : List Char}

theorem append (left : Whole separator first) (right : Whole separator second) :
    Whole separator (first ++ second) := by
  intro rest
  rw [List.append_assoc, left, right, List.modifyHead_modifyHead]
  simp [Function.comp_def]

theorem of_plain (plain : ∀ c ∈ text, c ≠ separator ∧ c ≠ '"') : Whole separator text := by
  intro rest
  induction text with
  | nil => exact (congrFun List.modifyHead_id _).symm
  | cons c text ih =>
    obtain ⟨⟨other, unquoted⟩, later⟩ := List.forall_mem_cons.mp plain
    rw [List.cons_append, outerPieces_cons (fun same => absurd same other), if_neg unquoted,
      ih later, List.modifyHead_modifyHead]
    rfl

/-- A doubled quote leaves the quotes and enters them again. -/
theorem outerPieces_doubled (other : separator ≠ '"') (body rest : List Char) :
    outerPieces separator true (doubled '"' body ++ '"' :: rest) =
      (outerPieces separator false rest).modifyHead (doubled '"' body ++ '"' :: ·) := by
  have quote (quoted : Bool) (rest : List Char) : outerPieces separator quoted ('"' :: rest) =
      (outerPieces separator (!quoted) rest).modifyHead ('"' :: ·) := by
    rw [outerPieces_cons (fun same => absurd same.symm other), if_pos rfl]
  induction body with
  | nil => exact quote true rest
  | cons c body ih =>
    unfold doubled
    split
    · rw [List.cons_append, List.cons_append, quote, Bool.not_true, quote, Bool.not_false, ih,
        List.modifyHead_modifyHead, List.modifyHead_modifyHead]
      rfl
    · rename_i plain
      rw [List.cons_append, outerPieces_cons (fun _ => rfl), if_neg plain, ih,
        List.modifyHead_modifyHead]
      rfl

theorem of_quoted (other : separator ≠ '"') (body : List Char) :
    Whole separator ('"' :: (doubled '"' body ++ ['"'])) := by
  intro rest
  have opens : outerPieces separator false ('"' :: (doubled '"' body ++ '"' :: rest)) =
      (outerPieces separator true (doubled '"' body ++ '"' :: rest)).modifyHead ('"' :: ·) := by
    rw [outerPieces_cons (fun same => absurd same.symm other), if_pos rfl, Bool.not_false]
  have text : '"' :: (doubled '"' body ++ ['"']) ++ rest =
      '"' :: (doubled '"' body ++ '"' :: rest) := by simp
  rw [text, opens, outerPieces_doubled other, List.modifyHead_modifyHead]
  simp [Function.comp_def]

theorem alone (whole : Whole separator text) : outerPieces separator false text = [text] := by
  have pieces := whole []
  rwa [List.append_nil, outerPieces, List.modifyHead_cons, List.append_nil] at pieces

theorem ended (whole : Whole separator text) (rest : List Char) :
    outerPieces separator false (text ++ separator :: rest) =
      text :: outerPieces separator false rest := by
  rw [whole, outerPieces, if_pos ⟨rfl, rfl⟩, List.modifyHead_cons, List.append_nil]

end Whole

/-! ### Columns -/

/-- What names a column, if anything does. -/
def labelText : Option String → List Char
  | none => []
  | some name => ' ' :: 'A' :: 'S' :: ' ' :: '"' :: (doubled '"' name.toList ++ ['"'])

def columnText (ordinal : Nat) (label : Option String) : List Char :=
  '?' :: (Nat.toDigits 10 ordinal ++ labelText label)

/-- A column without a label goes by its text. -/
def columnName (ordinal : Nat) (label : Option String) : String :=
  label.getD (String.ofList (columnText ordinal none))

theorem endsRun_labelText (label : Option String) : EndsRun (labelText label) := by
  cases label with
  | none => exact endsRun_nil
  | some name => exact endsRun_cons rfl _

theorem readColumn_columnText (ordinal : Nat) (label : Option String) :
    readColumn (columnText ordinal label) = some ⟨ordinal, columnName ordinal label⟩ := by
  have digits : ∀ c ∈ Nat.toDigits 10 ordinal, c.isDigit = true := fun _ => isDigit_toDigits
  have taken := takeWhile_digits digits (endsRun_labelText label)
  have dropped := dropWhile_digits digits (endsRun_labelText label)
  have start : (columnText ordinal label).dropWhile (· = ' ') = columnText ordinal label := rfl
  rw [readColumn, start, columnText]
  simp only [taken, dropped, Nat.ofDigitChars_ten_toDigits]
  cases label with
  | none => simp [labelText, columnName, columnText]
  | some name =>
    have ends : ∀ c ∈ ([] : List Char).head?, c ≠ '"' := fun c first => by cases first
    simp only [labelText, readQuoted_doubled '"' name.toList ends, columnName, Option.getD_some,
      String.ofList_toList]

/-- A blank in front of a column is passed over. -/
theorem readColumn_blank (text : List Char) : readColumn (' ' :: text) = readColumn text := by
  rw [readColumn, readColumn, List.dropWhile_cons_of_pos (by decide)]

theorem whole_columnText {separator : Char} (marks : separator ∈ [';', '\n', ',']) (ordinal : Nat)
    (label : Option String) : Whole separator (columnText ordinal label) := by
  have apart : separator.isDigit = false ∧ separator ≠ '"' ∧
      ∀ c ∈ ['?', ' ', 'A', 'S', ' '], c ≠ separator ∧ c ≠ '"' := by
    simp only [List.mem_cons, List.not_mem_nil, or_false] at marks
    rcases marks with rfl | rfl | rfl <;> simp
  obtain ⟨nondigit, unquoted, fixed⟩ := apart
  have number : Whole separator ('?' :: Nat.toDigits 10 ordinal) := by
    refine .of_plain (List.forall_mem_cons.mpr ⟨fixed _ (by decide), fun c member => ?_⟩)
    have digit := isDigit_toDigits member
    exact ⟨ne_of_isDigit digit nondigit, ne_of_isDigit digit rfl⟩
  cases label with
  | none =>
    rw [columnText, labelText, List.append_nil]
    exact number
  | some name =>
    have word : Whole separator [' ', 'A', 'S', ' '] :=
      .of_plain fun c member => fixed c (List.mem_cons_of_mem _ member)
    exact number.append (word.append (.of_quoted unquoted name.toList))

/-! ### Projections -/

def projectionText (columns : List (Nat × Option String)) : List Char :=
  "SELECT ".toList ++ List.intercalate [',', ' '] (columns.map fun c => columnText c.1 c.2)

/-- What is read off a projection. -/
def projectedColumns (columns : List (Nat × Option String)) : List ProjectedColumn :=
  columns.map fun c => ⟨c.1, columnName c.1 c.2⟩

theorem Whole.intercalate {separator : Char} {between : List Char} {texts : List (List Char)}
    (apart : Whole separator between) (all : ∀ text ∈ texts, Whole separator text) :
    Whole separator (List.intercalate between texts) := by
  induction texts with
  | nil => exact .of_plain nofun
  | cons first rest ih =>
    obtain ⟨here, later⟩ := List.forall_mem_cons.mp all
    cases rest with
    | nil => rwa [List.intercalate_singleton]
    | cons second others =>
      rw [List.intercalate_cons_cons]
      exact (here.append apart).append (ih later)

theorem whole_projectionText {separator : Char} (marks : separator ∈ [';', '\n'])
    (columns : List (Nat × Option String)) : Whole separator (projectionText columns) := by
  have among : separator ∈ [';', '\n', ','] := List.mem_append_left [','] marks
  have word : Whole separator "SELECT ".toList := by
    refine .of_plain ?_
    simp only [List.mem_cons, List.not_mem_nil, or_false] at marks
    rcases marks with rfl | rfl <;> simp
  have between : Whole separator [',', ' '] := by
    refine .of_plain ?_
    simp only [List.mem_cons, List.not_mem_nil, or_false] at marks
    rcases marks with rfl | rfl <;> simp
  refine word.append (between.intercalate fun text member => ?_)
  obtain ⟨c, -, rfl⟩ := List.mem_map.mp member
  exact whole_columnText among c.1 c.2

/-- A blank in front of the first column changes nothing. -/
theorem mapM_readColumn_blank (text : List Char) :
    (outerPieces ',' false (' ' :: text)).mapM readColumn =
      (outerPieces ',' false text).mapM readColumn := by
  rw [outerPieces_cons (by decide), if_neg (by decide)]
  obtain ⟨piece, others, pieces⟩ := List.exists_cons_of_ne_nil (outerPieces_ne_nil ',' false text)
  rw [pieces, List.modifyHead_cons, List.mapM_cons, List.mapM_cons, readColumn_blank]

theorem mapM_readColumn {columns : List (Nat × Option String)} (filled : columns ≠ []) :
    (outerPieces ',' false (List.intercalate [',', ' ']
      (columns.map fun c => columnText c.1 c.2))).mapM readColumn =
      some (projectedColumns columns) := by
  induction columns with
  | nil => exact absurd rfl filled
  | cons first rest ih =>
    have whole : Whole ',' (columnText first.1 first.2) := whole_columnText (by decide) _ _
    cases rest with
    | nil =>
      rw [List.map_singleton, List.intercalate_singleton, whole.alone, List.mapM_cons,
        readColumn_columnText]
      rfl
    | cons second others =>
      have later := ih (List.cons_ne_nil _ _)
      rw [List.map_cons] at later
      rw [List.map_cons, List.map_cons, List.intercalate_cons_cons, List.append_assoc,
        List.cons_append, List.singleton_append, whole.ended, List.mapM_cons,
        mapM_readColumn_blank, later, readColumn_columnText]
      rfl

theorem readProjection_projectionText {columns : List (Nat × Option String)}
    (filled : columns ≠ []) :
    readProjection (projectionText columns) = some (projectedColumns columns, false) := by
  have start : (projectionText columns).dropWhile (· = '\n') = projectionText columns := rfl
  have line := (whole_projectionText (by decide : '\n' ∈ [';', '\n']) columns).alone
  have behind : (projectionText columns).drop "SELECT ".length =
      List.intercalate [',', ' '] (columns.map fun c => columnText c.1 c.2) :=
    List.drop_left
  rw [readProjection, start, line]
  simp only [behind, mapM_readColumn filled]
  rfl

/-- The one row of a projection. -/
def projectedRow (columns : List (Nat × Option String)) (bound : List SqlValue) : RowSet where
  columns := columns.map fun c => columnName c.1 c.2
  contents := [columns.map fun c => stored (bound[c.1 - 1]?.getD .null)]

theorem rowsOf_projectedColumns (bound : List SqlValue) (columns : List (Nat × Option String)) :
    rowsOf bound (projectedColumns columns) false = projectedRow columns bound := by
  simp [rowsOf, projectedColumns, projectedRow, Function.comp_def]

theorem projectedRow_congr {columns : List (Nat × Option String)} {bound others : List SqlValue}
    (same : ∀ c ∈ columns, bound[c.1 - 1]? = others[c.1 - 1]?) :
    projectedRow columns bound = projectedRow columns others := by
  have values : (columns.map fun c => stored (bound[c.1 - 1]?.getD .null)) =
      columns.map fun c => stored (others[c.1 - 1]?.getD .null) :=
    List.map_congr_left fun c inside => by rw [same c inside]
  rw [projectedRow, values, projectedRow]

/-- A query for columns whose ordinals have arguments comes back as one row of these. -/
theorem runProjections_eq {request : Rendered} {columns : List (Nat × Option String)}
    (filled : columns ≠ []) (text : request.sql.toList = projectionText columns ++ [';'])
    (bound : ∀ c ∈ columns, 1 ≤ c.1 ∧ c.1 ≤ (arguments request.parameters).length) :
    runProjections request = .ok [projectedRow columns (arguments request.parameters)] := by
  have one : statements request.sql = [projectionText columns] := by
    have pieces := (whole_projectionText (by decide : ';' ∈ [';', '\n']) columns).ended []
    rw [statements, text, pieces]
    rfl
  have ordinals : (projectedColumns columns).map (·.ordinal) = columns.map (·.1) := by
    simp [projectedColumns]
  have enough : ∀ n ∈ columns.map (·.1), n ≤ (arguments request.parameters).length := by
    intro n member
    obtain ⟨c, inside, rfl⟩ := List.mem_map.mp member
    exact (bound c inside).2
  rw [runProjections, one, runFrom, readProjection_projectionText filled]
  simp only [runFrom, ordinals, bind, Except.bind, rowsOf_projectedColumns]
  rw [projectedRow_congr fun c inside =>
    bindPositions_named enough (bound c inside).1 (List.mem_map_of_mem inside)]

/-! ### Queries for values -/

/-- The query for some values, each with a label or without one. -/
def valuesQuery (columns : List (Value × Option String)) : Select where
  items := columns.map fun c => ⟨.value c.1, c.2⟩

/-- A name in one part that the engine reads as it is written. -/
def IsPlainName (name : String) : Prop := name ≠ "*" ∧ ∀ c ∈ name.toList, c ≠ '.' ∧ c ≠ '\x00'

instance (name : String) : Decidable (IsPlainName name) :=
  have : Decidable (∀ c ∈ name.toList, c ≠ '.' ∧ c ≠ '\x00') :=
    List.decidableBAll (fun c => c ≠ '.' ∧ c ≠ '\x00') name.toList
  inferInstanceAs (Decidable (name ≠ "*" ∧ _))

variable {columns : List (Value × Option String)}

def valueLayout (c : Value × Option String) : Layout := labelled [.placeholder c.1] c.2

theorem layout_valuesQuery (filled : columns ≠ []) :
    (Statement.select (valuesQuery columns)).layout .sqlite =
      .text "SELECT " :: Layout.separated ", " (columns.map valueLayout) ++ [.terminator] := by
  have items : ((valuesQuery columns).parts .sqlite).items = columns.map valueLayout := by
    simp [valuesQuery, Select.parts, valueLayout, SelectItem.layout, Expr.layout]
  have some : (columns.map valueLayout).isEmpty = false := by simpa using filled
  have projected : ((valuesQuery columns).parts .sqlite).projection =
      Layout.separated ", " (columns.map valueLayout) := by
    rw [QueryParts.projection, items, some]
    rfl
  have body : (valuesQuery columns).layout .sqlite =
      .text "SELECT " :: ((valuesQuery columns).parts .sqlite).projection ++ [] ++ [] ++ [] := by
    rw [Select.layout_eq_parts]
    rfl
  rw [Statement.layout, body, projected]
  simp

theorem bound_valueLayouts (columns : List (Value × Option String)) :
    Layout.bound (columns.map valueLayout).flatten = columns.map (·.1) := by
  induction columns with
  | nil => rfl
  | cons c rest ih =>
    have first : (valueLayout c).bound = [c.1] := by
      rcases c with ⟨v, _ | name⟩ <;> rfl
    rw [List.map_cons, List.flatten_cons, Layout.bound_append, first, ih]
    rfl

theorem bound_valuesQuery (filled : columns ≠ []) :
    ((Statement.select (valuesQuery columns)).layout .sqlite).bound = columns.map (·.1) := by
  rw [layout_valuesQuery filled, Layout.bound_append, Layout.bound_cons, Layout.bound_separated,
    bound_valueLayouts]
  exact List.append_nil _

theorem failure?_valuesQuery (filled : columns ≠ []) :
    ((Statement.select (valuesQuery columns)).layout .sqlite).failure? = none := by
  have each : ∀ layout ∈ columns.map valueLayout, layout.failure? = none := by
    intro layout member
    obtain ⟨⟨v, _ | name⟩, -, rfl⟩ := List.mem_map.mp member <;> rfl
  rw [layout_valuesQuery filled, Layout.failure?_append]
  have inner : Layout.failure? (.text "SELECT " :: Layout.separated ", " (columns.map valueLayout)) =
      none := Layout.failure?_separated each
  rw [inner]
  rfl

theorem toList_quote_of_plain {name : String} (plain : IsPlainName name) :
    (Dialect.sqlite.quoteIdentifier name).toList = '"' :: (doubled '"' name.toList ++ ['"']) := by
  obtain ⟨other, undotted⟩ := plain
  have alone : pieces '.' name.toList = [name.toList] := by
    rw [pieces_eq_splitOn]
    exact List.splitOn_eq_singleton fun member => (undotted '.' member).1 rfl
  have quoted : name.toList ≠ ['*'] := fun same => other (String.toList_inj.mp same)
  have names : Dialect.sqlite.quoteIdentifier name =
      String.ofList (Identifier.quoteChars ⟨'"', '"'⟩ name.toList) := rfl
  rw [names, String.toList_ofList, Identifier.quoteChars, alone, List.map_singleton,
    List.intercalate_singleton, Identifier.quotePart, if_neg quoted, List.cons_append]

theorem toList_textOn_valueLayout (roll : List Value) {c : Value × Option String}
    (plain : ∀ name ∈ c.2, IsPlainName name) :
    ((valueLayout c).textOn .sqlite roll).toList = columnText (roll.idxOf c.1 + 1) c.2 := by
  have placeholder : (Piece.textOn .sqlite roll (.placeholder c.1)).toList =
      '?' :: Nat.toDigits 10 (roll.idxOf c.1 + 1) := by
    have name : Piece.textOn .sqlite roll (.placeholder c.1) =
        "?" ++ toString (roll.idxOf c.1 + 1) := rfl
    simp [name]
  rcases c with ⟨v, _ | name⟩
  · have text : (valueLayout (v, none)).textOn .sqlite roll =
        Piece.textOn .sqlite roll (.placeholder v) := Layout.textOn_singleton _ _ _
    rw [text, placeholder, columnText, labelText, List.append_nil]
  · have text : (valueLayout (v, some name)).textOn .sqlite roll =
        Piece.textOn .sqlite roll (.placeholder v) ++
          (" AS " ++ (Dialect.sqlite.quoteIdentifier name ++ "")) := rfl
    rw [text, String.toList_append, placeholder, String.toList_append, String.append_empty,
      toList_quote_of_plain (plain name rfl), columnText, List.cons_append]
    rfl

/-- The columns of a query under the numbers of a roll. -/
def numberedColumns (roll : List Value) (columns : List (Value × Option String)) :
    List (Nat × Option String) := columns.map fun c => (roll.idxOf c.1 + 1, c.2)

theorem toList_textOn_valuesQuery (filled : columns ≠ []) (roll : List Value)
    (plain : ∀ c ∈ columns, ∀ name ∈ c.2, IsPlainName name) :
    (((Statement.select (valuesQuery columns)).layout .sqlite).textOn .sqlite roll).toList =
      projectionText (numberedColumns roll columns) ++ [';'] := by
  have texts : (columns.map valueLayout).map (String.toList ∘ Layout.textOn .sqlite roll) =
      (numberedColumns roll columns).map fun c => columnText c.1 c.2 := by
    rw [numberedColumns, List.map_map, List.map_map]
    exact List.map_congr_left fun c member => toList_textOn_valueLayout roll (plain c member)
  have between : ", ".toList = [',', ' '] := by simp
  have ends : (Layout.textOn .sqlite roll [.terminator]).toList = [';'] := by
    rw [Layout.textOn_singleton]
    simp [Piece.textOn, Dialect.sqlite]
  rw [layout_valuesQuery filled, Layout.textOn_append, Layout.textOn, Layout.textOn_separated,
    String.toList_append, String.toList_append, String.toList_intercalate, List.map_map, texts,
    between, ends]
  rfl

/-- What is bound at the number of a value is what the value holds. -/
theorem arguments_tableOn (roll : List Value) {vs : List Value} {v : Value} (member : v ∈ vs) :
    (arguments (tableOn .sqlite (enrollAll roll vs) (enrollAll [] vs)))[
      (enrollAll roll vs).idxOf v]? = some v.content := by
  let table := tableOn .sqlite (enrollAll roll vs) (enrollAll [] vs)
  have known : ∀ w ∈ enrollAll [] vs, w ∈ enrollAll roll vs := by
    intro w used
    rcases mem_enrollAll.mp used with none | used
    · cases none
    · exact values_subset_enrollAll roll vs used
  have ordinals : table.entries.map (·.ordinal) =
      (enrollAll [] vs).map fun w => (enrollAll roll vs).idxOf w + 1 := List.map_map
  have distinct : (table.entries.map (·.ordinal)).Nodup := by
    rw [ordinals]
    refine (nodup_enrollAll List.nodup_nil vs).map_on fun w used u used' same => ?_
    exact idxOf_inj (known w used) (Nat.succ.inj same)
  have positive : ∀ p ∈ table.entries, 1 ≤ p.ordinal := by
    intro p listed
    obtain ⟨w, -, rfl⟩ := List.mem_map.mp listed
    exact Nat.succ_le_succ (Nat.zero_le _)
  have used : v ∈ enrollAll [] vs := values_subset_enrollAll [] vs member
  exact (binds_arguments distinct positive).value _ (List.mem_map_of_mem used)

/-- The row holds the stored contents if each value's content stands at its number. -/
theorem contents_projectedRow {roll : List Value} {bound : List SqlValue}
    (value : ∀ c ∈ columns, bound[roll.idxOf c.1]? = some c.1.content) :
    (projectedRow (numberedColumns roll columns) bound).contents =
      [columns.map fun c => stored c.1.content] := by
  have each : ∀ c ∈ columns, stored (bound[roll.idxOf c.1]?.getD .null) = stored c.1.content := by
    intro c member
    rw [value c member, Option.getD_some]
  have cells : (projectedRow (numberedColumns roll columns) bound).contents =
      [columns.map fun c => stored (bound[roll.idxOf c.1]?.getD .null)] := by
    simp [projectedRow, numberedColumns, Function.comp_def]
  rw [cells, List.map_congr_left each]

theorem query_store {site : Option CallSite} (allowed : ∀ s ∈ site, s.canBlock = true)
    (request : Rendered) : (store site).query request = .finished (runProjections request) := by
  cases site with
  | none => rfl
  | some s => simp [store, allowed s rfl]

end SqlBatch.Sqlite
