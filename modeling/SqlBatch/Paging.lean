import SqlBatch.Dialect.Basic

/-!
# Pages of a query

The six ways to write a query of which a window of rows is wanted: by a clause behind the query, by
a word in front of it, or by a query around it that filters on row numbers.
-/
namespace SqlBatch

/-- A query whose clauses are laid out already. -/
structure QueryParts where
  distinct : Bool
  items : List Layout
  /-- Everything from the source of the rows to the filter on groups. -/
  clauses : Layout
  sortKeys : List Layout
  limit : Option UInt64
  offset : Option UInt64

/-- The sum of two row counts, at most the largest one there is. -/
def rowCountSum (a b : UInt64) : UInt64 :=
  if a.toNat + b.toNat < UInt64.size then a + b else 18446744073709551615

namespace QueryParts

def hasWindow (q : QueryParts) : Bool := q.limit.isSome || q.offset.isSome

def projection (q : QueryParts) : Layout :=
  if q.items.isEmpty then [.text "*"] else Layout.separated ", " q.items

def selectWords (q : QueryParts) (top : Option UInt64) : Layout :=
  .text "SELECT " :: (if q.distinct then [.text "DISTINCT "] else []) ++
    (top.toList.map fun count => .text ("TOP " ++ toString count ++ " "))

def sorting (q : QueryParts) : Layout :=
  if q.sortKeys.isEmpty then [] else .text "\nORDER BY " :: Layout.separated ", " q.sortKeys

/-- The query up to its sort keys. -/
def body (q : QueryParts) (top : Option UInt64) : Layout :=
  q.selectWords top ++ q.projection ++ q.clauses ++ q.sorting

/-- The query with its sort keys moved into a column that numbers the rows. -/
def numberedBody (q : QueryParts) : Layout :=
  q.selectWords none ++ q.projection ++
    .text ", ROW_NUMBER() OVER (ORDER BY " ::
      (if q.sortKeys.isEmpty then [.text "(SELECT NULL)"]
        else Layout.separated ", " q.sortKeys) ++
    .text ") AS RowNumber" :: q.clauses

/-! ### Clauses behind the query -/

def fetchClause (q : QueryParts) : Layout :=
  (q.offset.toList.map fun offset => .text ("\nOFFSET " ++ toString offset ++ " ROWS")) ++
    (q.limit.toList.map fun limit =>
      let word := if q.offset.isSome then "NEXT" else "FIRST"
      .text ("\nFETCH " ++ word ++ " " ++ toString limit ++ " ROWS ONLY"))

def limitClause (unbounded : Option String) (q : QueryParts) : Layout :=
  match q.limit, q.offset with
  | some limit, some offset =>
    [.text ("\nLIMIT " ++ toString limit ++ " OFFSET " ++ toString offset)]
  | some limit, none => [.text ("\nLIMIT " ++ toString limit)]
  | none, some offset =>
    match unbounded with
    | some rows => [.text ("\nLIMIT " ++ rows ++ " OFFSET " ++ toString offset)]
    | none => [.text ("\nOFFSET " ++ toString offset)]
  | none, none => []

/-- Without a limit, the largest row count stands for all rows. -/
def limitPairClause (q : QueryParts) : Layout :=
  match q.limit, q.offset with
  | some limit, some offset => [.text ("\nLIMIT " ++ toString offset ++ ", " ++ toString limit)]
  | some limit, none => [.text ("\nLIMIT " ++ toString limit)]
  | none, some offset => [.text ("\nLIMIT " ++ toString offset ++ ", 18446744073709551615")]
  | none, none => []

/-- The word `TOP` cannot skip rows; an offset takes the fetch clause, which needs an order. -/
def topLayout (q : QueryParts) : Layout :=
  if q.offset.isNone then q.body q.limit
  else
    q.body none ++
      if q.sortKeys.isEmpty then
        Layout.failure (.missingElement "SELECT" "ORDER BY for OFFSET paging")
      else q.fetchClause

/-! ### Queries around the query -/

def rowNumberBounds (q : QueryParts) : Layout :=
  match q.limit, q.offset with
  | some limit, some offset =>
    [.text ("RowNumber BETWEEN " ++ toString (rowCountSum offset 1) ++ " AND " ++
      toString (rowCountSum offset limit))]
  | some limit, none => [.text ("RowNumber <= " ++ toString limit)]
  | none, some offset => [.text ("RowNumber > " ++ toString offset)]
  | none, none => []

def rowNumberLayout (q : QueryParts) : Layout :=
  .text "SELECT * FROM (\n" :: q.numberedBody ++
    .text "\n) AS PagedQuery\nWHERE " :: q.rowNumberBounds ++ [.text "\nORDER BY RowNumber"]

/-- Rows are numbered as they are handed on, so skipping some takes a second query around. -/
def rownumLayout (q : QueryParts) : Layout :=
  match q.limit, q.offset with
  | some limit, none =>
    .text "SELECT * FROM (\n" :: q.body none ++
      [.text ("\n) PagedQuery\nWHERE ROWNUM <= " ++ toString limit)]
  | limit, offset =>
    let skipped := offset.getD 0
    .text "SELECT * FROM (\nSELECT PagedQuery.*, ROWNUM AS RowNumber FROM (\n" :: q.body none ++
      .text "\n) PagedQuery" ::
        (limit.toList.map fun limit =>
          .text ("\nWHERE ROWNUM <= " ++ toString (rowCountSum skipped limit))) ++
      [.text ("\n)\nWHERE RowNumber > " ++ toString skipped)]

/-- The whole query without the end of a statement. -/
def layout (d : Dialect) (q : QueryParts) : Layout :=
  if q.offset.isSome && !d.supportsOffset then Layout.failure (d.unsupported "OFFSET")
  else match d.paging with
    | .fetchFirst => q.body none ++ q.fetchClause
    | .top => q.topLayout
    | .limit => q.body none ++ q.limitClause d.unboundedLimit
    | .limitWithOffset => q.body none ++ q.limitPairClause
    | .rowNumber => if q.hasWindow then q.rowNumberLayout else q.body none
    | .rowNumberAutomatic => if q.hasWindow then q.rownumLayout else q.body none

end QueryParts
end SqlBatch
