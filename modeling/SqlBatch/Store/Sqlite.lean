import SqlBatch.Dialect.Sqlite
import SqlBatch.Statement.Layout
import SqlBatch.Store.Basic

/-!
# Bound values in SQLite

Parameters are bound by ordinal, and every placeholder stands for the value bound at its number.
Queries that only project bound values are run here: they show what a value comes back as. Several
statements of one request share its arguments, and the gaps between their numbers use them up.
-/
namespace SqlBatch.Sqlite

/-! ### Binding -/

def span (ordinals : List Nat) : Nat := ordinals.foldl max 0

/-- The arguments of a request: the values for the positions that its parameters span. A position
that no parameter has is null, and of several parameters the last one counts. -/
def arguments (table : Parameters) : List SqlValue :=
  (List.range (span (table.entries.map (·.ordinal)))).map fun position =>
    match table.entries.reverse.find? (·.ordinal = position + 1) with
    | some p => p.value
    | none => .null

/-- Binds the positions of a statement that names some of them. The others take arguments too, one
each, going on through the request after the `taken` ones; a position whose argument is missing ends
the binding, and what is not bound is null. -/
def bindPositions (arguments : List SqlValue) (named : List Nat) :
    (taken : Nat) → (positions : List Nat) → List SqlValue × Nat
  | taken, [] => ([], taken)
  | taken, position :: rest =>
    let isNamed := named.contains position
    let taken := if isNamed then taken else taken + 1
    match arguments[(if isNamed then position else taken) - 1]? with
    | none => ([], taken)
    | some value =>
      let (bound, taken) := bindPositions arguments named taken rest
      (value :: bound, taken)

def stored : SqlValue → SqlValue
  | .bool b => .int (if b then 1 else 0)
  | .float x => if x.isNaN then .null else .float x
  | .date d => .text d.text
  | .timestamp t => .text t.text
  | other => other

/-! ### Projections -/

/-- The query for some values, each under the name `c` and its place. An empty projection asks for
none of its rows. -/
def projection (values : List Value) (empty : Bool) : Select where
  items := values.zipIdx.map fun (v, place) => ⟨.value v, some ("c" ++ toString place)⟩
  filter := if empty then some (.raw "0") else none

structure ProjectedColumn where
  ordinal : Nat
  name : String
  deriving DecidableEq

def outerPieces (separator : Char) : (quoted : Bool) → List Char → List (List Char)
  | _, [] => [[]]
  | quoted, c :: rest =>
    if c = separator ∧ quoted = false then [] :: outerPieces separator false rest
    else match outerPieces separator (if c = '"' then !quoted else quoted) rest with
      | [] => [[c]]
      | piece :: others => (c :: piece) :: others

/-- Reads a column such as `?3` or `?3 AS "c0"`. One without a name goes by its text. -/
def readColumn (text : List Char) : Option ProjectedColumn :=
  match text.dropWhile (· = ' ') with
  | '?' :: rest =>
    let digits := rest.takeWhile Char.isDigit
    let ordinal := Nat.ofDigitChars 10 digits 0
    match rest.dropWhile Char.isDigit with
    | [] => some ⟨ordinal, String.ofList ('?' :: digits)⟩
    | ' ' :: 'A' :: 'S' :: ' ' :: '"' :: quoted =>
      match readQuoted '"' quoted with
      | some (name, []) => some ⟨ordinal, String.ofList name⟩
      | _ => none
    | _ => none
  | _ => none

def readProjection (text : List Char) : Option (List ProjectedColumn × Bool) :=
  match outerPieces '\n' false (text.dropWhile (· = '\n')) with
  | [] => none
  | line :: clauses => do
    let columns ← (outerPieces ',' false (line.drop "SELECT ".length)).mapM readColumn
    some (columns, clauses = ["WHERE 0".toList])

/-- The statements of a text: the pieces between semicolons, without an empty last one. -/
def statements (sql : String) : List (List Char) :=
  let all := outerPieces ';' false sql.toList
  if all.getLast? = some [] then all.dropLast else all

def rowsOf (bound : List SqlValue) (columns : List ProjectedColumn) (empty : Bool) : RowSet :=
  if empty then {}
  else
    { columns := columns.map (·.name)
      contents := [columns.map fun c => stored (bound[c.ordinal - 1]?.getD .null)] }

def noTables : Error :=
  .executor "Database error: error returned from database: (code: 1) no tables specified"

def runFrom (arguments : List SqlValue) :
    (taken : Nat) → (statements : List (List Char)) → Except Error (List RowSet)
  | _, [] => .ok []
  | taken, text :: rest =>
    match readProjection text with
    | none => .error noTables
    | some (columns, empty) => do
      let named := columns.map (·.ordinal)
      let positions := (List.range (span named)).map (· + 1)
      let (bound, taken) := bindPositions arguments named taken positions
      let sets ← runFrom arguments taken rest
      .ok (rowsOf bound columns empty :: sets)

def runProjections (request : Rendered) : Except Error (List RowSet) :=
  runFrom (arguments request.parameters) 0 (statements request.sql)

/-! ### Blocking calls -/

inductive RuntimeFlavor
  | currentThread
  | multiThread
  deriving DecidableEq

structure CallSite where
  /-- The runtime around the call. -/
  around : Option RuntimeFlavor := none
  /-- Whether the store has a runtime of its own to turn to. -/
  attached : Bool := false

/-- A runtime with one thread cannot wait for itself, and outside of any the store needs one. -/
def CallSite.canBlock (site : CallSite) : Bool :=
  match site.around with
  | some .multiThread => true
  | some .currentThread => false
  | none => site.attached

def runtimeRequired : Error :=
  .executor "blocking execution needs a multi-threaded tokio runtime or an attached runtime handle"

/-- The store for projections, called without a site from within a runtime and else by blocking.
Projections change no rows. -/
def store (site : Option CallSite) : Store :=
  let allowed := match site with
    | some site => site.canBlock
    | none => true
  { query := fun request =>
      .finished (if allowed then runProjections request else .error runtimeRequired)
    execute := fun request =>
      .finished (if allowed then (runProjections request).map fun _ => 0
        else .error runtimeRequired) }

end SqlBatch.Sqlite
