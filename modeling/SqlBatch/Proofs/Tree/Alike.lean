import Mathlib.Data.List.Forall2
import SqlBatch.Statement.Layout
import SqlBatch.Proofs.Render.Pass

/-!
# Alike trees

Trees that differ only in the values that they bind, by a relation that pairs the values of the one
with those of the other. A cast without a target shows the kind of the value in it, which must be
the same then.
-/
namespace SqlBatch

/-- The kind of the value that an expression is. -/
def Expr.boundKind? : Expr → Option String
  | .value v => some v.content.kind
  | _ => none

/-! ### Expressions, conditions and queries -/

mutual

inductive Expr.Alike (R : Value → Value → Prop) : Expr → Expr → Prop
  | column (c : ColumnRef) : Expr.Alike R (.column c) (.column c)
  | value {v w : Value} (related : R v w) : Expr.Alike R (.value v) (.value w)
  | constant (c : Constant) : Expr.Alike R (.constant c) (.constant c)
  | wildcard (table : Option String) : Expr.Alike R (.wildcard table) (.wildcard table)
  | operation (op : Operator) {a b : List Expr} (operands : Expr.AllAlike R a b) :
      Expr.Alike R (.operation op a) (.operation op b)
  | negate {a b : Expr} (inner : Expr.Alike R a b) : Expr.Alike R (.negate a) (.negate b)
  | call (function : String) {a b : List Expr} (distinct : Bool) (arguments : Expr.AllAlike R a b) :
      Expr.Alike R (.call function a distinct) (.call function b distinct)
  | cast {a b : Expr} (target : Option DataType) (inner : Expr.Alike R a b)
      (kind : target = none → a.boundKind? = b.boundKind?) :
      Expr.Alike R (.cast a target) (.cast b target)
  | case {a b : List WhenBranch} {e f : Option Expr} (branches : WhenBranch.AllAlike R a b)
      (otherwise : Expr.OptionAlike R e f) : Expr.Alike R (.case a e) (.case b f)
  | subquery {p q : Select} (query : Select.Alike R p q) :
      Expr.Alike R (.subquery p) (.subquery q)
  | raw (sql : String) : Expr.Alike R (.raw sql) (.raw sql)

inductive Expr.AllAlike (R : Value → Value → Prop) : List Expr → List Expr → Prop
  | nil : Expr.AllAlike R [] []
  | cons {a b : Expr} {as bs : List Expr} (first : Expr.Alike R a b)
      (rest : Expr.AllAlike R as bs) : Expr.AllAlike R (a :: as) (b :: bs)

inductive Expr.OptionAlike (R : Value → Value → Prop) : Option Expr → Option Expr → Prop
  | none : Expr.OptionAlike R none none
  | some {a b : Expr} (inner : Expr.Alike R a b) : Expr.OptionAlike R (some a) (some b)

inductive WhenBranch.AllAlike (R : Value → Value → Prop) :
    List WhenBranch → List WhenBranch → Prop
  | nil : WhenBranch.AllAlike R [] []
  | cons {c c' : Condition} {e e' : Expr} {as bs : List WhenBranch}
      (condition : Condition.Alike R c c') (result : Expr.Alike R e e')
      (rest : WhenBranch.AllAlike R as bs) :
      WhenBranch.AllAlike R (⟨c, e⟩ :: as) (⟨c', e'⟩ :: bs)

inductive Condition.Alike (R : Value → Value → Prop) : Condition → Condition → Prop
  | compare {a a' b b' : Expr} (left : Expr.Alike R a a') (op : Comparison)
      (right : Expr.Alike R b b') : Condition.Alike R (.compare a op b) (.compare a' op b')
  | isNull {a b : Expr} (inner : Expr.Alike R a b) (negated : Bool) :
      Condition.Alike R (.isNull a negated) (.isNull b negated)
  | between {e e' l l' h h' : Expr} (inner : Expr.Alike R e e') (low : Expr.Alike R l l')
      (high : Expr.Alike R h h') (negated : Bool) :
      Condition.Alike R (.between e l h negated) (.between e' l' h' negated)
  | inList {e e' : Expr} {a b : List Expr} (inner : Expr.Alike R e e')
      (items : Expr.AllAlike R a b) (negated : Bool) :
      Condition.Alike R (.inList e a negated) (.inList e' b negated)
  | inQuery {e e' : Expr} {p q : Select} (inner : Expr.Alike R e e') (query : Select.Alike R p q)
      (negated : Bool) : Condition.Alike R (.inQuery e p negated) (.inQuery e' q negated)
  | like {e e' a b : Expr} (inner : Expr.Alike R e e') (pattern : Expr.Alike R a b)
      (negated : Bool) : Condition.Alike R (.like e a negated) (.like e' b negated)
  | existsIn {p q : Select} (query : Select.Alike R p q) (negated : Bool) :
      Condition.Alike R (.existsIn p negated) (.existsIn q negated)
  | not {a b : Condition} (inner : Condition.Alike R a b) : Condition.Alike R (.not a) (.not b)
  | pair {a a' b b' : Condition} (left : Condition.Alike R a a') (right : Condition.Alike R b b')
      (junction : Junction) (nested : Bool) :
      Condition.Alike R (.pair a b junction nested) (.pair a' b' junction nested)
  | group {a b : List Condition} (members : Condition.AllAlike R a b) (junction : Junction)
      (nested : Bool) : Condition.Alike R (.group a junction nested) (.group b junction nested)
  | raw (sql : String) : Condition.Alike R (.raw sql) (.raw sql)

inductive Condition.AllAlike (R : Value → Value → Prop) : List Condition → List Condition → Prop
  | nil : Condition.AllAlike R [] []
  | cons {a b : Condition} {as bs : List Condition} (first : Condition.Alike R a b)
      (rest : Condition.AllAlike R as bs) : Condition.AllAlike R (a :: as) (b :: bs)

inductive Condition.OptionAlike (R : Value → Value → Prop) :
    Option Condition → Option Condition → Prop
  | none : Condition.OptionAlike R none none
  | some {a b : Condition} (inner : Condition.Alike R a b) :
      Condition.OptionAlike R (some a) (some b)

inductive SelectItem.Alike (R : Value → Value → Prop) : SelectItem → SelectItem → Prop
  | mk {a b : Expr} (inner : Expr.Alike R a b) (label : Option String) :
      SelectItem.Alike R ⟨a, label⟩ ⟨b, label⟩

inductive SelectItem.AllAlike (R : Value → Value → Prop) :
    List SelectItem → List SelectItem → Prop
  | nil : SelectItem.AllAlike R [] []
  | cons {a b : SelectItem} {as bs : List SelectItem} (first : SelectItem.Alike R a b)
      (rest : SelectItem.AllAlike R as bs) : SelectItem.AllAlike R (a :: as) (b :: bs)

inductive SortKey.Alike (R : Value → Value → Prop) : SortKey → SortKey → Prop
  | mk {a b : Expr} (inner : Expr.Alike R a b) (direction : Option SortDirection) :
      SortKey.Alike R ⟨a, direction⟩ ⟨b, direction⟩

inductive SortKey.AllAlike (R : Value → Value → Prop) : List SortKey → List SortKey → Prop
  | nil : SortKey.AllAlike R [] []
  | cons {a b : SortKey} {as bs : List SortKey} (first : SortKey.Alike R a b)
      (rest : SortKey.AllAlike R as bs) : SortKey.AllAlike R (a :: as) (b :: bs)

inductive TableRef.Alike (R : Value → Value → Prop) : TableRef → TableRef → Prop
  | named (name : String) (label : Option String) :
      TableRef.Alike R (.named name label) (.named name label)
  | derived {p q : Select} (query : Select.Alike R p q) (label : String) :
      TableRef.Alike R (.derived p label) (.derived q label)

inductive TableRef.OptionAlike (R : Value → Value → Prop) :
    Option TableRef → Option TableRef → Prop
  | none : TableRef.OptionAlike R none none
  | some {a b : TableRef} (inner : TableRef.Alike R a b) : TableRef.OptionAlike R (some a) (some b)

inductive Join.AllAlike (R : Value → Value → Prop) : List Join → List Join → Prop
  | nil : Join.AllAlike R [] []
  | cons (kind : JoinKind) {a b : TableRef} {c c' : Option Condition} {as bs : List Join}
      (table : TableRef.Alike R a b) (condition : Condition.OptionAlike R c c')
      (rest : Join.AllAlike R as bs) : Join.AllAlike R (⟨kind, a, c⟩ :: as) (⟨kind, b, c'⟩ :: bs)

inductive Select.Alike (R : Value → Value → Prop) : Select → Select → Prop
  | mk (distinct : Bool) {items items' : List SelectItem} {source source' : Option TableRef}
      {joins joins' : List Join} {filter filter' : Option Condition} {groupBy groupBy' : List Expr}
      {having having' : Option Condition} {sortKeys sortKeys' : List SortKey}
      (limit offset : Option UInt64) (items_alike : SelectItem.AllAlike R items items')
      (source_alike : TableRef.OptionAlike R source source')
      (joins_alike : Join.AllAlike R joins joins')
      (filter_alike : Condition.OptionAlike R filter filter')
      (groupBy_alike : Expr.AllAlike R groupBy groupBy')
      (having_alike : Condition.OptionAlike R having having')
      (sortKeys_alike : SortKey.AllAlike R sortKeys sortKeys') :
      Select.Alike R
        ⟨distinct, items, source, joins, filter, groupBy, having, sortKeys, limit, offset⟩
        ⟨distinct, items', source', joins', filter', groupBy', having', sortKeys', limit, offset⟩

end

/-! ### Statements -/

inductive InsertSource.Alike (R : Value → Value → Prop) : InsertSource → InsertSource → Prop
  | values {rows rows' : List (List Expr)} (alike : List.Forall₂ (Expr.AllAlike R) rows rows') :
      InsertSource.Alike R (.values rows) (.values rows')
  | query {p q : Select} (query : Select.Alike R p q) : InsertSource.Alike R (.query p) (.query q)
  | defaults : InsertSource.Alike R .defaults .defaults

structure Insert.Alike (R : Value → Value → Prop) (s t : Insert) : Prop where
  table : s.table = t.table
  columns : s.columns = t.columns
  source : s.source.Alike R t.source
  returning : s.returning = t.returning

structure Assignment.Alike (R : Value → Value → Prop) (a b : Assignment) : Prop where
  column : a.column = b.column
  value : a.value.Alike R b.value

structure Update.Alike (R : Value → Value → Prop) (s t : Update) : Prop where
  table : s.table = t.table
  assignments : List.Forall₂ (Assignment.Alike R) s.assignments t.assignments
  filter : Condition.OptionAlike R s.filter t.filter
  returning : s.returning = t.returning

structure Delete.Alike (R : Value → Value → Prop) (s t : Delete) : Prop where
  table : s.table = t.table
  filter : Condition.OptionAlike R s.filter t.filter
  returning : s.returning = t.returning

/-- The words of a transaction are the dialect's, and so are the values that they may bind. -/
inductive Statement.Alike (d : Dialect) (R : Value → Value → Prop) : Statement → Statement → Prop
  | select {p q : Select} (query : p.Alike R q) : Alike d R (.select p) (.select q)
  | insert {s t : Insert} (alike : s.Alike R t) : Alike d R (.insert s) (.insert t)
  | update {s t : Update} (alike : s.Alike R t) : Alike d R (.update s) (.update t)
  | delete {s t : Delete} (alike : s.Alike R t) : Alike d R (.delete s) (.delete t)
  | compound (operator : SetOperator) {members members' : List Select}
      (alike : List.Forall₂ (Select.Alike R) members members') :
      Alike d R (.compound ⟨operator, members⟩) (.compound ⟨operator, members'⟩)
  | createTable (s : CreateTable) : Alike d R (.createTable s) (.createTable s)
  | dropTable (s : DropTable) : Alike d R (.dropTable s) (.dropTable s)
  | begin (options : TransactionOptions) (own : ∀ v ∈ (d.beginTransaction options).bound, R v v) :
      Alike d R (.begin options) (.begin options)
  | commit (own : ∀ v ∈ d.commit.bound, R v v) : Alike d R .commit .commit
  | rollback (own : ∀ v ∈ d.rollback.bound, R v v) : Alike d R .rollback .rollback
  | raw (sql : String) : Alike d R (.raw sql) (.raw sql)

inductive Element.Alike (d : Dialect) (R : Value → Value → Prop) : Element → Element → Prop
  | expr {a b : Expr} (alike : a.Alike R b) : Alike d R (.expr a) (.expr b)
  | condition {a b : Condition} (alike : a.Alike R b) : Alike d R (.condition a) (.condition b)
  | statement {a b : Statement} (alike : a.Alike d R b) : Alike d R (.statement a) (.statement b)
  | item {a b : SelectItem} (alike : a.Alike R b) : Alike d R (.item a) (.item b)
  | sortKey {a b : SortKey} (alike : a.Alike R b) : Alike d R (.sortKey a) (.sortKey b)
  | table {a b : TableRef} (alike : a.Alike R b) : Alike d R (.table a) (.table b)
  | join (kind : JoinKind) {a b : TableRef} {c c' : Option Condition} (table : a.Alike R b)
      (condition : Condition.OptionAlike R c c') :
      Alike d R (.join ⟨kind, a, c⟩) (.join ⟨kind, b, c'⟩)
  | column (c : ColumnRef) : Alike d R (.column c) (.column c)
  | columnDefinition (c : ColumnDefinition) : Alike d R (.columnDefinition c) (.columnDefinition c)
  | value {v w : Value} (related : R v w) : Alike d R (.value v) (.value w)
  | constant (c : Constant) : Alike d R (.constant c) (.constant c)
  | statements {as bs : List Statement} (alike : List.Forall₂ (Statement.Alike d R) as bs) :
      Alike d R (.statements as) (.statements bs)

end SqlBatch
