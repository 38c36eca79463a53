import SqlBatch.Statement.Layout

/-!
# Agreement of trees

Two trees agree when they have the same shape and the same leaves. Doubles in constants are
compared as numbers, and bound values by which value they are.
-/
namespace SqlBatch

mutual

def Expr.agrees : Expr → Expr → Bool
  | .column a, .column b => a = b
  | .value a, .value b => a = b
  | .constant a, .constant b => a.agrees b
  | .wildcard a, .wildcard b => a = b
  | .operation op a, .operation op' b => op = op' && Expr.allAgree a b
  | .negate a, .negate b => Expr.agrees a b
  | .call f a distinct, .call f' b distinct' =>
    f = f' && Expr.allAgree a b && distinct = distinct'
  | .cast a target, .cast b target' => Expr.agrees a b && target = target'
  | .case a e, .case b e' => WhenBranch.allAgree a b && Expr.optionAgrees e e'
  | .subquery a, .subquery b => Select.agrees a b
  | .raw a, .raw b => a = b
  | _, _ => false

def Expr.allAgree : List Expr → List Expr → Bool
  | [], [] => true
  | a :: as, b :: bs => Expr.agrees a b && Expr.allAgree as bs
  | _, _ => false

def Expr.optionAgrees : Option Expr → Option Expr → Bool
  | none, none => true
  | some a, some b => Expr.agrees a b
  | _, _ => false

def WhenBranch.agrees : WhenBranch → WhenBranch → Bool
  | ⟨c, e⟩, ⟨c', e'⟩ => Condition.agrees c c' && Expr.agrees e e'

def WhenBranch.allAgree : List WhenBranch → List WhenBranch → Bool
  | [], [] => true
  | a :: as, b :: bs => WhenBranch.agrees a b && WhenBranch.allAgree as bs
  | _, _ => false

def Condition.agrees : Condition → Condition → Bool
  | .compare l op r, .compare l' op' r' => Expr.agrees l l' && op = op' && Expr.agrees r r'
  | .isNull e negated, .isNull e' negated' => Expr.agrees e e' && negated = negated'
  | .between e low high negated, .between e' low' high' negated' =>
    Expr.agrees e e' && Expr.agrees low low' && Expr.agrees high high' && negated = negated'
  | .inList e items negated, .inList e' items' negated' =>
    Expr.agrees e e' && Expr.allAgree items items' && negated = negated'
  | .inQuery e q negated, .inQuery e' q' negated' =>
    Expr.agrees e e' && Select.agrees q q' && negated = negated'
  | .like e pattern negated, .like e' pattern' negated' =>
    Expr.agrees e e' && Expr.agrees pattern pattern' && negated = negated'
  | .existsIn q negated, .existsIn q' negated' => Select.agrees q q' && negated = negated'
  | .not c, .not c' => Condition.agrees c c'
  | .pair l r junction nested, .pair l' r' junction' nested' =>
    Condition.agrees l l' && Condition.agrees r r' && junction = junction' && nested = nested'
  | .group members junction nested, .group members' junction' nested' =>
    Condition.allAgree members members' && junction = junction' && nested = nested'
  | .raw a, .raw b => a = b
  | _, _ => false

def Condition.allAgree : List Condition → List Condition → Bool
  | [], [] => true
  | a :: as, b :: bs => Condition.agrees a b && Condition.allAgree as bs
  | _, _ => false

def Condition.optionAgrees : Option Condition → Option Condition → Bool
  | none, none => true
  | some a, some b => Condition.agrees a b
  | _, _ => false

def SelectItem.agrees : SelectItem → SelectItem → Bool
  | ⟨e, label⟩, ⟨e', label'⟩ => Expr.agrees e e' && label = label'

def SelectItem.allAgree : List SelectItem → List SelectItem → Bool
  | [], [] => true
  | a :: as, b :: bs => SelectItem.agrees a b && SelectItem.allAgree as bs
  | _, _ => false

def SortKey.agrees : SortKey → SortKey → Bool
  | ⟨e, direction⟩, ⟨e', direction'⟩ => Expr.agrees e e' && direction = direction'

def SortKey.allAgree : List SortKey → List SortKey → Bool
  | [], [] => true
  | a :: as, b :: bs => SortKey.agrees a b && SortKey.allAgree as bs
  | _, _ => false

def TableRef.agrees : TableRef → TableRef → Bool
  | .named name label, .named name' label' => name = name' && label = label'
  | .derived q label, .derived q' label' => Select.agrees q q' && label = label'
  | _, _ => false

def TableRef.optionAgrees : Option TableRef → Option TableRef → Bool
  | none, none => true
  | some a, some b => TableRef.agrees a b
  | _, _ => false

def Join.agrees : Join → Join → Bool
  | ⟨kind, table, condition⟩, ⟨kind', table', condition'⟩ =>
    kind = kind' && TableRef.agrees table table' && Condition.optionAgrees condition condition'

def Join.allAgree : List Join → List Join → Bool
  | [], [] => true
  | a :: as, b :: bs => Join.agrees a b && Join.allAgree as bs
  | _, _ => false

def Select.agrees : Select → Select → Bool
  | ⟨distinct, items, source, joins, filter, groupBy, having, sortKeys, limit, offset⟩,
    ⟨distinct', items', source', joins', filter', groupBy', having', sortKeys', limit', offset'⟩ =>
    distinct = distinct' && SelectItem.allAgree items items' &&
      TableRef.optionAgrees source source' && Join.allAgree joins joins' &&
      Condition.optionAgrees filter filter' && Expr.allAgree groupBy groupBy' &&
      Condition.optionAgrees having having' && SortKey.allAgree sortKeys sortKeys' &&
      limit = limit' && offset = offset'

end

/-! ### Statements -/

/-- Lists of the same length whose members agree one by one. -/
def listsAgree {α : Type} (agrees : α → α → Bool) : List α → List α → Bool
  | [], [] => true
  | a :: as, b :: bs => agrees a b && listsAgree agrees as bs
  | _, _ => false

def optionsAgree {α : Type} (agrees : α → α → Bool) : Option α → Option α → Bool
  | none, none => true
  | some a, some b => agrees a b
  | _, _ => false

def InsertSource.agrees : InsertSource → InsertSource → Bool
  | .values rows, .values rows' => listsAgree Expr.allAgree rows rows'
  | .query q, .query q' => q.agrees q'
  | .defaults, .defaults => true
  | _, _ => false

def Insert.agrees (s t : Insert) : Bool :=
  s.table = t.table && s.columns = t.columns && s.source.agrees t.source &&
    s.returning = t.returning

def Assignment.agrees (a b : Assignment) : Bool := a.column = b.column && a.value.agrees b.value

def Update.agrees (s t : Update) : Bool :=
  s.table = t.table && listsAgree Assignment.agrees s.assignments t.assignments &&
    Condition.optionAgrees s.filter t.filter && s.returning = t.returning

def Delete.agrees (s t : Delete) : Bool :=
  s.table = t.table && Condition.optionAgrees s.filter t.filter && s.returning = t.returning

def ColumnDefinition.agrees (a b : ColumnDefinition) : Bool :=
  a.name = b.name && a.dataType = b.dataType && a.nullable = b.nullable &&
    optionsAgree Constant.agrees a.default b.default && a.primaryKey = b.primaryKey &&
    a.unique = b.unique

def CreateTable.agrees (s t : CreateTable) : Bool :=
  s.name = t.name && listsAgree ColumnDefinition.agrees s.columns t.columns &&
    s.ifNotExists = t.ifNotExists

def Statement.agrees : Statement → Statement → Bool
  | .select q, .select q' => q.agrees q'
  | .insert s, .insert t => s.agrees t
  | .update s, .update t => s.agrees t
  | .delete s, .delete t => s.agrees t
  | .compound s, .compound t =>
    s.operator = t.operator && listsAgree Select.agrees s.members t.members
  | .createTable s, .createTable t => s.agrees t
  | .dropTable s, .dropTable t => s = t
  | .begin a, .begin b => a = b
  | .commit, .commit => true
  | .rollback, .rollback => true
  | .raw a, .raw b => a = b
  | _, _ => false

def Element.agrees : Element → Element → Bool
  | .expr a, .expr b => a.agrees b
  | .condition a, .condition b => a.agrees b
  | .statement a, .statement b => a.agrees b
  | .item a, .item b => a.agrees b
  | .sortKey a, .sortKey b => a.agrees b
  | .table a, .table b => a.agrees b
  | .join a, .join b => a.agrees b
  | .column a, .column b => a = b
  | .columnDefinition a, .columnDefinition b => a.agrees b
  | .value a, .value b => a = b
  | .constant a, .constant b => a.agrees b
  | .statements a, .statements b => listsAgree Statement.agrees a b
  | _, _ => false

end SqlBatch
