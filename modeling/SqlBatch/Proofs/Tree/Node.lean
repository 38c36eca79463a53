import SqlBatch.Statement.Layout

/-!
# Nodes of a tree

Whatever can be rendered is a node, at the top of a tree or anywhere inside it. The children of a
node are the nodes directly inside it, in the order in which they are written; `Node.fromChildren`
proves a property of all nodes from the children upwards.
-/
namespace SqlBatch

/-- An element, or a query inside another text. -/
inductive Node
  | element (e : Element)
  | query (q : Select)

namespace Node

@[match_pattern] abbrev expr (e : Expr) : Node := .element (.expr e)

@[match_pattern] abbrev condition (c : Condition) : Node := .element (.condition c)

@[match_pattern] abbrev statement (s : Statement) : Node := .element (.statement s)

@[match_pattern] abbrev join (j : Join) : Node := .element (.join j)

@[match_pattern] abbrev value (v : Value) : Node := .element (.value v)

def layout (d : Dialect) : Node → Layout
  | .element e => e.layout d
  | .query q => q.layout d

end Node

/-! ### Children -/

def Expr.children : Expr → List Node
  | .column c => [.element (.column c)]
  | .value v => [.value v]
  | .constant c => [.element (.constant c)]
  | .wildcard _ | .raw _ => []
  | .operation _ operands => operands.map .expr
  | .negate e | .cast e _ => [.expr e]
  | .call _ arguments _ => arguments.map .expr
  | .case branches otherwise =>
    branches.flatMap (fun branch => [.condition branch.condition, .expr branch.result]) ++
      otherwise.toList.map .expr
  | .subquery q => [.query q]

def Condition.children : Condition → List Node
  | .compare left _ right => [.expr left, .expr right]
  | .isNull e _ => [.expr e]
  | .between e low high _ => [.expr e, .expr low, .expr high]
  | .inList e items _ => .expr e :: items.map .expr
  | .inQuery e q _ => [.expr e, .query q]
  | .like e pattern _ => [.expr e, .expr pattern]
  | .existsIn q _ => [.query q]
  | .not c => [.condition c]
  | .pair left right _ _ => [.condition left, .condition right]
  | .group members _ _ => members.map .condition
  | .raw _ => []

def TableRef.children : TableRef → List Node
  | .named .. => []
  | .derived q _ => [.query q]

def Join.children (j : Join) : List Node :=
  .element (.table j.table) :: j.condition.toList.map .condition

namespace Select

/-- The paging that computes row numbers writes the sort keys in front of the source of the rows. -/
def sortsFirst (d : Dialect) (q : Select) : Bool :=
  d.paging = .rowNumber && (q.limit.isSome || q.offset.isSome)

def clauseNodes (q : Select) : List Node :=
  q.source.toList.map (.element ∘ .table) ++ q.joins.map .join ++
    q.filter.toList.map .condition ++ q.groupBy.map .expr ++ q.having.toList.map .condition

def keyNodes (q : Select) : List Node := q.sortKeys.map (.element ∘ .sortKey)

def children (d : Dialect) (q : Select) : List Node :=
  q.items.map (.element ∘ .item) ++
    if q.sortsFirst d then q.keyNodes ++ q.clauseNodes else q.clauseNodes ++ q.keyNodes

end Select

def InsertSource.children : InsertSource → List Node
  | .values rows => rows.flatten.map .expr
  | .query q => [.query q]
  | .defaults => []

def Statement.children : Statement → List Node
  | .select q => [.query q]
  | .insert s => s.source.children
  | .update s =>
    s.assignments.map (fun a => .expr a.value) ++ s.filter.toList.map .condition
  | .delete s => s.filter.toList.map .condition
  | .compound s => s.members.map .query
  | .createTable s => s.columns.map (.element ∘ .columnDefinition)
  | .dropTable _ | .begin _ | .commit | .rollback | .raw _ => []

def Element.children : Element → List Node
  | .expr e => e.children
  | .condition c => c.children
  | .statement s => s.children
  | .item i => [.expr i.expr]
  | .sortKey k => [.expr k.expr]
  | .table t => t.children
  | .join j => j.children
  | .column _ | .columnDefinition _ | .value _ | .constant _ => []
  | .statements ss => ss.map .statement

namespace Node

def children (d : Dialect) : Node → List Node
  | .element e => e.children
  | .query q => q.children d

/-- A node is part of a tree when it is the tree or lies inside it at any depth. -/
inductive PartOf (d : Dialect) (p : Node) : Node → Prop
  | self : PartOf d p p
  | child {c n : Node} (inside : c ∈ n.children d) (part : PartOf d p c) : PartOf d p n

theorem forall_partOf {d : Dialect} {P : Node → Prop} {n : Node} :
    (∀ p, PartOf d p n → P p) ↔ P n ∧ ∀ c ∈ n.children d, ∀ p, PartOf d p c → P p := by
  constructor
  · exact fun all => ⟨all n .self, fun c inside p part => all p (.child inside part)⟩
  · rintro ⟨here, below⟩ p part
    cases part with
    | self => exact here
    | child inside part => exact below _ inside p part

end Node

/-! ### Layouts of lists -/

section

variable (d : Dialect)

theorem Expr.layouts_eq_map (es : List Expr) : Expr.layouts d es = es.map (Expr.layout d) := by
  induction es with
  | nil => rfl
  | cons e rest ih => rw [Expr.layouts, ih, List.map_cons]

theorem Expr.operandLayouts_eq_map (es : List Expr) :
    Expr.operandLayouts d es =
      es.map fun e => Layout.parenthesizedIf e.isOperation (e.layout d) := by
  induction es with
  | nil => rfl
  | cons e rest ih => rw [Expr.operandLayouts, ih, List.map_cons]

theorem Expr.layout?_eq_map (e : Option Expr) : Expr.layout? d e = e.map (Expr.layout d) := by
  cases e <;> rfl

theorem WhenBranch.layouts_eq_map (branches : List WhenBranch) :
    WhenBranch.layouts d branches = branches.map (WhenBranch.layout d) := by
  induction branches with
  | nil => rfl
  | cons branch rest ih => rw [WhenBranch.layouts, ih, List.map_cons]

theorem Condition.memberLayouts_eq_map (parent : Junction) (members : List Condition) :
    Condition.memberLayouts d parent members =
      members.map fun c => Layout.parenthesizedIf (c.needsParentheses parent) (c.layout d) := by
  induction members with
  | nil => rfl
  | cons c rest ih => rw [Condition.memberLayouts, ih, List.map_cons]

theorem Condition.layout?_eq_map (c : Option Condition) :
    Condition.layout? d c = c.map (Condition.layout d) := by
  cases c <;> rfl

theorem SelectItem.layouts_eq_map (items : List SelectItem) :
    SelectItem.layouts d items = items.map (SelectItem.layout d) := by
  induction items with
  | nil => rfl
  | cons item rest ih => rw [SelectItem.layouts, ih, List.map_cons]

theorem SortKey.layouts_eq_map (keys : List SortKey) :
    SortKey.layouts d keys = keys.map (SortKey.layout d) := by
  induction keys with
  | nil => rfl
  | cons key rest ih => rw [SortKey.layouts, ih, List.map_cons]

theorem TableRef.layout?_eq_map (table : Option TableRef) :
    TableRef.layout? d table = table.map (TableRef.layout d) := by
  cases table <;> rfl

theorem Join.layouts_eq_map (joins : List Join) :
    Join.layouts d joins = joins.map fun join => .text "\n" :: join.layout d := by
  induction joins with
  | nil => rfl
  | cons join rest ih => rw [Join.layouts, ih, List.map_cons]

/-- The clauses of a query between its items and its sort keys. -/
def Select.clauses (q : Select) : Layout :=
  Layout.clause "\nFROM " (q.source.map (TableRef.layout d)) ++
    (q.joins.map fun join => .text "\n" :: join.layout d).flatten ++
    Layout.clause "\nWHERE " (q.filter.map (Condition.layout d)) ++
    (if q.groupBy.isEmpty then []
      else .text "\nGROUP BY " :: Layout.separated ", " (q.groupBy.map (Expr.layout d))) ++
    Layout.clause "\nHAVING " (q.having.map (Condition.layout d))

def Select.parts (q : Select) : QueryParts where
  distinct := q.distinct
  items := q.items.map (SelectItem.layout d)
  clauses := q.clauses d
  sortKeys := q.sortKeys.map (SortKey.layout d)
  limit := q.limit
  offset := q.offset

theorem Select.layout_eq_parts (q : Select) : q.layout d = (q.parts d).layout d := by
  rcases q with ⟨distinct, items, source, joins, filter, groupBy, having, sortKeys, limit, offset⟩
  rw [Select.layout, SelectItem.layouts_eq_map, TableRef.layout?_eq_map, Join.layouts_eq_map,
    Condition.layout?_eq_map, Expr.layouts_eq_map, Condition.layout?_eq_map,
    SortKey.layouts_eq_map]
  rfl

end

/-! ### From the children upwards

A child is smaller than its node, type by type. The two constructors around a part of a tree make a
node of it, so its size is at most two more than that of the part.
-/

section

variable {d : Dialect} {c : Node}

theorem sizeOf_lt_of_mem_map {α : Type} [SizeOf α] {f : α → Node} {parts : List α}
    (wraps : ∀ a, sizeOf (f a) ≤ 2 + sizeOf a) (h : c ∈ parts.map f) :
    sizeOf c < 2 + sizeOf parts := by
  obtain ⟨a, member, rfl⟩ := List.mem_map.mp h
  have smaller := List.sizeOf_lt_of_mem member
  have wrapped := wraps a
  omega

theorem sizeOf_lt_of_mem_map_toList {α : Type} [SizeOf α] {f : α → Node} {part : Option α}
    (wraps : ∀ a, sizeOf (f a) ≤ 2 + sizeOf a) (h : c ∈ part.toList.map f) :
    sizeOf c < 2 + sizeOf part := by
  obtain ⟨a, member, rfl⟩ := List.mem_map.mp h
  obtain rfl := Option.mem_toList.mp member
  have wrapped := wraps a
  simp only [Option.some.sizeOf_spec]
  omega

theorem sizeOf_option_pos {α : Type} [SizeOf α] (part : Option α) : 0 < sizeOf part := by
  cases part with
  | none => exact Nat.one_pos
  | some a => exact Nat.add_pos_left Nat.one_pos _

theorem sizeOf_expr (e : Expr) : sizeOf (Node.expr e) ≤ 2 + sizeOf e := by simp; omega

theorem sizeOf_condition (c : Condition) : sizeOf (Node.condition c) ≤ 2 + sizeOf c := by
  simp; omega

theorem sizeOf_query (q : Select) : sizeOf (Node.query q) ≤ 2 + sizeOf q := by simp

theorem Expr.sizeOf_children {e : Expr} (h : c ∈ e.children) : sizeOf c < 2 + sizeOf e := by
  cases e with
  | wildcard | raw => cases h
  | operation op operands =>
    have smaller := sizeOf_lt_of_mem_map sizeOf_expr h
    simp only [operation.sizeOf_spec]
    omega
  | call function arguments distinct =>
    have smaller := sizeOf_lt_of_mem_map sizeOf_expr h
    simp only [call.sizeOf_spec]
    omega
  | case branches otherwise =>
    simp only [case.sizeOf_spec]
    rcases List.mem_append.mp h with inside | last
    · obtain ⟨⟨condition, result⟩, member, part⟩ := List.mem_flatMap.mp inside
      have smaller := List.sizeOf_lt_of_mem member
      simp only [WhenBranch.mk.sizeOf_spec] at smaller
      change c ∈ [Node.condition condition, Node.expr result] at part
      rcases List.mem_cons.mp part with rfl | part
      · have wrapped := sizeOf_condition condition
        omega
      · obtain rfl := List.mem_singleton.mp part
        have wrapped := sizeOf_expr result
        omega
    · have smaller := sizeOf_lt_of_mem_map_toList sizeOf_expr last
      omega
  | _ =>
    obtain rfl := List.mem_singleton.mp h
    simp <;> omega

theorem Condition.sizeOf_children {p : Condition} (h : c ∈ p.children) :
    sizeOf c < 2 + sizeOf p := by
  cases p with
  | raw => cases h
  | inList e items negated =>
    simp only [inList.sizeOf_spec]
    rcases List.mem_cons.mp h with rfl | listed
    · have wrapped := sizeOf_expr e
      omega
    · have smaller := sizeOf_lt_of_mem_map sizeOf_expr listed
      omega
  | group members junction nested =>
    have smaller := sizeOf_lt_of_mem_map sizeOf_condition h
    simp only [group.sizeOf_spec]
    omega
  | _ =>
    simp only [children, List.mem_cons, List.not_mem_nil, or_false] at h
    rcases h with rfl | rfl | rfl <;> simp <;> omega

theorem TableRef.sizeOf_children {t : TableRef} (h : c ∈ t.children) :
    sizeOf c < 2 + sizeOf t := by
  cases t with
  | named => cases h
  | derived q label =>
    obtain rfl := List.mem_singleton.mp h
    simp
    omega

theorem Join.sizeOf_children {j : Join} (h : c ∈ j.children) : sizeOf c < 1 + sizeOf j := by
  rcases j with ⟨kind, table, condition⟩
  have filled := sizeOf_option_pos condition
  have named : 0 < sizeOf kind := by cases kind <;> simp
  simp only [mk.sizeOf_spec]
  rcases List.mem_cons.mp h with rfl | on
  · simp
    omega
  · have smaller : sizeOf c < 2 + sizeOf condition :=
      sizeOf_lt_of_mem_map_toList sizeOf_condition on
    omega

theorem Select.sizeOf_keyNodes {q : Select} (h : c ∈ q.keyNodes) :
    sizeOf c < 2 + sizeOf q.sortKeys :=
  sizeOf_lt_of_mem_map (fun key => by simp; omega) h

theorem Select.sizeOf_clauseNodes {q : Select} (h : c ∈ q.clauseNodes) :
    sizeOf c < 2 + sizeOf q.source + sizeOf q.joins + sizeOf q.filter + sizeOf q.groupBy +
      sizeOf q.having := by
  simp only [clauseNodes, List.mem_append] at h
  rcases h with (((source | joined) | filter) | grouped) | having
  · have smaller := sizeOf_lt_of_mem_map_toList (fun table => by simp; omega) source
    omega
  · have smaller := sizeOf_lt_of_mem_map (fun join => by simp; omega) joined
    omega
  · have smaller := sizeOf_lt_of_mem_map_toList sizeOf_condition filter
    omega
  · have smaller := sizeOf_lt_of_mem_map sizeOf_expr grouped
    omega
  · have smaller := sizeOf_lt_of_mem_map_toList sizeOf_condition having
    omega

theorem Select.mem_children {q : Select} :
    c ∈ q.children d ↔ c ∈ q.items.map (.element ∘ .item) ∨ c ∈ q.clauseNodes ∨ c ∈ q.keyNodes := by
  simp only [children, List.mem_append]
  split
  · rw [List.mem_append, @or_comm (c ∈ q.keyNodes)]
  · rw [List.mem_append]

theorem Select.sizeOf_fields (q : Select) :
    sizeOf q.items + sizeOf q.source + sizeOf q.joins + sizeOf q.filter + sizeOf q.groupBy +
      sizeOf q.having + sizeOf q.sortKeys < sizeOf q := by
  cases q
  simp only [mk.sizeOf_spec]
  omega

theorem Select.sizeOf_children {q : Select} (h : c ∈ q.children d) : sizeOf c < 1 + sizeOf q := by
  have fields := q.sizeOf_fields
  have filled := sizeOf_option_pos q.source
  rcases mem_children.mp h with item | clause | key
  · have smaller := sizeOf_lt_of_mem_map (fun item => by simp; omega) item
    omega
  · have smaller := sizeOf_clauseNodes clause
    omega
  · have smaller := sizeOf_keyNodes key
    omega

theorem InsertSource.sizeOf_children {s : InsertSource} (h : c ∈ s.children) :
    sizeOf c < 2 + sizeOf s := by
  cases s with
  | values rows =>
    obtain ⟨e, inside, rfl⟩ := List.mem_map.mp h
    obtain ⟨row, member, cell⟩ := List.mem_flatten.mp inside
    have smaller := List.sizeOf_lt_of_mem member
    have smallest := List.sizeOf_lt_of_mem cell
    have wrapped := sizeOf_expr e
    simp only [values.sizeOf_spec]
    omega
  | query q =>
    obtain rfl := List.mem_singleton.mp h
    simp
  | defaults => cases h

theorem Statement.sizeOf_children {s : Statement} (h : c ∈ s.children) :
    sizeOf c < 2 + sizeOf s := by
  cases s with
  | select q =>
    obtain rfl := List.mem_singleton.mp h
    simp
  | insert s =>
    rcases s with ⟨table, columns, source, returning⟩
    have smaller : sizeOf c < 2 + sizeOf source := InsertSource.sizeOf_children h
    simp only [insert.sizeOf_spec, Insert.mk.sizeOf_spec]
    omega
  | update s =>
    rcases s with ⟨table, assignments, filter, returning⟩
    simp only [update.sizeOf_spec, Update.mk.sizeOf_spec]
    rcases List.mem_append.mp h with assigned | filtered
    · have smaller : sizeOf c < 2 + sizeOf assignments :=
        sizeOf_lt_of_mem_map (fun a => by rcases a; simp; omega) assigned
      omega
    · have smaller : sizeOf c < 2 + sizeOf filter :=
        sizeOf_lt_of_mem_map_toList sizeOf_condition filtered
      omega
  | delete s =>
    rcases s with ⟨table, filter, returning⟩
    have smaller : sizeOf c < 2 + sizeOf filter := sizeOf_lt_of_mem_map_toList sizeOf_condition h
    simp only [delete.sizeOf_spec, Delete.mk.sizeOf_spec]
    omega
  | compound s =>
    rcases s with ⟨operator, members⟩
    have smaller : sizeOf c < 2 + sizeOf members := sizeOf_lt_of_mem_map sizeOf_query h
    simp only [compound.sizeOf_spec, Compound.mk.sizeOf_spec]
    omega
  | createTable s =>
    rcases s with ⟨name, columns, ifNotExists⟩
    have smaller : sizeOf c < 2 + sizeOf columns :=
      sizeOf_lt_of_mem_map (fun column => by simp; omega) h
    simp only [createTable.sizeOf_spec, CreateTable.mk.sizeOf_spec]
    omega
  | _ => cases h

theorem Element.sizeOf_children {e : Element} (h : c ∈ e.children) : sizeOf c < 1 + sizeOf e := by
  cases e with
  | expr e =>
    have smaller := Expr.sizeOf_children h
    simp
    omega
  | condition p =>
    have smaller := Condition.sizeOf_children h
    simp
    omega
  | statement s =>
    have smaller := Statement.sizeOf_children h
    simp
    omega
  | item i =>
    obtain rfl := List.mem_singleton.mp h
    rcases i
    simp
    omega
  | sortKey k =>
    obtain rfl := List.mem_singleton.mp h
    rcases k
    simp
    omega
  | table t =>
    have smaller := TableRef.sizeOf_children h
    simp
    omega
  | join j =>
    have smaller := Join.sizeOf_children h
    simp
    omega
  | statements ss =>
    have smaller := sizeOf_lt_of_mem_map (fun s => by simp; omega) h
    simp
    omega
  | _ => cases h

theorem Node.sizeOf_children {n : Node} (h : c ∈ n.children d) : sizeOf c < sizeOf n := by
  cases n with
  | element e => exact Element.sizeOf_children h
  | query q => exact Select.sizeOf_children h

/-- What passes from the children of every node to the node holds of all nodes. -/
theorem Node.fromChildren {motive : Node → Prop} (d : Dialect)
    (step : ∀ n, (∀ c ∈ n.children d, motive c) → motive n) (n : Node) : motive n :=
  step n fun c inside =>
    have := sizeOf_children inside
    fromChildren d step c
termination_by sizeOf n

end

end SqlBatch
