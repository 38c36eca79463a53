import SqlBatch.Proofs.Render.Alike
import SqlBatch.Proofs.Tree.Alike

/-!
# Contents stay out of texts

Alike trees are laid out alike in every dialect, so that what they bind never shows in a text:
`contents_stay_out`.
-/
namespace SqlBatch

variable {R : Value → Value → Prop} {d : Dialect}

theorem isEmpty_eq_of_forall₂ {α β : Type} {S : α → β → Prop} {as : List α} {bs : List β}
    (related : List.Forall₂ S as bs) : as.isEmpty = bs.isEmpty := by
  cases related <;> rfl

/-! ### Pages -/

namespace QueryParts

structure Alike (R : Value → Value → Prop) (p q : QueryParts) : Prop where
  distinct : p.distinct = q.distinct
  items : List.Forall₂ (Layout.Alike R) p.items q.items
  clauses : Layout.Alike R p.clauses q.clauses
  sortKeys : List.Forall₂ (Layout.Alike R) p.sortKeys q.sortKeys
  limit : p.limit = q.limit
  offset : p.offset = q.offset

variable {p q : QueryParts}

theorem Alike.selectWords (alike : p.Alike R q) (top : Option UInt64) :
    Layout.Alike R (p.selectWords top) (q.selectWords top) := by
  unfold QueryParts.selectWords
  rw [alike.distinct]
  refine Layout.alike_plain ?_
  cases q.distinct <;> cases top <;> rfl

theorem Alike.projection (alike : p.Alike R q) : Layout.Alike R p.projection q.projection := by
  unfold QueryParts.projection
  rw [isEmpty_eq_of_forall₂ alike.items]
  exact Layout.alike_ite _ (Layout.alike_plain rfl) (Layout.alike_separated ", " alike.items)

theorem Alike.sorting (alike : p.Alike R q) : Layout.Alike R p.sorting q.sorting := by
  unfold QueryParts.sorting
  rw [isEmpty_eq_of_forall₂ alike.sortKeys]
  have keys := Layout.alike_separated ", " alike.sortKeys
  exact Layout.alike_ite _ .nil (Layout.alike_text _ keys)

theorem Alike.body (alike : p.Alike R q) (top : Option UInt64) :
    Layout.Alike R (p.body top) (q.body top) := by
  have head := Layout.alike_append (alike.selectWords top) alike.projection
  exact Layout.alike_append (Layout.alike_append head alike.clauses) alike.sorting

theorem Alike.numberedBody (alike : p.Alike R q) :
    Layout.Alike R p.numberedBody q.numberedBody := by
  have head := Layout.alike_append (alike.selectWords none) alike.projection
  have keys := Layout.alike_separated ", " alike.sortKeys
  unfold QueryParts.numberedBody
  rw [isEmpty_eq_of_forall₂ alike.sortKeys]
  refine Layout.alike_append (Layout.alike_append head (Layout.alike_text _ ?_)) ?_
  · exact Layout.alike_ite _ (Layout.alike_plain rfl) keys
  · exact Layout.alike_text _ alike.clauses

theorem Alike.fetchClause (alike : p.Alike R q) : Layout.Alike R p.fetchClause q.fetchClause := by
  unfold QueryParts.fetchClause
  rw [alike.limit, alike.offset]
  refine Layout.alike_plain ?_
  cases q.offset <;> cases q.limit <;> rfl

theorem Alike.limitClause (alike : p.Alike R q) (unbounded : Option String) :
    Layout.Alike R (p.limitClause unbounded) (q.limitClause unbounded) := by
  unfold QueryParts.limitClause
  rw [alike.limit, alike.offset]
  refine Layout.alike_plain ?_
  cases q.limit <;> cases q.offset <;> cases unbounded <;> rfl

theorem Alike.limitPairClause (alike : p.Alike R q) :
    Layout.Alike R p.limitPairClause q.limitPairClause := by
  unfold QueryParts.limitPairClause
  rw [alike.limit, alike.offset]
  refine Layout.alike_plain ?_
  cases q.limit <;> cases q.offset <;> rfl

theorem Alike.rowNumberBounds (alike : p.Alike R q) :
    Layout.Alike R p.rowNumberBounds q.rowNumberBounds := by
  unfold QueryParts.rowNumberBounds
  rw [alike.limit, alike.offset]
  refine Layout.alike_plain ?_
  cases q.limit <;> cases q.offset <;> rfl

theorem Alike.topLayout (alike : p.Alike R q) : Layout.Alike R p.topLayout q.topLayout := by
  unfold QueryParts.topLayout
  rw [isEmpty_eq_of_forall₂ alike.sortKeys, alike.limit, alike.offset]
  refine Layout.alike_ite _ (alike.body q.limit) (Layout.alike_append (alike.body none) ?_)
  exact Layout.alike_ite _ (Layout.alike_plain rfl) alike.fetchClause

theorem Alike.rowNumberLayout (alike : p.Alike R q) :
    Layout.Alike R p.rowNumberLayout q.rowNumberLayout := by
  have bounds := Layout.alike_text "\n) AS PagedQuery\nWHERE " alike.rowNumberBounds
  have numbered := Layout.alike_text "SELECT * FROM (\n" alike.numberedBody
  exact Layout.alike_append (Layout.alike_append numbered bounds) (Layout.alike_plain rfl)

theorem Alike.rownumLayout (alike : p.Alike R q) :
    Layout.Alike R p.rownumLayout q.rownumLayout := by
  have body := alike.body none
  unfold QueryParts.rownumLayout
  rw [alike.limit, alike.offset]
  cases q.limit <;> cases q.offset
  case some.none => exact Layout.alike_append (Layout.alike_text _ body) (Layout.alike_plain rfl)
  all_goals
    refine Layout.alike_append (Layout.alike_append (Layout.alike_text _ body) ?_) ?_
    · exact Layout.alike_plain rfl
    · exact Layout.alike_plain rfl

theorem Alike.layout (alike : p.Alike R q) : Layout.Alike R (p.layout d) (q.layout d) := by
  have body := alike.body none
  have window : p.hasWindow = q.hasWindow := by
    simp only [QueryParts.hasWindow, alike.limit, alike.offset]
  unfold QueryParts.layout
  rw [alike.offset, window]
  refine Layout.alike_ite _ (Layout.alike_plain rfl) ?_
  cases d.paging with
  | fetchFirst => exact Layout.alike_append body alike.fetchClause
  | top => exact alike.topLayout
  | limit => exact Layout.alike_append body (alike.limitClause _)
  | limitWithOffset => exact Layout.alike_append body alike.limitPairClause
  | rowNumber => exact Layout.alike_ite _ alike.rowNumberLayout body
  | rowNumberAutomatic => exact Layout.alike_ite _ alike.rownumLayout body

end QueryParts

/-! ### What a layout looks at -/

theorem DataType.ofValue?_eq_of_kind {x y : SqlValue} (same : x.kind = y.kind) :
    ofValue? x = ofValue? y := by
  cases x <;> cases y <;> first | rfl | simp [SqlValue.kind] at same

theorem Expr.Alike.inferredType? {a b : Expr} (alike : a.Alike R b)
    (kind : a.boundKind? = b.boundKind?) : a.inferredType? = b.inferredType? := by
  cases alike with
  | value => exact DataType.ofValue?_eq_of_kind (Option.some.inj kind)
  | _ => rfl

theorem Expr.Alike.castType {a b : Expr} {target : Option DataType} (alike : a.Alike R b)
    (kind : target = none → a.boundKind? = b.boundKind?) :
    target.or a.inferredType? = target.or b.inferredType? := by
  cases target with
  | none => exact alike.inferredType? (kind rfl)
  | some dataType => rfl

theorem Expr.Alike.isOperation {a b : Expr} (alike : a.Alike R b) :
    a.isOperation = b.isOperation := by
  cases alike <;> rfl

theorem Condition.Alike.needsParentheses {a b : Condition} (alike : a.Alike R b)
    (parent : Junction) : a.needsParentheses parent = b.needsParentheses parent := by
  cases alike with
  | pair left right junction nested => cases nested <;> rfl
  | group members junction nested => cases nested <;> rfl
  | _ => rfl

theorem Expr.AllAlike.isEmpty {as bs : List Expr} (alike : Expr.AllAlike R as bs) :
    as.isEmpty = bs.isEmpty := by
  cases alike <;> rfl

theorem WhenBranch.AllAlike.isEmpty {as bs : List WhenBranch}
    (alike : WhenBranch.AllAlike R as bs) : as.isEmpty = bs.isEmpty := by
  cases alike <;> rfl

/-! ### Layouts of trees

Each relation of the mutual family has its lemma, by recursion on the proof that two trees are
alike: the case of a constructor puts the layouts of the parts together.
-/

section

variable {as bs : List Layout}

theorem Operator.alike_layout (op : Operator) (operands : List.Forall₂ (Layout.Alike R) as bs) :
    Layout.Alike R (op.layout d as) (op.layout d bs) := by
  unfold Operator.layout
  rw [operands.length_eq]
  exact Layout.alike_ite _ (Layout.alike_separated _ operands) (Layout.alike_plain rfl)

theorem Junction.alike_layout (junction : Junction)
    (members : List.Forall₂ (Layout.Alike R) as bs) :
    Layout.Alike R (junction.layout as) (junction.layout bs) := by
  unfold Junction.layout
  rw [isEmpty_eq_of_forall₂ members]
  exact Layout.alike_ite _ (Layout.alike_plain rfl) (Layout.alike_separated _ members)

theorem alike_labelled (label : Option String) {a b : Layout} (inner : Layout.Alike R a b) :
    Layout.Alike R (labelled a label) (labelled b label) := by
  refine Layout.alike_append inner (Layout.alike_plain ?_)
  cases label <;> rfl

theorem alike_negation (negated : Bool) : Layout.Alike R (negation negated) (negation negated) :=
  Layout.alike_ite _ (Layout.alike_plain rfl) .nil

end

theorem ColumnRef.bound_layout (c : ColumnRef) : c.layout.bound = [] := by
  rcases c with ⟨_ | table, name⟩
  · rfl
  · rfl

theorem Join.alike_layout (kind : JoinKind) {a b : TableRef} {c c' : Option Condition}
    (table : Layout.Alike R (a.layout d) (b.layout d))
    (condition : Option.Rel (Layout.Alike R) (Condition.layout? d c) (Condition.layout? d c')) :
    Layout.Alike R (Join.layout d ⟨kind, a, c⟩) (Join.layout d ⟨kind, b, c'⟩) := by
  have joined := Layout.alike_text kind.keyword (Layout.alike_text " " table)
  rw [Join.layout, Join.layout]
  refine Layout.alike_append joined ?_
  revert condition
  generalize Condition.layout? d c = on, Condition.layout? d c' = on'
  intro condition
  cases condition with
  | none => exact Layout.alike_ite _ .nil (Layout.alike_plain rfl)
  | some inner => exact Layout.alike_text " ON " inner

mutual

theorem Expr.Alike.layout {a b : Expr} :
    a.Alike R b → Layout.Alike R (a.layout d) (b.layout d)
  | .column c => Layout.alike_plain c.bound_layout
  | .value related => .cons (.placeholder related) .nil
  | .constant c => Layout.alike_plain rfl
  | .wildcard table => Layout.alike_plain (by cases table <;> rfl)
  | .operation op operands => op.alike_layout operands.operandLayouts
  | .negate inner => by
    rw [Expr.layout, Expr.layout, inner.isOperation]
    exact Layout.alike_text "-" (Layout.alike_parenthesizedIf _ inner.layout)
  | .call function distinct arguments => by
    have listed := Layout.alike_separated ", " arguments.layouts
    refine Layout.alike_append (Layout.alike_append ?_ listed) (Layout.alike_plain rfl)
    exact Layout.alike_text _ (Layout.alike_text _
      (Layout.alike_ite _ (Layout.alike_plain rfl) .nil))
  | .cast target inner kind => by
    rw [Expr.layout, Expr.layout, inner.castType kind]
    split
    · exact Layout.alike_append (Layout.alike_text _ inner.layout) (Layout.alike_plain rfl)
    · exact Layout.alike_plain rfl
  | .case branches otherwise => by
    have listed := List.rel_flatten branches.layouts
    have last := Layout.alike_clause " ELSE " otherwise.layout?
    rw [Expr.layout, Expr.layout, branches.isEmpty]
    refine Layout.alike_ite _ (Layout.alike_plain rfl) ?_
    exact Layout.alike_append (Layout.alike_append (Layout.alike_text _ listed) last)
      (Layout.alike_plain rfl)
  | .subquery query => Layout.alike_parenthesized query.layout
  | .raw sql => Layout.alike_plain rfl
termination_by structural alike => alike

theorem Expr.AllAlike.operandLayouts {as bs : List Expr} :
    Expr.AllAlike R as bs →
      List.Forall₂ (Layout.Alike R) (Expr.operandLayouts d as) (Expr.operandLayouts d bs)
  | .nil => .nil
  | .cons first rest => by
    rw [Expr.operandLayouts, Expr.operandLayouts, first.isOperation]
    exact .cons (Layout.alike_parenthesizedIf _ first.layout) rest.operandLayouts
termination_by structural alike => alike

theorem Expr.AllAlike.layouts {as bs : List Expr} :
    Expr.AllAlike R as bs → List.Forall₂ (Layout.Alike R) (Expr.layouts d as) (Expr.layouts d bs)
  | .nil => .nil
  | .cons first rest => .cons first.layout rest.layouts
termination_by structural alike => alike

theorem Expr.OptionAlike.layout? {a b : Option Expr} :
    Expr.OptionAlike R a b → Option.Rel (Layout.Alike R) (Expr.layout? d a) (Expr.layout? d b)
  | .none => .none
  | .some inner => .some inner.layout
termination_by structural alike => alike

theorem WhenBranch.AllAlike.layouts {as bs : List WhenBranch} :
    WhenBranch.AllAlike R as bs →
      List.Forall₂ (Layout.Alike R) (WhenBranch.layouts d as) (WhenBranch.layouts d bs)
  | .nil => .nil
  | .cons condition result rest => by
    refine .cons ?_ rest.layouts
    exact Layout.alike_append (Layout.alike_text _ condition.layout)
      (Layout.alike_text _ result.layout)
termination_by structural alike => alike

theorem Condition.Alike.layout {a b : Condition} :
    a.Alike R b → Layout.Alike R (a.layout d) (b.layout d)
  | .compare left op right => Layout.alike_append left.layout (Layout.alike_text _ right.layout)
  | .isNull inner negated => Layout.alike_append inner.layout (Layout.alike_plain rfl)
  | .between inner low high negated => by
    have range := Layout.alike_append inner.layout (Layout.alike_text " " (alike_negation negated))
    have lower := Layout.alike_append range (Layout.alike_text "BETWEEN " low.layout)
    exact Layout.alike_append lower (Layout.alike_text " AND " high.layout)
  | .inList inner items negated => by
    have words := Layout.alike_append inner.layout (Layout.alike_text " " (alike_negation negated))
    have listed := Layout.alike_separated ", " items.layouts
    rw [Condition.layout, Condition.layout, items.isEmpty]
    refine Layout.alike_ite _ (Layout.alike_plain rfl) ?_
    exact Layout.alike_append words (Layout.alike_text "IN " (Layout.alike_parenthesized listed))
  | .inQuery inner query negated => by
    have words := Layout.alike_append inner.layout (Layout.alike_text " " (alike_negation negated))
    have nested := Layout.alike_parenthesized query.layout
    exact Layout.alike_append words (Layout.alike_text "IN " nested)
  | .like inner pattern negated => by
    have words := Layout.alike_append inner.layout (Layout.alike_text " " (alike_negation negated))
    exact Layout.alike_append words (Layout.alike_text "LIKE " pattern.layout)
  | .existsIn query negated => by
    have nested := Layout.alike_parenthesized query.layout
    exact Layout.alike_append (alike_negation negated) (Layout.alike_text "EXISTS " nested)
  | .not inner => Layout.alike_text "NOT " (Layout.alike_parenthesized inner.layout)
  | .pair left right junction nested => by
    rw [Condition.layout, Condition.layout, left.needsParentheses, right.needsParentheses]
    refine Layout.alike_parenthesizedIf _ (junction.alike_layout (.cons ?_ (.cons ?_ .nil)))
    · exact Layout.alike_parenthesizedIf _ left.layout
    · exact Layout.alike_parenthesizedIf _ right.layout
  | .group members junction nested =>
    Layout.alike_parenthesizedIf _ (junction.alike_layout members.memberLayouts)
  | .raw sql => Layout.alike_plain rfl
termination_by structural alike => alike

theorem Condition.AllAlike.memberLayouts {as bs : List Condition} {parent : Junction} :
    Condition.AllAlike R as bs → List.Forall₂ (Layout.Alike R)
      (Condition.memberLayouts d parent as) (Condition.memberLayouts d parent bs)
  | .nil => .nil
  | .cons first rest => by
    rw [Condition.memberLayouts, Condition.memberLayouts, first.needsParentheses]
    exact .cons (Layout.alike_parenthesizedIf _ first.layout) rest.memberLayouts
termination_by structural alike => alike

theorem Condition.OptionAlike.layout? {a b : Option Condition} :
    Condition.OptionAlike R a b →
      Option.Rel (Layout.Alike R) (Condition.layout? d a) (Condition.layout? d b)
  | .none => .none
  | .some inner => .some inner.layout
termination_by structural alike => alike

theorem SelectItem.Alike.layout {a b : SelectItem} :
    a.Alike R b → Layout.Alike R (a.layout d) (b.layout d)
  | .mk inner label => alike_labelled label inner.layout
termination_by structural alike => alike

theorem SelectItem.AllAlike.layouts {as bs : List SelectItem} :
    SelectItem.AllAlike R as bs →
      List.Forall₂ (Layout.Alike R) (SelectItem.layouts d as) (SelectItem.layouts d bs)
  | .nil => .nil
  | .cons first rest => .cons first.layout rest.layouts
termination_by structural alike => alike

theorem SortKey.Alike.layout {a b : SortKey} :
    a.Alike R b → Layout.Alike R (a.layout d) (b.layout d)
  | .mk inner direction => by
    refine Layout.alike_append inner.layout (Layout.alike_plain ?_)
    cases direction <;> rfl
termination_by structural alike => alike

theorem SortKey.AllAlike.layouts {as bs : List SortKey} :
    SortKey.AllAlike R as bs →
      List.Forall₂ (Layout.Alike R) (SortKey.layouts d as) (SortKey.layouts d bs)
  | .nil => .nil
  | .cons first rest => .cons first.layout rest.layouts
termination_by structural alike => alike

theorem TableRef.Alike.layout {a b : TableRef} :
    a.Alike R b → Layout.Alike R (a.layout d) (b.layout d)
  | .named name label => alike_labelled label (Layout.alike_plain rfl)
  | .derived query label => alike_labelled _ (Layout.alike_parenthesized query.layout)
termination_by structural alike => alike

theorem TableRef.OptionAlike.layout? {a b : Option TableRef} :
    TableRef.OptionAlike R a b →
      Option.Rel (Layout.Alike R) (TableRef.layout? d a) (TableRef.layout? d b)
  | .none => .none
  | .some inner => .some inner.layout
termination_by structural alike => alike

theorem Join.AllAlike.layouts {as bs : List Join} :
    Join.AllAlike R as bs →
      List.Forall₂ (Layout.Alike R) (Join.layouts d as) (Join.layouts d bs)
  | .nil => .nil
  | .cons kind table condition rest =>
    .cons (Layout.alike_text "\n" (Join.alike_layout kind table.layout condition.layout?))
      rest.layouts
termination_by structural alike => alike

theorem Select.Alike.layout {a b : Select} :
    a.Alike R b → Layout.Alike R (a.layout d) (b.layout d)
  | .mk distinct limit offset items source joins filter groupBy having sortKeys => by
    have rows := Layout.alike_append (Layout.alike_clause "\nFROM " source.layout?)
      (List.rel_flatten joins.layouts)
    have filtered := Layout.alike_append rows (Layout.alike_clause "\nWHERE " filter.layout?)
    have keys := Layout.alike_text "\nGROUP BY " (Layout.alike_separated ", " groupBy.layouts)
    have last := Layout.alike_clause "\nHAVING " having.layout?
    rw [Select.layout, Select.layout, groupBy.isEmpty]
    refine QueryParts.Alike.layout ⟨rfl, items.layouts, ?_, sortKeys.layouts, rfl, rfl⟩
    exact Layout.alike_append (Layout.alike_append filtered (Layout.alike_ite _ .nil keys)) last
termination_by structural alike => alike

end

/-! ### Layouts of statements -/

theorem Expr.AllAlike.length {as bs : List Expr} : Expr.AllAlike R as bs → as.length = bs.length
  | .nil => rfl
  | .cons _ rest => congrArg (· + 1) rest.length
termination_by structural alike => alike

theorem alike_map_plain {α : Type} (items : List α) {write : α → Layout}
    (plain : ∀ item, (write item).bound = []) :
    List.Forall₂ (Layout.Alike R) (items.map write) (items.map write) := by
  refine List.forall₂_same.mpr fun layout member => ?_
  obtain ⟨item, -, rfl⟩ := List.mem_map.mp member
  exact Layout.alike_plain (plain item)

theorem alike_identifiers (names : List String) :
    Layout.Alike R (Layout.identifiers names) (Layout.identifiers names) :=
  Layout.alike_separated ", " (alike_map_plain names fun _ => rfl)

theorem alike_outputClause (columns : List String) (source : String) :
    Layout.Alike R (outputClause d columns source) (outputClause d columns source) := by
  refine Layout.alike_ite _ .nil ?_
  cases d.outputStyle with
  | none => exact Layout.alike_plain rfl
  | output =>
    exact Layout.alike_text _ (Layout.alike_separated ", " (alike_map_plain columns fun _ => rfl))
  | returning => exact .nil

theorem alike_returningClause (columns : List String) :
    Layout.Alike R (returningClause d columns) (returningClause d columns) :=
  Layout.alike_ite _ .nil (Layout.alike_text _ (alike_identifiers columns))

theorem alike_whereClause {a b : Option Condition} (filter : Condition.OptionAlike R a b) :
    Layout.Alike R (whereClause d a) (whereClause d b) :=
  Layout.alike_clause _ filter.layout?

/-- Rows are counted off as they come, and one of the wrong width is told by its own. -/
theorem alike_rowsLayout (width : Nat) {rows rows' : List (List Expr)}
    (alike : List.Forall₂ (Expr.AllAlike R) rows rows') (index : Nat) :
    Layout.Alike R (Insert.rowsLayout d width index rows)
      (Insert.rowsLayout d width index rows') := by
  induction alike generalizing index with
  | nil => exact .nil
  | cons row _ ih =>
    have cells := Layout.alike_parenthesized (Layout.alike_separated ", " (row.layouts (d := d)))
    rw [Insert.rowsLayout, Insert.rowsLayout, row.length]
    refine Layout.alike_append (Layout.alike_append (Layout.alike_append ?_ ?_) cells) (ih _)
    · exact Layout.alike_ite _ (Layout.alike_plain rfl) .nil
    · exact Layout.alike_ite _ .nil (Layout.alike_plain rfl)

theorem InsertSource.Alike.layout {a b : InsertSource} (alike : a.Alike R b)
    (columns : List String) :
    Layout.Alike R (Insert.sourceLayout d columns a) (Insert.sourceLayout d columns b) := by
  cases alike with
  | values rows =>
    cases rows with
    | nil => exact Layout.alike_ite _ (Layout.alike_plain rfl) (Layout.alike_plain rfl)
    | cons row rest => exact Layout.alike_text _ (alike_rowsLayout _ (.cons row rest) 0)
  | query query => exact Layout.alike_text _ query.layout
  | defaults => exact Layout.alike_ite _ (Layout.alike_plain rfl) (Layout.alike_plain rfl)

theorem Insert.Alike.layout {s t : Insert} (alike : s.Alike R t) :
    Layout.Alike R (s.layout d) (t.layout d) := by
  unfold Insert.layout
  rw [alike.table, alike.columns, alike.returning]
  cases t.table with
  | none => exact Layout.alike_plain rfl
  | some table =>
    have names : Layout.Alike R _ _ := alike_identifiers t.columns
    have listed := Layout.alike_text " " (Layout.alike_parenthesized names)
    refine Layout.alike_append (Layout.alike_append (Layout.alike_append ?_ ?_) ?_) ?_
    · exact Layout.alike_text _ (Layout.alike_identifier _ (Layout.alike_ite _ .nil listed))
    · exact alike_outputClause t.returning "INSERTED"
    · exact alike.source.layout t.columns
    · exact alike_returningClause t.returning

theorem Assignment.Alike.layout {a b : Assignment} (alike : a.Alike R b) :
    Layout.Alike R (a.layout d) (b.layout d) := by
  unfold Assignment.layout
  rw [alike.column]
  exact Layout.alike_identifier _ (Layout.alike_text _ alike.value.layout)

theorem Update.Alike.layout {s t : Update} (alike : s.Alike R t) :
    Layout.Alike R (s.layout d) (t.layout d) := by
  have assignments : List.Forall₂ (Layout.Alike R) (s.assignments.map (Assignment.layout d))
      (t.assignments.map (Assignment.layout d)) :=
    List.rel_map (fun _ _ assignment => assignment.layout) alike.assignments
  unfold Update.layout
  rw [alike.table, alike.returning, isEmpty_eq_of_forall₂ alike.assignments]
  cases t.table with
  | none => exact Layout.alike_plain rfl
  | some table =>
    have listed := Layout.alike_separated ", " assignments
    refine Layout.alike_ite _ (Layout.alike_plain rfl) ?_
    refine Layout.alike_append (Layout.alike_append (Layout.alike_append ?_ ?_) ?_) ?_
    · exact Layout.alike_text _ (Layout.alike_identifier _ (Layout.alike_text _ listed))
    · exact alike_outputClause t.returning "INSERTED"
    · exact alike_whereClause alike.filter
    · exact alike_returningClause t.returning

theorem Delete.Alike.layout {s t : Delete} (alike : s.Alike R t) :
    Layout.Alike R (s.layout d) (t.layout d) := by
  unfold Delete.layout
  rw [alike.table, alike.returning]
  cases t.table with
  | none => exact Layout.alike_plain rfl
  | some table =>
    refine Layout.alike_append (Layout.alike_append ?_ ?_) ?_
    · exact Layout.alike_text _
        (Layout.alike_identifier _ (alike_outputClause t.returning "DELETED"))
    · exact alike_whereClause alike.filter
    · exact alike_returningClause t.returning

theorem alike_compound (operator : SetOperator) {members members' : List Select}
    (alike : List.Forall₂ (Select.Alike R) members members') :
    Layout.Alike R (Compound.layout d ⟨operator, members⟩)
      (Compound.layout d ⟨operator, members'⟩) := by
  have layouts : List.Forall₂ (Layout.Alike R) (members.map (Select.layout d))
      (members'.map (Select.layout d)) := List.rel_map (fun _ _ member => member.layout) alike
  unfold Compound.layout
  dsimp only
  rw [alike.length_eq]
  exact Layout.alike_ite _ (Layout.alike_plain rfl) (Layout.alike_separated _ layouts)

/-! ### Statements without values -/

theorem ColumnDefinition.bound_layout (c : ColumnDefinition) : (c.layout d).bound = [] := by
  rcases c with ⟨name, type, nullable, default, primaryKey, unique⟩
  cases primaryKey <;> cases nullable <;> cases unique <;> cases default <;> rfl

theorem CreateTable.alike_layout (s : CreateTable) : Layout.Alike R (s.layout d) (s.layout d) := by
  have columns : List.Forall₂ (Layout.Alike R) _ _ :=
    alike_map_plain s.columns (ColumnDefinition.bound_layout (d := d))
  have listed := Layout.alike_parenthesized (Layout.alike_separated ", " columns)
  refine Layout.alike_ite _ (Layout.alike_plain rfl) (Layout.alike_append ?_ ?_)
  · exact Layout.alike_text _ (Layout.alike_ite _ (Layout.alike_plain rfl) .nil)
  · exact Layout.alike_identifier _ (Layout.alike_text _ listed)

theorem DropTable.bound_layout (s : DropTable) : s.layout.bound = [] := by
  rcases s with ⟨name, ifExists⟩
  cases ifExists <;> rfl

/-! ### Whole elements -/

theorem Statement.Alike.layout {s t : Statement} (alike : s.Alike d R t) :
    Layout.Alike R (s.layout d) (t.layout d) := by
  cases alike with
  | select query => exact Layout.alike_append query.layout (Layout.alike_plain rfl)
  | insert alike => exact Layout.alike_append alike.layout (Layout.alike_plain rfl)
  | update alike => exact Layout.alike_append alike.layout (Layout.alike_plain rfl)
  | delete alike => exact Layout.alike_append alike.layout (Layout.alike_plain rfl)
  | compound operator alike =>
    exact Layout.alike_append (alike_compound operator alike) (Layout.alike_plain rfl)
  | createTable s => exact Layout.alike_append s.alike_layout (Layout.alike_plain rfl)
  | dropTable s =>
    exact Layout.alike_append (Layout.alike_plain s.bound_layout) (Layout.alike_plain rfl)
  | begin options own => exact Layout.alike_self own
  | commit own => exact Layout.alike_self own
  | rollback own => exact Layout.alike_self own
  | raw sql => exact Layout.alike_plain rfl

theorem Element.Alike.layout {a b : Element} (alike : a.Alike d R b) :
    Layout.Alike R (a.layout d) (b.layout d) := by
  cases alike with
  | expr alike => exact alike.layout
  | condition alike => exact alike.layout
  | statement alike => exact alike.layout
  | item alike => exact alike.layout
  | sortKey alike => exact alike.layout
  | table alike => exact alike.layout
  | join kind table condition => exact Join.alike_layout kind table.layout condition.layout?
  | column c => exact Layout.alike_plain c.bound_layout
  | columnDefinition c => exact Layout.alike_plain c.bound_layout
  | value related => exact .cons (.placeholder related) .nil
  | constant c => exact Layout.alike_plain rfl
  | statements alike =>
    exact Layout.alike_separated "\n" (List.rel_map (fun _ _ statement => statement.layout) alike)

/-- Elements that differ only in what their values hold fail alike or have the same text with the
same placeholders, each bound to the content that the value at its place has in either element. -/
theorem contents_stay_out {a b : Element} (pairs : Relator.BiUnique R) (alike : a.Alike d R b) :
    (∃ e, (a.layout d).render d = .error e ∧ (b.layout d).render d = .error e) ∨
      ∃ r r', (a.layout d).render d = .ok r ∧ (b.layout d).render d = .ok r' ∧
        Rendered.Alike R (enrollAll [] (a.layout d).bound) (enrollAll [] (b.layout d).bound) r r' :=
  alike_render pairs d alike.layout

/-- A quote in a bound text changes nothing, and a cast sees only that a number is one. -/
theorem contents_stay_out_quoted :
    let five : Value := ⟨0, .int 5⟩
    let seven : Value := ⟨0, .int 7⟩
    let word : Value := ⟨1, .text "x"⟩
    let quoted : Value := ⟨1, .text "' OR 1 = 1"⟩
    let query (number text : Value) : Element :=
      .statement (.select {
        items := [⟨.cast (.value number) none, none⟩]
        filter := some (.compare (.value text) .eq (.value number)) })
    ∃ r r', ((query five word).layout .generic).render .generic = .ok r ∧
      ((query seven quoted).layout .generic).render .generic = .ok r' ∧ r.sql = r'.sql ∧
      r.parameters.values = [.int 5, .text "x"] ∧
      r'.parameters.values = [.int 7, .text "' OR 1 = 1"] := by
  intro five seven word quoted query
  let R (v w : Value) : Prop := v = five ∧ w = seven ∨ v = word ∧ w = quoted
  have apart : five ≠ word := by simp [five, word]
  have apart' : seven ≠ quoted := by simp [seven, quoted]
  have pairs : Relator.BiUnique R := by
    constructor
    · rintro v w u (⟨rfl, rfl⟩ | ⟨rfl, rfl⟩) (⟨rfl, same⟩ | ⟨rfl, same⟩)
      · rfl
      · exact (apart' same).elim
      · exact (apart' same.symm).elim
      · rfl
    · rintro v w u (⟨rfl, rfl⟩ | ⟨rfl, rfl⟩) (⟨same, rfl⟩ | ⟨same, rfl⟩)
      · rfl
      · exact (apart same).elim
      · exact (apart same.symm).elim
      · rfl
  have number : Expr.Alike R (.value five) (.value seven) := .value (.inl ⟨rfl, rfl⟩)
  have text : Expr.Alike R (.value word) (.value quoted) := .value (.inr ⟨rfl, rfl⟩)
  have items : SelectItem.AllAlike R [⟨.cast (.value five) none, none⟩]
      [⟨.cast (.value seven) none, none⟩] := .cons (.mk (.cast none number fun _ => rfl) none) .nil
  have alike : Element.Alike .generic R (query five word) (query seven quoted) :=
    .statement (.select (.mk false none none items .none .nil
      (.some (.compare text .eq number)) .nil .none .nil))
  rcases contents_stay_out pairs alike with ⟨e, fails, -⟩ | ⟨r, r', writes, writes', same⟩
  · cases fails
  · exact ⟨r, r', writes, writes', same.sql, same.values, same.values'⟩

end SqlBatch
