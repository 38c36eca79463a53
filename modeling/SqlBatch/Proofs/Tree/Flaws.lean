import SqlBatch.Proofs.Render.Merging
import SqlBatch.Proofs.Tree.Node

/-!
# Flawed trees

A node is flawed when it lacks a part or has one that the dialect cannot write. Rendering fails
exactly on trees with a flawed node somewhere inside. Of a node without a flaw, `Node.marks_layout`
says what its layout adds to those of its children.
-/
namespace SqlBatch

/-! ### Flaws of one node -/

/-- A value or a constant that is not null has a type of its own. -/
def Expr.IsTyped : Expr → Prop
  | .value v => v.content ≠ .null
  | .constant c => c ≠ .null
  | _ => False

/-- What is wrong with a node by itself, whatever stands inside it. Which transactions cannot be
begun is for the dialect's syntax to say. -/
inductive Node.Flawed (d : Dialect) (rejects : TransactionOptions → Prop) : Node → Prop
  | operandCount {op : Operator} {operands : List Expr}
      (wrong : if op.isVariadic then operands.length < 2 else operands.length ≠ 2) :
      Flawed d rejects (.expr (.operation op operands))
  | noBranch (otherwise : Option Expr) : Flawed d rejects (.expr (.case [] otherwise))
  | noTarget {e : Expr} (untyped : ¬e.IsTyped) : Flawed d rejects (.expr (.cast e none))
  | noItems (e : Expr) (negated : Bool) : Flawed d rejects (.condition (.inList e [] negated))
  | noJoinCondition {kind : JoinKind} (table : TableRef) (conditional : kind ≠ .cross) :
      Flawed d rejects (.join ⟨kind, table, none⟩)
  | offset {q : Select} (skips : q.offset.isSome) (unsupported : d.supportsOffset = false) :
      Flawed d rejects (.query q)
  | unsortedOffset {q : Select} (skips : q.offset.isSome) (top : d.paging = .top)
      (unsorted : q.sortKeys = []) : Flawed d rejects (.query q)
  | fewMembers {s : Compound} (few : s.members.length < 2) :
      Flawed d rejects (.statement (.compound s))
  | insertNowhere {s : Insert} (nowhere : s.table = none) :
      Flawed d rejects (.statement (.insert s))
  | insertNothing {s : Insert} (nothing : s.source = .values []) (listed : s.columns ≠ []) :
      Flawed d rejects (.statement (.insert s))
  | insertDefaults {s : Insert} (defaults : s.source = .defaults) (listed : s.columns ≠ []) :
      Flawed d rejects (.statement (.insert s))
  | rowWidth {s : Insert} {rows : List (List Expr)} {row : List Expr}
      (source : s.source = .values rows) (member : row ∈ rows) (listed : s.columns ≠ [])
      (wrong : row.length ≠ s.columns.length) : Flawed d rejects (.statement (.insert s))
  | updateNowhere {s : Update} (nowhere : s.table = none) :
      Flawed d rejects (.statement (.update s))
  | updateNothing {s : Update} (nothing : s.assignments = []) :
      Flawed d rejects (.statement (.update s))
  | deleteNowhere {s : Delete} (nowhere : s.table = none) :
      Flawed d rejects (.statement (.delete s))
  | insertReturning {s : Insert} (returning : s.returning ≠ []) (none : d.outputStyle = .none) :
      Flawed d rejects (.statement (.insert s))
  | updateReturning {s : Update} (returning : s.returning ≠ []) (none : d.outputStyle = .none) :
      Flawed d rejects (.statement (.update s))
  | deleteReturning {s : Delete} (returning : s.returning ≠ []) (none : d.outputStyle = .none) :
      Flawed d rejects (.statement (.delete s))
  | noColumns {s : CreateTable} (nothing : s.columns = []) :
      Flawed d rejects (.statement (.createTable s))
  | begin {options : TransactionOptions} (rejected : rejects options) :
      Flawed d rejects (.statement (.begin options))

/-! ### Marks

Of a layout, the placeholders and the failures are what the rest of a pass depends on.
-/

/-- A piece that binds a value or fails. -/
def Piece.isMark : Piece → Bool
  | .placeholder _ | .failure _ => true
  | _ => false

namespace Layout

def marks (layout : Layout) : Layout := layout.filter Piece.isMark

@[simp] theorem marks_nil : marks [] = [] := rfl

@[simp] theorem marks_cons (piece : Piece) (rest : Layout) :
    marks (piece :: rest) = if piece.isMark then piece :: marks rest else marks rest :=
  List.filter_cons

@[simp] theorem marks_append (first second : Layout) :
    marks (first ++ second) = marks first ++ marks second := List.filter_append _ _

@[simp] theorem marks_flatten (layouts : List Layout) :
    marks layouts.flatten = layouts.flatMap marks := by
  rw [marks, List.filter_flatten, List.flatMap_def]
  rfl

@[simp] theorem marks_separated (separator : String) (layouts : List Layout) :
    marks (separated separator layouts) = layouts.flatMap marks := by
  cases layouts with
  | nil => rfl
  | cons first rest =>
    rw [separated, marks_append, List.flatMap_cons]
    congr 1
    induction rest with
    | nil => rfl
    | cons second others ih => simp [ih, Piece.isMark]

@[simp] theorem marks_parenthesized (inner : Layout) :
    marks (parenthesized inner) = marks inner := by
  simp [parenthesized, Piece.isMark]

@[simp] theorem marks_parenthesizedIf (wanted : Bool) (inner : Layout) :
    marks (parenthesizedIf wanted inner) = marks inner := by
  cases wanted <;> simp [parenthesizedIf]

@[simp] theorem marks_clause (keyword : String) (inner : Option Layout) :
    marks (clause keyword inner) = inner.toList.flatMap marks := by
  cases inner <;> simp [clause, Piece.isMark]

@[simp] theorem marks_failure (e : Error) : marks (failure e) = [.failure e] := rfl

@[simp] theorem bound_marks (layout : Layout) : layout.marks.bound = layout.bound := by
  induction layout with
  | nil => rfl
  | cons piece rest ih => cases piece <;> simp [bound_cons, ih, Piece.isMark, Piece.value?]

theorem mem_marks_failure {e : Error} {layout : Layout} :
    .failure e ∈ marks layout ↔ .failure e ∈ layout := by
  simp [marks, Piece.isMark]

end Layout

/-! ### Marks of a node without a flaw

A node that is not flawed itself adds nothing to the marks of its children, other than the values
and what the dialect writes around a transaction.
-/

open Layout

variable {d : Dialect} {rejects : TransactionOptions → Prop}

namespace Node

/-- The marks of a node that are not those of its children. -/
def ownMarks (d : Dialect) : Node → Layout
  | .value v => [.placeholder v]
  | .statement (.begin options) => (d.beginTransaction options).marks
  | .statement .commit => d.commit.marks
  | .statement .rollback => d.rollback.marks
  | _ => []

/-- The marks of nodes one after another. -/
def marksOf (d : Dialect) (nodes : List Node) : Layout :=
  nodes.flatMap fun n => (n.layout d).marks

@[simp] theorem marksOf_nil : marksOf d [] = [] := rfl

@[simp] theorem marksOf_cons (n : Node) (rest : List Node) :
    marksOf d (n :: rest) = (n.layout d).marks ++ marksOf d rest := rfl

@[simp] theorem marksOf_append (first second : List Node) :
    marksOf d (first ++ second) = marksOf d first ++ marksOf d second := List.flatMap_append

@[simp] theorem marksOf_map {α : Type} (f : α → Node) (parts : List α) :
    marksOf d (parts.map f) = parts.flatMap fun part => ((f part).layout d).marks :=
  List.flatMap_map ..

@[simp] theorem marksOf_flatMap {α : Type} (f : α → List Node) (parts : List α) :
    marksOf d (parts.flatMap f) = parts.flatMap fun part => marksOf d (f part) :=
  List.flatMap_assoc ..

@[simp] theorem layout_element (e : Element) : (Node.element e).layout d = e.layout d := rfl

@[simp] theorem layout_query (q : Select) : (Node.query q).layout d = q.layout d := rfl

end Node

theorem Operator.allows_of_sound {op : Operator} {operands : List Expr}
    (sound : ¬(Node.expr (.operation op operands)).Flawed d rejects) :
    op.allows operands.length = true := by
  by_contra refused
  refine sound (.operandCount ?_)
  unfold allows at refused
  split at refused <;> simp_all

theorem Expr.inferredType?_eq_none {e : Expr} : e.inferredType? = none ↔ ¬e.IsTyped := by
  cases e with
  | value v =>
    rcases v with ⟨key, content⟩
    cases content <;> simp [inferredType?, DataType.ofValue?, IsTyped]
  | constant c => cases c <;> simp [inferredType?, Constant.dataType?, IsTyped]
  | _ => simp [inferredType?, IsTyped]

@[simp] theorem Layout.marks_ite (p : Prop) [Decidable p] (first second : Layout) :
    marks (if p then first else second) = if p then marks first else marks second :=
  apply_ite marks p first second

@[simp] theorem ColumnRef.marks_layout (c : ColumnRef) : c.layout.marks = [] := by
  rcases c with ⟨table, name⟩
  cases table <;> rfl

@[simp] theorem marks_negation (negated : Bool) : (negation negated).marks = [] := by
  cases negated <;> rfl

@[simp] theorem marks_labelled (inner : Layout) (label : Option String) :
    (labelled inner label).marks = inner.marks := by
  cases label <;> simp [labelled, clause, Piece.isMark]

@[simp] theorem WhenBranch.marks_layout (branch : WhenBranch) : (branch.layout d).marks =
    (branch.condition.layout d).marks ++ (branch.result.layout d).marks := by
  rcases branch with ⟨condition, result⟩
  simp [WhenBranch.layout, Piece.isMark]

theorem Expr.marks_layout {e : Expr} (sound : ¬(Node.expr e).Flawed d rejects) :
    (e.layout d).marks = Node.marksOf d e.children := by
  cases e with
  | column c => simp [Expr.layout, children, Element.layout]
  | value v => simp [Expr.layout, children, Element.layout]
  | constant c => simp [Expr.layout, children, Element.layout]
  | wildcard table => cases table <;> rfl
  | operation op operands =>
    simp [Expr.layout, Operator.layout, children, operandLayouts_eq_map, Element.layout,
      Operator.allows_of_sound sound, List.flatMap_map]
  | negate e => simp [Expr.layout, children, Element.layout, Piece.isMark]
  | call function arguments distinct =>
    simp [Expr.layout, children, Element.layout, layouts_eq_map, List.flatMap_map, Piece.isMark]
  | cast e target =>
    have typed : ∃ dataType, target.or e.inferredType? = some dataType := by
      cases target with
      | some dataType => exact ⟨dataType, rfl⟩
      | none =>
        refine Option.ne_none_iff_exists'.mp fun unknown => ?_
        exact sound (.noTarget (inferredType?_eq_none.mp unknown))
    obtain ⟨dataType, found⟩ := typed
    simp [Expr.layout, children, Element.layout, found, Piece.isMark]
  | case branches otherwise =>
    cases branches with
    | nil => exact absurd (.noBranch otherwise) sound
    | cons branch rest =>
      simp [Expr.layout, children, Element.layout, WhenBranch.layouts_eq_map, layout?_eq_map,
        Option.toList_map, List.flatMap_map, Piece.isMark]
  | subquery q => simp [Expr.layout, children]
  | raw sql => rfl

@[simp] theorem Junction.marks_layout (junction : Junction) (members : List Layout) :
    (junction.layout members).marks = members.flatMap marks := by
  cases members <;> simp [Junction.layout, Piece.isMark]

theorem Condition.marks_layout {c : Condition} (sound : ¬(Node.condition c).Flawed d rejects) :
    (c.layout d).marks = Node.marksOf d c.children := by
  cases c with
  | inList e items negated =>
    cases items with
    | nil => exact absurd (.noItems e negated) sound
    | cons item rest =>
      simp [Condition.layout, children, Element.layout, Expr.layouts_eq_map, List.flatMap_map,
        Piece.isMark]
  | group members junction nested =>
    simp [Condition.layout, children, Element.layout, memberLayouts_eq_map, List.flatMap_map]
  | _ => simp [Condition.layout, children, Element.layout, Piece.isMark]

theorem TableRef.marks_layout (t : TableRef) :
    (t.layout d).marks = Node.marksOf d t.children := by
  cases t <;> simp [TableRef.layout, children, Piece.isMark]

theorem Join.marks_layout {j : Join} (sound : ¬(Node.join j).Flawed d rejects) :
    (j.layout d).marks = Node.marksOf d j.children := by
  rcases j with ⟨kind, table, condition⟩
  cases condition with
  | some condition =>
    simp [Join.layout, Condition.layout?, children, Element.layout, Piece.isMark]
  | none =>
    have cross : kind = .cross :=
      by_contra fun conditional => sound (.noJoinCondition table conditional)
    simp [Join.layout, Condition.layout?, children, Element.layout, cross, Piece.isMark]

@[simp] theorem SelectItem.marks_layout (item : SelectItem) :
    (item.layout d).marks = (item.expr.layout d).marks := by
  rcases item with ⟨e, label⟩
  simp [SelectItem.layout]

@[simp] theorem SortKey.marks_layout (key : SortKey) :
    (key.layout d).marks = (key.expr.layout d).marks := by
  rcases key with ⟨e, direction⟩
  cases direction <;> simp [SortKey.layout, Layout.clause, Piece.isMark]

/-! ### Marks of queries -/

namespace QueryParts

variable (q : QueryParts)

@[simp] theorem marks_selectWords (top : Option UInt64) : (q.selectWords top).marks = [] := by
  cases top <;> simp [selectWords, Piece.isMark]

@[simp] theorem marks_projection : q.projection.marks = q.items.flatMap marks := by
  rcases q with ⟨distinct, items⟩
  cases items <;> simp [projection, Piece.isMark]

@[simp] theorem marks_sorting : q.sorting.marks = q.sortKeys.flatMap marks := by
  rcases q with ⟨distinct, items, clauses, sortKeys⟩
  cases sortKeys <;> simp [sorting, Piece.isMark]

@[simp] theorem marks_body (top : Option UInt64) :
    (q.body top).marks = q.items.flatMap marks ++ q.clauses.marks ++ q.sortKeys.flatMap marks := by
  simp [body]

@[simp] theorem marks_numberedBody :
    q.numberedBody.marks =
      q.items.flatMap marks ++ q.sortKeys.flatMap marks ++ q.clauses.marks := by
  rcases q with ⟨distinct, items, clauses, sortKeys⟩
  cases sortKeys <;> simp [numberedBody, Piece.isMark]

@[simp] theorem marks_fetchClause : q.fetchClause.marks = [] := by
  unfold fetchClause
  cases q.offset <;> cases q.limit <;> rfl

@[simp] theorem marks_limitClause (unbounded : Option String) :
    (q.limitClause unbounded).marks = [] := by
  unfold limitClause
  cases q.limit <;> cases q.offset <;> cases unbounded <;> rfl

@[simp] theorem marks_limitPairClause : q.limitPairClause.marks = [] := by
  unfold limitPairClause
  cases q.limit <;> cases q.offset <;> rfl

@[simp] theorem marks_rowNumberBounds : q.rowNumberBounds.marks = [] := by
  unfold rowNumberBounds
  cases q.limit <;> cases q.offset <;> rfl

@[simp] theorem marks_rowNumberLayout : q.rowNumberLayout.marks = q.numberedBody.marks := by
  simp [rowNumberLayout, Piece.isMark]

@[simp] theorem marks_rownumLayout : q.rownumLayout.marks = (q.body none).marks := by
  unfold rownumLayout
  cases q.limit <;> cases q.offset <;> simp [Piece.isMark]

theorem marks_topLayout :
    q.topLayout.marks = (q.body none).marks ++
      if q.offset.isSome ∧ q.sortKeys = [] then
        [.failure (.missingElement "SELECT" "ORDER BY for OFFSET paging")]
      else [] := by
  unfold topLayout
  cases q.offset <;> cases q.sortKeys <;> simp

theorem marks_layout (supported : q.offset.isSome → d.supportsOffset = true)
    (sorted : q.offset.isSome → d.paging = .top → q.sortKeys ≠ []) :
    (q.layout d).marks = q.items.flatMap marks ++
      if d.paging = .rowNumber && q.hasWindow then
        q.sortKeys.flatMap marks ++ q.clauses.marks
      else q.clauses.marks ++ q.sortKeys.flatMap marks := by
  have offered : (q.offset.isSome && !d.supportsOffset) = false := by
    cases skips : q.offset.isSome with
    | false => rfl
    | true => simp [supported skips]
  rw [layout, offered]
  cases paging : d.paging with
  | top =>
    have whole : ¬(q.offset.isSome ∧ q.sortKeys = []) := fun ⟨skips, unsorted⟩ =>
      sorted skips paging unsorted
    simp [marks_topLayout, whole]
  | rowNumber => cases q.hasWindow <;> simp
  | _ => simp

end QueryParts

namespace Select

theorem marks_clauses (q : Select) : (q.clauses d).marks = Node.marksOf d q.clauseNodes := by
  unfold clauses clauseNodes
  cases q.groupBy <;>
    simp [Element.layout, Option.toList_map, List.flatMap_map, Piece.isMark]

theorem marks_keys (q : Select) :
    (q.parts d).sortKeys.flatMap marks = Node.marksOf d q.keyNodes := by
  simp [parts, keyNodes, Element.layout, List.flatMap_map]

theorem marks_items (q : Select) :
    (q.parts d).items.flatMap marks = Node.marksOf d (q.items.map (.element ∘ .item)) := by
  simp [parts, Element.layout, List.flatMap_map]

theorem marks_layout {q : Select} (sound : ¬(Node.query q).Flawed d rejects) :
    (q.layout d).marks = Node.marksOf d (q.children d) := by
  have supported : q.offset.isSome → d.supportsOffset = true := by
    intro skips
    exact by_contra fun unsupported => sound (.offset skips (by simpa using unsupported))
  have sorted : q.offset.isSome → d.paging = .top → (q.parts d).sortKeys ≠ [] := by
    intro skips top unsorted
    exact sound (.unsortedOffset skips top (List.map_eq_nil_iff.mp unsorted))
  have written : (q.parts d).clauses = q.clauses d := rfl
  rw [layout_eq_parts, QueryParts.marks_layout (q.parts d) supported sorted, marks_keys,
    marks_items, written, marks_clauses, children, Node.marksOf_append]
  congr 1
  change (if q.sortsFirst d then _ else _) = _
  split <;> rw [Node.marksOf_append]

end Select

/-! ### Marks of statements -/

theorem marks_outputClause {columns : List String} (offered : columns ≠ [] → d.outputStyle ≠ .none)
    (source : String) : (outputClause d columns source).marks = [] := by
  unfold outputClause
  cases columns with
  | nil => rfl
  | cons column rest =>
    have style := offered (List.cons_ne_nil _ _)
    cases output : d.outputStyle with
    | none => exact absurd output style
    | output => simp [List.flatMap_map, Piece.isMark]
    | returning => rfl

@[simp] theorem marks_identifiers (names : List String) : (identifiers names).marks = [] := by
  simp [identifiers, List.flatMap_map, Piece.isMark]

@[simp] theorem marks_returningClause (columns : List String) :
    (returningClause d columns).marks = [] := by
  simp [returningClause, Piece.isMark]

@[simp] theorem marks_whereClause (filter : Option Condition) :
    (whereClause d filter).marks = Node.marksOf d (filter.toList.map .condition) := by
  simp [whereClause, Condition.layout?_eq_map, Option.toList_map, List.flatMap_map, Element.layout]

namespace Insert

theorem marks_rowsLayout {width : Nat} (index : Nat) {rows : List (List Expr)}
    (fits : ∀ row ∈ rows, width ≠ 0 → row.length = width) :
    (rowsLayout d width index rows).marks = Node.marksOf d (rows.flatten.map .expr) := by
  induction rows generalizing index with
  | nil => rfl
  | cons row rest ih =>
    have later := ih (index + 1) fun other member => fits other (List.mem_cons_of_mem _ member)
    have now : ¬(width ≠ 0 ∧ row.length ≠ width) := fun ⟨listed, wrong⟩ =>
      wrong (fits row List.mem_cons_self listed)
    simp [rowsLayout, now, later, Expr.layouts_eq_map, List.flatMap_map, Element.layout,
      Piece.isMark]

theorem marks_sourceLayout {s : Insert} (sound : ¬(Node.statement (.insert s)).Flawed d rejects) :
    (sourceLayout d s.columns s.source).marks = Node.marksOf d s.source.children := by
  cases source : s.source with
  | values rows =>
    cases rows with
    | nil =>
      have unlisted : s.columns = [] := by_contra fun listed => sound (.insertNothing source listed)
      simp [sourceLayout, unlisted, InsertSource.children, Piece.isMark]
    | cons row rest =>
      have fits : ∀ other ∈ row :: rest,
          s.columns.length ≠ 0 → other.length = s.columns.length := by
        intro other member listed
        refine by_contra fun wrong => sound (.rowWidth source member ?_ wrong)
        exact fun none => listed (List.length_eq_zero_iff.mpr none)
      simp only [sourceLayout, marks_cons, Piece.isMark, marks_rowsLayout 0 fits]
      rfl
  | query q => simp [sourceLayout, InsertSource.children, Piece.isMark]
  | defaults =>
    have unlisted : s.columns = [] := by_contra fun listed => sound (.insertDefaults source listed)
    simp [sourceLayout, unlisted, InsertSource.children, Piece.isMark]

theorem marks_layout {s : Insert} (sound : ¬(Node.statement (.insert s)).Flawed d rejects) :
    (s.layout d).marks = Node.marksOf d s.source.children := by
  obtain ⟨table, into⟩ : ∃ table, s.table = some table :=
    Option.ne_none_iff_exists'.mp fun nowhere => sound (.insertNowhere nowhere)
  have output := @marks_outputClause d s.returning
    (fun returning none => sound (.insertReturning returning none)) "INSERTED"
  simp [layout, into, output, marks_sourceLayout sound, Piece.isMark]

end Insert

theorem Update.marks_layout {s : Update} (sound : ¬(Node.statement (.update s)).Flawed d rejects) :
    (s.layout d).marks = Node.marksOf d (Statement.update s).children := by
  obtain ⟨table, into⟩ : ∃ table, s.table = some table :=
    Option.ne_none_iff_exists'.mp fun nowhere => sound (.updateNowhere nowhere)
  have assigned : s.assignments ≠ [] := fun nothing => sound (.updateNothing nothing)
  have output := @marks_outputClause d s.returning
    (fun returning none => sound (.updateReturning returning none)) "INSERTED"
  simp [layout, into, assigned, output, Statement.children, Assignment.layout, Element.layout,
    List.flatMap_map, Piece.isMark]

theorem Delete.marks_layout {s : Delete} (sound : ¬(Node.statement (.delete s)).Flawed d rejects) :
    (s.layout d).marks = Node.marksOf d (Statement.delete s).children := by
  obtain ⟨table, into⟩ : ∃ table, s.table = some table :=
    Option.ne_none_iff_exists'.mp fun nowhere => sound (.deleteNowhere nowhere)
  have output := @marks_outputClause d s.returning
    (fun returning none => sound (.deleteReturning returning none)) "DELETED"
  simp [layout, into, output, Statement.children, Element.layout, Piece.isMark]

theorem Compound.marks_layout {s : Compound}
    (sound : ¬(Node.statement (.compound s)).Flawed d rejects) :
    (s.layout d).marks = Node.marksOf d (Statement.compound s).children := by
  have enough : ¬s.members.length < 2 := fun few => sound (.fewMembers few)
  simp [layout, enough, Statement.children, List.flatMap_map]

@[simp] theorem ColumnDefinition.marks_layout (c : ColumnDefinition) : (c.layout d).marks = [] := by
  cases default : c.default <;> simp [layout, default, Layout.clause, Piece.isMark]

theorem CreateTable.marks_layout {s : CreateTable}
    (sound : ¬(Node.statement (.createTable s)).Flawed d rejects) :
    (s.layout d).marks = Node.marksOf d (Statement.createTable s).children := by
  have some : s.columns ≠ [] := fun nothing => sound (.noColumns nothing)
  simp [layout, some, Statement.children, Element.layout, List.flatMap_map, Piece.isMark]

theorem Statement.marks_layout {s : Statement} (sound : ¬(Node.statement s).Flawed d rejects) :
    (s.layout d).marks = (Node.statement s).ownMarks d ++ Node.marksOf d s.children := by
  cases s with
  | insert s => simp [layout, Insert.marks_layout sound, Node.ownMarks, children, Piece.isMark]
  | update s => simp [layout, Update.marks_layout sound, Node.ownMarks, Piece.isMark]
  | delete s => simp [layout, Delete.marks_layout sound, Node.ownMarks, Piece.isMark]
  | compound s => simp [layout, Compound.marks_layout sound, Node.ownMarks, Piece.isMark]
  | createTable s => simp [layout, CreateTable.marks_layout sound, Node.ownMarks, Piece.isMark]
  | dropTable s => simp [layout, DropTable.layout, Node.ownMarks, children, Piece.isMark]
  | _ => simp [layout, Node.ownMarks, children, Piece.isMark]

/-- What a node writes that matters to a pass is what its children write. -/
theorem Node.marks_layout {n : Node} (sound : ¬n.Flawed d rejects) :
    (n.layout d).marks = n.ownMarks d ++ marksOf d (n.children d) := by
  cases n with
  | element e =>
    cases e with
    | expr e => exact Expr.marks_layout sound
    | condition c => exact Condition.marks_layout sound
    | statement s => exact Statement.marks_layout sound
    | table t => exact TableRef.marks_layout t
    | join j => exact Join.marks_layout sound
    | statements ss =>
      simp [Element.layout, Statement.script, ownMarks, children, Element.children,
        List.flatMap_map]
    | _ => simp [Element.layout, ownMarks, children, Element.children, Piece.isMark]
  | query q => exact Select.marks_layout sound

end SqlBatch
