import SqlBatch.Dialect.Sqlite
import SqlBatch.Proofs.Tree.Flaws

/-!
# Which trees render

With every dialect there is, a tree renders exactly if no part of it is flawed: `renders_iff`.
-/
namespace SqlBatch

open Layout

variable {d : Dialect} {rejects : TransactionOptions → Prop}

/-! ### A flaw is a failure -/

namespace Layout

/-- A layout that does not come to its end. -/
def Fails (layout : Layout) : Prop := ∃ e, .failure e ∈ layout

@[simp] theorem fails_nil : ¬Fails [] := fun ⟨_, inside⟩ => by cases inside

@[simp] theorem fails_cons (piece : Piece) (rest : Layout) :
    Fails (piece :: rest) ↔ (∃ e, piece = .failure e) ∨ Fails rest := by
  simp [Fails, List.mem_cons, exists_or, eq_comm]

@[simp] theorem fails_append (first second : Layout) :
    Fails (first ++ second) ↔ Fails first ∨ Fails second := by
  simp [Fails, List.mem_append, exists_or]

@[simp] theorem fails_failure (e : Error) : Fails (failure e) := ⟨e, List.mem_singleton.mpr rfl⟩

end Layout

theorem Insert.fails_rowsLayout {width : Nat} (index : Nat) {rows : List (List Expr)}
    {row : List Expr} (member : row ∈ rows) (listed : width ≠ 0) (wrong : row.length ≠ width) :
    (rowsLayout d width index rows).Fails := by
  induction rows generalizing index with
  | nil => cases member
  | cons first rest ih =>
    rw [rowsLayout, fails_append, fails_append, fails_append]
    rcases List.mem_cons.mp member with rfl | later
    · rw [if_pos ⟨listed, wrong⟩]
      exact .inl (.inl (.inl (fails_failure _)))
    · exact .inr (ih (index + 1) later)

/-- An insertion into a table fails with its output clause or its source. -/
theorem Insert.fails_layout {s : Insert}
    (part : (outputClause d s.returning "INSERTED").Fails ∨
      (sourceLayout d s.columns s.source).Fails) : (s.layout d).Fails := by
  unfold layout
  cases s.table with
  | none => exact fails_failure _
  | some table =>
    simp only [fails_cons, fails_append]
    tauto

theorem fails_outputClause {columns : List String} (returning : columns ≠ [])
    (none : d.outputStyle = .none) (source : String) : (outputClause d columns source).Fails := by
  simp [outputClause, returning, none]

theorem Operator.not_allows {op : Operator} {operands : Nat}
    (wrong : if op.isVariadic then operands < 2 else operands ≠ 2) :
    op.allows operands = false := by
  unfold allows
  split at wrong <;> simp_all

/-- A node with a flaw fails if the dialect refuses what it is said to reject. -/
theorem Node.Flawed.fails {n : Node} (flawed : n.Flawed d rejects)
    (refuses : ∀ options, rejects options → (d.beginTransaction options).Fails) :
    (n.layout d).Fails := by
  cases flawed with
  | operandCount wrong =>
    have refused := Operator.not_allows wrong
    simp [Element.layout, Expr.layout, Operator.layout, Expr.operandLayouts_eq_map, refused]
  | noBranch otherwise => simp [Element.layout, Expr.layout]
  | noTarget untyped =>
    simp [Element.layout, Expr.layout, Expr.inferredType?_eq_none.mpr untyped]
  | noItems e negated => simp [Element.layout, Condition.layout]
  | noJoinCondition table conditional =>
    simp [Element.layout, Join.layout, Condition.layout?, conditional]
  | @offset q skips unsupported =>
    simp [Select.layout_eq_parts, QueryParts.layout, Select.parts, skips, unsupported]
  | @unsortedOffset q skips top unsorted =>
    have keys : (q.parts d).sortKeys = [] := by simp [Select.parts, unsorted]
    obtain ⟨count, some⟩ := Option.isSome_iff_exists.mp skips
    have skipped : (q.parts d).offset = .some count := some
    rw [layout_query, Select.layout_eq_parts, QueryParts.layout, top]
    cases d.supportsOffset <;> simp [QueryParts.topLayout, keys, skipped]
  | fewMembers few => simp [Element.layout, Statement.layout, Compound.layout, few]
  | insertNowhere nowhere => simp [Element.layout, Statement.layout, Insert.layout, nowhere]
  | @insertNothing s nothing listed =>
    have source : (Insert.sourceLayout d s.columns s.source).Fails := by
      simp [Insert.sourceLayout, nothing, listed]
    simp [Element.layout, Statement.layout, Insert.fails_layout (.inr source)]
  | @insertDefaults s defaults listed =>
    have source : (Insert.sourceLayout d s.columns s.source).Fails := by
      simp [Insert.sourceLayout, defaults, listed]
    simp [Element.layout, Statement.layout, Insert.fails_layout (.inr source)]
  | @rowWidth s rows row source member listed wrong =>
    have width : s.columns.length ≠ 0 := fun none => listed (List.length_eq_zero_iff.mp none)
    have rowsFail := Insert.fails_rowsLayout (d := d) 0 member width wrong
    have source : (Insert.sourceLayout d s.columns s.source).Fails := by
      obtain ⟨first, rest, rfl⟩ := List.exists_cons_of_ne_nil (List.ne_nil_of_mem member)
      simp [Insert.sourceLayout, source, rowsFail]
    simp [Element.layout, Statement.layout, Insert.fails_layout (.inr source)]
  | updateNowhere nowhere => simp [Element.layout, Statement.layout, Update.layout, nowhere]
  | @updateNothing s nothing =>
    cases table : s.table <;>
      simp [Element.layout, Statement.layout, Update.layout, nothing, table]
  | deleteNowhere nowhere => simp [Element.layout, Statement.layout, Delete.layout, nowhere]
  | insertReturning returning none =>
    have output := fails_outputClause returning none "INSERTED"
    simp [Element.layout, Statement.layout, Insert.fails_layout (.inl output)]
  | @updateReturning s returning none =>
    have output := fails_outputClause returning none "INSERTED"
    cases table : s.table <;> cases assigned : s.assignments <;>
      simp [Element.layout, Statement.layout, Update.layout, table, assigned, output]
  | @deleteReturning s returning none =>
    have output := fails_outputClause returning none "DELETED"
    cases table : s.table <;>
      simp [Element.layout, Statement.layout, Delete.layout, table, output]
  | noColumns nothing => simp [Element.layout, Statement.layout, CreateTable.layout, nothing]
  | begin rejected => exact refuses _ rejected

/-! ### Failures are structural -/

/-- Every failure in the layout is structural or one of the nodes' own. -/
def Layout.FailsBy (d : Dialect) (nodes : List Node) (layout : Layout) : Prop :=
  ∀ e, .failure e ∈ layout → e.isStructural = true ∨ .failure e ∈ Node.marksOf d nodes

namespace Layout

variable {nodes : List Node} {layout : Layout}

theorem failsBy_of_marks (inside : layout.marks ⊆ Node.marksOf d nodes) : FailsBy d nodes layout :=
  fun _ failure => .inr (inside (mem_marks_failure.mpr failure))

theorem failsBy_failure {e : Error} (structural : e.isStructural = true) :
    FailsBy d nodes (failure e) := by
  intro e' member
  obtain rfl : e' = e := Piece.failure.inj (List.mem_singleton.mp member)
  exact .inl structural

theorem failsBy_append {first second : Layout} (left : FailsBy d nodes first)
    (right : FailsBy d nodes second) : FailsBy d nodes (first ++ second) := fun e member =>
  (List.mem_append.mp member).elim (left e) (right e)

theorem failsBy_cons {piece : Piece} (writes : piece.isMark = false)
    (later : FailsBy d nodes layout) : FailsBy d nodes (piece :: layout) := by
  intro e member
  rcases List.mem_cons.mp member with rfl | inside
  · cases writes
  · exact later e inside

end Layout

theorem failsBy_outputClause (columns : List String) (source : String) (nodes : List Node) :
    (outputClause d columns source).FailsBy d nodes := by
  by_cases refused : columns ≠ [] ∧ d.outputStyle = .none
  · obtain ⟨returning, none⟩ := refused
    simp only [outputClause, List.isEmpty_iff, returning, if_false, none]
    exact failsBy_failure rfl
  · refine failsBy_of_marks ?_
    rw [marks_outputClause fun returning none => refused ⟨returning, none⟩]
    exact List.nil_subset _

theorem Insert.failsBy_rowsLayout {nodes : List Node} (width index : Nat) {rows : List (List Expr)}
    (inside : Node.marksOf d (rows.flatten.map .expr) ⊆ Node.marksOf d nodes) :
    (rowsLayout d width index rows).FailsBy d nodes := by
  induction rows generalizing index with
  | nil => exact failsBy_of_marks (List.nil_subset _)
  | cons row rest ih =>
    simp only [List.flatten_cons, List.map_append, Node.marksOf_append,
      List.append_subset] at inside
    refine failsBy_append (failsBy_append (failsBy_append ?_ ?_) ?_) (ih (index + 1) inside.2)
    · split
      · exact failsBy_failure rfl
      · exact failsBy_of_marks (List.nil_subset _)
    · exact failsBy_of_marks (by split <;> exact List.nil_subset _)
    · refine failsBy_of_marks ?_
      simpa [Expr.layouts_eq_map, List.flatMap_map, Element.layout] using inside.1

theorem Insert.failsBy_sourceLayout (columns : List String) (source : InsertSource) :
    (sourceLayout d columns source).FailsBy d source.children := by
  cases source with
  | values rows =>
    cases rows with
    | nil =>
      cases columns with
      | nil => exact failsBy_of_marks (List.nil_subset _)
      | cons column rest => exact failsBy_failure rfl
    | cons row rest => exact failsBy_cons rfl (failsBy_rowsLayout _ 0 (List.Subset.refl _))
  | query q =>
    refine failsBy_cons rfl (failsBy_of_marks ?_)
    simp [InsertSource.children]
  | defaults =>
    cases columns with
    | nil => exact failsBy_of_marks (List.nil_subset _)
    | cons column rest => exact failsBy_failure rfl

theorem Insert.failsBy_layout (s : Insert) : (s.layout d).FailsBy d s.source.children := by
  unfold layout
  cases s.table with
  | none => exact failsBy_failure rfl
  | some table =>
    refine failsBy_cons rfl (failsBy_cons rfl ?_)
    refine failsBy_append (failsBy_append (failsBy_append ?_ ?_) ?_) ?_
    · exact failsBy_of_marks (by simp [Piece.isMark])
    · exact failsBy_outputClause s.returning "INSERTED" _
    · exact failsBy_sourceLayout s.columns s.source
    · exact failsBy_of_marks (by simp)

theorem Update.failsBy_layout (s : Update) :
    (s.layout d).FailsBy d (Statement.update s).children := by
  unfold layout
  cases s.table with
  | none => exact failsBy_failure rfl
  | some table =>
    dsimp only
    split
    · exact failsBy_failure rfl
    · refine failsBy_cons rfl (failsBy_cons rfl (failsBy_cons rfl ?_))
      refine failsBy_append (failsBy_append (failsBy_append ?_ ?_) ?_) ?_
      · refine failsBy_of_marks ?_
        simp [Statement.children, Assignment.layout, Element.layout, List.flatMap_map, Piece.isMark]
      · exact failsBy_outputClause s.returning "INSERTED" _
      · exact failsBy_of_marks (by simp [Statement.children])
      · exact failsBy_of_marks (by simp)

theorem Delete.failsBy_layout (s : Delete) :
    (s.layout d).FailsBy d (Statement.delete s).children := by
  unfold layout
  cases s.table with
  | none => exact failsBy_failure rfl
  | some table =>
    refine failsBy_cons rfl (failsBy_cons rfl ?_)
    refine failsBy_append (failsBy_append ?_ ?_) ?_
    · exact failsBy_outputClause s.returning "DELETED" _
    · exact failsBy_of_marks (by simp [Statement.children])
    · exact failsBy_of_marks (by simp)

theorem Select.failsBy_topLayout {q : Select} (top : d.paging = .top) :
    (q.parts d).topLayout.FailsBy d (q.children d) := by
  have keysLast : q.sortsFirst d = false := by simp [sortsFirst, top]
  have body : ((q.parts d).body none).marks = Node.marksOf d (q.children d) := by
    rw [QueryParts.marks_body, marks_keys, marks_items, children, keysLast]
    simp only [Bool.false_eq_true, if_false, Node.marksOf_append, ← marks_clauses,
      List.append_assoc]
    rfl
  intro e failure
  have mark := mem_marks_failure.mpr failure
  rw [QueryParts.marks_topLayout, List.mem_append, body] at mark
  rcases mark with inside | own
  · exact .inr inside
  · split at own
    · obtain rfl := Piece.failure.inj (List.mem_singleton.mp own)
      exact .inl rfl
    · cases own

/-- A dialect that refuses to begin certain transactions, with structural errors, and writes
nothing but texts around all others. -/
structure Dialect.Refuses (d : Dialect) (rejects : TransactionOptions → Prop) : Prop where
  rejected : ∀ options, rejects options →
    ∃ e : Error, e.isStructural = true ∧ (d.beginTransaction options).marks = failure e
  accepted : ∀ options, ¬rejects options → (d.beginTransaction options).marks = []
  commit : d.commit.marks = []
  rollback : d.rollback.marks = []

theorem Dialect.Refuses.fails (refuses : d.Refuses rejects) {options : TransactionOptions}
    (rejected : rejects options) : (d.beginTransaction options).Fails := by
  obtain ⟨e, -, marks⟩ := refuses.rejected options rejected
  exact ⟨e, mem_marks_failure.mp (marks ▸ List.mem_singleton.mpr rfl)⟩

theorem Node.marks_eq_of_sound (refuses : d.Refuses rejects) {n : Node}
    (sound : ¬n.Flawed d rejects) {e : Error} (failing : .failure e ∈ n.layout d) :
    .failure e ∈ marksOf d (n.children d) := by
  have mark := mem_marks_failure.mpr failing
  rw [marks_layout sound, List.mem_append] at mark
  refine mark.resolve_left fun own => ?_
  unfold ownMarks at own
  split at own
  · cases List.mem_singleton.mp own
  · rename_i options
    rw [refuses.accepted options fun rejected => sound (.begin rejected)] at own
    cases own
  · rw [refuses.commit] at own
    cases own
  · rw [refuses.rollback] at own
    cases own
  · cases own

theorem Node.failsBy_layout (refuses : d.Refuses rejects) (n : Node) :
    (n.layout d).FailsBy d (n.children d) := by
  by_cases flawed : n.Flawed d rejects
  · cases flawed with
    | operandCount wrong =>
      have refused := Operator.not_allows wrong
      simp only [layout_element, Element.layout, Expr.layout, Operator.layout,
        Expr.operandLayouts_eq_map, List.length_map, refused]
      exact failsBy_failure rfl
    | noBranch otherwise => exact failsBy_failure rfl
    | noTarget untyped =>
      simp only [layout_element, Element.layout, Expr.layout, Option.none_or,
        Expr.inferredType?_eq_none.mpr untyped]
      exact failsBy_failure rfl
    | noItems e negated => exact failsBy_failure rfl
    | noJoinCondition table conditional =>
      simp only [layout_element, Element.layout, Join.layout, Condition.layout?, conditional,
        if_false]
      refine failsBy_append (failsBy_of_marks ?_) (failsBy_failure rfl)
      simp [children, Element.children, Join.children, Element.layout, Piece.isMark]
    | @offset q skips unsupported =>
      simp only [layout_query, Select.layout_eq_parts, QueryParts.layout, Select.parts, skips,
        unsupported]
      exact failsBy_failure rfl
    | @unsortedOffset q skips top unsorted =>
      rw [layout_query, Select.layout_eq_parts, QueryParts.layout, top]
      split
      · exact failsBy_failure rfl
      · exact Select.failsBy_topLayout top
    | fewMembers few =>
      simp only [layout_element, Element.layout, Statement.layout, Compound.layout, few, if_true]
      exact failsBy_append (failsBy_failure rfl) (failsBy_of_marks (List.nil_subset _))
    | insertNowhere | insertNothing | insertDefaults | rowWidth | insertReturning =>
      exact failsBy_append (Insert.failsBy_layout _) (failsBy_of_marks (List.nil_subset _))
    | updateNowhere | updateNothing | updateReturning =>
      exact failsBy_append (Update.failsBy_layout _) (failsBy_of_marks (List.nil_subset _))
    | deleteNowhere | deleteReturning =>
      exact failsBy_append (Delete.failsBy_layout _) (failsBy_of_marks (List.nil_subset _))
    | noColumns nothing =>
      simp only [layout_element, Element.layout, Statement.layout, CreateTable.layout, nothing]
      exact failsBy_append (failsBy_failure rfl) (failsBy_of_marks (List.nil_subset _))
    | @begin options rejected =>
      obtain ⟨e, structural, marks⟩ := refuses.rejected options rejected
      intro e' failing
      have own : .failure e' ∈ failure e := marks ▸ mem_marks_failure.mpr failing
      obtain rfl := Piece.failure.inj (List.mem_singleton.mp own)
      exact .inl structural
  · exact fun e failing => .inr (marks_eq_of_sound refuses flawed failing)

/-! ### Whole trees -/

theorem Node.isStructural_of_failure (refuses : d.Refuses rejects) (n : Node) {e : Error}
    (failure : .failure e ∈ n.layout d) : e.isStructural = true := by
  induction n using fromChildren d with
  | step n ih =>
    rcases failsBy_layout refuses n e failure with own | inherited
    · exact own
    · obtain ⟨c, inside, mark⟩ := List.mem_flatMap.mp inherited
      exact ih c inside (mem_marks_failure.mp mark)

/-- What fails in a tree is a flawed part of it. -/
theorem Node.fails_iff (refuses : d.Refuses rejects) (n : Node) :
    (n.layout d).Fails ↔ ∃ p : Node, p.PartOf d n ∧ p.Flawed d rejects := by
  constructor
  · induction n using fromChildren d with
    | step n ih =>
      intro ⟨e, failing⟩
      by_cases flawed : n.Flawed d rejects
      · exact ⟨n, .self, flawed⟩
      · obtain ⟨c, inside, mark⟩ := List.mem_flatMap.mp (marks_eq_of_sound refuses flawed failing)
        obtain ⟨p, part, flawed⟩ := ih c inside ⟨e, mem_marks_failure.mp mark⟩
        exact ⟨p, .child inside part, flawed⟩
  · rintro ⟨p, part, flawed⟩
    induction part with
    | self => exact flawed.fails fun _ => refuses.fails
    | @child c n inside part ih =>
      -- A node with a flaw of its own may fail before it comes to the child.
      by_cases spoiled : n.Flawed d rejects
      · exact spoiled.fails fun _ => refuses.fails
      · obtain ⟨e, failing⟩ := ih
        refine ⟨e, mem_marks_failure.mp ?_⟩
        rw [marks_layout spoiled, List.mem_append]
        exact .inr (List.mem_flatMap.mpr ⟨c, inside, mem_marks_failure.mpr failing⟩)

/-! ### The dialects -/

inductive ShippedDialect
  | generic
  | custom (config : DialectConfig)
  | sqlite

/-- The options that a syntax has no words for. -/
def TransactionSyntax.Rejects : TransactionSyntax → TransactionOptions → Prop
  | startTransaction, options | beginWithModes, options => options.isolation = some .snapshot
  | setThenBegin, options => options.readOnly = true

namespace ShippedDialect

def dialect : ShippedDialect → Dialect
  | generic => .generic
  | custom config => .custom config
  | sqlite => .sqlite

def Rejects : ShippedDialect → TransactionOptions → Prop
  | generic => TransactionSyntax.startTransaction.Rejects
  | custom config => config.transactionSyntax.Rejects
  | sqlite => fun options =>
    options.readOnly = true ∨ ¬(options.isolation = none ∨ options.isolation = some .serializable)

end ShippedDialect

theorem TransactionSyntax.marks_beginning_of_rejects {form : TransactionSyntax} {name : String}
    {options : TransactionOptions} (rejected : form.Rejects options) :
    ∃ e : Error, e.isStructural = true ∧ (form.beginning name options).marks = failure e := by
  cases form with
  | startTransaction =>
    refine ⟨.unsupportedFeature name "SNAPSHOT isolation", rfl, ?_⟩
    have snapshot : options.isolation = some .snapshot := rejected
    simp only [beginning, startLayout, if_pos snapshot]
    rfl
  | beginWithModes =>
    refine ⟨.unsupportedFeature name "SNAPSHOT isolation", rfl, ?_⟩
    have snapshot : options.isolation = some .snapshot := rejected
    simp only [beginning, beginLayout, if_pos snapshot]
    rfl
  | setThenBegin =>
    refine ⟨.unsupportedFeature name "read-only transactions", rfl, ?_⟩
    have readOnly : options.readOnly = true := rejected
    simp only [beginning, setLayout, if_pos readOnly]
    rfl

theorem TransactionSyntax.marks_beginning {form : TransactionSyntax} {options : TransactionOptions}
    (accepted : ¬form.Rejects options) (name : String) :
    (form.beginning name options).marks = [] := by
  cases form with
  | startTransaction =>
    have level : ¬options.isolation = some .snapshot := accepted
    simp only [beginning, startLayout, if_neg level]
    simp [Piece.isMark]
  | beginWithModes =>
    have level : ¬options.isolation = some .snapshot := accepted
    simp only [beginning, beginLayout, if_neg level]
    cases options.isolation <;> simp [Piece.isMark]
  | setThenBegin =>
    have writes : ¬options.readOnly = true := accepted
    simp only [beginning, setLayout, if_neg writes]
    cases options.isolation <;> simp [Piece.isMark]

/-- A dialect that spells transactions in one of the three ways. -/
theorem TransactionSyntax.refuses (form : TransactionSyntax) (name : String)
    (begins : d.beginTransaction = form.beginning name) (commits : d.commit = form.commit)
    (rollsBack : d.rollback = form.rollback) : d.Refuses form.Rejects where
  rejected options rejected := begins ▸ marks_beginning_of_rejects rejected
  accepted options accepted := begins ▸ marks_beginning accepted name
  commit := by cases form <;> rw [commits] <;> rfl
  rollback := by cases form <;> rw [rollsBack] <;> rfl

theorem ShippedDialect.refuses (s : ShippedDialect) : s.dialect.Refuses s.Rejects := by
  cases s with
  | generic => exact TransactionSyntax.refuses .startTransaction "generic" rfl rfl rfl
  | custom config => exact config.transactionSyntax.refuses config.name rfl rfl rfl
  | sqlite =>
    refine ⟨fun options rejected => ?_, fun options accepted => ?_, rfl, rfl⟩
    · by_cases readOnly : options.readOnly = true
      · refine ⟨.unsupportedFeature "sqlite" "read-only transactions", rfl, ?_⟩
        simp [dialect, Dialect.sqlite, Dialect.sqliteBegin, readOnly, Layout.failure, Piece.isMark]
      · have level := rejected.resolve_left readOnly
        refine ⟨.unsupportedFeature "sqlite" "isolation levels other than SERIALIZABLE", rfl, ?_⟩
        simp [dialect, Dialect.sqlite, Dialect.sqliteBegin, readOnly, level, Layout.failure,
          Piece.isMark]
    · obtain ⟨writes, level⟩ := not_or.mp accepted
      simp only [dialect, Dialect.sqlite, Dialect.sqliteBegin, if_neg writes,
        if_pos (not_not.mp level)]
      rfl

theorem Layout.failure?_eq_none {layout : Layout} : layout.failure? = none ↔ ¬layout.Fails := by
  induction layout with
  | nil => simp [failure?]
  | cons piece rest ih => cases piece <;> simp [failure?, ih]

theorem Layout.mem_of_failure? {layout : Layout} {e : Error} (first : layout.failure? = some e) :
    .failure e ∈ layout := by
  induction layout with
  | nil => cases first
  | cons piece rest ih =>
    cases piece with
    | failure other =>
      obtain rfl := Option.some.inj first
      exact List.mem_cons_self
    | _ => exact List.mem_cons_of_mem _ (ih first)

/-- Whether a context can write a layout does not depend on the context. -/
theorem Context.outcome_emit (ctx : Context) (layout : Layout) :
    (ctx.emit layout).2 = layout.outcome := by
  induction layout generalizing ctx with
  | nil => rfl
  | cons piece rest ih =>
    cases piece with
    | failure e => rfl
    | _ => exact ih _

/-- In any context, of whatever mode and scope, a node renders exactly if no part of it is flawed,
and a node that does not render fails for a structural reason. -/
theorem renders_iff (s : ShippedDialect) (ctx : Context) (n : Node) :
    let outcome := (({ ctx with dialect := s.dialect } : Context).emit (n.layout s.dialect)).2
    (outcome = .ok () ↔ ∀ p : Node, p.PartOf s.dialect n → ¬p.Flawed s.dialect s.Rejects) ∧
      ∀ e, outcome = .error e → e.isStructural = true := by
  have fails := Node.fails_iff s.refuses n
  dsimp only
  rw [Context.outcome_emit, outcome]
  cases first : (n.layout s.dialect).failure? with
  | none =>
    have whole := Layout.failure?_eq_none.mp first
    refine ⟨⟨fun _ p part flawed => whole (fails.mpr ⟨p, part, flawed⟩), fun _ => rfl⟩, ?_⟩
    intro e wrong
    cases wrong
  | some e =>
    have failing := Layout.mem_of_failure? first
    obtain ⟨p, part, flawed⟩ := fails.mp ⟨e, failing⟩
    refine ⟨⟨fun right => ?_, fun sound => absurd flawed (sound p part)⟩, fun e' same => ?_⟩
    · cases right
    · obtain rfl := Except.error.inj same
      exact n.isStructural_of_failure s.refuses failing

end SqlBatch
