import SqlBatch.Proofs.Render.Draft
import SqlBatch.Statement.Draft

/-!
# Guarded queries

A query ends its statement wherever it stands, and each text that holds one keeps that end from
being written: `Select.inMode_draft` for the queries and `Statement.inMode_draft` for what is made
of them.
-/
namespace SqlBatch

open Layout

variable {d : Dialect} (mode : RenderMode)

/-! ### Pages -/

namespace QueryParts

variable (q : QueryParts)

@[simp] theorem inMode_selectWords (top : Option UInt64) :
    (q.selectWords top).draft.inMode mode = q.selectWords top := by
  refine Unended.inMode_draft mode ?_
  cases top <;> cases distinct : q.distinct <;> simp [selectWords, distinct]

@[simp] theorem inMode_fetchClause : q.fetchClause.draft.inMode mode = q.fetchClause := by
  refine Unended.inMode_draft mode ?_
  unfold fetchClause
  cases q.offset <;> cases q.limit <;> simp

@[simp] theorem inMode_limitClause (unbounded : Option String) :
    (q.limitClause unbounded).draft.inMode mode = q.limitClause unbounded := by
  refine Unended.inMode_draft mode ?_
  unfold limitClause
  cases q.limit <;> cases q.offset <;> cases unbounded <;> simp

@[simp] theorem inMode_limitPairClause :
    q.limitPairClause.draft.inMode mode = q.limitPairClause := by
  refine Unended.inMode_draft mode ?_
  unfold limitPairClause
  cases q.limit <;> cases q.offset <;> simp

@[simp] theorem inMode_rowNumberBounds :
    q.rowNumberBounds.draft.inMode mode = q.rowNumberBounds := by
  refine Unended.inMode_draft mode ?_
  unfold rowNumberBounds
  cases q.limit <;> cases q.offset <;> simp

end QueryParts

namespace QueryDraft

/-- The query as a mode leaves it. -/
def parts (q : QueryDraft) (mode : RenderMode) : QueryParts where
  distinct := q.distinct
  items := q.items.map (Draft.inMode mode)
  clauses := q.clauses.inMode mode
  sortKeys := q.sortKeys.map (Draft.inMode mode)
  limit := q.limit
  offset := q.offset

variable (q : QueryDraft)

theorem inMode_projection : q.projection.inMode mode = (q.parts mode).projection := by
  simp [projection, QueryParts.projection, parts, Draft.inMode_ite]

theorem inMode_body (top : Option UInt64) :
    (q.body top).inMode mode = (q.parts mode).body top := by
  have words : q.frame.selectWords top = (q.parts mode).selectWords top := rfl
  simp [body, QueryParts.body, words, inMode_projection, sorting, QueryParts.sorting, parts,
    Draft.inMode_ite]

theorem inMode_numberedBody : q.numberedBody.inMode mode = (q.parts mode).numberedBody := by
  have words : q.frame.selectWords none = (q.parts mode).selectWords none := rfl
  simp [numberedBody, QueryParts.numberedBody, words, inMode_projection, parts, Draft.inMode_ite]

variable {q} {parts : QueryParts}

/-- The wrapping query is written in the mode around it and the wrapped one in nested mode. -/
theorem inMode_windowed (same : ∀ mode, q.parts mode = parts) :
    (q.windowed d).inMode mode = parts.layout d := by
  have body (mode : RenderMode) (top : Option UInt64) :
      (q.body top).inMode mode = parts.body top := by rw [inMode_body, same]
  have numbered : q.numberedBody.inMode .nested = parts.numberedBody := by
    rw [inMode_numberedBody, same]
  obtain rfl := same .nested
  have unsorted : (q.parts .nested).sortKeys.isEmpty = q.sortKeys.isEmpty := List.isEmpty_map
  unfold windowed QueryParts.layout
  rw [Draft.inMode_ite, Draft.inMode_failure]
  refine ite_congr rfl (fun _ => rfl) fun _ => ?_
  cases d.paging with
  | fetchFirst =>
    simp only [Draft.inMode_append, body, QueryParts.inMode_fetchClause]
    rfl
  | top =>
    simp only [topDraft, QueryParts.topLayout, Draft.inMode_ite, Draft.inMode_append, body,
      Draft.inMode_failure, QueryParts.inMode_fetchClause, unsorted]
    rfl
  | limit =>
    simp only [Draft.inMode_append, body, QueryParts.inMode_limitClause]
    rfl
  | limitWithOffset =>
    simp only [Draft.inMode_append, body, QueryParts.inMode_limitPairClause]
    rfl
  | rowNumber =>
    simp only [Draft.inMode_ite, body]
    refine ite_congr rfl (fun _ => ?_) fun _ => rfl
    have bounds : (q.parts .nested).rowNumberBounds = q.frame.rowNumberBounds := rfl
    simp [rowNumberDraft, QueryParts.rowNumberLayout, numbered, bounds]
  | rowNumberAutomatic =>
    simp only [Draft.inMode_ite, body]
    refine ite_congr rfl (fun _ => ?_) fun _ => rfl
    have limit : (q.parts .nested).limit = q.limit := rfl
    have offset : (q.parts .nested).offset = q.offset := rfl
    unfold rownumDraft QueryParts.rownumLayout
    rw [limit, offset]
    cases q.limit <;> cases q.offset <;> simp [body]

end QueryDraft

/-! ### Trees -/

@[simp] theorem inMode_labelledDraft (inner : Draft) (label : Option String) :
    (labelledDraft inner label).inMode mode = labelled (inner.inMode mode) label := by
  cases label <;> simp [labelledDraft, labelled]

@[simp] theorem ColumnRef.inMode_draft (c : ColumnRef) : c.layout.draft.inMode mode = c.layout := by
  refine Unended.inMode_draft mode ?_
  rcases c with ⟨_ | table, name⟩ <;> simp [layout]

@[simp] theorem inMode_negation (negated : Bool) :
    (negation negated).draft.inMode mode = negation negated := by
  refine Unended.inMode_draft mode ?_
  cases negated <;> simp [negation]

@[simp] theorem Operator.inMode_draft (op : Operator) (operands : List Draft) :
    (op.draft d operands).inMode mode = op.layout d (operands.map (Draft.inMode mode)) := by
  simp [draft, layout, Draft.inMode_ite]

@[simp] theorem Junction.inMode_draft (junction : Junction) (members : List Draft) :
    (junction.draft members).inMode mode = junction.layout (members.map (Draft.inMode mode)) := by
  cases junction <;> simp [draft, layout, Draft.inMode_ite]

mutual

theorem Expr.inMode_draft (mode : RenderMode) : (e : Expr) → (e.draft d).inMode mode = e.layout d
  | .column c => by simp [Expr.draft, Expr.layout]
  | .value v => by simp [Expr.draft, Expr.layout]
  | .constant c => by simp [Expr.draft, Expr.layout]
  | .wildcard table => by cases table <;> simp [Expr.draft, Expr.layout]
  | .operation op operands => by
    simp [Expr.draft, Expr.layout, Expr.inMode_operandDrafts mode operands]
  | .negate e => by simp [Expr.draft, Expr.layout, Expr.inMode_draft mode e]
  | .call function arguments distinct => by
    cases distinct <;> simp [Expr.draft, Expr.layout, Expr.inMode_drafts mode arguments]
  | .cast e target => by
    rw [Expr.draft, Expr.layout]
    cases target.or e.inferredType? <;> simp [Expr.inMode_draft mode e]
  | .case branches otherwise => by
    simp [Expr.draft, Expr.layout, Draft.inMode_ite, WhenBranch.inMode_drafts mode branches,
      Expr.inMode_draft? mode otherwise]
  | .subquery q => by simp [Expr.draft, Expr.layout, Select.inMode_draft .nested q]
  | .raw sql => by simp [Expr.draft, Expr.layout]

theorem Expr.inMode_operandDrafts (mode : RenderMode) : (es : List Expr) →
    (Expr.operandDrafts d es).map (Draft.inMode mode) = Expr.operandLayouts d es
  | [] => by simp [Expr.operandDrafts, Expr.operandLayouts]
  | e :: rest => by
    simp [Expr.operandDrafts, Expr.operandLayouts, Expr.inMode_draft mode e,
      Expr.inMode_operandDrafts mode rest]

theorem Expr.inMode_drafts (mode : RenderMode) : (es : List Expr) →
    (Expr.drafts d es).map (Draft.inMode mode) = Expr.layouts d es
  | [] => by simp [Expr.drafts, Expr.layouts]
  | e :: rest => by
    simp [Expr.drafts, Expr.layouts, Expr.inMode_draft mode e, Expr.inMode_drafts mode rest]

theorem Expr.inMode_draft? (mode : RenderMode) : (e : Option Expr) →
    (Expr.draft? d e).map (Draft.inMode mode) = Expr.layout? d e
  | none => by simp [Expr.draft?, Expr.layout?]
  | some e => by simp [Expr.draft?, Expr.layout?, Expr.inMode_draft mode e]

theorem WhenBranch.inMode_draft (mode : RenderMode) : (b : WhenBranch) →
    (b.draft d).inMode mode = b.layout d
  | ⟨condition, result⟩ => by
    simp [WhenBranch.draft, WhenBranch.layout, Condition.inMode_draft mode condition,
      Expr.inMode_draft mode result]

theorem WhenBranch.inMode_drafts (mode : RenderMode) : (bs : List WhenBranch) →
    (WhenBranch.drafts d bs).map (Draft.inMode mode) = WhenBranch.layouts d bs
  | [] => by simp [WhenBranch.drafts, WhenBranch.layouts]
  | b :: rest => by
    simp [WhenBranch.drafts, WhenBranch.layouts, WhenBranch.inMode_draft mode b,
      WhenBranch.inMode_drafts mode rest]

theorem Condition.inMode_draft (mode : RenderMode) : (c : Condition) →
    (c.draft d).inMode mode = c.layout d
  | .compare left op right => by
    simp [Condition.draft, Condition.layout, Expr.inMode_draft mode left,
      Expr.inMode_draft mode right]
  | .isNull e negated => by simp [Condition.draft, Condition.layout, Expr.inMode_draft mode e]
  | .between e low high negated => by
    simp [Condition.draft, Condition.layout, Expr.inMode_draft mode e, Expr.inMode_draft mode low,
      Expr.inMode_draft mode high]
  | .inList e items negated => by
    simp [Condition.draft, Condition.layout, Draft.inMode_ite, Expr.inMode_draft mode e,
      Expr.inMode_drafts mode items]
  | .inQuery e q negated => by
    simp [Condition.draft, Condition.layout, Expr.inMode_draft mode e,
      Select.inMode_draft .nested q]
  | .like e pattern negated => by
    simp [Condition.draft, Condition.layout, Expr.inMode_draft mode e,
      Expr.inMode_draft mode pattern]
  | .existsIn q negated => by
    simp [Condition.draft, Condition.layout, Select.inMode_draft .nested q]
  | .not c => by simp [Condition.draft, Condition.layout, Condition.inMode_draft mode c]
  | .pair left right junction nested => by
    simp [Condition.draft, Condition.layout, Condition.inMode_draft mode left,
      Condition.inMode_draft mode right]
  | .group members junction nested => by
    simp [Condition.draft, Condition.layout, Condition.inMode_memberDrafts mode junction members]
  | .raw sql => by simp [Condition.draft, Condition.layout]

theorem Condition.inMode_memberDrafts (mode : RenderMode) (parent : Junction) :
    (cs : List Condition) →
    (Condition.memberDrafts d parent cs).map (Draft.inMode mode) =
      Condition.memberLayouts d parent cs
  | [] => by simp [Condition.memberDrafts, Condition.memberLayouts]
  | c :: rest => by
    simp [Condition.memberDrafts, Condition.memberLayouts, Condition.inMode_draft mode c,
      Condition.inMode_memberDrafts mode parent rest]

theorem Condition.inMode_draft? (mode : RenderMode) : (c : Option Condition) →
    (Condition.draft? d c).map (Draft.inMode mode) = Condition.layout? d c
  | none => by simp [Condition.draft?, Condition.layout?]
  | some c => by simp [Condition.draft?, Condition.layout?, Condition.inMode_draft mode c]

theorem SelectItem.inMode_draft (mode : RenderMode) : (i : SelectItem) →
    (i.draft d).inMode mode = i.layout d
  | ⟨e, label⟩ => by simp [SelectItem.draft, SelectItem.layout, Expr.inMode_draft mode e]

theorem SelectItem.inMode_drafts (mode : RenderMode) : (items : List SelectItem) →
    (SelectItem.drafts d items).map (Draft.inMode mode) = SelectItem.layouts d items
  | [] => by simp [SelectItem.drafts, SelectItem.layouts]
  | item :: rest => by
    simp [SelectItem.drafts, SelectItem.layouts, SelectItem.inMode_draft mode item,
      SelectItem.inMode_drafts mode rest]

theorem SortKey.inMode_draft (mode : RenderMode) : (k : SortKey) →
    (k.draft d).inMode mode = k.layout d
  | ⟨e, direction⟩ => by
    cases direction <;> simp [SortKey.draft, SortKey.layout, Expr.inMode_draft mode e]

theorem SortKey.inMode_drafts (mode : RenderMode) : (keys : List SortKey) →
    (SortKey.drafts d keys).map (Draft.inMode mode) = SortKey.layouts d keys
  | [] => by simp [SortKey.drafts, SortKey.layouts]
  | key :: rest => by
    simp [SortKey.drafts, SortKey.layouts, SortKey.inMode_draft mode key,
      SortKey.inMode_drafts mode rest]

theorem TableRef.inMode_draft (mode : RenderMode) : (t : TableRef) →
    (t.draft d).inMode mode = t.layout d
  | .named name label => by simp [TableRef.draft, TableRef.layout]
  | .derived q label => by simp [TableRef.draft, TableRef.layout, Select.inMode_draft .nested q]

theorem TableRef.inMode_draft? (mode : RenderMode) : (t : Option TableRef) →
    (TableRef.draft? d t).map (Draft.inMode mode) = TableRef.layout? d t
  | none => by simp [TableRef.draft?, TableRef.layout?]
  | some t => by simp [TableRef.draft?, TableRef.layout?, TableRef.inMode_draft mode t]

theorem Join.inMode_draft (mode : RenderMode) : (j : Join) → (j.draft d).inMode mode = j.layout d
  | ⟨kind, table, condition⟩ => by
    have asked := Condition.inMode_draft? mode condition
    rw [Join.draft, Join.layout, ← asked]
    cases Condition.draft? d condition <;>
      simp [TableRef.inMode_draft mode table, Draft.inMode_ite]

theorem Join.inMode_drafts (mode : RenderMode) : (joins : List Join) →
    (Join.drafts d joins).map (Draft.inMode mode) = Join.layouts d joins
  | [] => by simp [Join.drafts, Join.layouts]
  | join :: rest => by
    simp [Join.drafts, Join.layouts, Join.inMode_draft mode join, Join.inMode_drafts mode rest]

/-- A query ends its statement in the mode that has statements. -/
theorem Select.inMode_draft (mode : RenderMode) : (q : Select) →
    (q.draft d).inMode mode = q.layout d ++ Layout.inMode mode [.terminator]
  | ⟨distinct, items, source, joins, filter, groupBy, having, sortKeys, limit, offset⟩ => by
    rw [Select.draft, Select.layout, Draft.inMode_append, Draft.inMode_terminator]
    refine congrArg (· ++ _) (QueryDraft.inMode_windowed mode fun mode => ?_)
    simp [QueryDraft.parts, SelectItem.inMode_drafts mode items,
      TableRef.inMode_draft? mode source, Join.inMode_drafts mode joins,
      Condition.inMode_draft? mode filter, Expr.inMode_drafts mode groupBy,
      Condition.inMode_draft? mode having, SortKey.inMode_drafts mode sortKeys, Draft.inMode_ite]

end

/-! ### Statements -/

theorem unended_identifiers (names : List String) : (Layout.identifiers names).Unended := by
  simp [identifiers]

@[simp] theorem inMode_identifiers (names : List String) :
    (Layout.identifiers names).draft.inMode mode = Layout.identifiers names :=
  (unended_identifiers names).inMode_draft mode

@[simp] theorem inMode_outputClause (columns : List String) (source : String) :
    (outputClause d columns source).draft.inMode mode = outputClause d columns source := by
  refine Unended.inMode_draft mode ?_
  unfold outputClause
  split
  · simp
  · split <;> simp

@[simp] theorem inMode_returningClause (columns : List String) :
    (returningClause d columns).draft.inMode mode = returningClause d columns := by
  refine Unended.inMode_draft mode ?_
  unfold returningClause
  split
  · simp
  · simpa using unended_identifiers columns

namespace Insert

theorem inMode_rowsDraft (width index : Nat) (rows : List (List Expr)) :
    (rowsDraft d width index rows).inMode mode = rowsLayout d width index rows := by
  induction rows generalizing index with
  | nil => simp [rowsDraft, rowsLayout]
  | cons row rest ih =>
    simp [rowsDraft, rowsLayout, Draft.inMode_ite, Expr.inMode_drafts mode row, ih]

theorem inMode_sourceDraft (columns : List String) (source : InsertSource) :
    (sourceDraft d columns source).inMode mode = sourceLayout d columns source := by
  cases source with
  | values rows =>
    cases rows with
    | nil => simp [sourceDraft, sourceLayout, Draft.inMode_ite]
    | cons row rest => simp [sourceDraft, sourceLayout, inMode_rowsDraft]
  | query q => simp [sourceDraft, sourceLayout, Select.inMode_draft .nested q]
  | defaults => simp [sourceDraft, sourceLayout, Draft.inMode_ite]

theorem inMode_draft (s : Insert) :
    (s.draft d).inMode mode = s.layout d ++ Layout.inMode mode [.terminator] := by
  rw [draft, Draft.inMode_append, Draft.inMode_terminator, layout]
  cases s.table <;> simp [Draft.inMode_ite, inMode_sourceDraft]

end Insert

@[simp] theorem inMode_whereDraft (filter : Option Condition) :
    (whereDraft d filter).inMode mode = whereClause d filter := by
  simp [whereDraft, whereClause, Condition.inMode_draft? mode filter]

theorem Update.inMode_draft (s : Update) :
    (s.draft d).inMode mode = s.layout d ++ Layout.inMode mode [.terminator] := by
  have assigned : Draft.inMode mode ∘ Assignment.draft d = Assignment.layout d := by
    funext a
    simp [Assignment.draft, Assignment.layout, Expr.inMode_draft mode a.value]
  rw [draft, Draft.inMode_append, Draft.inMode_terminator, layout]
  cases s.table <;> simp [Draft.inMode_ite, assigned]

theorem Delete.inMode_draft (s : Delete) :
    (s.draft d).inMode mode = s.layout d ++ Layout.inMode mode [.terminator] := by
  rw [draft, Draft.inMode_append, Draft.inMode_terminator, layout]
  cases s.table <;> simp

/-- The members end no statement, in which mode ever the compound itself is. -/
theorem Compound.inMode_draft (s : Compound) :
    (s.draft d).inMode mode = s.layout d ++ Layout.inMode mode [.terminator] := by
  have member : Draft.inMode .multiStatement ∘ Select.draft d = Select.layout d := by
    funext q
    simp [Select.inMode_draft .multiStatement q]
  rw [draft, Draft.inMode_append, Draft.inMode_terminator, layout]
  simp [Draft.inMode_ite, Part.inMode, member]

theorem ColumnDefinition.unended_layout (c : ColumnDefinition) : (c.layout d).Unended := by
  unfold layout
  cases c.primaryKey <;> cases c.nullable <;> cases c.unique <;> cases c.default <;> simp

theorem CreateTable.unended_layout (s : CreateTable) : (s.layout d).Unended := by
  have columns : ∀ c ∈ s.columns, (c.layout d).Unended := fun c _ => c.unended_layout
  unfold layout
  split
  · simp
  · cases s.ifNotExists <;> simpa using columns

theorem DropTable.unended_layout (s : DropTable) : s.layout.Unended := by
  unfold layout
  cases s.ifExists <;> simp

/-! ### Elements -/

theorem Statement.inMode_draft (t : Statement) : (t.draft d).inMode .statement = t.layout d := by
  cases t with
  | select q => exact q.inMode_draft .statement
  | insert t => exact t.inMode_draft .statement
  | update t => exact t.inMode_draft .statement
  | delete t => exact t.inMode_draft .statement
  | compound t => exact t.inMode_draft .statement
  | createTable t => simp [draft, layout, Layout.inMode_draft, Part.inMode, inMode_statement]
  | dropTable t => simp [draft, layout, Layout.inMode_draft, Part.inMode, inMode_statement]
  | raw sql => simp [draft, layout, Part.inMode, inMode_statement]
  | _ => exact Layout.inMode_draft .statement _

/-- Whether an element is made of whole statements. -/
def Element.isStatement : Element → Bool
  | .statement _ | .statements _ => true
  | _ => false

/-- What is part of a statement is written alike in every mode. -/
theorem Element.inMode_draft {e : Element} (part : e.isStatement = false) :
    (e.draft d).inMode mode = e.layout d := by
  cases e with
  | expr e => exact e.inMode_draft mode
  | condition c => exact c.inMode_draft mode
  | statement | statements => cases part
  | item i => exact i.inMode_draft mode
  | sortKey k => exact k.inMode_draft mode
  | table t => exact t.inMode_draft mode
  | join j => exact j.inMode_draft mode
  | column c => exact c.inMode_draft mode
  | columnDefinition c => exact c.unended_layout.inMode_draft mode
  | value v => simp [draft, layout]
  | constant c => simp [draft, layout]

theorem Element.unended_layout {e : Element} (part : e.isStatement = false) :
    (e.layout d).Unended := by
  rw [← Element.inMode_draft .nested part]
  exact Draft.unended_inMode RenderMode.noConfusion _

/-- A whole pass over a draft, outside of other modes, is one over the layout. -/
theorem Element.pass_statement (e : Element) (scope : Scope) :
    (e.draft d).pass d .statement scope = (e.layout d).renderIn d scope := by
  rw [Draft.pass_eq]
  cases part : e.isStatement with
  | false => rw [Element.inMode_draft .statement part]
  | true =>
    cases e with
    | statement t => exact congrArg (Layout.renderIn · d scope) t.inMode_draft
    | statements ts =>
      simp [draft, layout, Statement.script, Function.comp_def, Statement.inMode_draft]
    | _ => cases part

end SqlBatch
