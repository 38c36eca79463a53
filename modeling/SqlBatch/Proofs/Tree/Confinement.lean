import SqlBatch.Command
import SqlBatch.Proofs.Text.Dialects
import SqlBatch.Proofs.Tree.Node

/-!
# Confinement

Whatever the names and strings of a tree are, a lexer that reads its text back finds the statements
where they end and nothing else: `confined`.
-/
namespace SqlBatch

open Scan Reading

/-! ### Nodes -/

/-- A node without a text from outside, other than harmless words for a function or a type. -/
def Node.IsTame (q : QuotePair) : Node → Prop
  | .expr (.raw _) | .condition (.raw _) | .statement (.raw _) => False
  | .expr (.call function _ _) => IsWord q function
  | .expr (.cast _ target) => ∀ t ∈ target, t.IsTame q
  | .element (.columnDefinition c) => c.dataType.IsTame q
  | _ => True

/-- Statements are read back from one place outside of parentheses to another, and all other nodes
wherever they stand. -/
def Node.Confined (g : Reading) : Node → Prop
  | .statement s => g.Script (s.layout g.dialect)
  | .element (.statements ss) => g.Script (Statement.script g.dialect ss)
  | n => g.Phrase (n.layout g.dialect)

variable {g : Reading}

namespace Reading

theorem turns_spaced {w : String} (word : IsWord g.style.pair w) :
    Turns g.style 0 0 (" " ++ w ++ " ") :=
  have blank : Turns g.style 0 0 " " := turns_fixed (by decide)
  (blank.word word).append blank

section

variable (speaks : g.dialect.Speaks g.style)

include speaks

theorem phrase_identifier (name : String) : g.Phrase [.identifier name] := fun depth =>
  leads_piece (speaks.identifier name depth) nofun

theorem phrase_literal (c : Constant) : g.Phrase [.literal c] := fun depth =>
  leads_piece (speaks.literal c depth) nofun

theorem phrase_placeholder (v : Value) : g.Phrase [.placeholder v] := fun depth =>
  leads_piece (reads_word (speaks.placeholder _) depth).toFree nofun

theorem opener_type {t : DataType} (tame : t.IsTame g.style.pair) :
    g.Opener [.text (g.dialect.formatType t)] := fun depth =>
  leads_piece (speaks.type t tame depth) nofun

theorem phrase_identifiers (names : List String) : g.Phrase (Layout.identifiers names) := by
  refine phrase_separated (turns_fixed (by decide)) fun layout member => ?_
  obtain ⟨name, -, rfl⟩ := List.mem_map.mp member
  exact phrase_identifier speaks name

theorem phrase_labelled {inner : Layout} (phrase : g.Phrase inner) (label : Option String) :
    g.Phrase (labelled inner label) := by
  refine phrase.append (tail_clause (turns_fixed (by decide)) fun layout member => ?_)
  obtain ⟨name, -, rfl⟩ := Option.map_eq_some_iff.mp member
  exact phrase_identifier speaks name

end

theorem opener_negation (negated : Bool) : g.Opener (negation negated) := by
  cases negated with
  | false => exact .nil
  | true => exact opener_fixed (by decide)

end Reading

/-! ### Expressions and conditions -/

section

variable (speaks : g.dialect.Speaks g.style)

include speaks

theorem ColumnRef.phrase_layout (c : ColumnRef) : g.Phrase c.layout := by
  have name := phrase_identifier speaks c.name
  rcases c with ⟨_ | table, _⟩
  · exact name
  · exact (phrase_identifier speaks table).append (tail_fixed_cons (by decide) name)

theorem Operator.phrase_layout (op : Operator) {operands : List Layout}
    (phrases : ∀ layout ∈ operands, g.Phrase layout) : g.Phrase (op.layout g.dialect operands) := by
  have symbol : IsWord g.style.pair (op.symbolIn g.dialect) := by
    cases op with
    | concat => exact speaks.operator
    | _ =>
      simp only [symbolIn]
      exact isWord_fixed (by decide)
  unfold Operator.layout
  split
  · exact phrase_separated (turns_spaced symbol) phrases
  · exact phrase_failure _

omit speaks in
theorem phrase_of_mem_map {α : Type} {f : α → Node} {layout : α → Layout} {parts : List α}
    (inside : ∀ c ∈ parts.map f, c.Confined g)
    (same : ∀ a, (f a).Confined g = g.Phrase (layout a)) {a : α} (member : a ∈ parts) :
    g.Phrase (layout a) := by
  rw [← same]
  exact inside _ (List.mem_map_of_mem member)

omit speaks in
theorem phrases_of_children {α : Type} {f : α → Node} {layout : α → Layout} {parts : List α}
    (inside : ∀ c ∈ parts.map f, c.Confined g)
    (same : ∀ a, (f a).Confined g = g.Phrase (layout a)) :
    ∀ l ∈ parts.map layout, g.Phrase l := by
  intro l member
  obtain ⟨a, listed, rfl⟩ := List.mem_map.mp member
  exact phrase_of_mem_map inside same listed

omit speaks in
theorem phrases_of_child? {α : Type} {f : α → Node} {layout : α → Layout} {part : Option α}
    (inside : ∀ c ∈ part.toList.map f, c.Confined g)
    (same : ∀ a, (f a).Confined g = g.Phrase (layout a)) :
    ∀ l ∈ part.map layout, g.Phrase l := by
  intro l member
  obtain ⟨a, some, rfl⟩ := Option.map_eq_some_iff.mp member
  exact phrase_of_mem_map inside same (Option.mem_toList.mpr some)

omit speaks in
/-- No value has a type that only one engine knows. -/
theorem Expr.isTame_of_inferred {e : Expr} {t : DataType} (found : e.inferredType? = some t) :
    t.IsTame g.style.pair := by
  cases e with
  | value v =>
    rcases v with ⟨key, content⟩
    cases content <;> cases found <;> trivial
  | constant c => cases c <;> cases found <;> trivial
  | _ => cases found

theorem Expr.phrase_layout {e : Expr} (tame : (Node.expr e).IsTame g.style.pair)
    (inside : ∀ c ∈ e.children, c.Confined g) : g.Phrase (e.layout g.dialect) := by
  cases e with
  | column c => exact c.phrase_layout speaks
  | value v => exact phrase_placeholder speaks v
  | constant c => exact phrase_literal speaks c
  | wildcard table =>
    have star : g.Opener [.text "*"] := opener_fixed (by decide)
    cases table with
    | none => exact star.phrase
    | some table =>
      exact (phrase_identifier speaks table).append (tail_fixed_cons (by decide) star.phrase)
  | operation op operands =>
    rw [Expr.layout, operandLayouts_eq_map]
    refine op.phrase_layout speaks fun l member => ?_
    obtain ⟨e, listed, rfl⟩ := List.mem_map.mp member
    exact phrase_parenthesizedIf _ (phrase_of_mem_map inside (fun _ => rfl) listed)
  | negate e =>
    have operand : g.Phrase (e.layout g.dialect) := inside _ List.mem_cons_self
    exact (tail_fixed_cons (by decide) (phrase_parenthesizedIf _ operand)).phrase
  | call function arguments distinct =>
    have name : g.Opener [.text function] := opener_word tame
    have words : g.Opener (if distinct then [.text "DISTINCT "] else []) :=
      opener_if distinct (by decide)
    have phrases : ∀ l ∈ arguments.map (Expr.layout g.dialect), g.Phrase l :=
      phrases_of_children inside fun _ => rfl
    have listed := phrase_separated (s := ", ") (turns_fixed (by decide)) phrases
    have whole := name.into (tail_parenthesized (words.into listed)).phrase
    rw [Expr.layout, layouts_eq_map]
    simpa [Layout.parenthesized] using whole
  | cast e target =>
    have operand : g.Phrase (e.layout g.dialect) := inside _ List.mem_cons_self
    rw [Expr.layout]
    split
    · rename_i t found
      have tame : t.IsTame g.style.pair := by
        cases target with
        | some u => exact tame t found
        | none => exact isTame_of_inferred found
      have converted := operand.append
        (tail_fixed_cons (s := " AS ") (by decide) (opener_type speaks tame).phrase)
      have whole := tail_enclosed (s := "CAST(") (t := ")") (turns_fixed (by decide))
        (turns_fixed (by decide)) converted Opener.nil.phrase
      simpa using whole.phrase
    · exact phrase_failure _
  | case branches otherwise =>
    rw [Expr.layout]
    split
    · exact phrase_failure _
    · have tails : ∀ l ∈ branches.map (WhenBranch.layout g.dialect), g.Tail l := by
        intro l member
        obtain ⟨⟨condition, result⟩, listed, rfl⟩ := List.mem_map.mp member
        have parts : ∀ c ∈ [Node.condition condition, Node.expr result], c.Confined g := by
          intro c either
          refine inside c (List.mem_append.mpr (.inl (List.mem_flatMap.mpr ⟨_, listed, either⟩)))
        have asked : g.Phrase (condition.layout g.dialect) := parts _ List.mem_cons_self
        have given : g.Phrase (result.layout g.dialect) :=
          parts _ (List.mem_cons_of_mem _ List.mem_cons_self)
        exact (tail_fixed_cons (by decide) asked).append (tail_fixed_cons (by decide) given)
      have last : ∀ l ∈ otherwise.map (Expr.layout g.dialect), g.Phrase l :=
        phrases_of_child? (fun c member => inside c (List.mem_append.mpr (.inr member)))
          fun _ => rfl
      rw [WhenBranch.layouts_eq_map, layout?_eq_map]
      have start := tail_fixed_cons (s := "CASE") (by decide) (tail_flatten tails).phrase
      exact ((start.append (tail_clause (turns_fixed (by decide)) last)).append
        (tail_fixed (by decide))).phrase
  | subquery q => exact (tail_parenthesized (inside _ List.mem_cons_self)).phrase
  | raw sql => exact tame.elim

omit speaks in
theorem Junction.phrase_layout (junction : Junction) {members : List Layout}
    (phrases : ∀ l ∈ members, g.Phrase l) : g.Phrase (junction.layout members) := by
  unfold Junction.layout
  split
  · cases junction <;> exact (opener_fixed (by decide)).phrase
  · refine phrase_separated (turns_spaced ?_) phrases
    cases junction <;> exact isWord_fixed (by decide)

omit speaks in
/-- The words between a compared expression and what it is compared with. -/
theorem tail_negated {words : String} (negated : Bool) {rest : Layout}
    (turns : Turns g.style 0 0 words) (phrase : g.Phrase rest) :
    g.Tail (.text " " :: negation negated ++ .text words :: rest) :=
  (tail_fixed_cons (by decide) (opener_negation negated).phrase).append
    (tail_text turns phrase)

omit speaks in
theorem Condition.phrase_layout {c : Condition} (tame : (Node.condition c).IsTame g.style.pair)
    (inside : ∀ part ∈ c.children, part.Confined g) : g.Phrase (c.layout g.dialect) := by
  cases c with
  | compare left op right =>
    have symbol : IsWord g.style.pair op.symbol := by
      cases op <;> exact isWord_fixed (by decide)
    have first : g.Phrase (left.layout g.dialect) := inside (.expr left) (by simp [children])
    have second : g.Phrase (right.layout g.dialect) := inside (.expr right) (by simp [children])
    exact first.append (tail_text (turns_spaced symbol) second)
  | isNull e negated =>
    have operand : g.Phrase (e.layout g.dialect) := inside (.expr e) (by simp [children])
    refine operand.append ?_
    cases negated <;> exact tail_fixed (by decide)
  | between e low high negated =>
    have operand : g.Phrase (e.layout g.dialect) := inside (.expr e) (by simp [children])
    have least : g.Phrase (low.layout g.dialect) := inside (.expr low) (by simp [children])
    have most : g.Phrase (high.layout g.dialect) := inside (.expr high) (by simp [children])
    have from_ := tail_negated negated (turns_fixed (s := "BETWEEN ") (by decide)) least
    have whole := (operand.append from_).append (tail_fixed_cons (s := " AND ") (by decide) most)
    simpa [Condition.layout] using whole
  | inList e items negated =>
    have operand : g.Phrase (e.layout g.dialect) := inside (.expr e) (by simp [children])
    have phrases : ∀ l ∈ items.map (Expr.layout g.dialect), g.Phrase l :=
      phrases_of_children (fun part member => inside part (List.mem_cons_of_mem _ member))
        fun _ => rfl
    rw [Condition.layout, Expr.layouts_eq_map]
    split
    · exact phrase_failure _
    · have listed := phrase_separated (s := ", ") (turns_fixed (by decide)) phrases
      have whole := operand.append (tail_negated negated (turns_fixed (s := "IN ") (by decide))
        (tail_parenthesized listed).phrase)
      simpa using whole
  | inQuery e q negated =>
    have operand : g.Phrase (e.layout g.dialect) := inside (.expr e) (by simp [children])
    have query : g.Phrase (q.layout g.dialect) := inside (.query q) (by simp [children])
    have whole := operand.append (tail_negated negated (turns_fixed (s := "IN ") (by decide))
      (tail_parenthesized query).phrase)
    simpa [Condition.layout] using whole
  | like e pattern negated =>
    have operand : g.Phrase (e.layout g.dialect) := inside (.expr e) (by simp [children])
    have second : g.Phrase (pattern.layout g.dialect) := inside (.expr pattern) (by simp [children])
    have whole := operand.append
      (tail_negated negated (turns_fixed (s := "LIKE ") (by decide)) second)
    simpa [Condition.layout] using whole
  | existsIn q negated =>
    have query : g.Phrase (q.layout g.dialect) := inside (.query q) (by simp [children])
    exact (opener_negation negated).into
      (tail_fixed_cons (by decide) (tail_parenthesized query).phrase).phrase
  | not c =>
    have denied : g.Phrase (c.layout g.dialect) := inside (.condition c) (by simp [children])
    exact (tail_fixed_cons (by decide) (tail_parenthesized denied).phrase).phrase
  | pair left right junction nested =>
    have first : g.Phrase (left.layout g.dialect) := inside (.condition left) (by simp [children])
    have second : g.Phrase (right.layout g.dialect) :=
      inside (.condition right) (by simp [children])
    refine phrase_parenthesizedIf _ (junction.phrase_layout ?_)
    simp only [List.mem_cons, List.not_mem_nil, or_false, forall_eq_or_imp, forall_eq]
    exact ⟨phrase_parenthesizedIf _ first, phrase_parenthesizedIf _ second⟩
  | group members junction nested =>
    rw [Condition.layout, memberLayouts_eq_map]
    refine phrase_parenthesizedIf _ (junction.phrase_layout fun l member => ?_)
    obtain ⟨c, listed, rfl⟩ := List.mem_map.mp member
    exact phrase_parenthesizedIf _ (phrase_of_mem_map inside (fun _ => rfl) listed)
  | raw sql => exact tame.elim

theorem SelectItem.phrase_layout {item : SelectItem} (inside : (Node.expr item.expr).Confined g) :
    g.Phrase (item.layout g.dialect) := by
  rcases item with ⟨e, label⟩
  exact phrase_labelled speaks inside label

omit speaks in
theorem SortKey.phrase_layout {key : SortKey} (inside : (Node.expr key.expr).Confined g) :
    g.Phrase (key.layout g.dialect) := by
  rcases key with ⟨e, direction⟩
  have sorted : g.Phrase (e.layout g.dialect) := inside
  refine sorted.append (tail_clause (turns_fixed (by decide)) fun l member => ?_)
  obtain ⟨direction, -, rfl⟩ := Option.map_eq_some_iff.mp member
  cases direction <;> exact (opener_fixed (by decide)).phrase

theorem TableRef.phrase_layout {t : TableRef} (inside : ∀ c ∈ t.children, c.Confined g) :
    g.Phrase (t.layout g.dialect) := by
  cases t with
  | named name label => exact phrase_labelled speaks (phrase_identifier speaks name) label
  | derived q label =>
    have query : g.Phrase (q.layout g.dialect) := inside _ List.mem_cons_self
    exact phrase_labelled speaks (tail_parenthesized query).phrase label

omit speaks in
theorem Join.phrase_layout {j : Join} (inside : ∀ c ∈ j.children, c.Confined g) :
    g.Phrase (j.layout g.dialect) := by
  rcases j with ⟨kind, table, condition⟩
  have joined : g.Phrase (table.layout g.dialect) := inside _ List.mem_cons_self
  have word : IsWord g.style.pair kind.keyword := by cases kind <;> exact isWord_fixed (by decide)
  have start := (opener_word word).into (tail_fixed_cons (s := " ") (by decide) joined).phrase
  refine start.append ?_
  cases condition with
  | none =>
    rw [Condition.layout?]
    dsimp only
    split
    · exact .nil
    · exact tail_failure _
  | some c =>
    have asked : g.Phrase (c.layout g.dialect) :=
      inside (.condition c) (List.mem_cons_of_mem _ (by simp))
    exact tail_fixed_cons (by decide) asked

end

/-! ### Queries -/

namespace QueryParts

/-- The parts of a query are phrases, and its clauses stand behind one. -/
structure Confined (g : Reading) (q : QueryParts) : Prop where
  items : ∀ l ∈ q.items, g.Phrase l
  clauses : g.Tail q.clauses
  sortKeys : ∀ l ∈ q.sortKeys, g.Phrase l

variable {q : QueryParts}

/-- A row count behind a word. -/
theorem turns_count {words : String} {before after : Nat} (turns : Turns g.style before after words)
    (count : UInt64) : Turns g.style before after (words ++ toString count) :=
  turns.word (isNumeric_nat count.toNat).isWord

theorem opener_selectWords (q : QueryParts) (top : Option UInt64) :
    g.Opener (q.selectWords top) := by
  have select : g.Opener [.text "SELECT "] := opener_fixed (by decide)
  have distinct : g.Opener (if q.distinct then [.text "DISTINCT "] else []) :=
    opener_if q.distinct (by decide)
  refine (select.append distinct).append ?_
  cases top with
  | none => exact .nil
  | some count =>
    have blank : Turns g.style 0 0 " " := turns_fixed (by decide)
    have words : Turns g.style 0 0 "TOP " := turns_fixed (by decide)
    exact opener_text ((turns_count words count).append blank) .nil

theorem Confined.projection (confined : q.Confined g) : g.Phrase q.projection := by
  unfold QueryParts.projection
  split
  · exact (opener_fixed (by decide)).phrase
  · exact phrase_separated (turns_fixed (by decide)) confined.items

theorem Confined.keys (confined : q.Confined g) : g.Phrase (Layout.separated ", " q.sortKeys) :=
  phrase_separated (turns_fixed (by decide)) confined.sortKeys

theorem Confined.sorting (confined : q.Confined g) : g.Tail q.sorting := by
  unfold QueryParts.sorting
  split
  · exact .nil
  · exact tail_fixed_cons (by decide) confined.keys

theorem Confined.body (confined : q.Confined g) (top : Option UInt64) : g.Phrase (q.body top) :=
  (((opener_selectWords q top).into confined.projection).append confined.clauses).append
    confined.sorting

theorem Confined.numberedBody (confined : q.Confined g) : g.Phrase q.numberedBody := by
  have keys : g.Phrase (if q.sortKeys.isEmpty then [.text "(SELECT NULL)"]
      else Layout.separated ", " q.sortKeys) := by
    split
    · exact (tail_fixed (by decide)).phrase
    · exact confined.keys
  have numbers := tail_enclosed (s := ", ROW_NUMBER() OVER (ORDER BY ") (t := ") AS RowNumber")
    (turns_fixed (by decide)) (turns_fixed (by decide)) keys confined.clauses.phrase
  have whole := ((opener_selectWords q none).into confined.projection).append numbers
  simpa [QueryParts.numberedBody] using whole

theorem tail_fetchClause (q : QueryParts) : g.Tail q.fetchClause := by
  have skip : Turns g.style 0 0 "\nOFFSET " := turns_fixed (by decide)
  have fetch : Turns g.style 0 0 "\nFETCH " := turns_fixed (by decide)
  have blank : Turns g.style 0 0 " " := turns_fixed (by decide)
  have rows : Turns g.style 0 0 " ROWS" := turns_fixed (by decide)
  have only : Turns g.style 0 0 " ROWS ONLY" := turns_fixed (by decide)
  refine Tail.append ?_ ?_
  · cases q.offset with
    | none => exact .nil
    | some offset => exact tail_text ((turns_count skip offset).append rows) Opener.nil.phrase
  · cases q.limit with
    | none => exact .nil
    | some limit =>
      have word : IsWord g.style.pair (if q.offset.isSome then "NEXT" else "FIRST") := by
        split <;> exact isWord_fixed (by decide)
      have limited := turns_count ((fetch.word word).append blank) limit
      exact tail_text (limited.append only) Opener.nil.phrase

theorem tail_limitClause {unbounded : Option String}
    (rows : ∀ count, unbounded = some count → IsWord g.style.pair count) (q : QueryParts) :
    g.Tail (q.limitClause unbounded) := by
  have limited : Turns g.style 0 0 "\nLIMIT " := turns_fixed (by decide)
  have skipping : Turns g.style 0 0 " OFFSET " := turns_fixed (by decide)
  unfold limitClause
  split
  · exact tail_text (turns_count ((turns_count limited _).append skipping) _) Opener.nil.phrase
  · exact tail_text (turns_count limited _) Opener.nil.phrase
  · split
    · have all := limited.word (rows _ rfl)
      exact tail_text (turns_count (all.append skipping) _) Opener.nil.phrase
    · exact tail_text (turns_count (turns_fixed (by decide)) _) Opener.nil.phrase
  · exact .nil

theorem tail_limitPairClause (q : QueryParts) : g.Tail q.limitPairClause := by
  have limited : Turns g.style 0 0 "\nLIMIT " := turns_fixed (by decide)
  have comma : Turns g.style 0 0 ", " := turns_fixed (by decide)
  have all : Turns g.style 0 0 ", 18446744073709551615" := turns_fixed (by decide)
  unfold limitPairClause
  split
  · exact tail_text (turns_count ((turns_count limited _).append comma) _) Opener.nil.phrase
  · exact tail_text (turns_count limited _) Opener.nil.phrase
  · exact tail_text ((turns_count limited _).append all) Opener.nil.phrase
  · exact .nil

theorem Confined.topLayout (confined : q.Confined g) : g.Phrase q.topLayout := by
  unfold QueryParts.topLayout
  split
  · exact confined.body q.limit
  · refine (confined.body none).append ?_
    split
    · exact tail_failure _
    · exact tail_fetchClause q

theorem tail_rowNumberBounds (q : QueryParts) : g.Tail q.rowNumberBounds := by
  have between : Turns g.style 0 0 "RowNumber BETWEEN " := turns_fixed (by decide)
  have and : Turns g.style 0 0 " AND " := turns_fixed (by decide)
  unfold rowNumberBounds
  split
  · exact tail_text (turns_count ((turns_count between _).append and) _) Opener.nil.phrase
  · exact tail_text (turns_count (turns_fixed (by decide)) _) Opener.nil.phrase
  · exact tail_text (turns_count (turns_fixed (by decide)) _) Opener.nil.phrase
  · exact .nil

theorem Confined.rowNumberLayout (confined : q.Confined g) : g.Phrase q.rowNumberLayout := by
  have filtered := tail_enclosed (s := "SELECT * FROM (\n") (t := "\n) AS PagedQuery\nWHERE ")
    (turns_fixed (by decide)) (turns_fixed (by decide)) confined.numberedBody
    (tail_rowNumberBounds q).phrase
  exact (filtered.append (tail_fixed (by decide))).phrase

theorem Confined.rownumLayout (confined : q.Confined g) : g.Phrase q.rownumLayout := by
  have body := confined.body none
  unfold QueryParts.rownumLayout
  split
  · rename_i limit _ _
    have opens : Turns g.style 0 1 "SELECT * FROM (\n" := turns_fixed (by decide)
    have closes : Turns g.style 1 0 "\n) PagedQuery\nWHERE ROWNUM <= " := turns_fixed (by decide)
    have counted := turns_count closes limit
    exact (tail_enclosed opens counted body Opener.nil.phrase).phrase
  · have opens : Turns g.style 0 2
        "SELECT * FROM (\nSELECT PagedQuery.*, ROWNUM AS RowNumber FROM (\n" :=
      turns_fixed (by decide)
    have leaves : Turns g.style 2 1 "\n) PagedQuery" := turns_fixed (by decide)
    have closes : Turns g.style 1 0 "\n)\nWHERE RowNumber > " := turns_fixed (by decide)
    have counted := turns_count closes (q.offset.getD 0)
    have bound : g.Tail (q.limit.toList.map fun limit =>
        .text ("\nWHERE ROWNUM <= " ++ toString (rowCountSum (q.offset.getD 0) limit))) := by
      cases q.limit with
      | none => exact .nil
      | some limit => exact tail_text (turns_count (turns_fixed (by decide)) _) Opener.nil.phrase
    -- Two parentheses are open in front of the body, and the bound stands between their ends.
    intro depth
    have inner := (leads_turn opens depth).fromClear.append (body (depth + 2))
    have outer := (leads_turn leaves depth).append (bound.phrase (depth + 1))
    exact (inner.append outer).append (leads_turn counted depth).toFree

theorem Confined.layout (speaks : g.dialect.Speaks g.style) (confined : q.Confined g) :
    g.Phrase (q.layout g.dialect) := by
  unfold QueryParts.layout
  split
  · exact phrase_failure _
  · split
    · exact (confined.body none).append (tail_fetchClause q)
    · exact confined.topLayout
    · exact (confined.body none).append (tail_limitClause speaks.rows q)
    · exact (confined.body none).append (tail_limitPairClause q)
    · split
      · exact confined.rowNumberLayout
      · exact confined.body none
    · split
      · exact confined.rownumLayout
      · exact confined.body none

end QueryParts

section

variable (speaks : g.dialect.Speaks g.style)

namespace Select

theorem tail_clauses {q : Select} (inside : ∀ c ∈ q.clauseNodes, c.Confined g) :
    g.Tail (q.clauses g.dialect) := by
  simp only [clauseNodes, List.forall_mem_append] at inside
  obtain ⟨⟨⟨⟨source, joins⟩, filter⟩, groupBy⟩, having⟩ := inside
  have joined : ∀ l ∈ q.joins.map fun join => .text "\n" :: join.layout g.dialect, g.Tail l := by
    intro l member
    obtain ⟨join, listed, rfl⟩ := List.mem_map.mp member
    have phrase : g.Phrase (join.layout g.dialect) := phrase_of_mem_map joins (fun _ => rfl) listed
    exact tail_fixed_cons (by decide) phrase
  have grouped : ∀ l ∈ q.groupBy.map (Expr.layout g.dialect), g.Phrase l :=
    phrases_of_children groupBy fun _ => rfl
  have from_ := tail_clause (s := "\nFROM ") (turns_fixed (by decide))
    (phrases_of_child? source fun _ => rfl)
  have where_ := tail_clause (s := "\nWHERE ") (turns_fixed (by decide))
    (phrases_of_child? filter fun _ => rfl)
  have last := tail_clause (s := "\nHAVING ") (turns_fixed (by decide))
    (phrases_of_child? having fun _ => rfl)
  refine (((from_.append (tail_flatten joined)).append where_).append ?_).append last
  split
  · exact .nil
  · exact tail_fixed_cons (by decide) (phrase_separated (turns_fixed (by decide)) grouped)

include speaks

theorem phrase_layout {q : Select} (inside : ∀ c ∈ q.children g.dialect, c.Confined g) :
    g.Phrase (q.layout g.dialect) := by
  rw [layout_eq_parts]
  refine QueryParts.Confined.layout speaks ⟨?_, ?_, ?_⟩
  · exact phrases_of_children (fun c member => inside c (mem_children.mpr (.inl member)))
      fun _ => rfl
  · exact tail_clauses fun c member => inside c (mem_children.mpr (.inr (.inl member)))
  · exact phrases_of_children (fun c member => inside c (mem_children.mpr (.inr (.inr member))))
      fun _ => rfl

end Select

/-! ### Statements -/

include speaks

theorem tail_outputClause (columns : List String) {source : String}
    (word : IsWord g.style.pair source) : g.Tail (outputClause g.dialect columns source) := by
  unfold outputClause
  split
  · exact .nil
  · split
    · exact tail_failure _
    · refine tail_fixed_cons (by decide) (phrase_separated (turns_fixed (by decide)) ?_)
      intro l member
      obtain ⟨column, -, rfl⟩ := List.mem_map.mp member
      have dot : g.Opener [.text "."] := opener_fixed (by decide)
      exact ((opener_word word).append dot).into (phrase_identifier speaks column)
    · exact .nil

theorem tail_returningClause (columns : List String) :
    g.Tail (returningClause g.dialect columns) := by
  unfold returningClause
  split
  · exact .nil
  · exact tail_fixed_cons (by decide) (phrase_identifiers speaks columns)

omit speaks in
theorem tail_whereClause {filter : Option Condition}
    (inside : ∀ c ∈ filter.toList.map Node.condition, c.Confined g) :
    g.Tail (whereClause g.dialect filter) := by
  rw [whereClause, Condition.layout?_eq_map]
  exact tail_clause (turns_fixed (by decide)) (phrases_of_child? inside fun _ => rfl)

namespace Insert

omit speaks in
theorem tail_rowsLayout (width index : Nat) {rows : List (List Expr)}
    (inside : ∀ c ∈ rows.flatten.map Node.expr, c.Confined g) :
    g.Tail (rowsLayout g.dialect width index rows) := by
  induction rows generalizing index with
  | nil => exact .nil
  | cons row rest ih =>
    simp only [List.flatten_cons, List.map_append, List.forall_mem_append] at inside
    have phrases : ∀ l ∈ row.map (Expr.layout g.dialect), g.Phrase l :=
      phrases_of_children inside.1 fun _ => rfl
    rw [rowsLayout, Expr.layouts_eq_map]
    refine ((Tail.append ?_ ?_).append ?_).append (ih (index + 1) inside.2)
    · split
      · exact tail_failure _
      · exact .nil
    · split
      · exact .nil
      · exact tail_fixed (by decide)
    · exact tail_parenthesized (phrase_separated (turns_fixed (by decide)) phrases)

omit speaks in
theorem tail_sourceLayout (columns : List String) {source : InsertSource}
    (inside : ∀ c ∈ source.children, c.Confined g) :
    g.Tail (sourceLayout g.dialect columns source) := by
  unfold sourceLayout
  split
  · split
    · exact tail_fixed (by decide)
    · exact tail_failure _
  · exact tail_fixed_cons (by decide) (tail_rowsLayout _ 0 inside).phrase
  · exact tail_fixed_cons (by decide) (inside _ List.mem_cons_self)
  · split
    · exact tail_fixed (by decide)
    · exact tail_failure _

theorem phrase_layout {s : Insert} (inside : ∀ c ∈ s.source.children, c.Confined g) :
    g.Phrase (s.layout g.dialect) := by
  unfold layout
  split
  · exact phrase_failure _
  · rename_i table _
    have into := tail_fixed_cons (s := "INSERT INTO ") (by decide) (phrase_identifier speaks table)
    have columns : g.Tail (if s.columns.isEmpty then []
        else .text " " :: Layout.parenthesized (Layout.identifiers s.columns)) := by
      split
      · exact .nil
      · exact tail_fixed_cons (by decide)
          (tail_parenthesized (phrase_identifiers speaks s.columns)).phrase
    have output := tail_outputClause speaks s.returning (isWord_fixed (s := "INSERTED") (by decide))
    have source := tail_sourceLayout s.columns inside
    exact ((((into.append columns).append output).append source).append
      (tail_returningClause speaks s.returning)).phrase

end Insert

theorem Update.phrase_layout {s : Update}
    (inside : ∀ c ∈ (Statement.update s).children, c.Confined g) :
    g.Phrase (s.layout g.dialect) := by
  obtain ⟨values, filter⟩ := List.forall_mem_append.mp inside
  unfold layout
  split
  · exact phrase_failure _
  · rename_i table _
    split
    · exact phrase_failure _
    · have assigned : ∀ l ∈ s.assignments.map (Assignment.layout g.dialect), g.Phrase l := by
        intro l member
        obtain ⟨a, listed, rfl⟩ := List.mem_map.mp member
        have value : g.Phrase (a.value.layout g.dialect) := values _ (List.mem_map_of_mem listed)
        exact (phrase_identifier speaks a.column).append (tail_fixed_cons (by decide) value)
      have into := tail_fixed_cons (s := "UPDATE ") (by decide) (phrase_identifier speaks table)
      have set := tail_fixed_cons (s := "\nSET ") (by decide)
        (phrase_separated (s := ", ") (turns_fixed (by decide)) assigned)
      have output := tail_outputClause speaks s.returning
        (isWord_fixed (s := "INSERTED") (by decide))
      exact ((((into.append set).append output).append (tail_whereClause filter)).append
        (tail_returningClause speaks s.returning)).phrase

theorem Delete.phrase_layout {s : Delete}
    (inside : ∀ c ∈ (Statement.delete s).children, c.Confined g) :
    g.Phrase (s.layout g.dialect) := by
  unfold layout
  split
  · exact phrase_failure _
  · rename_i table _
    have from_ := tail_fixed_cons (s := "DELETE FROM ") (by decide) (phrase_identifier speaks table)
    have output := tail_outputClause speaks s.returning (isWord_fixed (s := "DELETED") (by decide))
    exact (((from_.append output).append (tail_whereClause inside)).append
      (tail_returningClause speaks s.returning)).phrase

omit speaks in
theorem Compound.phrase_layout {s : Compound}
    (inside : ∀ c ∈ (Statement.compound s).children, c.Confined g) :
    g.Phrase (s.layout g.dialect) := by
  unfold layout
  split
  · exact phrase_failure _
  · refine phrase_separated ?_ (phrases_of_children inside fun _ => rfl)
    cases s.operator <;> exact turns_fixed (by decide)

theorem ColumnDefinition.phrase_layout {c : ColumnDefinition}
    (tame : c.dataType.IsTame g.style.pair) : g.Phrase (c.layout g.dialect) := by
  have typed := (phrase_identifier speaks c.name).append
    (tail_fixed_cons (s := " ") (by decide) (opener_type speaks tame).phrase)
  have key : g.Tail (if c.primaryKey then [.text " PRIMARY KEY"]
      else if c.nullable then [] else [.text " NOT NULL"]) := by
    split
    · exact tail_fixed (by decide)
    · split
      · exact .nil
      · exact tail_fixed (by decide)
  have unique : g.Tail (if c.unique && !c.primaryKey then [.text " UNIQUE"] else []) := by
    split
    · exact tail_fixed (by decide)
    · exact .nil
  have default : g.Tail (Layout.clause " DEFAULT " (c.default.map ([.literal ·]))) := by
    refine tail_clause (turns_fixed (by decide)) fun l member => ?_
    obtain ⟨constant, -, rfl⟩ := Option.map_eq_some_iff.mp member
    exact phrase_literal speaks constant
  exact ((typed.append key).append unique).append default

theorem CreateTable.phrase_layout {s : CreateTable}
    (inside : ∀ c ∈ (Statement.createTable s).children, c.Confined g) :
    g.Phrase (s.layout g.dialect) := by
  unfold layout
  split
  · exact phrase_failure _
  · have phrases : ∀ l ∈ s.columns.map (ColumnDefinition.layout g.dialect), g.Phrase l :=
      phrases_of_children inside fun _ => rfl
    have columns := tail_parenthesized
      (phrase_separated (s := ", ") (turns_fixed (by decide)) phrases)
    have create := opener_text (g := g) (s := "CREATE TABLE ") (turns_fixed (by decide))
      (opener_if (s := "IF NOT EXISTS ") s.ifNotExists (by decide))
    have named := (phrase_identifier speaks s.name).append
      (tail_fixed_cons (s := " ") (by decide) columns.phrase)
    exact create.into named

theorem DropTable.phrase_layout (s : DropTable) : g.Phrase s.layout := by
  have drop := opener_text (g := g) (s := "DROP TABLE ") (turns_fixed (by decide))
    (opener_if (s := "IF EXISTS ") s.ifExists (by decide))
  exact drop.into (phrase_identifier speaks s.name)

theorem Statement.script_layout {s : Statement} (tame : (Node.statement s).IsTame g.style.pair)
    (inside : ∀ c ∈ s.children, c.Confined g) : g.Script (s.layout g.dialect) := by
  cases s with
  | select q =>
    have query : g.Phrase (q.layout g.dialect) := inside _ List.mem_cons_self
    exact query.ended speaks.terminator
  | insert s => exact (s.phrase_layout speaks inside).ended speaks.terminator
  | update s => exact (s.phrase_layout speaks inside).ended speaks.terminator
  | delete s => exact (s.phrase_layout speaks inside).ended speaks.terminator
  | compound s => exact (s.phrase_layout inside).ended speaks.terminator
  | createTable s => exact (s.phrase_layout speaks inside).ended speaks.terminator
  | dropTable s => exact (s.phrase_layout speaks).ended speaks.terminator
  | begin options => exact speaks.begins options g.roll
  | commit => exact speaks.commits g.roll
  | rollback => exact speaks.rollsBack g.roll
  | raw sql => exact tame.elim

omit speaks in
theorem Statement.script_script {ss : List Statement}
    (scripts : ∀ s ∈ ss, g.Script (s.layout g.dialect)) : g.Script (script g.dialect ss) := by
  refine script_separated (turns_fixed (by decide)) fun l member => ?_
  obtain ⟨s, listed, rfl⟩ := List.mem_map.mp member
  exact scripts s listed

theorem Node.confined_of_children {n : Node} (tame : n.IsTame g.style.pair)
    (inside : ∀ c ∈ n.children g.dialect, c.Confined g) : n.Confined g := by
  cases n with
  | element e =>
    cases e with
    | expr e => exact e.phrase_layout speaks tame inside
    | condition c => exact c.phrase_layout tame inside
    | statement s => exact s.script_layout speaks tame inside
    | item i => exact i.phrase_layout speaks (inside _ List.mem_cons_self)
    | sortKey k => exact k.phrase_layout (inside _ List.mem_cons_self)
    | table t => exact t.phrase_layout speaks inside
    | join j => exact j.phrase_layout inside
    | column c => exact c.phrase_layout speaks
    | columnDefinition c => exact c.phrase_layout speaks tame
    | value v => exact phrase_placeholder speaks v
    | constant c => exact phrase_literal speaks c
    | statements ss =>
      exact Statement.script_script fun s listed => inside _ (List.mem_map_of_mem listed)
  | query q => exact q.phrase_layout speaks inside

/-- From the children upwards, if nothing in the tree is wild. -/
theorem Node.confined_of_parts {n : Node}
    (tame : ∀ p : Node, p.PartOf g.dialect n → p.IsTame g.style.pair) : n.Confined g := by
  induction n using fromChildren g.dialect with
  | step n ih =>
    obtain ⟨here, below⟩ := forall_partOf.mp tame
    exact confined_of_children speaks here fun c member => ih c member (below c member)

end

/-- A text that a command renders is read to its end outside of quotes and parentheses. It has no
closing of a parenthesis that is not open and no end of a statement inside of one, and it has as
many ends of statements as are counted. -/
theorem confined {c : Command} {style : QuoteStyle} {r : Rendered}
    (quoting : c.dialect.Quoting style)
    (tame : ∀ s ∈ c.statements, ∀ p : Node, p.PartOf c.dialect (.statement s) → p.IsTame style.pair)
    (rendered : c.render = .ok r) :
    scan style.pair {} r.sql.toList =
      some { place := .outside, depth := 0, ends := r.statements } := by
  obtain ⟨d, statements⟩ := c
  let layout := Statement.script d statements
  let g : Reading := ⟨d, style, enrollAll [] layout.bound⟩
  have script : g.Script layout := Statement.script_script fun s member =>
    Node.confined_of_parts (n := .statement s) quoting.speaks (tame s member)
  obtain rfl : r = layout.rendering d [] := by
    unfold Command.render at rendered
    split at rendered
    · cases rendered
    · change layout.render d = _ at rendered
      rw [Layout.render_eq] at rendered
      split at rendered
      · cases rendered
      · exact (Except.ok.inj rendered).symm
  obtain ⟨⟨place, depth, ends⟩, read, ⟨rfl, rfl⟩, counted⟩ := script {} ⟨rfl, rfl⟩
  obtain rfl : ends = layout.endings := counted.trans (Nat.zero_add _)
  exact read

/-- A query in row-number paging and an insertion, with names and strings full of quotes. -/
theorem confined_hostile :
    let config : DialectConfig := { identifierQuote := some ⟨'[', ']'⟩, paging := .rowNumber }
    let query : Statement := .select
      { items := [⟨.constant (.string "it's (;"), some "a]];b"⟩]
        source := some (.named "t(o;.]" none)
        limit := some 1 }
    let insertion : Statement := .insert
      { table := some "];--", columns := ["'"], source := .values [[.constant (.string "');")]] }
    let c : Command := ⟨.custom config, [query, insertion]⟩
    ∃ r, c.render = .ok r ∧ r.statements = 2 ∧
      scan QuoteStyle.bracket.pair {} r.sql.toList = some ⟨.outside, 0, r.statements⟩ := by
  intro config query insertion c
  have quoting : c.dialect.Quoting .bracket :=
    .custom rfl (isWord_fixed (by decide)) (isWord_fixed (by decide))
  let q := QuoteStyle.bracket.pair
  have tree {n : Node} (here : n.IsTame q)
      (below : ∀ child ∈ n.children c.dialect, ∀ p : Node, p.PartOf c.dialect child → p.IsTame q) :
      ∀ p : Node, p.PartOf c.dialect n → p.IsTame q := Node.forall_partOf.mpr ⟨here, below⟩
  have literal (s : String) : ∀ p : Node, p.PartOf c.dialect (.expr (.constant (.string s))) →
      p.IsTame q :=
    tree trivial (List.forall_mem_singleton.mpr (tree trivial (List.forall_mem_nil _)))
  have item := tree (n := .element (.item ⟨.constant (.string "it's (;"), some "a]];b"⟩)) trivial
    (List.forall_mem_singleton.mpr (literal _))
  have table := tree (n := .element (.table (.named "t(o;.]" none))) trivial (List.forall_mem_nil _)
  have selected := tree (n := .statement query) trivial (List.forall_mem_singleton.mpr
    (tree trivial (List.forall_mem_cons.mpr ⟨item, List.forall_mem_singleton.mpr table⟩)))
  have inserted := tree (n := .statement insertion) trivial
    (List.forall_mem_singleton.mpr (literal _))
  have tame : ∀ s ∈ c.statements, ∀ p : Node, p.PartOf c.dialect (.statement s) → p.IsTame q :=
    List.forall_mem_cons.mpr ⟨selected, List.forall_mem_singleton.mpr inserted⟩
  exact ⟨_, rfl, by decide, confined quoting tame rfl⟩

end SqlBatch
