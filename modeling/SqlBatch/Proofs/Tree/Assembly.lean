import SqlBatch.Proofs.Tree.Success

/-!
# What layouts are made of

The layout of a node is made of the layouts of its children, one after another, and of pieces of its
own between them. Most of these are texts that are the same in every tree.
-/
namespace SqlBatch

/-! ### Texts of trees -/

/-- The texts of expressions, conditions and clauses, each with the number of parentheses that it
closes and the number that it opens. -/
def fixedTexts : List (String × Nat × Nat) :=
  [("(", 0, 1), (")", 1, 0), ("CAST(", 0, 1)] ++
    [".", "*", ", ", " AS ", "DISTINCT ", "CASE", " WHEN ", " THEN ", " ELSE ", " END", " = ",
      " <> ", " < ", " <= ", " > ", " >= ", " ", "NOT ", " IS NULL", " IS NOT NULL", "BETWEEN ",
      " AND ", " OR ", "IN ", "LIKE ", "EXISTS ", "1 = 1", "1 = 0", "ASC", "DESC", "INNER JOIN",
      "LEFT JOIN", "RIGHT JOIN", "FULL JOIN", "CROSS JOIN", " ON ", "\n", "\nFROM ", "\nWHERE ",
      "\nGROUP BY ", "\nHAVING "].map (·, 0, 0)

def DataType.isCustom : DataType → Bool
  | custom _ => true
  | _ => false

/-- The texts in a node that come from outside. -/
def Node.words (d : Dialect) : Node → List String
  | .expr (.raw sql) | .condition (.raw sql) => [sql]
  | .expr (.call function _ _) => [function]
  | .expr (.cast _ (some (.custom name))) => [d.formatType (.custom name)]
  | _ => []

def Node.isQuery : Node → Bool
  | .query _ => true
  | _ => false

/-- What is written inside of statements. -/
def Node.isInner : Node → Bool
  | .statement _ | .element (.columnDefinition _) | .element (.statements _) => false
  | _ => true

/-! ### Making layouts -/

variable {d : Dialect} {own : Nat → Piece → Nat → Prop}

namespace Layout

/-- A text that leaves as many parentheses open as it finds. -/
def Level (own : Nat → Piece → Nat → Prop) (s : String) : Prop := ∀ depth, own depth (.text s) depth

/-- A layout of nodes and other pieces, between two places of which it is known how many parentheses
are open. Queries stand inside of parentheses. -/
inductive Made (d : Dialect) (own : Nat → Piece → Nat → Prop) :
    Nat → List Node → Layout → Nat → Prop
  | nil {depth : Nat} : Made d own depth [] [] depth
  | piece {before between after : Nat} {piece : Piece} {nodes : List Node} {rest : Layout}
      (here : own before piece between) (later : Made d own between nodes rest after) :
    Made d own before nodes (piece :: rest) after
  | child {depth after : Nat} {n : Node} {nodes : List Node} {rest : Layout}
      (enclosed : n.isQuery = true → depth ≠ 0) (later : Made d own depth nodes rest after) :
    Made d own depth (n :: nodes) (n.layout d ++ rest) after

/-- Made in the same way in any number of parentheses. -/
def MadeOf (d : Dialect) (own : Nat → Piece → Nat → Prop) (nodes : List Node) (layout : Layout) :
    Prop :=
  ∀ depth, Made d own depth nodes layout depth

variable {nodes others : List Node} {first second : Layout}

namespace Made

variable {before between after : Nat}

theorem append (left : Made d own before nodes first between)
    (right : Made d own between others second after) :
    Made d own before (nodes ++ others) (first ++ second) after := by
  induction left with
  | nil => exact right
  | piece here later ih => exact .piece here (ih right)
  | child enclosed later ih =>
    rw [List.append_assoc]
    exact .child enclosed (ih right)

/-- The layouts of the nodes stand whole in the layout that is made of them. -/
theorem infix_of_mem (made : Made d own before nodes first after) {n : Node} (member : n ∈ nodes) :
    n.layout d <:+: first := by
  induction made with
  | nil => cases member
  | piece here later ih => exact (ih member).trans (List.suffix_cons _ _).isInfix
  | child enclosed later ih =>
    rcases List.mem_cons.mp member with rfl | inside
    · exact (List.prefix_append _ _).isInfix
    · exact (ih inside).trans (List.suffix_append _ _).isInfix

end Made

theorem MadeOf.nil : MadeOf d own [] [] := fun _ => .nil

theorem MadeOf.append (left : MadeOf d own nodes first) (right : MadeOf d own others second) :
    MadeOf d own (nodes ++ others) (first ++ second) := fun depth =>
  (left depth).append (right depth)

theorem MadeOf.cons {piece : Piece} (here : ∀ depth, own depth piece depth)
    (later : MadeOf d own nodes first) : MadeOf d own nodes (piece :: first) := fun depth =>
  .piece (here depth) (later depth)

theorem madeOf_text {s : String} (level : Level own s) : MadeOf d own [] [.text s] :=
  .cons level .nil

/-- A text for a row count that is set. -/
theorem madeOf_count (count : Option UInt64) {text : UInt64 → String}
    (each : ∀ n, Level own (text n)) :
    MadeOf d own [] (count.toList.map fun n => .text (text n)) := by
  cases count with
  | none => exact .nil
  | some n => exact madeOf_text (each n)

theorem madeOf_node {n : Node} (outer : n.isQuery = false) : MadeOf d own [n] (n.layout d) := by
  intro depth
  have alone : Made d own depth [n] (n.layout d ++ []) depth := .child (by simp [outer]) .nil
  rwa [List.append_nil] at alone

theorem made_query (q : Select) (depth : Nat) :
    Made d own (depth + 1) [.query q] (q.layout d) (depth + 1) := by
  have alone : Made d own (depth + 1) [.query q] (Node.layout d (.query q) ++ []) (depth + 1) :=
    .child (fun _ => Nat.succ_ne_zero depth) .nil
  rwa [List.append_nil] at alone

end Layout

open Layout

/-- What the pieces of its own that a node writes have in common. -/
structure Vocabulary (d : Dialect) (own : Nat → Piece → Nat → Prop) : Prop where
  fixed : ∀ {s a b}, (s, a, b) ∈ fixedTexts → ∀ depth, own (depth + a) (.text s) (depth + b)
  identifier : ∀ name depth, own depth (.identifier name) depth
  literal : ∀ c depth, own depth (.literal c) depth
  placeholder : ∀ v depth, own depth (.placeholder v) depth
  operator : ∀ op : Operator, Level own (" " ++ op.symbolIn d ++ " ")
  type : ∀ t : DataType, t.isCustom = false → Level own (d.formatType t)

namespace Vocabulary

variable (v : Vocabulary d own) {nodes : List Node} {inner : Layout} {s : String}

include v

theorem text (fixed : (s, 0, 0) ∈ fixedTexts) (later : MadeOf d own nodes inner) :
    MadeOf d own nodes (.text s :: inner) := .cons (v.fixed fixed) later

theorem text_if (wanted : Bool) (fixed : (s, 0, 0) ∈ fixedTexts) :
    MadeOf d own [] (if wanted then [.text s] else []) := by
  split
  · exact v.text fixed .nil
  · exact .nil

/-- Two texts of which the second closes the parenthesis that the first opens. -/
theorem enclosed (opens : (s, 0, 1) ∈ fixedTexts)
    (made : ∀ depth, Made d own (depth + 1) nodes inner (depth + 1)) :
    MadeOf d own nodes (.text s :: inner ++ [.text ")"]) := by
  intro depth
  have closing : Made d own (depth + 1) [] [.text ")"] depth :=
    .piece (v.fixed (s := ")") (a := 1) (b := 0) (by decide) depth) .nil
  have whole : Made d own depth (nodes ++ []) (.text s :: (inner ++ [.text ")"])) depth :=
    .piece (v.fixed opens depth) ((made depth).append closing)
  rwa [List.append_nil] at whole

theorem parenthesized (made : ∀ depth, Made d own (depth + 1) nodes inner (depth + 1)) :
    MadeOf d own nodes (Layout.parenthesized inner) := v.enclosed (by decide) made

theorem parenthesizedIf (wanted : Bool) (made : MadeOf d own nodes inner) :
    MadeOf d own nodes (Layout.parenthesizedIf wanted inner) := by
  cases wanted with
  | false => exact made
  | true => exact v.parenthesized fun depth => made (depth + 1)

section

variable {α : Type} {node : α → List Node} {layout : α → Layout} (parts : List α)

omit v in
theorem flatMap (each : ∀ a ∈ parts, MadeOf d own (node a) (layout a)) :
    MadeOf d own (parts.flatMap node) (parts.map layout).flatten := by
  induction parts with
  | nil => exact .nil
  | cons a rest ih =>
    have others := ih fun b member => each b (List.mem_cons_of_mem a member)
    exact (each a List.mem_cons_self).append others

omit v in
theorem separatedBy (separator : Level own s)
    (each : ∀ a ∈ parts, MadeOf d own (node a) (layout a)) :
    MadeOf d own (parts.flatMap node) (Layout.separated s (parts.map layout)) := by
  cases parts with
  | nil => exact .nil
  | cons a rest =>
    have others : MadeOf d own (rest.flatMap node)
        (rest.map fun b => .text s :: layout b).flatten :=
      flatMap rest fun b member => .cons separator (each b (List.mem_cons_of_mem a member))
    rw [List.map_cons, Layout.separated, List.flatMap_map]
    exact (each a List.mem_cons_self).append others

theorem separated (fixed : (s, 0, 0) ∈ fixedTexts)
    (each : ∀ a ∈ parts, MadeOf d own (node a) (layout a)) :
    MadeOf d own (parts.flatMap node) (Layout.separated s (parts.map layout)) :=
  separatedBy parts (v.fixed fixed) each

theorem clause (part : Option α) (layout : α → Layout) (fixed : (s, 0, 0) ∈ fixedTexts)
    (each : ∀ a ∈ part, MadeOf d own (node a) (layout a)) :
    MadeOf d own (part.toList.flatMap node) (Layout.clause s (part.map layout)) := by
  cases part with
  | none => exact .nil
  | some a =>
    have whole := v.text fixed (each a rfl)
    simpa [Layout.clause] using whole

end

theorem negation (negated : Bool) : MadeOf d own [] (negation negated) :=
  v.text_if negated (by decide)

theorem labelled (made : MadeOf d own nodes inner) (label : Option String) :
    MadeOf d own nodes (labelled inner label) := by
  have name : MadeOf d own (label.toList.flatMap fun _ => [])
      (Layout.clause " AS " (label.map ([.identifier ·]))) :=
    v.clause label _ (by decide) fun name _ => .cons (v.identifier name) .nil
  have nobody : (label.toList.flatMap fun _ => ([] : List Node)) = [] := by
    cases label <;> rfl
  have whole := made.append name
  rwa [nobody, List.append_nil] at whole

end Vocabulary

/-! ### Expressions and conditions -/

section

variable (v : Vocabulary d own)

/-- What a node writes of texts from outside. -/
def Node.Worded (d : Dialect) (own : Nat → Piece → Nat → Prop) (n : Node) : Prop :=
  ∀ w ∈ n.words d, Level own w

include v

theorem ColumnRef.made (c : ColumnRef) : MadeOf d own [] c.layout := by
  have name : MadeOf d own [] [.identifier c.name] := .cons (v.identifier c.name) .nil
  rcases c with ⟨_ | table, _⟩
  · exact name
  · exact .cons (v.identifier table) (v.text (by decide) name)

theorem Operator.made {α : Type} {op : Operator} {node : α → List Node} {layout : α → Layout}
    {parts : List α} (each : ∀ a ∈ parts, MadeOf d own (node a) (layout a))
    (whole : ¬(op.layout d (parts.map layout)).Fails) :
    MadeOf d own (parts.flatMap node) (op.layout d (parts.map layout)) := by
  unfold Operator.layout at whole ⊢
  split at whole
  · rename_i allowed
    rw [if_pos allowed]
    exact Vocabulary.separatedBy parts (v.operator op) each
  · exact (whole (fails_failure _)).elim

theorem type_of_cast {e : Expr} {target : Option DataType} {t : DataType}
    (writes : (Node.expr (.cast e target)).Worded d own)
    (found : target.or e.inferredType? = some t) : Level own (d.formatType t) := by
  cases ordinary : t.isCustom with
  | false => exact v.type t ordinary
  | true =>
    cases t with
    | custom name =>
      cases target with
      | some u =>
        obtain rfl := Option.some.inj found
        exact writes _ List.mem_cons_self
      | none =>
        -- No value has a type that only one engine knows.
        cases e with
        | value x =>
          rcases x with ⟨key, content⟩
          cases content <;> cases found
        | constant c => cases c <;> cases found
        | _ => cases found
    | _ => cases ordinary

/-- The minus in front of an operand is not among the texts that go with all others. -/
theorem Expr.made {e : Expr}
    (minus : ∀ operand, e = .negate operand → Level own "-")
    (writes : (Node.expr e).Worded d own) (whole : ¬(e.layout d).Fails) :
    MadeOf d own e.children (e.layout d) := by
  have single (e : Expr) : MadeOf d own [.expr e] (e.layout d) := madeOf_node rfl
  cases e with
  | column c => exact madeOf_node (n := .element (.column c)) rfl
  | value x => exact madeOf_node (n := .value x) rfl
  | constant c => exact madeOf_node (n := .element (.constant c)) rfl
  | wildcard table =>
    have star : MadeOf d own [] [.text "*"] := v.text (by decide) .nil
    cases table with
    | none => exact star
    | some table => exact .cons (v.identifier table) (v.text (by decide) star)
  | operation op operands =>
    rw [Expr.layout, operandLayouts_eq_map] at whole ⊢
    rw [children, List.map_eq_flatMap]
    exact op.made v (fun e _ => v.parenthesizedIf _ (single e)) whole
  | negate e => exact .cons (minus e rfl) (v.parenthesizedIf _ (single e))
  | call function arguments distinct =>
    have listed := v.separated (s := ", ") arguments (by decide) fun e _ => single e
    have inner := (v.text_if distinct (s := "DISTINCT ") (by decide)).append listed
    have name := writes function List.mem_cons_self
    have whole : MadeOf d own _ _ := .cons name (v.parenthesized fun depth => inner (depth + 1))
    rw [Expr.layout, layouts_eq_map, children, List.map_eq_flatMap]
    simpa [Layout.parenthesized] using whole
  | cast e target =>
    rw [Expr.layout] at whole ⊢
    split at whole
    · rename_i t found
      have named : MadeOf d own [] [.text (d.formatType t)] :=
        .cons (type_of_cast v writes found) .nil
      have inner := (single e).append (v.text (s := " AS ") (by decide) named)
      have whole := v.enclosed (s := "CAST(") (by decide) fun depth => inner (depth + 1)
      simpa [found, children] using whole
    · exact (whole (fails_failure _)).elim
  | case branches otherwise =>
    rw [Expr.layout] at whole ⊢
    split at whole
    · exact (whole (fails_failure _)).elim
    · rename_i some
      have branch (b : WhenBranch) :
          MadeOf d own [.condition b.condition, .expr b.result] (b.layout d) := by
        rcases b with ⟨condition, result⟩
        have asked : MadeOf d own [.condition condition] (condition.layout d) := madeOf_node rfl
        exact (v.text (s := " WHEN ") (by decide) asked).append
          (v.text (s := " THEN ") (by decide) (single result))
      have all := Vocabulary.flatMap branches fun b _ => branch b
      have last := v.clause (s := " ELSE ") otherwise _ (by decide) fun e _ => single e
      have ends : MadeOf d own [] [.text " END"] := v.text (by decide) .nil
      have whole := ((v.text (s := "CASE") (by decide) all).append last).append ends
      rw [if_neg some, WhenBranch.layouts_eq_map, layout?_eq_map, children]
      simpa [List.map_eq_flatMap] using whole
  | subquery q => exact v.parenthesized fun depth => made_query q depth
  | raw sql => exact .cons (writes sql List.mem_cons_self) .nil

theorem Junction.made {α : Type} {junction : Junction} {node : α → List Node} {layout : α → Layout}
    (parts : List α) (each : ∀ a ∈ parts, MadeOf d own (node a) (layout a)) :
    MadeOf d own (parts.flatMap node) (junction.layout (parts.map layout)) := by
  unfold Junction.layout
  cases parts with
  | nil => cases junction <;> exact v.text (by decide) .nil
  | cons a rest =>
    rw [List.map_cons, List.isEmpty_cons, if_neg Bool.false_ne_true]
    refine v.separated (a :: rest) ?_ each
    cases junction <;> decide

theorem Condition.made {c : Condition} (writes : (Node.condition c).Worded d own)
    (whole : ¬(c.layout d).Fails) : MadeOf d own c.children (c.layout d) := by
  have single (e : Expr) : MadeOf d own [.expr e] (e.layout d) := madeOf_node rfl
  have member (parent : Junction) (c : Condition) : MadeOf d own [.condition c]
      (Layout.parenthesizedIf (c.needsParentheses parent) (c.layout d)) :=
    v.parenthesizedIf _ (madeOf_node (n := .condition c) rfl)
  -- The words between an expression and what it is compared with.
  have compared (e : Expr) (words : String) {nodes : List Node} {rest : Layout} (negated : Bool)
      (fixed : (words, 0, 0) ∈ fixedTexts) (made : MadeOf d own nodes rest) :
      MadeOf d own (.expr e :: nodes)
        (e.layout d ++ .text " " :: SqlBatch.negation negated ++ .text words :: rest) := by
    have start := v.text (s := " ") (by decide) (v.negation negated)
    have whole := (single e).append (start.append (v.text fixed made))
    simpa using whole
  cases c with
  | compare left op right =>
    have symbol : (" " ++ op.symbol ++ " ", 0, 0) ∈ fixedTexts := by cases op <;> decide
    exact (single left).append (v.text symbol (single right))
  | isNull e negated =>
    refine (single e).append (v.text ?_ .nil)
    cases negated <;> decide
  | between e low high negated =>
    have range := (single low).append (v.text (s := " AND ") (by decide) (single high))
    have whole := compared e "BETWEEN " negated (by decide) range
    simpa [Condition.layout, children] using whole
  | inList e items negated =>
    rw [Condition.layout, Expr.layouts_eq_map] at whole ⊢
    split at whole
    · exact (whole (fails_failure _)).elim
    · rename_i some
      have listed := v.separated (s := ", ") items (by decide) fun e _ => single e
      have inner := v.parenthesized fun depth => listed (depth + 1)
      have whole := compared e "IN " negated (by decide) inner
      rw [if_neg some, children, List.map_eq_flatMap]
      simpa using whole
  | inQuery e q negated =>
    have inner := v.parenthesized (made_query q)
    have whole := compared e "IN " negated (by decide) inner
    simpa [Condition.layout, children] using whole
  | like e pattern negated =>
    have whole := compared e "LIKE " negated (by decide) (single pattern)
    simpa [Condition.layout, children] using whole
  | existsIn q negated =>
    have inner := v.parenthesized (made_query q)
    exact (v.negation negated).append (v.text (s := "EXISTS ") (by decide) inner)
  | not c =>
    have denied : MadeOf d own [.condition c] (c.layout d) := madeOf_node rfl
    exact v.text (by decide) (v.parenthesized fun depth => denied (depth + 1))
  | pair left right junction nested =>
    exact v.parenthesizedIf _
      (Junction.made v [left, right] fun c _ => member junction c)
  | group members junction nested =>
    rw [Condition.layout, memberLayouts_eq_map, children, List.map_eq_flatMap]
    exact v.parenthesizedIf _ (Junction.made v members fun c _ => member junction c)
  | raw sql => exact .cons (writes sql List.mem_cons_self) .nil

/-! ### Items, tables and clauses -/

theorem SelectItem.made (item : SelectItem) : MadeOf d own [.expr item.expr] (item.layout d) := by
  rcases item with ⟨e, label⟩
  have single : MadeOf d own [.expr e] (e.layout d) := madeOf_node rfl
  exact v.labelled single label

theorem SortKey.made (key : SortKey) : MadeOf d own [.expr key.expr] (key.layout d) := by
  rcases key with ⟨e, direction⟩
  have single : MadeOf d own [.expr e] (e.layout d) := madeOf_node rfl
  cases direction with
  | none => exact single.append .nil
  | some direction =>
    have word : MadeOf d own [] [.text direction.keyword] := by
      cases direction <;> exact v.text (by decide) .nil
    exact single.append (v.text (s := " ") (by decide) word)

theorem TableRef.made (t : TableRef) : MadeOf d own t.children (t.layout d) := by
  cases t with
  | named name label => exact v.labelled (.cons (v.identifier name) .nil) label
  | derived q label => exact v.labelled (v.parenthesized (made_query q)) (some label)

theorem Join.made {j : Join} (whole : ¬(j.layout d).Fails) :
    MadeOf d own j.children (j.layout d) := by
  rcases j with ⟨kind, table, condition⟩
  have joined : MadeOf d own [.element (.table table)] (table.layout d) :=
    madeOf_node (n := .element (.table table)) rfl
  have word : (kind.keyword, 0, 0) ∈ fixedTexts := by cases kind <;> decide
  have start := v.text word (v.text (s := " ") (by decide) joined)
  rw [Join.layout] at whole ⊢
  refine start.append ?_
  cases condition with
  | none =>
    rw [Condition.layout?] at whole ⊢
    dsimp only at whole ⊢
    split at whole
    · rename_i cross
      rw [if_pos cross]
      exact .nil
    · simp at whole
  | some c =>
    have asked : MadeOf d own [.condition c] (c.layout d) := madeOf_node rfl
    exact v.text (by decide) asked

theorem Select.made_clauses (q : Select) : MadeOf d own q.clauseNodes (q.clauses d) := by
  have from_ := v.clause (s := "\nFROM ") q.source (TableRef.layout d) (by decide)
    fun t _ => madeOf_node (n := .element (.table t)) rfl
  have joined : ∀ j ∈ q.joins, MadeOf d own [.join j] (.text "\n" :: j.layout d) := fun j _ =>
    v.text (by decide) (madeOf_node (n := .join j) rfl)
  have where_ := v.clause (s := "\nWHERE ") q.filter (Condition.layout d) (by decide)
    fun c _ => madeOf_node (n := .condition c) rfl
  have grouped : MadeOf d own (q.groupBy.map .expr) (if q.groupBy.isEmpty then []
      else .text "\nGROUP BY " :: Layout.separated ", " (q.groupBy.map (Expr.layout d))) := by
    have keys := v.separated (s := ", ") q.groupBy (by decide) fun e _ =>
      madeOf_node (n := .expr e) rfl
    rw [List.map_eq_flatMap]
    cases none : q.groupBy with
    | nil => exact .nil
    | cons e rest =>
      rw [none] at keys
      exact v.text (by decide) keys
  have having := v.clause (s := "\nHAVING ") q.having (Condition.layout d) (by decide)
    fun c _ => madeOf_node (n := .condition c) rfl
  have whole := (((from_.append (Vocabulary.flatMap _ joined)).append where_).append grouped).append
    having
  simpa [clauseNodes, clauses, List.map_eq_flatMap] using whole

end

/-! ### Queries -/

/-- The texts around the parts of a query; row counts stand behind and between them. -/
def pagingTexts : List String :=
  ["SELECT ", "DISTINCT ", "TOP ", "*", ", ", " ", "\nORDER BY ", ", ROW_NUMBER() OVER (ORDER BY ",
    "(SELECT NULL)", ") AS RowNumber", "\nOFFSET ", " ROWS", "\nFETCH ", "NEXT", "FIRST",
    " ROWS ONLY", "\nLIMIT ", " OFFSET ", ", 18446744073709551615", "RowNumber BETWEEN ", " AND ",
    "RowNumber <= ", "RowNumber > ", "SELECT * FROM (\n", "\n) AS PagedQuery\nWHERE ",
    "\nORDER BY RowNumber", "\n) PagedQuery\nWHERE ROWNUM <= ", "\n) PagedQuery",
    "SELECT * FROM (\nSELECT PagedQuery.*, ROWNUM AS RowNumber FROM (\n", "\nWHERE ROWNUM <= ",
    "\n)\nWHERE RowNumber > "]

/-- What the texts around the parts of a query have in common, whatever they do to parentheses. -/
structure PagingWords (d : Dialect) (own : Nat → Piece → Nat → Prop) : Prop where
  fixed : ∀ s ∈ pagingTexts, Level own s
  count : ∀ n : UInt64, Level own (toString n)
  rows : ∀ s, d.unboundedLimit = some s → Level own s
  append : ∀ s t, Level own s → Level own t → Level own (s ++ t)

namespace PagingWords

variable (w : PagingWords d own) {s : String} {inner : Layout} {nodes : List Node}

include w

theorem text (listed : s ∈ pagingTexts) (later : MadeOf d own nodes inner) :
    MadeOf d own nodes (.text s :: inner) := .cons (w.fixed s listed) later

theorem behind (level : Level own s) (n : UInt64) : Level own (s ++ toString n) :=
  w.append _ _ level (w.count n)

theorem between (level : Level own s) (n : UInt64) {t : String} (listed : t ∈ pagingTexts) :
    Level own (s ++ toString n ++ t) := w.append _ _ (w.behind level n) (w.fixed t listed)

theorem selectWords (q : QueryParts) (top : Option UInt64) :
    MadeOf d own [] (q.selectWords top) := by
  have distinct : MadeOf d own [] (if q.distinct then [.text "DISTINCT "] else []) := by
    split
    · exact w.text (by decide) .nil
    · exact .nil
  have start := w.text (s := "SELECT ") (by decide) distinct
  exact start.append (madeOf_count _ fun n => w.between (w.fixed "TOP " (by decide)) n (by decide))

theorem fetchClause (q : QueryParts) : MadeOf d own [] q.fetchClause := by
  have skipped := madeOf_count (d := d) q.offset fun n =>
    w.between (w.fixed "\nOFFSET " (by decide)) n (t := " ROWS") (by decide)
  refine skipped.append (madeOf_count _ fun n => w.between ?_ n (by decide))
  refine w.append _ _ (w.append _ _ (w.fixed "\nFETCH " (by decide)) ?_) (w.fixed " " (by decide))
  split <;> exact w.fixed _ (by decide)

theorem limitClause (q : QueryParts) : MadeOf d own [] (q.limitClause d.unboundedLimit) := by
  have limit (n : UInt64) := w.behind (w.fixed "\nLIMIT " (by decide)) n
  have skipping {s : String} (level : Level own s) :=
    w.append _ _ level (w.fixed " OFFSET " (by decide))
  unfold QueryParts.limitClause
  split
  · exact madeOf_text (w.behind (skipping (limit _)) _)
  · exact madeOf_text (limit _)
  · split
    · rename_i rows set
      have all := w.append _ _ (w.fixed "\nLIMIT " (by decide)) (w.rows rows set)
      exact madeOf_text (w.behind (skipping all) _)
    · exact madeOf_text (w.behind (w.fixed _ (by decide)) _)
  · exact .nil

theorem limitPairClause (q : QueryParts) : MadeOf d own [] q.limitPairClause := by
  have limit := w.fixed "\nLIMIT " (by decide)
  unfold QueryParts.limitPairClause
  split
  · exact madeOf_text (w.behind (w.between limit _ (by decide)) _)
  · exact madeOf_text (w.behind limit _)
  · exact madeOf_text (w.between limit _ (by decide))
  · exact .nil

theorem rowNumberBounds (q : QueryParts) : MadeOf d own [] q.rowNumberBounds := by
  unfold QueryParts.rowNumberBounds
  split
  · have low := w.fixed "RowNumber BETWEEN " (by decide)
    exact madeOf_text (w.behind (w.between low _ (by decide)) _)
  · exact madeOf_text (w.behind (w.fixed _ (by decide)) _)
  · exact madeOf_text (w.behind (w.fixed _ (by decide)) _)
  · exact .nil

end PagingWords

namespace Select

variable (v : Vocabulary d own) (w : PagingWords d own) (q : Select)

include v w

theorem made_projection :
    MadeOf d own (q.items.map (.element ∘ .item)) (q.parts d).projection := by
  have listed := v.separated (s := ", ") q.items (by decide) fun i _ =>
    madeOf_node (n := .element (.item i)) rfl
  unfold QueryParts.projection parts
  rw [List.map_eq_flatMap]
  cases none : q.items with
  | nil => exact w.text (by decide) .nil
  | cons item rest =>
    rw [none] at listed
    exact listed

omit w in
theorem made_keys : MadeOf d own q.keyNodes (Layout.separated ", " (q.parts d).sortKeys) := by
  unfold keyNodes
  rw [List.map_eq_flatMap]
  exact v.separated (s := ", ") q.sortKeys (by decide) fun k _ =>
    madeOf_node (n := .element (.sortKey k)) rfl

theorem made_sorting : MadeOf d own q.keyNodes (q.parts d).sorting := by
  have keys := q.made_keys v
  unfold QueryParts.sorting
  unfold keyNodes parts at keys ⊢
  cases none : q.sortKeys with
  | nil => exact .nil
  | cons key rest =>
    rw [none] at keys
    exact w.text (by decide) keys

theorem made_body (top : Option UInt64) :
    MadeOf d own (q.items.map (.element ∘ .item) ++ (q.clauseNodes ++ q.keyNodes))
      ((q.parts d).body top) := by
  have start := (w.selectWords (q.parts d) top).append (q.made_projection v w)
  have whole := (start.append (q.made_clauses v)).append (q.made_sorting v w)
  rwa [List.append_assoc] at whole

theorem made_numberedBody :
    MadeOf d own (q.items.map (.element ∘ .item) ++ (q.keyNodes ++ q.clauseNodes))
      (q.parts d).numberedBody := by
  have keys : MadeOf d own q.keyNodes (if (q.parts d).sortKeys.isEmpty then [.text "(SELECT NULL)"]
      else Layout.separated ", " (q.parts d).sortKeys) := by
    have keys := q.made_keys v
    unfold keyNodes parts at keys ⊢
    cases none : q.sortKeys with
    | nil => exact w.text (by decide) .nil
    | cons key rest =>
      rw [none] at keys
      exact keys
  have clauses := w.text (s := ") AS RowNumber") (by decide) (q.made_clauses v)
  have numbers := w.text (s := ", ROW_NUMBER() OVER (ORDER BY ") (by decide) (keys.append clauses)
  have start := (w.selectWords (q.parts d) none).append (q.made_projection v w)
  have whole := start.append numbers
  rw [QueryParts.numberedBody, List.append_assoc, List.cons_append]
  exact whole

theorem made_rownumLayout :
    MadeOf d own (q.items.map (.element ∘ .item) ++ (q.clauseNodes ++ q.keyNodes))
      (q.parts d).rownumLayout := by
  have body := q.made_body v w none
  unfold QueryParts.rownumLayout
  split
  · rename_i limit _ _
    have bound := madeOf_text (d := d)
      (w.behind (w.fixed "\n) PagedQuery\nWHERE ROWNUM <= " (by decide)) limit)
    have whole := w.text (s := "SELECT * FROM (\n") (by decide) (body.append bound)
    simpa using whole
  · let skipped := (q.parts d).offset.getD 0
    have bound := madeOf_count (d := d) (q.parts d).limit fun n =>
      w.behind (w.fixed "\nWHERE ROWNUM <= " (by decide)) (rowCountSum skipped n)
    have last := madeOf_text (d := d)
      (w.behind (w.fixed "\n)\nWHERE RowNumber > " (by decide)) skipped)
    have outer := w.text (s := "\n) PagedQuery") (by decide) (bound.append last)
    have whole := w.text
      (s := "SELECT * FROM (\nSELECT PagedQuery.*, ROWNUM AS RowNumber FROM (\n") (by decide)
      (body.append outer)
    simpa using whole

theorem made_rowNumberLayout :
    MadeOf d own (q.items.map (.element ∘ .item) ++ (q.keyNodes ++ q.clauseNodes))
      (q.parts d).rowNumberLayout := by
  have sorted := w.text (s := "\nORDER BY RowNumber") (by decide) (.nil (d := d))
  have bounds := (w.rowNumberBounds (q.parts d)).append sorted
  have filtered := w.text (s := "\n) AS PagedQuery\nWHERE ") (by decide) bounds
  have whole := w.text (s := "SELECT * FROM (\n") (by decide)
    ((q.made_numberedBody v w).append filtered)
  simpa [QueryParts.rowNumberLayout] using whole

theorem made_topLayout (whole : ¬(q.parts d).topLayout.Fails) :
    MadeOf d own (q.items.map (.element ∘ .item) ++ (q.clauseNodes ++ q.keyNodes))
      (q.parts d).topLayout := by
  unfold QueryParts.topLayout at whole ⊢
  split
  · exact q.made_body v w _
  · rename_i skips
    rw [if_neg skips, fails_append] at whole
    split
    · rename_i unsorted
      simp [unsorted] at whole
    · have paged := (q.made_body v w none).append (w.fetchClause (q.parts d))
      rwa [List.append_nil] at paged

/-- Every way to page a query writes its parts one after another. -/
theorem made (whole : ¬(q.layout d).Fails) : MadeOf d own (q.children d) (q.layout d) := by
  have behind {clause : Layout} (made : MadeOf d own [] clause) :
      MadeOf d own (q.items.map (.element ∘ .item) ++ (q.clauseNodes ++ q.keyNodes))
        ((q.parts d).body none ++ clause) := by
    have paged := (q.made_body v w none).append made
    rwa [List.append_nil] at paged
  rw [layout_eq_parts, QueryParts.layout] at whole ⊢
  unfold children sortsFirst
  split at whole
  · exact (whole (fails_failure _)).elim
  · rename_i supported
    rw [if_neg supported]
    split at whole <;> rename_i strategy <;> rw [strategy]
    · exact behind (w.fetchClause _)
    · exact q.made_topLayout v w whole
    · exact behind (w.limitClause _)
    · exact behind (w.limitPairClause _)
    · change MadeOf d own (_ ++ if (q.parts d).hasWindow then _ else _) _
      cases (q.parts d).hasWindow with
      | false => exact q.made_body v w none
      | true => exact q.made_rowNumberLayout v w
    · cases (q.parts d).hasWindow with
      | false => exact q.made_body v w none
      | true => exact q.made_rownumLayout v w

end Select

/-- What is written inside of statements is made of its children and of pieces of its own. -/
theorem Element.made (v : Vocabulary d own) {e : Element} (inner : (Node.element e).isInner = true)
    (minus : ∀ operand, e = .expr (.negate operand) → Level own "-")
    (writes : (Node.element e).Worded d own) (whole : ¬(e.layout d).Fails) :
    MadeOf d own e.children (e.layout d) := by
  cases e with
  | expr e =>
    refine Expr.made v (fun operand same => minus operand ?_) writes whole
    rw [same]
  | condition c => exact Condition.made v writes whole
  | item i => exact i.made v
  | sortKey k => exact k.made v
  | table t => exact t.made v
  | join j => exact Join.made v whole
  | column c => exact c.made v
  | value x => exact .cons (v.placeholder x) .nil
  | constant c => exact .cons (v.literal c) .nil
  | statement | columnDefinition | statements => cases inner

theorem Node.made (v : Vocabulary d own) (w : PagingWords d own) {n : Node}
    (inner : n.isInner = true)
    (minus : ∀ operand, n = .expr (.negate operand) → Level own "-") (writes : n.Worded d own)
    (whole : ¬(n.layout d).Fails) : MadeOf d own (n.children d) (n.layout d) := by
  cases n with
  | element e =>
    refine e.made v inner (fun operand same => minus operand ?_) writes whole
    rw [same]
  | query q => exact q.made v w whole

/-! ### Parts of a tree -/

theorem Node.isInner_children {n : Node} (inner : n.isInner = true) :
    ∀ c ∈ n.children d, c.isInner = true := by
  cases n with
  | element e =>
    cases e with
    | expr e =>
      cases e <;> simp +contextual [children, Element.children, Expr.children, isInner, or_imp]
    | condition c => cases c <;> simp [children, Element.children, Condition.children, isInner]
    | table t => cases t <;> simp [children, Element.children, TableRef.children, isInner]
    | join j => simp +contextual [children, Element.children, Join.children, isInner, or_imp]
    | statement | columnDefinition | statements => cases inner
    | _ => simp [children, Element.children, isInner]
  | query q =>
    intro c member
    rw [children, Select.mem_children] at member
    simp only [Select.clauseNodes, Select.keyNodes, List.mem_append, List.mem_map] at member
    aesop

/-- Anything can stand between the layouts of nodes. -/
theorem Vocabulary.trivial (d : Dialect) : Vocabulary d fun _ _ _ => True :=
  ⟨fun _ _ => .intro, fun _ _ => .intro, fun _ _ => .intro, fun _ _ => .intro, fun _ _ => .intro,
    fun _ _ _ => .intro⟩

theorem PagingWords.trivial (d : Dialect) : PagingWords d fun _ _ _ => True :=
  ⟨fun _ _ _ => .intro, fun _ _ => .intro, fun _ _ _ => .intro, fun _ _ _ _ _ => .intro⟩

theorem Node.infix_of_mem_children {c n : Node} (inner : n.isInner = true)
    (whole : ¬(n.layout d).Fails) (member : c ∈ n.children d) : c.layout d <:+: n.layout d := by
  have made := Node.made (.trivial d) (.trivial d) inner (fun _ _ _ => .intro) (fun _ _ _ => .intro)
    whole
  exact (made 0).infix_of_mem member

theorem Layout.Fails.of_infix {part layout : Layout} (fails : part.Fails)
    (inside : part <:+: layout) : layout.Fails := by
  obtain ⟨e, failure⟩ := fails
  exact ⟨e, inside.subset failure⟩

theorem Node.PartOf.trans {p m n : Node} (outer : m.PartOf d n) (inner : p.PartOf d m) :
    p.PartOf d n := by
  induction outer with
  | self => exact inner
  | child inside part ih => exact .child inside ih

/-- Whatever is inside of a tree that renders stands whole in its text. -/
theorem Node.PartOf.infix {p n : Node} (part : p.PartOf d n) (inner : n.isInner = true)
    (whole : ¬(n.layout d).Fails) : p.layout d <:+: n.layout d := by
  induction part with
  | self => exact List.infix_refl _
  | @child c n inside part ih =>
    have here := infix_of_mem_children inner whole inside
    have below := ih (isInner_children inner c inside) fun fails => whole (fails.of_infix here)
    exact below.trans here

end SqlBatch
