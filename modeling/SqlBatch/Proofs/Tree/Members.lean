import SqlBatch.Proofs.Text.Landmarks
import SqlBatch.Proofs.Tree.Assembly

/-!
# Orders and pages of members

The members of a compound are written one after another without parentheses. What a reader finds of
their orders and pages outside of all parentheses is read as that of the whole compound, or not at
all.
-/
namespace SqlBatch

open Landmark Layout

variable {d : Dialect}

/-! ### Types -/

theorem DataType.silent_sql {t : DataType} (ordinary : t.isCustom = false) : IsSilent t.sql := by
  have closing : Hidden 1 ")" 0 := hidden_of_unseen (by decide)
  have sized {name : String} (word : unseen 0 (capitals name) = some 0)
      (opening : unseen 0 (capitals (name ++ "(")) = some 1) (length : Option UInt32) :
      IsSilent (DataType.sized name length) := by
    cases length with
    | none => exact silent_of_unseen word
    | some length => exact (hidden_of_unseen opening).numeral length.toNat closing
  cases t with
  | decimal precision scale =>
    cases precision with
    | none => exact silent_of_unseen (s := "DECIMAL") (by decide)
    | some precision =>
      have opening : Hidden 0 "DECIMAL(" 1 := hidden_of_unseen (by decide)
      cases scale with
      | none => exact opening.numeral precision.toNat closing
      | some scale =>
        have comma : Hidden 1 ", " 1 := hidden_of_unseen (by decide)
        exact (opening.numeral precision.toNat comma).numeral scale.toNat closing
  | char length => exact sized (by decide) (by decide) length
  | varchar length => exact sized (by decide) (by decide) length
  | varbinary length => exact sized (by decide) (by decide) length
  | custom => cases ordinary
  | _ =>
    apply silent_of_unseen
    simp only [sql]
    decide

theorem DataType.silent_storageClass {t : DataType} (ordinary : t.isCustom = false) :
    IsSilent t.storageClass := by
  cases t with
  | custom => cases ordinary
  | _ =>
    apply silent_of_unseen
    simp only [storageClass]
    decide

/-! ### Trees -/

/-- A dialect whose own words are silent. -/
structure Dialect.Silent (d : Dialect) : Prop where
  operator : IsSilent (" " ++ d.concatOperator ++ " ")
  type : ∀ t : DataType, t.isCustom = false → IsSilent (d.formatType t)
  rows : ∀ s, d.unboundedLimit = some s → s ≠ "" ∧ ∀ c ∈ capitals s, IsOrdinary c

/-! ### Queries -/

/-- A query of silent parts. -/
structure QueryParts.Silent (q : QueryParts) : Prop where
  items : ∀ layout ∈ q.items, Layout.Silent layout
  clauses : Layout.Silent q.clauses
  sortKeys : ∀ layout ∈ q.sortKeys, Layout.Silent layout

namespace QueryParts

def orders (q : QueryParts) : List Landmark := if q.sortKeys.isEmpty then [] else [ordering]

/-- The words of a limit and an offset in one clause. A dialect can have a word for all rows that
stands for a limit where there is none. -/
def limits (unbounded : Option String) (q : QueryParts) : List Landmark :=
  (if q.limit.isSome || (q.offset.isSome && unbounded.isSome) then [paging] else []) ++
    (q.offset.toList.map fun _ => paging)

def fetches (q : QueryParts) : List Landmark :=
  (q.offset.toList.map fun _ => paging) ++ (q.limit.toList.map fun _ => paging)

/-- What a query leaves of its order and its page outside of all parentheses. Some ways to page put
the query in parentheses, and with it its order. -/
def tails (d : Dialect) (q : QueryParts) : List Landmark :=
  match d.paging with
  | .fetchFirst => q.orders ++ q.fetches
  | .top => q.orders ++ if q.offset.isNone then [] else q.fetches
  | .limit => q.orders ++ q.limits d.unboundedLimit
  | .limitWithOffset => q.orders ++ if q.hasWindow then [paging] else []
  | .rowNumber => if q.hasWindow then [ordering] else q.orders
  | .rowNumberAutomatic => if q.hasWindow then [] else q.orders

variable (q : QueryParts)

theorem silent_selectWords (top : Option UInt64) : Layout.Silent (q.selectWords top) := by
  have start : Layout.Silent [.text "SELECT "] := silent_fixed (by decide)
  have distinct : Layout.Silent (if q.distinct then [.text "DISTINCT "] else []) := by
    split
    · exact silent_fixed (by decide)
    · exact silent_nil
  have counted : Layout.Silent
      (top.toList.map fun count => .text ("TOP " ++ toString count ++ " ")) := by
    cases top with
    | none => exact silent_nil
    | some n =>
      have word : Hidden 0 "TOP " 0 := hidden_of_unseen (by decide)
      have blank : Hidden 0 " " 0 := hidden_of_unseen (by decide)
      exact silent_text (word.numeral n.toNat blank)
  exact (start.append distinct).append counted

theorem reveals_fetchClause : Reveals q.fetches q.fetchClause := by
  have rows : IsSilent " ROWS" := silent_of_unseen (by decide)
  have only : IsSilent " ROWS ONLY" := silent_of_unseen (by decide)
  have skipped : Reveals (q.offset.toList.map fun _ => paging)
      (q.offset.toList.map fun offset => .text ("\nOFFSET " ++ toString offset ++ " ROWS")) := by
    cases q.offset with
    | none => exact silent_nil.reveals
    | some n =>
      have word : Displays [paging] "\nOFFSET " := displays_of_flat (by decide)
      exact reveals_text (word.numeral n.toNat rows.displays)
  refine skipped.append ?_
  cases q.limit with
  | none => exact silent_nil.reveals
  | some n =>
    have word : Displays [paging]
        ("\nFETCH " ++ (if q.offset.isSome then "NEXT" else "FIRST") ++ " ") := by
      split <;> exact displays_of_flat (by decide)
    exact reveals_text (word.numeral n.toNat only.displays)

theorem reveals_limitClause (ordinary : ∀ s, d.unboundedLimit = some s →
      s ≠ "" ∧ ∀ c ∈ capitals s, IsOrdinary c) :
    Reveals (q.limits d.unboundedLimit) (q.limitClause d.unboundedLimit) := by
  have limited : Displays [paging] "\nLIMIT " := displays_of_flat (by decide)
  have skipping : Displays [paging] " OFFSET " := displays_of_flat (by decide)
  unfold limits limitClause
  cases q.limit with
  | some limit =>
    cases q.offset with
    | some offset =>
      exact reveals_text ((limited.numeral limit.toNat skipping).last_numeral offset.toNat)
    | none => exact reveals_text (limited.last_numeral limit.toNat)
  | none =>
    cases q.offset with
    | some offset =>
      cases rows : d.unboundedLimit with
      | some all =>
        obtain ⟨filled, plain⟩ := ordinary all rows
        exact reveals_text ((limited.append filled plain skipping).last_numeral offset.toNat)
      | none =>
        have alone : Displays [paging] "\nOFFSET " := displays_of_flat (by decide)
        exact reveals_text (alone.last_numeral offset.toNat)
    | none => exact silent_nil.reveals

theorem reveals_limitPairClause :
    Reveals (if q.hasWindow then [paging] else []) q.limitPairClause := by
  have word : Displays [paging] "\nLIMIT " := displays_of_flat (by decide)
  have comma : IsSilent ", " := silent_of_unseen (by decide)
  have all : IsSilent ", 18446744073709551615" := silent_of_unseen (by decide)
  unfold hasWindow limitPairClause
  cases q.limit with
  | some limit =>
    cases q.offset with
    | some offset =>
      exact reveals_text ((word.numeral offset.toNat comma.displays).last_numeral limit.toNat)
    | none => exact reveals_text (word.last_numeral limit.toNat)
  | none =>
    cases q.offset with
    | some offset => exact reveals_text (word.numeral offset.toNat all.displays)
    | none => exact silent_nil.reveals

theorem silent_rowNumberBounds : Layout.Silent q.rowNumberBounds := by
  unfold rowNumberBounds
  have counted {s : String} (hidden : unseen 0 (capitals s) = some 0) (n : UInt64) :
      Layout.Silent [.text (s ++ toString n)] :=
    silent_text ((hidden_of_unseen hidden).last_numeral n.toNat)
  split
  · rename_i limit offset _ _
    have low : Hidden 0 "RowNumber BETWEEN " 0 := hidden_of_unseen (by decide)
    have word : Hidden 0 " AND " 0 := hidden_of_unseen (by decide)
    have both := low.numeral (rowCountSum offset 1).toNat word
    exact silent_text (both.last_numeral (rowCountSum offset limit).toNat)
  · exact counted (by decide) _
  · exact counted (by decide) _
  · exact silent_nil

namespace Silent

variable {q : QueryParts} (silent : q.Silent)

include silent

theorem projection : Layout.Silent q.projection := by
  unfold QueryParts.projection
  split
  · exact silent_fixed (by decide)
  · exact silent_separated (silent_of_unseen (by decide)) silent.items

theorem keys : Layout.Silent (Layout.separated ", " q.sortKeys) :=
  silent_separated (silent_of_unseen (by decide)) silent.sortKeys

theorem sorting : Reveals q.orders q.sorting := by
  unfold orders QueryParts.sorting
  split
  · exact silent_nil.reveals
  · have word : Reveals [ordering] [.text "\nORDER BY "] :=
      reveals_text (displays_of_flat (by decide))
    exact word.append silent.keys.reveals

theorem body (top : Option UInt64) : Reveals q.orders (q.body top) := by
  have start := (q.silent_selectWords top).append silent.projection
  exact (start.append silent.clauses).reveals.append silent.sorting

/-- The sort keys of numbered rows stand in parentheses. -/
theorem numberedBody : Layout.Silent q.numberedBody := by
  have keys : Layout.Silent (if q.sortKeys.isEmpty then [.text "(SELECT NULL)"]
      else Layout.separated ", " q.sortKeys) := by
    split
    · exact silent_fixed (by decide)
    · exact silent.keys
  have opening : Between 0 [.text ", ROW_NUMBER() OVER (ORDER BY "] 1 :=
    between_text (hidden_of_unseen (by decide))
  have closing : Between 1 [.text ") AS RowNumber"] 0 := between_text (hidden_of_unseen (by decide))
  have behind := closing.append (silent.clauses.between 0)
  have numbers := (opening.append (keys.between 1)).append behind
  have start := (q.silent_selectWords none).append silent.projection
  simpa [QueryParts.numberedBody] using start.append numbers.silent

theorem rowNumberLayout : Reveals [ordering] q.rowNumberLayout := by
  have opening : Between 0 [.text "SELECT * FROM (\n"] 1 :=
    between_text (hidden_of_unseen (by decide))
  have closing : Between 1 [.text "\n) AS PagedQuery\nWHERE "] 0 :=
    between_text (hidden_of_unseen (by decide))
  have inner := (opening.append (silent.numberedBody.between 1)).append closing
  have last : Reveals [ordering] [.text "\nORDER BY RowNumber"] :=
    reveals_text (displays_of_flat (by decide))
  have whole := (inner.silent.append q.silent_rowNumberBounds).reveals.append last
  simpa [QueryParts.rowNumberLayout] using whole

theorem rownumLayout : Layout.Silent q.rownumLayout := by
  have body := silent.body none
  unfold QueryParts.rownumLayout
  split
  · rename_i limit _ _
    have opening : Between 0 [.text "SELECT * FROM (\n"] 1 :=
      between_text (hidden_of_unseen (by decide))
    have closing : Hidden 1 "\n) PagedQuery\nWHERE ROWNUM <= " 0 := hidden_of_unseen (by decide)
    have last := between_text (closing.last_numeral limit.toNat)
    exact ((opening.append (body.between 0)).append last).silent
  · let skipped := q.offset.getD 0
    have opening : Between 0
        [.text "SELECT * FROM (\nSELECT PagedQuery.*, ROWNUM AS RowNumber FROM (\n"] 2 :=
      between_text (hidden_of_unseen (by decide))
    have closing : Between 2 [.text "\n) PagedQuery"] 1 :=
      between_text (hidden_of_unseen (by decide))
    have bound : Layout.Silent (q.limit.toList.map fun limit =>
        .text ("\nWHERE ROWNUM <= " ++ toString (rowCountSum skipped limit))) := by
      cases q.limit with
      | none => exact silent_nil
      | some n =>
        have word : Hidden 0 "\nWHERE ROWNUM <= " 0 := hidden_of_unseen (by decide)
        exact silent_text (word.last_numeral _)
    have last : Hidden 1 "\n)\nWHERE RowNumber > " 0 := hidden_of_unseen (by decide)
    have inner := (opening.append (body.between 1)).append (closing.append (bound.between 1))
    exact (inner.append (between_text (last.last_numeral skipped.toNat))).silent

/-- What is found of a query that renders. -/
theorem layout (rows : ∀ s, d.unboundedLimit = some s → s ≠ "" ∧ ∀ c ∈ capitals s, IsOrdinary c)
    (whole : ¬(q.layout d).Fails) : Reveals (q.tails d) (q.layout d) := by
  have body := silent.body none
  unfold QueryParts.layout at whole ⊢
  unfold tails
  split at whole
  · exact (whole (fails_failure _)).elim
  · rename_i supported
    rw [if_neg supported]
    cases strategy : d.paging with
    | fetchFirst => exact body.append q.reveals_fetchClause
    | top =>
      rw [strategy] at whole
      unfold topLayout at whole ⊢
      dsimp only at whole ⊢
      by_cases skips : q.offset.isNone = true
      · rw [if_pos skips, if_pos skips, List.append_nil]
        exact silent.body _
      · rw [if_neg skips, fails_append] at whole
        rw [if_neg skips, if_neg skips]
        by_cases unsorted : q.sortKeys.isEmpty = true
        · exact absurd (.inr (by simp [unsorted])) whole
        · rw [if_neg unsorted]
          exact body.append q.reveals_fetchClause
    | limit => exact body.append (q.reveals_limitClause rows)
    | limitWithOffset => exact body.append q.reveals_limitPairClause
    | rowNumber =>
      cases q.hasWindow with
      | false => exact body
      | true => exact silent.rowNumberLayout
    | rowNumberAutomatic =>
      cases q.hasWindow with
      | false => exact body
      | true => exact silent.rownumLayout.reveals

end Silent

end QueryParts

/-! ### Trees -/

/-- A piece that nothing is seen in. -/
def Piece.Passes : Nat → Piece → Nat → Prop := fun a piece b => Between a [piece] b

/-- What a node leaves outside of all parentheses: a query its order and its page. -/
def Node.tails (d : Dialect) : Node → List Landmark
  | .query q => (q.parts d).tails d
  | .element _ => []

/-- Nothing is seen of what is made of hidden pieces, of silent layouts and of queries in
parentheses. -/
theorem Layout.Made.between {a b : Nat} {nodes : List Node} {layout : Layout}
    (made : Made d Piece.Passes a nodes layout b)
    (each : ∀ n ∈ nodes, Reveals (n.tails d) (n.layout d)) : Between a layout b := by
  induction made with
  | nil => exact silent_nil.between _
  | piece here later ih => exact Between.append here (ih each)
  | @child depth after n nodes rest enclosed later ih =>
    obtain ⟨first, others⟩ := List.forall_mem_cons.mp each
    refine Between.append ?_ (ih others)
    cases n with
    | element e => exact first.silent.between depth
    | query q =>
      obtain ⟨outer, rfl⟩ := Nat.exists_eq_succ_of_ne_zero (enclosed rfl)
      exact first.between outer

theorem passes_level {s : String} (silent : IsSilent s) : Level Piece.Passes s := fun depth =>
  (silent_text silent).between depth

namespace Dialect.Silent

variable (silent : d.Silent)

include silent

theorem vocabulary : Vocabulary d Piece.Passes where
  fixed := by
    have hidden : ∀ text ∈ fixedTexts, unseen text.2.1 (capitals text.1) = some text.2.2 := by
      decide
    intro s a b listed depth other
    have here := hidden_of_unseen (hidden _ listed) (other + depth)
    rw [survey_text, ← Nat.add_assoc, here, Nat.add_assoc]
  identifier name depth := fun _ => rfl
  literal c depth := fun _ => rfl
  placeholder v depth := fun _ => rfl
  operator op := by
    have symbol (op : Operator) : unseen 0 (capitals (" " ++ op.symbol ++ " ")) = some 0 := by
      cases op <;> decide
    cases op with
    | concat => exact passes_level silent.operator
    | _ => exact passes_level (silent_of_unseen (symbol _))
  type t ordinary := passes_level (silent.type t ordinary)

/-- A query of silent items, clauses and sort keys. -/
theorem parts {q : Select}
    (each : ∀ n ∈ q.children d, Reveals (n.tails d) (n.layout d)) : (q.parts d).Silent := by
  have child (n : Node) (member : n ∈ q.items.map (.element ∘ .item) ∨ n ∈ q.clauseNodes ∨
      n ∈ q.keyNodes) : Reveals (n.tails d) (n.layout d) :=
    each n (Select.mem_children.mpr (by simpa using member))
  constructor
  · intro layout listed
    obtain ⟨item, member, rfl⟩ := List.mem_map.mp listed
    exact (child (.element (.item item)) (.inl (List.mem_map_of_mem member))).silent
  · exact ((q.made_clauses silent.vocabulary 0).between fun n member =>
      child n (.inr (.inl member))).silent
  · intro layout listed
    obtain ⟨key, member, rfl⟩ := List.mem_map.mp listed
    exact (child (.element (.sortKey key)) (.inr (.inr (List.mem_map_of_mem member)))).silent

/-- What is seen of a tree from the outside, by induction from the children upwards. -/
theorem reveals {n : Node} (inner : n.isInner = true)
    (outside : ∀ p : Node, p.PartOf d n → ∀ w ∈ p.words d, IsSilent w)
    (whole : ¬(n.layout d).Fails) : Reveals (n.tails d) (n.layout d) := by
  induction n using Node.fromChildren d with
  | step n ih =>
    have children : ∀ c ∈ n.children d, Reveals (c.tails d) (c.layout d) := by
      intro c member
      have inside := Node.infix_of_mem_children inner whole member
      refine ih c member (Node.isInner_children inner c member) ?_ ?_
      · exact fun p part => outside p (.child member part)
      · exact fun fails => whole (fails.of_infix inside)
    cases n with
    | element e =>
      have minus : IsSilent "-" := silent_of_unseen (by decide)
      have made := e.made silent.vocabulary inner (fun _ _ => passes_level minus)
        (fun w written => passes_level (outside _ .self w written)) whole
      exact ((made 0).between children).silent.reveals
    | query q =>
      change Reveals _ (q.layout d)
      rw [Node.layout, q.layout_eq_parts] at whole
      rw [q.layout_eq_parts]
      exact (silent.parts children).layout silent.rows whole

end Dialect.Silent

/-! ### Compounds -/

/-- How the landmarks of a compound are read: what follows the last member belongs to the whole
compound, and nothing may follow another one. -/
def compoundTail (found : List Landmark) : Option (List Landmark) :=
  let members := found.splitOn junction
  if members.dropLast.all (·.isEmpty) then members.getLast? else none

/-- A query that leaves an order or a page outside of all parentheses. -/
def Select.LeavesTail (d : Dialect) (q : Select) : Prop :=
  match d.paging with
  | .rowNumberAutomatic => q.sortKeys ≠ [] ∧ q.limit = none ∧ q.offset = none
  | .top => q.sortKeys ≠ [] ∨ q.offset ≠ none
  | _ => q.sortKeys ≠ [] ∨ q.limit ≠ none ∨ q.offset ≠ none

theorem Select.tails_eq_nil {q : Select} : (q.parts d).tails d = [] ↔ ¬q.LeavesTail d := by
  unfold QueryParts.tails LeavesTail QueryParts.orders QueryParts.fetches QueryParts.limits
    QueryParts.hasWindow parts
  cases d.paging <;> cases q.sortKeys <;> cases q.limit <;> cases q.offset <;> simp

theorem QueryParts.junction_notMem_tails (q : QueryParts) : junction ∉ q.tails d := by
  unfold tails orders fetches limits
  cases d.paging <;> cases q.sortKeys <;> cases q.limit <;> cases q.offset <;> simp [hasWindow]

theorem compoundTail_eq_nil {found : List Landmark} {parts : List (List Landmark)}
    (split : found.splitOn junction = parts) (filled : parts ≠ []) :
    compoundTail found = some [] ↔ ∀ tail ∈ parts, tail = [] := by
  obtain ⟨earlier, last, rfl⟩ := (List.eq_nil_or_concat' parts).resolve_left filled
  unfold compoundTail
  dsimp only
  rw [split, List.dropLast_concat, List.getLast?_concat, List.forall_mem_append,
    List.forall_mem_singleton]
  by_cases empty : ∀ tail ∈ earlier, tail = []
  · have all : earlier.all (·.isEmpty) = true := by simpa using empty
    rw [if_pos all]
    constructor
    · intro none
      exact ⟨empty, Option.some.inj none⟩
    · rintro ⟨-, rfl⟩
      rfl
  · have some : ¬earlier.all (·.isEmpty) = true := by simpa using empty
    rw [if_neg some]
    exact ⟨nofun, fun both => (empty both.1).elim⟩

/-- The members one after another, with what they leave of their orders and pages between the
operators. -/
theorem Compound.reveals (silent : d.Silent) {s : Compound}
    (outside : ∀ p : Node, p.PartOf d (.statement (.compound s)) → ∀ w ∈ p.words d, IsSilent w)
    (whole : ¬(s.layout d).Fails) :
    Reveals ([junction].intercalate (s.members.map fun q => (q.parts d).tails d)) (s.layout d) := by
  unfold Compound.layout at whole ⊢
  split at whole
  · exact (whole (fails_failure _)).elim
  · rename_i enough
    rw [if_neg enough]
    have between : Displays [junction] ("\n" ++ s.operator.keyword ++ "\n") := by
      cases s.operator <;> exact displays_of_flat (by decide)
    refine reveals_separated between s.members fun q member => ?_
    have inside : Node.query q ∈ (Node.statement (.compound s)).children d :=
      List.mem_map_of_mem member
    have fine : ¬(q.layout d).Fails := by
      rintro ⟨e, failure⟩
      exact whole ⟨e, mem_separated (List.mem_map_of_mem member) failure⟩
    exact silent.reveals (n := .query q) rfl (fun p part => outside p (.child inside part)) fine

/-- Read as a whole, a compound has no order and no page of its own, and each member keeps its own
to itself, exactly if no member leaves one outside of all parentheses. -/
theorem compound_without_tail_iff (silent : d.Silent) {s : Compound} {r : Rendered}
    (outside : ∀ p : Node, p.PartOf d (.statement (.compound s)) → ∀ w ∈ p.words d, IsSilent w)
    (rendered : ((Statement.compound s).layout d).render d = .ok r) :
    let layout := (Statement.compound s).layout d
    r.sql = layout.textOn d (enrollAll [] layout.bound) ∧
      ∃ found, layout.survey 0 = (found, 0) ∧
        found.splitOn junction = s.members.map (fun q => (q.parts d).tails d) ∧
        (compoundTail found = some [] ↔ ∀ q ∈ s.members, ¬q.LeavesTail d) := by
  obtain ⟨success, rfl⟩ := Layout.render_eq_ok rendered
  have whole := Layout.failure?_eq_none.mp success
  have members : ¬(s.layout d).Fails := fun fails =>
    whole (fails.of_infix (List.prefix_append _ _).isInfix)
  have filled : s.members ≠ [] := by
    intro none
    refine members ?_
    rw [Compound.layout, none]
    exact fails_failure _
  let tails := s.members.map fun q => (q.parts d).tails d
  have shown := Compound.reveals silent outside members 0
  have ended : ((Statement.compound s).layout d).survey 0 = ([junction].intercalate tails, 0) := by
    rw [Statement.layout, Layout.survey_append, shown]
    simp [Layout.survey, Piece.survey, tails]
  have split : ([junction].intercalate tails).splitOn junction = tails := by
    apply List.splitOn_intercalate junction
    · intro tail listed
      obtain ⟨q, -, rfl⟩ := List.mem_map.mp listed
      exact QueryParts.junction_notMem_tails _
    · simpa [tails] using filled
  refine ⟨rfl, _, ended, split, ?_⟩
  rw [compoundTail_eq_nil split (by simpa [tails] using filled), List.forall_mem_map]
  exact forall₂_congr fun q _ => Select.tails_eq_nil

/-- The shipped dialects are silent; a configured one has its own symbol for joining texts. -/
theorem ShippedDialect.silent (s : ShippedDialect)
    (operator : IsSilent (" " ++ s.dialect.concatOperator ++ " ")) : s.dialect.Silent := by
  cases s with
  | generic | custom => exact ⟨operator, fun _ => DataType.silent_sql, nofun⟩
  | sqlite =>
    refine ⟨operator, fun _ => DataType.silent_storageClass, ?_⟩
    intro rows unbounded
    obtain rfl := Option.some.inj unbounded
    exact ⟨by decide, by decide⟩

/-- The page of the first member stands in front of the operator, where none may stand. -/
theorem page_in_front_of_operator :
    let d : Dialect := .generic
    let id : SelectItem := ⟨.column ⟨none, "id"⟩, none⟩
    let s : Compound :=
      ⟨.union, [{ items := [id], source := some (.named "a" none), limit := some 1 },
        { items := [id], source := some (.named "b" none) }]⟩
    ∃ r, ((Statement.compound s).layout d).render d = .ok r ∧
      r.sql = "SELECT id\nFROM a\nLIMIT 1\nUNION\nSELECT id\nFROM b;" ∧
      compoundTail (((Statement.compound s).layout d).survey 0).1 = none :=
  ⟨_, rfl, by decide, by decide⟩

/-- A limit behind the last member is read as that of the whole union. -/
example :
    let s : Compound := ⟨.union, [{ source := some (.named "b" none) },
      { source := some (.named "a" none), limit := some 1 }]⟩
    compoundTail (((Statement.compound s).layout .generic).survey 0).1 = some [paging] := by
  decide

/-- A query around each member keeps its page and its order. -/
theorem compound_without_tail_iff_numbered :
    let d : Dialect := .custom { paging := .rowNumberAutomatic }
    let member (name : String) : Select :=
      { source := some (.named name none), sortKeys := [⟨.column ⟨none, "id"⟩, none⟩]
        limit := some 1 }
    let s : Compound := ⟨.union, [member "a", member "b"]⟩
    ∃ r found, ((Statement.compound s).layout d).render d = .ok r ∧
      ((Statement.compound s).layout d).survey 0 = (found, 0) ∧ compoundTail found = some [] := by
  intro d member s
  have silent : d.Silent := ShippedDialect.silent (.custom _) (silent_of_unseen (by decide))
  have tree {n : Node} (here : ∀ w ∈ n.words d, IsSilent w)
      (below : ∀ c ∈ n.children d, ∀ p : Node, p.PartOf d c → ∀ w ∈ p.words d, IsSilent w) :
      ∀ p : Node, p.PartOf d n → ∀ w ∈ p.words d, IsSilent w := Node.forall_partOf.mpr ⟨here, below⟩
  have wordless : ∀ w ∈ ([] : List String), IsSilent w := List.forall_mem_nil _
  have table (name : String) := tree (n := .element (.table (.named name none))) wordless
    (List.forall_mem_nil _)
  have column := tree (n := .element (.column ⟨none, "id"⟩)) wordless (List.forall_mem_nil _)
  have name := tree (n := .expr (.column ⟨none, "id"⟩)) wordless
    (List.forall_mem_singleton.mpr column)
  have key := tree (n := .element (.sortKey ⟨.column ⟨none, "id"⟩, none⟩)) wordless
    (List.forall_mem_singleton.mpr name)
  have query (name : String) := tree (n := .query (member name)) wordless
    (List.forall_mem_cons.mpr ⟨table name, List.forall_mem_singleton.mpr key⟩)
  have all := tree (n := .statement (.compound s)) wordless
    (List.forall_mem_cons.mpr ⟨query "a", List.forall_mem_singleton.mpr (query "b")⟩)
  obtain ⟨-, found, seen, -, tail⟩ := compound_without_tail_iff silent all rfl
  refine ⟨_, found, rfl, seen, tail.mpr ?_⟩
  intro q listed leaves
  rcases List.mem_pair.mp listed with rfl | rfl <;> cases leaves.2.1

end SqlBatch
