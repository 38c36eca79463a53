import SqlBatch.Statement.Layout
import SqlBatch.Proofs.Text.Quoted
import SqlBatch.Render.Context

/-!
# Qualified names

A name can be quoted as a whole, and it can be cut at its last dot and quoted half by half. No quote
reaches across a dot, so both come to one text: `qualified_names_agree`.
-/
namespace SqlBatch

/-! ### Quotes and dots -/

theorem intercalate_append {separator : List Char} {front back : List (List Char)}
    (before : front ≠ []) (behind : back ≠ []) :
    separator.intercalate (front ++ back) =
      separator.intercalate front ++ separator ++ separator.intercalate back := by
  induction front with
  | nil => exact absurd rfl before
  | cons part parts ih =>
    have more : parts ++ back ≠ [] := List.append_ne_nil_of_right_ne_nil parts behind
    rw [List.cons_append, List.intercalate_cons_of_ne_nil more]
    cases parts with
    | nil => rw [List.nil_append, List.intercalate_singleton]
    | cons next parts =>
      have filled := List.cons_ne_nil next parts
      rw [ih filled, List.intercalate_cons_of_ne_nil filled]
      simp only [List.append_assoc]

namespace Identifier

theorem quoteChars_dot (q : QuotePair) (front back : List Char) :
    quoteChars q (front ++ '.' :: back) = quoteChars q front ++ '.' :: quoteChars q back := by
  have filled : ∀ text, (pieces '.' text).map (quotePart q) ≠ [] := by
    intro text empty
    exact pieces_ne_nil '.' text (List.map_eq_nil_iff.mp empty)
  rw [quoteChars, pieces_append_cons, List.map_append,
    intercalate_append (filled front) (filled back), List.append_assoc]
  rfl

/-- With quotes and without: the two sides of a dot are quoted apart. -/
theorem quote_dot (quotes : Option QuotePair) (front back : String) :
    quote quotes (front ++ "." ++ back) = quote quotes front ++ "." ++ quote quotes back := by
  cases quotes with
  | none => rfl
  | some q =>
    have cut : (front ++ "." ++ back).toList = front.toList ++ '.' :: back.toList := by simp
    apply String.toList_injective
    simp only [quote, cut, quoteChars_dot, String.toList_append, String.toList_ofList]
    simp

theorem quote_asterisk (quotes : Option QuotePair) : quote quotes "*" = "*" := by
  cases quotes <;> rfl

theorem quote_all (quotes : Option QuotePair) (table : String) :
    quote quotes (table ++ ".*") = quote quotes table ++ ".*" := by
  have cut := quote_dot quotes table "*"
  rw [quote_asterisk, String.append_assoc, String.append_assoc] at cut
  exact cut

end Identifier

/-! ### Cut names -/

namespace ColumnRef

theorem eq_of_splitLastDot {text table column : List Char}
    (cut : splitLastDot text = some (table, column)) : text = table ++ '.' :: column := by
  induction text generalizing table with
  | nil => cases cut
  | cons c rest ih =>
    rw [splitLastDot] at cut
    cases later : splitLastDot rest with
    | some halves =>
      obtain ⟨front, back⟩ := halves
      rw [later] at cut
      obtain ⟨rfl, rfl⟩ := Prod.mk.inj (Option.some.inj cut)
      rw [ih later, List.cons_append]
    | none =>
      rw [later] at cut
      by_cases dot : c = '.'
      · rw [if_pos dot] at cut
        obtain ⟨rfl, rfl⟩ := Prod.mk.inj (Option.some.inj cut)
        rw [dot, List.nil_append]
      · rw [if_neg dot] at cut
        cases cut

/-- Nothing of a name is lost when it is cut. -/
theorem ofName_cases (name : String) : ofName name = ⟨none, name⟩ ∨
    ∃ table column, ofName name = ⟨some table, column⟩ ∧ name = table ++ "." ++ column := by
  unfold ofName
  cases cut : splitLastDot name.toList with
  | none => exact .inl rfl
  | some halves =>
    obtain ⟨table, column⟩ := halves
    refine .inr ⟨_, _, rfl, String.toList_injective ?_⟩
    simp [eq_of_splitLastDot cut]

end ColumnRef

/-! ### What is written -/

variable {ctx : Context}

theorem Context.write_write (ctx : Context) (first second : String) :
    (ctx.write first).write second = ctx.write (first ++ second) := by
  simp only [write, String.append_assoc]

theorem ColumnRef.emit_ofName
    (standard : ctx.dialect.quoteIdentifier = Identifier.quote ctx.dialect.quotes) (name : String) :
    ctx.emit (ofName name).layout = (ctx.write (ctx.dialect.quoteIdentifier name), .ok ()) := by
  rcases ofName_cases name with whole | ⟨table, column, halves, joined⟩
  · rw [whole]
    rfl
  · have written : ctx.emit (ofName name).layout =
        (((ctx.write (ctx.dialect.quoteIdentifier table)).write ".").write
          (ctx.dialect.quoteIdentifier column), .ok ()) := by
      rw [halves]
      rfl
    rw [written, Context.write_write, Context.write_write, joined, standard, Identifier.quote_dot,
      String.append_assoc]

theorem Expr.emit_wildcard (ctx : Context) (table : String) :
    ctx.emit ((Expr.wildcard (some table)).layout ctx.dialect) =
      (ctx.write (ctx.dialect.quoteIdentifier table ++ ".*"), .ok ()) := by
  have written : ctx.emit ((Expr.wildcard (some table)).layout ctx.dialect) =
      (((ctx.write (ctx.dialect.quoteIdentifier table)).write ".").write "*", .ok ()) := by
    rw [Expr.layout]
    rfl
  rw [written, Context.write_write, Context.write_write]
  rfl

/-- At any moment of a pass whose dialect quotes names in the standard way, with quotes or without, a
column is written as its whole name is quoted. All columns of a table are written like the column of
the table's name and `.*` behind it, and like the column of the name with `.*` behind it. -/
theorem qualified_names_agree
    (standard : ctx.dialect.quoteIdentifier = Identifier.quote ctx.dialect.quotes) :
    let column (name : String) : Element := .column (.ofName name)
    let allOf (table : String) : Element := .expr (.wildcard (some table))
    (∀ name, ctx.emit ((column name).layout ctx.dialect) =
      (ctx.write (ctx.dialect.quoteIdentifier name), .ok ())) ∧
    ∀ table,
      ctx.emit ((allOf table).layout ctx.dialect) =
        ((ctx.emit ((column table).layout ctx.dialect)).1.write ".*", .ok ()) ∧
      ctx.emit ((allOf table).layout ctx.dialect) =
        ctx.emit ((column (table ++ ".*")).layout ctx.dialect) := by
  intro column allOf
  have columns : ∀ name, ctx.emit ((column name).layout ctx.dialect) =
      (ctx.write (ctx.dialect.quoteIdentifier name), .ok ()) := ColumnRef.emit_ofName standard
  refine ⟨columns, fun table => ?_⟩
  have all : ctx.emit ((allOf table).layout ctx.dialect) =
      (ctx.write (ctx.dialect.quoteIdentifier table ++ ".*"), .ok ()) :=
    Expr.emit_wildcard ctx table
  constructor
  · rw [all, columns, Context.write_write]
  · rw [all, columns, standard, Identifier.quote_all]

/-- Brackets, an empty part and an asterisk between the dots of a name, in the middle of a text. -/
theorem qualified_names_agree_hostile :
    let d := Dialect.custom { identifierQuote := some ⟨'[', ']'⟩ }
    let ctx : Context := { dialect := d, text := "SELECT ", mode := .nested }
    let column : Element := .column (.ofName "a].[b..*")
    let allOf : Element := .expr (.wildcard (some "a].[b..*"))
    d.quoteIdentifier = Identifier.quote d.quotes ∧
      (ctx.emit (column.layout d)).1.text = "SELECT [a]]].[[b].[].*" ∧
      (ctx.emit (allOf.layout d)).1.text = "SELECT [a]]].[[b].[].*.*" := by
  intro d ctx column allOf
  have standard : ctx.dialect.quoteIdentifier = Identifier.quote ctx.dialect.quotes := rfl
  obtain ⟨columns, all⟩ := qualified_names_agree standard
  have name : ctx.emit (column.layout d) = (ctx.write (d.quoteIdentifier "a].[b..*"), .ok ()) :=
    columns "a].[b..*"
  have behind : ctx.emit (allOf.layout d) = ((ctx.emit (column.layout d)).1.write ".*", .ok ()) :=
    (all "a].[b..*").1
  rw [behind, name]
  exact ⟨standard, by decide +kernel, by decide +kernel⟩

end SqlBatch
