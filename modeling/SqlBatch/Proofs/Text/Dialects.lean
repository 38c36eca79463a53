import SqlBatch.Proofs.Render.Reading

/-!
# Dialects read back

What a dialect must spell in a way that the lexer reads back, and the dialects that do.
-/
namespace SqlBatch

open Scan

/-! ### Dialects -/

/-- A dialect whose spellings are read back with a way to quote identifiers. -/
structure Dialect.Speaks (d : Dialect) (style : QuoteStyle) : Prop where
  identifier : ∀ name depth,
    Reads style.pair (Clear depth) (d.quoteIdentifier name).toList (Free style.pair depth)
  literal : ∀ c depth, Reads style.pair (Clear depth) (d.literal c).toList (Free style.pair depth)
  placeholder : ∀ ordinal, IsWord style.pair (d.parameterName ordinal)
  type : ∀ t : DataType, t.IsTame style.pair → ∀ depth,
    Reads style.pair (Clear depth) (d.formatType t).toList (Clear depth)
  operator : IsWord style.pair d.concatOperator
  rows : ∀ count, d.unboundedLimit = some count → IsWord style.pair count
  terminator : d.terminator = ";"
  begins : ∀ options roll, Reading.Script ⟨d, style, roll⟩ (d.beginTransaction options)
  commits : ∀ roll, Reading.Script ⟨d, style, roll⟩ d.commit
  rollsBack : ∀ roll, Reading.Script ⟨d, style, roll⟩ d.rollback

/-- The dialects that quote identifiers, as long as the words that they are given are harmless. -/
inductive Dialect.Quoting : Dialect → QuoteStyle → Prop
  | sqlite : Quoting .sqlite .double
  | custom {config : DialectConfig} {style : QuoteStyle}
      (quote : config.identifierQuote = some style.pair)
      (stem : IsWord style.pair config.parameterPrefix)
      (operator : IsWord style.pair config.concatOperator) : Quoting (.custom config) style

namespace Reading

variable {g : Reading} {first second : Layout}

theorem Phrase.ended (ends : g.dialect.terminator = ";") (phrase : g.Phrase first) :
    g.Script (first ++ [.terminator]) := by
  refine (phrase 0).append fun s ⟨outside, closed⟩ => ?_
  have semicolon : ';' ≠ '\'' ∧ ';' ≠ g.style.pair.closing := by cases g.style <;> decide
  have opening : ';' ≠ g.style.pair.opening := by cases g.style <;> decide
  refine ⟨⟨.outside, 0, s.ends + 1⟩, ?_, ⟨rfl, rfl⟩, rfl⟩
  rw [Layout.textOn_singleton, Piece.textOn, ends]
  refine (scan_outside outside semicolon []).trans ?_
  simp [scan, step, stepOutside, opening, closed]

theorem script_word {w : String} (ends : g.dialect.terminator = ";") (word : IsWord g.style.pair w) :
    g.Script [.text w, .terminator] :=
  ((opener_word word).phrase.ended ends :)

theorem Script.append (left : g.Script first) (right : g.Script second) :
    g.Script (first ++ second) := Leads.append left right

theorem script_failure (e : Error) : g.Script (Layout.failure e) :=
  leads_piece (Reads.nil _ _) nofun

end Reading

open Reading

/-! ### Transactions -/

section

variable {g : Reading} {options : TransactionOptions}

theorem IsolationLevel.isWord_sql (level : IsolationLevel) : IsWord g.style.pair level.sql := by
  cases level <;> exact isWord_fixed (by decide)

namespace TransactionSyntax

theorem script_modes (ends : g.dialect.terminator = ";") {modes : List String}
    (word : IsWord g.style.pair (", ".intercalate modes)) :
    g.Script (.text "START TRANSACTION" ::
      (if modes.isEmpty then [] else [.text " ", .text (", ".intercalate modes)]) ++
        [.terminator]) := by
  have start : g.Opener [.text "START TRANSACTION"] := opener_fixed (by decide)
  have blank : g.Opener [.text " "] := opener_fixed (by decide)
  split
  · exact start.phrase.ended ends
  · exact (start.append (blank.append (opener_word word))).phrase.ended ends

theorem script_start (ends : g.dialect.terminator = ";") (name : String) :
    g.Script (startLayout name options) := by
  unfold startLayout
  split
  · exact script_failure _
  · have comma : IsWord g.style.pair ", " := isWord_fixed (by decide)
    refine script_modes ends (isWord_intercalate comma fun mode listed => ?_)
    rcases List.mem_append.mp listed with isolates | reads
    · obtain ⟨level, -, rfl⟩ := List.mem_map.mp isolates
      exact (isWord_fixed (by decide)).append level.isWord_sql
    · split at reads
      · obtain rfl := List.mem_singleton.mp reads
        exact isWord_fixed (by decide)
      · cases reads

theorem script_begin (ends : g.dialect.terminator = ";") (name : String) :
    g.Script (beginLayout name options) := by
  unfold beginLayout
  split
  · exact script_failure _
  · have start : g.Opener [.text "BEGIN"] := opener_fixed (by decide)
    refine ((start.append ?_).append ?_).phrase.ended ends
    · cases options.isolation with
      | none => exact .nil
      | some level => exact opener_text (turns_fixed (by decide)) (opener_word level.isWord_sql)
    · exact opener_if options.readOnly (by decide)

theorem script_set (ends : g.dialect.terminator = ";") (name : String) :
    g.Script (setLayout name options) := by
  unfold setLayout
  split
  · exact script_failure _
  · refine Script.append ?_ (script_word ends (isWord_fixed (by decide)))
    cases options.isolation with
    | none => exact leads_nil g _
    | some level =>
      have words := opener_text (g := g) (s := "SET TRANSACTION ISOLATION LEVEL ")
        (turns_fixed (by decide)) (opener_word level.isWord_sql)
      exact (words.phrase.ended ends).append (opener_fixed (by decide) 0)

/-- Every transaction is begun by phrases of fixed words. -/
theorem script_beginning (ends : g.dialect.terminator = ";") (form : TransactionSyntax)
    (name : String) : g.Script (form.beginning name options) := by
  cases form with
  | startTransaction => exact script_start ends name
  | beginWithModes => exact script_begin ends name
  | setThenBegin => exact script_set ends name

theorem script_commit (ends : g.dialect.terminator = ";") (form : TransactionSyntax) :
    g.Script form.commit := by
  cases form <;> exact script_word ends (isWord_fixed (by decide))

theorem script_rollback (ends : g.dialect.terminator = ";") (form : TransactionSyntax) :
    g.Script form.rollback := by
  cases form <;> exact script_word ends (isWord_fixed (by decide))

end TransactionSyntax

end

/-! ### The dialects -/

variable {style : QuoteStyle}

theorem isWord_numericBool (b : Bool) : IsWord style.pair (numericBool b) := by
  cases b <;> exact isWord_fixed (by decide)

/-- What a literal comes to when the dialect writes its booleans and dates in known ways. -/
theorem Dialect.reads_literal {d : Dialect} (date time : String)
    (bools : ∀ b, IsWord style.pair (d.formatBool b)) (strings : d.formatString = singleQuoted)
    (dates : ∀ x, d.formatDate x = date ++ "'" ++ x.text ++ "'") (dateWord : IsWord style.pair date)
    (times : ∀ x, d.formatTimestamp x = time ++ "'" ++ x.text ++ "'")
    (timeWord : IsWord style.pair time) (c : Constant) (depth : Nat) :
    Reads style.pair (Clear depth) (d.literal c).toList (Free style.pair depth) := by
  cases c with
  | null => exact (reads_word (isWord_fixed (s := "NULL") (by decide)) depth).toFree
  | bool b => exact (reads_word (bools b) depth).toFree
  | int n => exact (reads_word (isNumeric_int n.toInt).isWord depth).toFree
  | float x => exact (reads_word (isWord_numeral x) depth).toFree
  | date x =>
    rw [literal, dates]
    exact reads_dated dateWord x.isNumeric_chars depth
  | timestamp x =>
    rw [literal, times]
    exact reads_dated timeWord x.isNumeric_chars depth
  | string s =>
    rw [literal, strings]
    exact reads_singleQuoted s depth

theorem Dialect.Quoting.speaks {d : Dialect} (quoting : d.Quoting style) : d.Speaks style := by
  cases quoting with
  | sqlite =>
    have mark : IsWord QuoteStyle.double.pair "" := isWord_fixed (by decide)
    exact {
      identifier := reads_identifier
      literal := reads_literal "" "" isWord_numericBool rfl (fun _ => rfl) mark (fun _ => rfl) mark
      placeholder := fun n => (isWord_fixed (s := "?") (by decide)).append (isNumeric_nat n).isWord
      type := fun _ => DataType.reads_storageClass
      operator := isWord_fixed (by decide)
      rows := by
        intro count unbounded
        obtain rfl := Option.some.inj unbounded
        exact isWord_fixed (by decide)
      terminator := rfl
      begins := by
        intro options roll
        change Reading.Script _ (sqliteBegin options)
        unfold sqliteBegin
        split
        · exact script_failure _
        · split
          · exact script_word rfl (isWord_fixed (by decide))
          · exact script_failure _
      commits := fun roll => TransactionSyntax.script_commit rfl .startTransaction
      rollsBack := fun roll => TransactionSyntax.script_rollback rfl .startTransaction }
  | @custom config _ quote stem operator =>
    have dateWord : IsWord style.pair "DATE " := isWord_fixed (by decide)
    have timeWord : IsWord style.pair "TIMESTAMP " := isWord_fixed (by decide)
    exact {
      identifier := by
        intro name
        have same : (Dialect.custom config).quoteIdentifier name =
            Identifier.quote config.identifierQuote name := rfl
        rw [same, quote]
        exact reads_identifier name
      literal := by
        refine reads_literal "DATE " "TIMESTAMP " ?_ rfl (fun _ => rfl) dateWord (fun _ => rfl)
          timeWord
        intro b
        cases literals : config.booleanLiterals with
        | keywords =>
          cases b <;> simp only [Dialect.custom, literals] <;> exact isWord_fixed (by decide)
        | numeric =>
          simp only [Dialect.custom, literals]
          exact isWord_numericBool b
      placeholder := fun n => stem.append (isNumeric_nat n).isWord
      type := fun _ => DataType.reads_sql
      operator := operator
      rows := nofun
      terminator := rfl
      begins := fun options roll =>
        TransactionSyntax.script_beginning rfl config.transactionSyntax config.name
      commits := fun roll => TransactionSyntax.script_commit rfl config.transactionSyntax
      rollsBack := fun roll => TransactionSyntax.script_rollback rfl config.transactionSyntax }

end SqlBatch
