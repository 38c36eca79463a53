import SqlBatch.Proofs.Tree.Guards
import SqlBatch.Proofs.Tree.Success

/-!
# Modes of a pass

A mode without statements leaves out the end of a statement and nothing else. A statement is thus
written alike in every mode but for its end, and what is part of one is written alike in every mode:
`ends_in_statement_mode`.
-/
namespace SqlBatch

open Layout

variable {d : Dialect}

/-! ### Ends -/

/-- A text with the end of a statement behind it. -/
def Rendered.ended (d : Dialect) (r : Rendered) : Rendered :=
  { r with sql := r.sql ++ d.terminator, statements := r.statements + 1 }

namespace Layout

theorem Unended.statements_emit {layout : Layout} (unended : layout.Unended) (ctx : Context) :
    (ctx.emit layout).1.statements = ctx.statements := by
  induction layout generalizing ctx with
  | nil => rfl
  | cons piece rest ih =>
    obtain ⟨other, later⟩ := (unended_cons piece rest).mp unended
    cases piece with
    | terminator => exact (other rfl).elim
    | failure e => rfl
    | _ => exact ih later _

theorem Unended.statements_renderIn {layout : Layout} (unended : layout.Unended) {d : Dialect}
    {scope after : Scope} {r : Rendered} (h : layout.renderIn d scope = (.ok r, after)) :
    r.statements = 0 := by
  have counted := unended.statements_emit { dialect := d, scope }
  unfold renderIn at h
  split at h
  · rename_i ctx written
    rw [written] at counted
    cases h
    exact counted
  · cases h

theorem renderIn_ended (body : Layout) (d : Dialect) (scope : Scope) :
    (body ++ [Piece.terminator] : Layout).renderIn d scope =
      ((body.renderIn d scope).1.map (Rendered.ended d), (body.renderIn d scope).2) := by
  have framed := ({ dialect := d, scope } : Context).framed_emit body
  unfold renderIn
  rw [Context.emit_append]
  rcases written : ({ dialect := d, scope } : Context).emit body with ⟨ctx, e | ⟨⟩⟩
  · rfl
  · rw [written] at framed
    have mode : ctx.mode = .statement := (List.cons_eq_cons.mp framed.stack).1
    have dialect : ctx.dialect = d := framed.grown.dialect
    simp only [Context.emit, Context.put, Context.terminate, mode, dialect]
    rfl

end Layout

/-! ### Closed drafts -/

/-- A draft of which the modes differ in the end of one statement, or that fails at once. -/
inductive Draft.Closed (draft : Draft) : Prop
  | ended (body : Layout)
      (ends : ∀ mode, draft.inMode mode = body ++ Layout.inMode mode [.terminator])
  | failing (e : Error) (fails : ∀ mode, draft.inMode mode = Layout.failure e)

theorem Layout.Unended.closed {layout : Layout} (unended : layout.Unended) :
    (Layout.draft (layout ++ [.terminator])).Closed := by
  refine .ended layout fun mode => ?_
  rw [Layout.inMode_draft, inMode_append, unended.inMode]

theorem Layout.Unended.closed_draft {layout : Layout} (unended : layout.Unended) :
    Draft.Closed (layout.draft ++ [.put .terminator]) := by
  simpa [Layout.draft] using unended.closed

theorem Layout.closed_failure (e : Error) : (Layout.failure e).draft.Closed :=
  .failing e fun mode => (unended_failure e).inMode_draft mode

theorem Draft.Closed.pass {draft : Draft} (closed : draft.Closed) (d : Dialect) (scope : Scope) :
    ∃ body : Layout, body.Unended ∧
      (∀ mode, mode ≠ .statement → draft.pass d mode scope = body.renderIn d scope) ∧
      draft.pass d .statement scope =
        ((body.renderIn d scope).1.map (Rendered.ended d), (body.renderIn d scope).2) := by
  cases closed with
  | ended body ends =>
    have endless (mode : RenderMode) (other : mode ≠ .statement) : draft.inMode mode = body := by
      rw [ends, Layout.inMode, if_neg other]
      exact List.append_nil body
    refine ⟨body, ?_, fun mode other => ?_, ?_⟩
    · rw [← endless .nested RenderMode.noConfusion]
      exact Draft.unended_inMode RenderMode.noConfusion draft
    · rw [pass_eq, endless mode other]
    · rw [pass_eq, ends, inMode_statement, renderIn_ended]
  | failing e fails =>
    refine ⟨Layout.failure e, unended_failure e, fun mode _ => ?_, ?_⟩
    · rw [pass_eq, fails]
    · rw [pass_eq, fails]
      rfl

/-! ### Transactions -/

theorem TransactionSyntax.closed_beginning {form : TransactionSyntax} {options : TransactionOptions}
    (once : form = .setThenBegin → options.readOnly = false → options.isolation = none)
    (name : String) : (form.beginning name options).draft.Closed := by
  cases form with
  | startTransaction =>
    simp only [beginning, startLayout]
    split
    · exact closed_failure _
    · refine @Layout.Unended.closed (.text "START TRANSACTION" :: _) ?_
      simp
  | beginWithModes =>
    simp only [beginning, beginLayout]
    split
    · exact closed_failure _
    · refine @Layout.Unended.closed (.text "BEGIN" :: _ ++ _) ?_
      cases options.isolation <;> simp
  | setThenBegin =>
    simp only [beginning, setLayout]
    split
    · exact closed_failure _
    · rename_i writes
      rw [once rfl (Bool.eq_false_iff.mpr writes)]
      exact @Layout.Unended.closed [.text "BEGIN TRANSACTION"] (by simp)

theorem TransactionSyntax.closed_commit (form : TransactionSyntax) : form.commit.draft.Closed := by
  cases form <;> exact @Layout.Unended.closed [.text _] (by simp)

theorem TransactionSyntax.closed_rollback (form : TransactionSyntax) : form.rollback.draft.Closed := by
  cases form <;> exact @Layout.Unended.closed [.text _] (by simp)

/-- The beginning of a transaction as two statements, of which the first sets the level. -/
def Statement.SetsThenBegins (s : ShippedDialect) (t : Statement) : Prop :=
  ∃ config options level, s = .custom config ∧ config.transactionSyntax = .setThenBegin ∧
    t = .begin options ∧ options.isolation = some level ∧ options.readOnly = false

theorem ShippedDialect.closed_begin (s : ShippedDialect) {options : TransactionOptions}
    (once : ¬(Statement.begin options).SetsThenBegins s) :
    (s.dialect.beginTransaction options).draft.Closed := by
  cases s with
  | generic => exact @TransactionSyntax.closed_beginning .startTransaction options nofun "generic"
  | custom config =>
    refine TransactionSyntax.closed_beginning (fun form writes => ?_) config.name
    cases isolation : options.isolation with
    | none => rfl
    | some level => exact (once ⟨config, options, level, rfl, form, rfl, isolation, writes⟩).elim
  | sqlite =>
    simp only [dialect, Dialect.sqlite, Dialect.sqliteBegin]
    split
    · exact closed_failure _
    · split
      · exact @Layout.Unended.closed [.text "BEGIN"] (by simp)
      · exact closed_failure _

theorem Statement.closed_draft {s : ShippedDialect} {t : Statement} (once : ¬t.SetsThenBegins s) :
    (t.draft s.dialect).Closed := by
  cases t with
  | select q => exact .ended _ fun mode => q.inMode_draft mode
  | insert t => exact .ended _ fun mode => t.inMode_draft mode
  | update t => exact .ended _ fun mode => t.inMode_draft mode
  | delete t => exact .ended _ fun mode => t.inMode_draft mode
  | compound t => exact .ended _ fun mode => t.inMode_draft mode
  | createTable t => exact t.unended_layout.closed_draft
  | dropTable t => exact t.unended_layout.closed_draft
  | begin options => exact s.closed_begin once
  | commit =>
    cases s with
    | custom config => exact config.transactionSyntax.closed_commit
    | _ => exact TransactionSyntax.startTransaction.closed_commit
  | rollback =>
    cases s with
    | custom config => exact config.transactionSyntax.closed_rollback
    | _ => exact TransactionSyntax.startTransaction.closed_rollback
  | raw sql => exact @Layout.Unended.closed_draft [.text sql] (by simp)

/-- With every dialect there is and in every scope: the modes without statements write the same of a
statement and count none. Statement mode, in which a pass writes the layout, writes the end of one
behind it, counts it, and leaves the same table and scope or the same error. What is part of a
statement is written alike in all modes. -/
theorem ends_in_statement_mode (s : ShippedDialect) (scope : Scope) :
    (∀ t : Statement, ¬t.SetsThenBegins s →
      let draft := t.draft s.dialect
      let nested := draft.pass s.dialect .nested scope
      draft.pass s.dialect .multiStatement scope = nested ∧
        draft.pass s.dialect .statement scope =
          (nested.1.map (Rendered.ended s.dialect), nested.2) ∧
        draft.pass s.dialect .statement scope =
          (t.layout s.dialect).renderIn s.dialect scope ∧
        ∀ r after, nested = (.ok r, after) → r.statements = 0) ∧
      ∀ e : Element, e.isStatement = false → ∀ mode,
        let draft := e.draft s.dialect
        draft.pass s.dialect mode scope = draft.pass s.dialect .statement scope ∧
          ∀ r after, draft.pass s.dialect mode scope = (.ok r, after) → r.statements = 0 := by
  constructor
  · intro t once draft nested
    obtain ⟨body, unended, endless, ended⟩ := (Statement.closed_draft once).pass s.dialect scope
    have inside : nested = body.renderIn s.dialect scope := endless .nested RenderMode.noConfusion
    rw [inside]
    exact ⟨endless .multiStatement RenderMode.noConfusion, ended,
      Element.pass_statement (.statement t) scope, fun r after => unended.statements_renderIn⟩
  · intro e part mode draft
    have alike (mode : RenderMode) :
        draft.pass s.dialect mode scope = (e.layout s.dialect).renderIn s.dialect scope := by
      rw [Draft.pass_eq, Element.inMode_draft mode part]
    rw [alike, alike]
    exact ⟨rfl, fun r after written => (Element.unended_layout part).statements_renderIn written⟩

/-- The query that feeds an insertion has a query in it, and neither ends a statement. The value was
numbered by an earlier pass. -/
theorem ends_in_statement_mode_insertion :
    let five : Value := ⟨0, .int 5⟩
    let scope := Scope.numbering .sqlite [⟨1, .null⟩, five]
    let inner : Select :=
      { items := [⟨.subquery { items := [⟨.value five, none⟩] }, none⟩], limit := some 1 }
    let t : Statement := .insert { table := some "t", source := .query inner }
    let e : Element := .condition (.existsIn inner true)
    ¬t.SetsThenBegins .sqlite ∧ e.isStatement = false ∧
      ((t.draft .sqlite).pass .sqlite .nested scope).1.map (·.sql) =
        .ok "INSERT INTO \"t\"\nSELECT (SELECT ?2)\nLIMIT 1" ∧
      (t.draft .sqlite).pass .sqlite .multiStatement scope =
        (t.draft .sqlite).pass .sqlite .nested scope ∧
      (e.draft .sqlite).pass .sqlite .nested scope =
        (e.draft .sqlite).pass .sqlite .statement scope := by
  intro five scope inner t e
  have once : ¬t.SetsThenBegins .sqlite := fun ⟨_, _, _, other, _⟩ => by cases other
  have all := ends_in_statement_mode .sqlite scope
  exact ⟨once, rfl, by decide +kernel, (all.1 t once).1, (all.2 e rfl .nested).1⟩

end SqlBatch
