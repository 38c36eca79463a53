import SqlBatch.Proofs.Render.Frame
import SqlBatch.Render.Draft

/-!
# What is written of a draft

A draft comes out as a layout: in the mode that has statements with their ends, in the others and
inside of guards without. `Draft.write_eq` is this for every context, and `Draft.pass_eq` for a
whole pass.
-/
namespace SqlBatch

/-! ### Layouts without ends of statements -/

namespace Layout

def Unended (layout : Layout) : Prop := .terminator ∉ layout

@[simp] theorem unended_nil : Unended [] := List.not_mem_nil

@[simp] theorem unended_cons (piece : Piece) (rest : Layout) :
    Unended (piece :: rest) ↔ piece ≠ .terminator ∧ Unended rest := by
  simp [Unended, eq_comm]

@[simp] theorem unended_append (first second : Layout) :
    Unended (first ++ second) ↔ Unended first ∧ Unended second := by
  simp [Unended]

@[simp] theorem unended_failure (e : Error) : Unended (failure e) := by simp [failure]

@[simp] theorem unended_separated (separator : String) (layouts : List Layout) :
    Unended (separated separator layouts) ↔ ∀ layout ∈ layouts, Unended layout := by
  cases layouts <;> simp [separated, Unended]

@[simp] theorem unended_parenthesized (inner : Layout) :
    Unended (parenthesized inner) ↔ Unended inner := by
  simp [parenthesized]

@[simp] theorem unended_clause (keyword : String) (inner : Option Layout) :
    Unended (clause keyword inner) ↔ ∀ layout ∈ inner, Unended layout := by
  cases inner <;> simp [clause]

@[simp] theorem unended_ite (p : Prop) [Decidable p] (first second : Layout) :
    Unended (if p then first else second) ↔ if p then Unended first else Unended second := by
  split <;> rfl

/-- What a mode leaves of a layout. -/
def inMode (mode : RenderMode) (layout : Layout) : Layout :=
  if mode = .statement then layout else layout.filter (· ≠ .terminator)

theorem inMode_statement (layout : Layout) : layout.inMode .statement = layout := rfl

theorem inMode_append (mode : RenderMode) (first second : Layout) :
    (first ++ second).inMode mode = first.inMode mode ++ second.inMode mode := by
  unfold inMode
  split
  · rfl
  · exact List.filter_append ..

theorem Unended.inMode {layout : Layout} (unended : layout.Unended) (mode : RenderMode) :
    layout.inMode mode = layout := by
  unfold Layout.inMode
  split
  · rfl
  · refine List.filter_eq_self.mpr fun piece member => decide_eq_true ?_
    rintro rfl
    exact unended member

theorem unended_inMode {mode : RenderMode} (endless : mode ≠ .statement) (layout : Layout) :
    (layout.inMode mode).Unended := by
  rw [inMode, if_neg endless]
  simp [Unended]

@[simp] theorem inMode_nested_terminator : inMode .nested [.terminator] = [] := rfl

@[simp] theorem inMode_multiStatement_terminator : inMode .multiStatement [.terminator] = [] := rfl

end Layout

/-! ### Drafts in a mode -/

mutual

def Part.inMode (mode : RenderMode) : Part → Layout
  | .put piece => Layout.inMode mode [piece]
  | .scoped inner _ parts => Draft.inMode inner parts

def Draft.inMode (mode : RenderMode) : Draft → Layout
  | [] => []
  | part :: rest => part.inMode mode ++ Draft.inMode mode rest

end

section

variable (mode : RenderMode)

@[simp] theorem Part.inMode_put {piece : Piece} (goesOn : piece ≠ .terminator) :
    (Part.put piece).inMode mode = [piece] := by
  rw [inMode]
  exact Layout.Unended.inMode (by simpa using goesOn) mode

@[simp] theorem Part.inMode_text (s : String) : (Part.text s).inMode mode = [.text s] :=
  inMode_put mode nofun

@[simp] theorem Part.inMode_nested (parts : Draft) :
    (Part.nested parts).inMode mode = parts.inMode .nested := by
  rw [nested, inMode]

namespace Draft

@[simp] theorem inMode_nil : Draft.inMode mode [] = [] := by rw [inMode]

@[simp] theorem inMode_cons (part : Part) (rest : Draft) :
    Draft.inMode mode (part :: rest) = part.inMode mode ++ rest.inMode mode := by rw [inMode]

@[simp] theorem inMode_append (first second : Draft) :
    Draft.inMode mode (first ++ second) = first.inMode mode ++ second.inMode mode := by
  induction first with
  | nil => simp
  | cons part rest ih => simp [ih]

@[simp] theorem inMode_flatten (drafts : List Draft) :
    Draft.inMode mode drafts.flatten = (drafts.map (inMode mode)).flatten := by
  induction drafts with
  | nil => simp
  | cons first rest ih => simp [ih]

@[simp] theorem inMode_failure (e : Error) : (failure e).inMode mode = Layout.failure e := by
  simp [failure, Layout.failure]

theorem inMode_terminator :
    Draft.inMode mode [.put .terminator] = Layout.inMode mode [.terminator] := by
  simp [Part.inMode]

@[simp] theorem inMode_separated (separator : String) (drafts : List Draft) :
    (separated separator drafts).inMode mode =
      Layout.separated separator (drafts.map (inMode mode)) := by
  cases drafts with
  | nil => simp [separated, Layout.separated]
  | cons first rest =>
    simp [separated, Layout.separated, List.flatMap_def, Function.comp_def]

@[simp] theorem inMode_parenthesized (inner : Draft) :
    (parenthesized inner).inMode mode = Layout.parenthesized (inner.inMode mode) := by
  simp [parenthesized, Layout.parenthesized]

@[simp] theorem inMode_parenthesizedIf (wanted : Bool) (inner : Draft) :
    (parenthesizedIf wanted inner).inMode mode =
      Layout.parenthesizedIf wanted (inner.inMode mode) := by
  cases wanted <;> simp [parenthesizedIf, Layout.parenthesizedIf]

@[simp] theorem inMode_clause (keyword : String) (inner : Option Draft) :
    (clause keyword inner).inMode mode = Layout.clause keyword (inner.map (inMode mode)) := by
  cases inner <;> simp [clause, Layout.clause]

theorem inMode_ite (p : Prop) [Decidable p] (first second : Draft) :
    Draft.inMode mode (if p then first else second) =
      if p then first.inMode mode else second.inMode mode := apply_ite ..

end Draft

theorem Layout.inMode_draft (layout : Layout) : layout.draft.inMode mode = layout.inMode mode := by
  induction layout with
  | nil => simp [draft, inMode]
  | cons piece rest ih =>
    rw [draft] at ih
    rw [draft, List.map_cons, Draft.inMode_cons, ih, Part.inMode, ← inMode_append]
    rfl

theorem Layout.Unended.inMode_draft {layout : Layout} (unended : layout.Unended) :
    layout.draft.inMode mode = layout :=
  (layout.inMode_draft mode).trans (unended.inMode mode)

end

mutual

/-- The guards are in modes without statements, so one such mode around all of them suffices. -/
theorem Part.unended_inMode {mode : RenderMode} (endless : mode ≠ .statement) :
    (part : Part) → (part.inMode mode).Unended
  | .put piece => by
    rw [Part.inMode]
    exact Layout.unended_inMode endless [piece]
  | .scoped inner quiet parts => by
    rw [Part.inMode]
    exact Draft.unended_inMode quiet parts

theorem Draft.unended_inMode {mode : RenderMode} (endless : mode ≠ .statement) :
    (draft : Draft) → (draft.inMode mode).Unended
  | [] => by simp
  | part :: rest => by
    rw [Draft.inMode_cons]
    exact (Layout.unended_append _ _).mpr
      ⟨Part.unended_inMode endless part, Draft.unended_inMode endless rest⟩

end

/-! ### Writing a draft -/

namespace Context

theorem emit_append (ctx : Context) (first second : Layout) :
    ctx.emit (first ++ second) =
      match ctx.emit first with
      | (after, .ok ()) => after.emit second
      | (after, .error e) => (after, .error e) := by
  induction first generalizing ctx with
  | nil => rfl
  | cons piece rest ih =>
    cases piece with
    | failure e => rfl
    | _ => exact ih _

/-- The same pass in other modes. -/
def within (ctx : Context) (mode : RenderMode) (enclosing : List RenderMode) : Context :=
  { ctx with mode, enclosing }

/-- Writes a layout in the mode that has statements, and goes back. -/
def emitEnded (ctx : Context) (layout : Layout) : Context × Except Error Unit :=
  let (after, outcome) := (ctx.within .statement []).emit layout
  (after.within ctx.mode ctx.enclosing, outcome)

theorem emit_singleton (ctx : Context) (piece : Piece) :
    ctx.emit [piece] = ctx.emitEnded (Layout.inMode ctx.mode [piece]) := by
  cases piece with
  | terminator => rcases ctx with ⟨_, _, _ | _, _⟩ <;> rfl
  | _ => rw [Layout.Unended.inMode (by simp)]; rfl

theorem emitEnded_append (ctx : Context) (first second : Layout) :
    ctx.emitEnded (first ++ second) =
      match ctx.emitEnded first with
      | (after, .ok ()) => after.emitEnded second
      | (after, .error e) => (after, .error e) := by
  have framed := (ctx.within .statement []).framed_emit first
  unfold emitEnded
  rw [emit_append]
  rcases written : (ctx.within .statement []).emit first with ⟨after, e | ⟨⟩⟩
  · rfl
  · rw [written] at framed
    obtain ⟨mode, enclosing⟩ := List.cons_eq_cons.mp framed.stack
    have back : (after.within ctx.mode ctx.enclosing).within .statement [] = after := by
      rcases after
      cases mode
      cases enclosing
      rfl
    simp only [back]
    rfl

end Context

mutual

theorem Part.write_eq (ctx : Context) :
    (part : Part) → part.write ctx = ctx.emitEnded (part.inMode ctx.mode)
  | .put piece => by
    rw [Part.write, Part.inMode]
    exact ctx.emit_singleton piece
  | .scoped mode _ parts => by
    rw [Part.write, Part.inMode, Draft.write_eq (ctx.enter mode) parts]
    rfl

/-- What a draft writes in a context is its layout in the mode of the context. -/
theorem Draft.write_eq (ctx : Context) :
    (draft : Draft) → draft.write ctx = ctx.emitEnded (draft.inMode ctx.mode)
  | [] => by
    rw [Draft.write, Draft.inMode]
    rfl
  | part :: rest => by
    rw [Draft.write, Draft.inMode, Context.emitEnded_append, Part.write_eq ctx part]
    rcases written : ctx.emitEnded (part.inMode ctx.mode) with ⟨after, e | ⟨⟩⟩
    · rfl
    · have mode : after.mode = ctx.mode := by
        rw [← (Prod.mk.inj written).1]
        rfl
      simp only [Draft.write_eq after rest, mode]

end

theorem Draft.pass_eq (draft : Draft) (d : Dialect) (mode : RenderMode) (scope : Scope) :
    draft.pass d mode scope = (draft.inMode mode).renderIn d scope := by
  unfold pass Layout.renderIn
  rw [write_eq, Context.emitEnded]
  have start : ({ dialect := d, mode, scope } : Context).within .statement [] =
      { dialect := d, scope } := rfl
  simp only [start]
  rcases ({ dialect := d, scope } : Context).emit (draft.inMode mode) with ⟨ctx, e | ⟨⟩⟩ <;> rfl

end SqlBatch
