import SqlBatch.Render.Action

/-!
# What an operation leaves alone

A pass is driven by operations that write, render and enter other modes, one inside another. An
operation that is over, successful or not, has only added to the pass: `run_framed`.
-/
namespace SqlBatch

/-! ### Contexts that have grown -/

namespace Context

/-- The current mode and those around it, down to the initial one. -/
def stack (ctx : Context) : List RenderMode := ctx.mode :: ctx.enclosing

/-- A later context of the same pass. -/
structure Grown (before after : Context) : Prop where
  dialect : after.dialect = before.dialect
  text : before.text.toList <+: after.text.toList
  names : ∀ v p, before.scope.find? v = some p → after.scope.find? v = some p
  issued : before.scope.issued ≤ after.scope.issued

theorem Grown.refl (ctx : Context) : ctx.Grown ctx :=
  ⟨rfl, List.prefix_rfl, fun _ _ => id, Nat.le_refl _⟩

theorem Grown.trans {a b c : Context} (first : a.Grown b) (second : b.Grown c) : a.Grown c where
  dialect := second.dialect.trans first.dialect
  text := first.text.trans second.text
  names v p known := second.names v p (first.names v p known)
  issued := Nat.le_trans first.issued second.issued

theorem grown_write (ctx : Context) (s : String) : ctx.Grown (ctx.write s) :=
  ⟨rfl, by simp [write], fun _ _ => id, Nat.le_refl _⟩

theorem grown_enter (ctx : Context) (mode : RenderMode) : ctx.Grown (ctx.enter mode) :=
  ⟨rfl, List.prefix_rfl, fun _ _ => id, Nat.le_refl _⟩

theorem grown_leave (ctx : Context) : ctx.Grown ctx.leave := by
  unfold leave
  split
  · exact .refl ctx
  · exact ⟨rfl, List.prefix_rfl, fun _ _ => id, Nat.le_refl _⟩

end Context

/-- Interning adds a parameter for a new value and changes none. -/
theorem Scope.find?_intern {s : Scope} {d : Dialect} {v w : Value} {p : Parameter}
    (known : s.find? w = some p) : (s.intern d v).2.find? w = some p := by
  unfold intern
  split
  · exact known
  · unfold find? at known ⊢
    obtain ⟨entry, found, rfl⟩ := Option.map_eq_some_iff.mp known
    rw [List.find?_append, found]
    rfl

theorem Scope.issued_le_intern (s : Scope) (d : Dialect) (v : Value) :
    s.issued ≤ (s.intern d v).2.issued := by
  unfold intern
  split
  · exact Nat.le_refl _
  · exact Nat.le_succ _

namespace Context

theorem grown_parameterName (ctx : Context) (v : Value) : ctx.Grown (ctx.parameterName v).2 :=
  ⟨rfl, List.prefix_rfl, fun _ _ => Scope.find?_intern, Scope.issued_le_intern ..⟩

theorem grown_put (ctx : Context) (piece : Piece) : ctx.Grown (ctx.put piece) := by
  cases piece with
  | text s => exact grown_write ctx s
  | identifier name => exact grown_write ctx _
  | literal c => exact grown_write ctx _
  | placeholder v => exact (grown_parameterName ctx v).trans (grown_write _ _)
  | terminator =>
    rw [put, terminate]
    split
    · exact (grown_write ctx _).trans ⟨rfl, List.prefix_rfl, fun _ _ => id, Nat.le_refl _⟩
    · exact .refl ctx
  | failure e => exact .refl ctx

theorem stack_put (ctx : Context) (piece : Piece) : (ctx.put piece).stack = ctx.stack := by
  cases piece with
  | terminator =>
    rw [put, terminate]
    split <;> rfl
  | _ => rfl

end Context

/-! ### Moments -/

/-- A pass as it is when something is about to be done, and the piece that is about to be put. -/
structure Moment where
  context : Context
  piece : Option Piece := none

namespace Moment

/-- The call that ends a statement, in the mode that has statements. -/
def Ends (m : Moment) : Prop := m.piece = some .terminator ∧ m.context.mode = .statement

instance : DecidablePred Ends := fun _ => inferInstanceAs (Decidable (_ ∧ _))

end Moment

/-- The moments of writing a layout up to its first failure. -/
def Context.moments (ctx : Context) : Layout → List Moment
  | [] => []
  | .failure _ :: _ => []
  | piece :: rest => ⟨ctx, some piece⟩ :: (ctx.put piece).moments rest

mutual

/-- The moments of an action, those of the actions inside it included. -/
def Action.moments (ctx : Context) : Action → List Moment
  | .write s => ctx.moments [.text s]
  | .identifier name => ctx.moments [.identifier name]
  | .identifierList names => ctx.moments (Layout.identifiers names)
  | .literal c => ctx.moments [.literal c]
  | .parameter v => ctx.moments [.placeholder v]
  | .parameterName _ => [⟨ctx, none⟩]
  | .terminate => ctx.moments [.terminator]
  | .render e => ctx.moments (e.layout ctx.dialect)
  | .renderList es separator =>
    ctx.moments (Layout.separated separator (es.map (Element.layout ctx.dialect)))
  | .scoped mode body => Action.momentsUntilFailure (ctx.enter mode) body
  | .enter mode body => Action.momentsOfAll (ctx.enter mode) body

def Action.momentsUntilFailure (ctx : Context) : List Action → List Moment
  | [] => [⟨ctx, none⟩]
  | action :: rest =>
    ⟨ctx, none⟩ :: action.moments ctx ++
      match (action.run ctx).2.outcome with
      | .error _ => [⟨(action.run ctx).1, none⟩]
      | .ok () => Action.momentsUntilFailure (action.run ctx).1 rest

def Action.momentsOfAll (ctx : Context) : List Action → List Moment
  | [] => [⟨ctx, none⟩]
  | action :: rest =>
    ⟨ctx, none⟩ :: action.moments ctx ++ Action.momentsOfAll (action.run ctx).1 rest

end

/-! ### Frames -/

namespace Context

/-- Nothing but growth happened between two contexts that are in the same modes, and statements were
counted only when they ended in the mode that has them. -/
structure Framed (before after : Context) (moments : List Moment) : Prop where
  stack : after.stack = before.stack
  grown : before.Grown after
  statements : after.statements = before.statements + moments.countP Moment.Ends
  throughout : ∀ m ∈ moments, before.stack <:+ m.context.stack ∧ before.Grown m.context

theorem Framed.refl (ctx : Context) : ctx.Framed ctx [] :=
  ⟨rfl, .refl ctx, rfl, List.forall_mem_nil _⟩

theorem framed_here (ctx : Context) : ctx.Framed ctx [⟨ctx, none⟩] := by
  refine ⟨rfl, .refl ctx, rfl, fun m member => ?_⟩
  obtain rfl := List.mem_singleton.mp member
  exact ⟨List.suffix_rfl, .refl ctx⟩

theorem Framed.trans {a b c : Context} {before after : List Moment} (first : a.Framed b before)
    (second : b.Framed c after) : a.Framed c (before ++ after) where
  stack := second.stack.trans first.stack
  grown := first.grown.trans second.grown
  statements := by rw [second.statements, first.statements, List.countP_append, Nat.add_assoc]
  throughout := by
    refine List.forall_mem_append.mpr ⟨first.throughout, fun m member => ?_⟩
    obtain ⟨inner, grown⟩ := second.throughout m member
    exact ⟨first.stack ▸ inner, first.grown.trans grown⟩

theorem framed_put {ctx : Context} {piece : Piece} (writes : ∀ e, piece ≠ .failure e) :
    ctx.Framed (ctx.put piece) [⟨ctx, some piece⟩] := by
  refine ⟨stack_put ctx piece, grown_put ctx piece, ?_, ?_⟩
  · cases piece with
    | terminator =>
      rw [put, terminate]
      split <;> simp_all [Moment.Ends]
    | failure e => exact absurd rfl (writes e)
    | _ => simp [put, write, parameterName, Moment.Ends]
  · intro m member
    obtain rfl := List.mem_singleton.mp member
    exact ⟨List.suffix_rfl, .refl ctx⟩

theorem framed_parameterName (ctx : Context) (v : Value) :
    ctx.Framed (ctx.parameterName v).2 [⟨ctx, none⟩] := by
  refine ⟨rfl, grown_parameterName ctx v, rfl, fun m member => ?_⟩
  obtain rfl := List.mem_singleton.mp member
  exact ⟨List.suffix_rfl, .refl ctx⟩

theorem framed_emit (ctx : Context) (layout : Layout) :
    ctx.Framed (ctx.emit layout).1 (ctx.moments layout) := by
  induction layout generalizing ctx with
  | nil => exact .refl ctx
  | cons piece rest ih =>
    cases piece with
    | failure e => exact .refl ctx
    | _ => exact (framed_put (fun e => Piece.noConfusion)).trans (ih _)

/-- The mode that a guard entered is left again, whatever happened inside. -/
theorem Framed.guard {ctx inside : Context} {mode : RenderMode} {moments : List Moment}
    (framed : (ctx.enter mode).Framed inside moments) :
    ctx.Framed inside.leave moments := by
  have modes : inside.mode = mode ∧ inside.enclosing = ctx.stack :=
    List.cons_eq_cons.mp framed.stack
  have left : inside.leave = { inside with mode := ctx.mode, enclosing := ctx.enclosing } := by
    rw [leave, modes.2]
    rfl
  have entered := grown_enter ctx mode
  refine ⟨by rw [left]; rfl, (entered.trans framed.grown).trans (grown_leave inside), ?_, ?_⟩
  · rw [left]
    exact framed.statements
  · intro m member
    obtain ⟨inner, grown⟩ := framed.throughout m member
    exact ⟨(List.suffix_cons mode ctx.stack).trans inner, entered.trans grown⟩

end Context

mutual

theorem Action.framed_run (ctx : Context) :
    (action : Action) → ctx.Framed (action.run ctx).1 (action.moments ctx)
  | .write s => ctx.framed_emit [.text s]
  | .identifier name => ctx.framed_emit [.identifier name]
  | .identifierList names => ctx.framed_emit (Layout.identifiers names)
  | .literal c => ctx.framed_emit [.literal c]
  | .parameter v => ctx.framed_emit [.placeholder v]
  | .parameterName v => ctx.framed_parameterName v
  | .terminate => ctx.framed_emit [.terminator]
  | .render e => ctx.framed_emit (e.layout ctx.dialect)
  | .renderList es separator =>
    ctx.framed_emit (Layout.separated separator (es.map (Element.layout ctx.dialect)))
  | .scoped mode body => (Action.framed_runUntilFailure (ctx.enter mode) body).guard
  | .enter mode body => (Action.framed_runAll (ctx.enter mode) body).guard

theorem Action.framed_runUntilFailure (ctx : Context) : (body : List Action) →
    ctx.Framed (Action.runUntilFailure ctx body).1 (Action.momentsUntilFailure ctx body)
  | [] => ctx.framed_here
  | action :: rest => by
    have first := ctx.framed_here.trans (Action.framed_run ctx action)
    rw [Action.runUntilFailure, Action.momentsUntilFailure]
    cases outcome : (action.run ctx).2.outcome with
    | error e =>
      simp only [outcome]
      exact first.trans (Context.framed_here _)
    | ok done =>
      simp only [outcome]
      exact first.trans (Action.framed_runUntilFailure (action.run ctx).1 rest)

theorem Action.framed_runAll (ctx : Context) : (body : List Action) →
    ctx.Framed (Action.runAll ctx body).1 (Action.momentsOfAll ctx body)
  | [] => ctx.framed_here
  | action :: rest =>
    (ctx.framed_here.trans (Action.framed_run ctx action)).trans
      (Action.framed_runAll (action.run ctx).1 rest)

end

/-- An operation in any mode, over with whatever outcome, leaves the modes as they were and has only
added to the pass. At each moment of it there is a mode, and the initial one is at the bottom. -/
theorem run_framed (ctx : Context) (action : Action) :
    ctx.Framed (action.run ctx).1 (action.moments ctx) ∧
      ∀ m ∈ action.moments ctx,
        m.context.stack ≠ [] ∧ m.context.stack.getLast? = ctx.stack.getLast? := by
  have framed := Action.framed_run ctx action
  refine ⟨framed, fun m member => ⟨List.cons_ne_nil _ _, ?_⟩⟩
  obtain ⟨inner, around⟩ := (framed.throughout m member).1
  rw [← around, List.getLast?_append, Option.or_of_isSome (by simp [Context.stack])]

end SqlBatch
