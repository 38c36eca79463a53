import SqlBatch.Proofs.Render.Numbering
import SqlBatch.Render.Context

/-!
# What a pass leaves

A pass in statement mode writes the pieces of a layout up to its first failure, and numbers the
values among them in the order in which they come. `renderIn_numbering` and `render_eq` say what
comes of whole passes.
-/
namespace SqlBatch

/-! ### Layouts -/

/-- The value that a piece binds. -/
def Piece.value? : Piece → Option Value
  | .placeholder v => some v
  | _ => none

/-- What a piece looks like under the numbers of a roll. -/
def Piece.textOn (d : Dialect) (roll : List Value) : Piece → String
  | .text s => s
  | .identifier name => d.quoteIdentifier name
  | .literal c => d.literal c
  | .placeholder v => (parameterOn d roll v).name
  | .terminator => d.terminator
  | .failure _ => ""

namespace Layout

/-- The values of a layout, one for each of its placeholders. -/
def bound (layout : Layout) : List Value := layout.filterMap Piece.value?

/-- How many statements a layout ends. -/
def endings (layout : Layout) : Nat := layout.count .terminator

def textOn (d : Dialect) (roll : List Value) : Layout → String
  | [] => ""
  | piece :: rest => piece.textOn d roll ++ textOn d roll rest

def outcome (layout : Layout) : Except Error Unit :=
  match layout.failure? with
  | some e => .error e
  | none => .ok ()

theorem bound_cons (piece : Piece) (rest : Layout) :
    bound (piece :: rest) = piece.value?.toList ++ bound rest := by
  cases piece <;> rfl

theorem bound_append (first second : Layout) :
    bound (first ++ second) = bound first ++ bound second := List.filterMap_append

theorem endings_cons (piece : Piece) (rest : Layout) :
    endings (piece :: rest) = (if piece = .terminator then 1 else 0) + endings rest := by
  simp only [endings, List.count_cons, beq_iff_eq]
  omega

theorem endings_append (first second : Layout) :
    endings (first ++ second) = endings first + endings second := List.count_append

theorem textOn_singleton (d : Dialect) (roll : List Value) (piece : Piece) :
    textOn d roll [piece] = piece.textOn d roll := String.append_empty

theorem textOn_append (d : Dialect) (roll : List Value) (first second : Layout) :
    textOn d roll (first ++ second) = textOn d roll first ++ textOn d roll second := by
  induction first with
  | nil => exact String.empty_append.symm
  | cons piece rest ih => simp only [List.cons_append, textOn, ih, String.append_assoc]

theorem failure?_append (first second : Layout) :
    failure? (first ++ second) = (failure? first).or (failure? second) := by
  induction first with
  | nil => rfl
  | cons piece rest ih =>
    cases piece with
    | failure e => rfl
    | _ => exact ih

theorem written_cons {piece : Piece} (writes : ∀ e, piece ≠ .failure e) (rest : Layout) :
    written (piece :: rest) = piece :: written rest := by
  cases piece with
  | failure e => exact (writes e rfl).elim
  | _ => rfl

theorem outcome_cons {piece : Piece} (writes : ∀ e, piece ≠ .failure e) (rest : Layout) :
    outcome (piece :: rest) = outcome rest := by
  cases piece with
  | failure e => exact (writes e rfl).elim
  | _ => rfl

theorem textOn_enrollAll {d : Dialect} {roll : List Value} {layout : Layout}
    (inside : layout.bound ⊆ roll) (vs : List Value) :
    layout.textOn d (enrollAll roll vs) = layout.textOn d roll := by
  induction layout with
  | nil => rfl
  | cons piece rest ih =>
    have later : bound rest ⊆ roll := by
      intro v member
      exact inside (by rw [bound_cons]; exact List.mem_append_right _ member)
    rw [textOn, textOn, ih later]
    cases piece with
    | placeholder v =>
      have known : v ∈ roll := inside (by simp [bound_cons, Piece.value?])
      rw [Piece.textOn, parameterOn_enrollAll known, ← Piece.textOn]
    | _ => rfl

theorem written_eq_self {layout : Layout} (whole : layout.failure? = none) :
    layout.written = layout := by
  induction layout with
  | nil => rfl
  | cons piece rest ih =>
    cases piece with
    | failure e => cases whole
    | _ => exact congrArg _ (ih whole)

end Layout

/-- The values of some layouts in the order of their first use. -/
def rollOf (layouts : List Layout) : List Value := enrollAll [] (Layout.bound layouts.flatten)

theorem rollOf_concat (layouts : List Layout) (layout : Layout) :
    rollOf (layouts ++ [layout]) = enrollAll (rollOf layouts) layout.bound := by
  simp only [rollOf, List.flatten_append, List.flatten_singleton, Layout.bound_append,
    enrollAll_append]

theorem bound_subset_rollOf {layouts : List Layout} {layout : Layout} (member : layout ∈ layouts) :
    layout.bound ⊆ rollOf layouts := by
  intro v bound
  obtain ⟨piece, inside, holds⟩ := List.mem_filterMap.mp bound
  refine values_subset_enrollAll [] _ (List.mem_filterMap.mpr ⟨piece, ?_, holds⟩)
  exact List.mem_flatten.mpr ⟨layout, member, inside⟩

/-! ### Passes -/

namespace Context

variable {ctx : Context} {roll uses : List Value}

@[simp] theorem dialect_put (ctx : Context) (piece : Piece) :
    (ctx.put piece).dialect = ctx.dialect := by
  cases piece with
  | terminator =>
    simp only [put, terminate]
    split <;> rfl
  | _ => rfl

/-- A context whose scope and table are those of two rolls, the values used so far being numbered. -/
structure On (ctx : Context) (roll uses : List Value) : Prop where
  mode : ctx.mode = .statement
  scope : ctx.scope = .numbering ctx.dialect roll
  used : ctx.used = tableOn ctx.dialect roll uses
  inside : uses ⊆ roll

/-- The context behind some text that binds some values and ends some statements. -/
def advanced (ctx : Context) (roll uses vs : List Value) (text : String) (endings : Nat) : Context :=
  { ctx with
    text := ctx.text ++ text
    scope := .numbering ctx.dialect (enrollAll roll vs)
    used := tableOn ctx.dialect (enrollAll roll vs) (enrollAll uses vs)
    statements := ctx.statements + endings }

theorem On.advanced (on : ctx.On roll uses) (vs : List Value) (text : String) (endings : Nat) :
    (ctx.advanced roll uses vs text endings).On (enrollAll roll vs) (enrollAll uses vs) := by
  refine ⟨on.mode, rfl, rfl, fun v member => ?_⟩
  rcases mem_enrollAll.mp member with earlier | now
  · exact subset_enrollAll roll vs (on.inside earlier)
  · exact values_subset_enrollAll roll vs now

theorem On.eq_advanced (on : ctx.On roll uses) : ctx = ctx.advanced roll uses [] "" 0 := by
  simp [Context.advanced, ← on.scope, ← on.used]

theorem On.write (on : ctx.On roll uses) (s : String) (endings : Nat) :
    { ctx.write s with statements := ctx.statements + endings } =
      ctx.advanced roll uses [] s endings := by
  simp only [Context.write, Context.advanced, enrollAll_nil, ← on.scope, ← on.used]

theorem On.put (on : ctx.On roll uses) {piece : Piece} (writes : ∀ e, piece ≠ .failure e) :
    ctx.put piece = ctx.advanced roll uses (Layout.bound [piece])
      (Layout.textOn ctx.dialect (enrollAll roll (Layout.bound [piece])) [piece])
      (Layout.endings [piece]) := by
  rw [Layout.textOn_singleton]
  cases piece with
  | text s => exact on.write s 0
  | identifier name => exact on.write (ctx.dialect.quoteIdentifier name) 0
  | literal c => exact on.write (ctx.dialect.literal c) 0
  | placeholder v =>
    have listed : ctx.used.note (parameterOn ctx.dialect roll v) =
        tableOn ctx.dialect (enroll roll v) (enroll uses v) := by
      rw [on.used, ← tableOn_enrollAll on.inside [v], ← parameterOn_enroll]
      exact note_tableOn on.inside v
    have name : (parameterOn ctx.dialect roll v).name =
        (parameterOn ctx.dialect (enroll roll v) v).name := by
      rw [parameterOn_enroll]
    simp only [Context.put, parameterName, on.scope, Scope.intern_numbering, listed, name]
    rfl
  | terminator =>
    simp only [Context.put, terminate, on.mode]
    exact on.write ctx.dialect.terminator 1
  | failure e => exact (writes e rfl).elim

theorem advanced_advanced (ctx : Context) (roll uses final : List Value) (first second : Layout) :
    (ctx.advanced roll uses first.bound (first.textOn ctx.dialect final) first.endings).advanced
        (enrollAll roll first.bound) (enrollAll uses first.bound) second.bound
        (second.textOn ctx.dialect final) second.endings =
      ctx.advanced roll uses (first ++ second).bound ((first ++ second).textOn ctx.dialect final)
        (first ++ second).endings := by
  simp only [advanced, Layout.bound_append, Layout.textOn_append, Layout.endings_append,
    enrollAll_append, String.append_assoc, Nat.add_assoc]

theorem emit_cons {piece : Piece} (writes : ∀ e, piece ≠ .failure e) (ctx : Context)
    (rest : Layout) : ctx.emit (piece :: rest) = (ctx.put piece).emit rest := by
  cases piece with
  | failure e => exact (writes e rfl).elim
  | _ => rfl

/-- Numbers are never changed, so the text of a layout is the text under the final roll. -/
theorem On.emit (on : ctx.On roll uses) (layout : Layout) :
    ctx.emit layout =
      (ctx.advanced roll uses layout.written.bound
        (layout.written.textOn ctx.dialect (enrollAll roll layout.written.bound))
        layout.written.endings, layout.outcome) := by
  induction layout generalizing ctx roll uses with
  | nil => exact congrArg (·, _) on.eq_advanced
  | cons piece rest ih =>
    by_cases fails : ∃ e, piece = .failure e
    · obtain ⟨e, rfl⟩ := fails
      exact congrArg (·, _) on.eq_advanced
    · have writes : ∀ e, piece ≠ .failure e := fun e same => fails ⟨e, same⟩
      let first : Layout := [piece]
      have next : (ctx.put piece).On (enrollAll roll first.bound) (enrollAll uses first.bound) := by
        rw [on.put writes]
        exact on.advanced _ _ _
      have final : enrollAll (enrollAll roll first.bound) (Layout.written rest).bound =
          enrollAll roll (Layout.written (piece :: rest)).bound := by
        rw [Layout.written_cons writes, ← enrollAll_append, ← Layout.bound_append]
        rfl
      have same : first.textOn ctx.dialect (enrollAll roll first.bound) =
          first.textOn ctx.dialect (enrollAll roll (Layout.written (piece :: rest)).bound) := by
        have known := values_subset_enrollAll roll first.bound
        rw [← final, Layout.textOn_enrollAll known]
      rw [emit_cons writes, ih next, dialect_put, final, on.put writes, same, advanced_advanced,
        Layout.written_cons writes, Layout.outcome_cons writes]
      rfl

end Context

/-! ### Whole passes -/

namespace Layout

/-- What comes of a layout that is written as a whole, with the numbers of a roll and further ones. -/
def rendering (layout : Layout) (d : Dialect) (roll : List Value) : Rendered where
  sql := layout.textOn d (enrollAll roll layout.bound)
  parameters := tableOn d (enrollAll roll layout.bound) (enrollAll [] layout.bound)
  statements := layout.endings

@[simp] theorem statements_rendering (layout : Layout) (d : Dialect) (roll : List Value) :
    (layout.rendering d roll).statements = layout.endings := rfl

theorem finish_advanced {layout : Layout} (whole : layout.failure? = none) (d : Dialect)
    (scope : Scope) (roll : List Value) :
    (({ dialect := d, scope } : Context).advanced roll [] layout.written.bound
      (layout.written.textOn d (enrollAll roll layout.written.bound))
      layout.written.endings).finish = layout.rendering d roll := by
  simp only [Context.advanced, Context.finish, rendering, written_eq_self whole, Nat.zero_add,
    String.empty_append]

theorem renderIn_numbering (layout : Layout) (d : Dialect) (roll : List Value) :
    layout.renderIn d (.numbering d roll) =
      match layout.failure? with
      | some e => (.error e, .numbering d roll)
      | none => (.ok (layout.rendering d roll), .numbering d (enrollAll roll layout.bound)) := by
  have on : ({ dialect := d, scope := .numbering d roll } : Context).On roll [] :=
    ⟨rfl, rfl, rfl, List.nil_subset roll⟩
  unfold renderIn
  rw [on.emit, outcome]
  cases fails : layout.failure? with
  | some e => exact congrArg (Except.error e, ·) (Scope.rollback_numbering d roll _)
  | none =>
    simp only [finish_advanced fails]
    simp only [Context.advanced, written_eq_self fails]

theorem renderIn_eq_ok {layout : Layout} {d : Dialect} {roll : List Value} {rendered : Rendered}
    {after : Scope} (h : layout.renderIn d (.numbering d roll) = (.ok rendered, after)) :
    layout.failure? = none ∧ rendered = layout.rendering d roll ∧
      after = .numbering d (enrollAll roll layout.bound) := by
  rw [renderIn_numbering] at h
  cases fails : layout.failure? with
  | some e =>
    rw [fails] at h
    cases h
  | none =>
    rw [fails] at h
    cases h
    exact ⟨rfl, rfl, rfl⟩

theorem render_eq (layout : Layout) (d : Dialect) :
    layout.render d =
      match layout.failure? with
      | some e => .error e
      | none => .ok (layout.rendering d []) := by
  have on : ({ dialect := d } : Context).On [] [] := ⟨rfl, rfl, rfl, List.nil_subset []⟩
  unfold render
  rw [on.emit, outcome]
  cases fails : layout.failure? with
  | some e => rfl
  | none => exact congrArg Except.ok (finish_advanced fails d {} [])

theorem render_eq_ok {layout : Layout} {d : Dialect} {rendered : Rendered}
    (h : layout.render d = .ok rendered) :
    layout.failure? = none ∧ rendered = layout.rendering d [] := by
  rw [render_eq] at h
  cases fails : layout.failure? with
  | some e =>
    rw [fails] at h
    cases h
  | none =>
    rw [fails] at h
    exact ⟨rfl, (Except.ok.inj h).symm⟩

end Layout
end SqlBatch
