import Mathlib.Data.List.Sort
import SqlBatch.Dialect.Custom
import SqlBatch.Proofs.Render.Pass
import SqlBatch.Render.Action

/-!
# The order of a table

A pass lists the values that it asks for in the order of their first use. When its scope has
numbered some of them before, that need not be the order of the numbers: `in_number_order_iff`.
-/
namespace SqlBatch

variable {d : Dialect}

/-! ### Passes over one scope -/

/-- A pass that is about to begin. -/
def Scope.opened (s : Scope) (d : Dialect) (mode : RenderMode) : Context :=
  { dialect := d, scope := s, mode }

/-- The scopes that there can be: each pass goes on with what another one left, in whatever
dialect. -/
inductive Scope.Reached : Scope → Prop
  | fresh : Reached {}
  | passed {s : Scope} (before : Reached s) (d : Dialect) (mode : RenderMode) (body : List Action) :
    Reached (Action.runAll (s.opened d mode) body).1.scope
  /-- A pass that is given up hands its numbers back. -/
  | undone {s : Scope} (before : Reached s) (d : Dialect) (mode : RenderMode) (body : List Action) :
    Reached ((Action.runAll (s.opened d mode) body).1.scope.rollback s.issued)

mutual

/-- The values that an action asks placeholders for, one for each time that it asks. -/
def Action.asked (ctx : Context) : Action → List Value
  | .write _ | .identifier _ | .identifierList _ | .literal _ | .terminate => []
  | .parameter v | .parameterName v => [v]
  | .render e => Layout.bound (e.layout ctx.dialect).written
  | .renderList es separator =>
    Layout.bound (Layout.separated separator (es.map (Element.layout ctx.dialect))).written
  | .scoped mode body => Action.askedUntilFailure (ctx.enter mode) body
  | .enter mode body => Action.askedOfAll (ctx.enter mode) body

def Action.askedUntilFailure (ctx : Context) : List Action → List Value
  | [] => []
  | action :: rest =>
    action.asked ctx ++
      match (action.run ctx).2.outcome with
      | .error _ => []
      | .ok () => Action.askedUntilFailure (action.run ctx).1 rest

def Action.askedOfAll (ctx : Context) : List Action → List Value
  | [] => []
  | action :: rest => action.asked ctx ++ Action.askedOfAll (action.run ctx).1 rest

end

/-! ### One spelling

The dialects of a scope's passes may differ. Numbers do not depend on names, so all of them are
looked at as if one dialect had given the names.
-/

def Parameter.respelled (d : Dialect) (p : Parameter) : Parameter :=
  { p with name := d.parameterName p.ordinal }

def Parameters.respelled (d : Dialect) (table : Parameters) : Parameters :=
  ⟨table.entries.map (Parameter.respelled d)⟩

theorem Parameters.note_respelled (table : Parameters) (p : Parameter) :
    (table.respelled d).note (p.respelled d) = (table.note p).respelled d := by
  have listed : (table.respelled d).entries.any (·.ordinal = (p.respelled d).ordinal) =
      table.entries.any (·.ordinal = p.ordinal) := by
    simp only [respelled, List.any_map]
    rfl
  unfold note
  rw [listed]
  split
  · rfl
  · simp [respelled]

namespace Scope

def respelled (d : Dialect) (s : Scope) : Scope :=
  { s with interned := s.interned.map fun known =>
      { known with parameter := known.parameter.respelled d } }

theorem find?_respelled (s : Scope) (v : Value) :
    (s.respelled d).find? v = (s.find? v).map (Parameter.respelled d) := by
  simp only [find?, respelled, List.find?_map, Option.map_map]
  rfl

theorem intern_respelled (s : Scope) (d' : Dialect) (v : Value) :
    (s.respelled d).intern d v =
      ((s.intern d' v).1.respelled d, (s.intern d' v).2.respelled d) := by
  unfold intern
  rw [find?_respelled]
  cases s.find? v with
  | some p => rfl
  | none => simp [respelled, Parameter.respelled]

theorem rollback_respelled (s : Scope) (checkpoint : Nat) :
    (s.respelled d).rollback checkpoint = (s.rollback checkpoint).respelled d := by
  unfold rollback
  change (if s.issued ≤ checkpoint then _ else _) = _
  split
  · rfl
  · simp only [respelled, List.filter_map]
    rfl

end Scope

/-! ### What a pass lists -/

namespace Context

variable {ctx : Context} {roll uses : List Value}

/-- A moment of a pass: the scope has numbered one roll, and the table lists the values on
another. -/
structure Lists (d : Dialect) (ctx : Context) (roll uses : List Value) : Prop where
  scope : ctx.scope.respelled d = .numbering d roll
  used : ctx.used.respelled d = tableOn d roll uses
  inside : uses ⊆ roll

theorem Lists.enter (lists : Lists d ctx roll uses) (mode : RenderMode) :
    Lists d (ctx.enter mode) roll uses := ⟨lists.scope, lists.used, lists.inside⟩

theorem Lists.leave (lists : Lists d ctx roll uses) : Lists d ctx.leave roll uses := by
  unfold Context.leave
  split
  · exact lists
  · exact ⟨lists.scope, lists.used, lists.inside⟩

theorem Lists.parameterName (lists : Lists d ctx roll uses) (v : Value) :
    Lists d (ctx.parameterName v).2 (enroll roll v) (enroll uses v) := by
  have interned := ctx.scope.intern_respelled (d := d) ctx.dialect v
  rw [lists.scope, Scope.intern_numbering] at interned
  obtain ⟨named, after⟩ := Prod.mk.inj interned
  refine ⟨after.symm, ?_, ?_⟩
  · have noted := note_tableOn (d := d) lists.inside v
    have kept : tableOn d (enroll roll v) uses = tableOn d roll uses :=
      tableOn_enrollAll lists.inside [v]
    rw [kept, parameterOn_enroll, ← lists.used, named, Parameters.note_respelled] at noted
    exact noted
  · intro w member
    rcases mem_enroll.mp member with earlier | now
    · exact mem_enroll.mpr (.inl (lists.inside earlier))
    · exact mem_enroll.mpr (.inr now)

theorem Lists.put (lists : Lists d ctx roll uses) (piece : Piece) :
    Lists d (ctx.put piece) (enrollAll roll piece.value?.toList)
      (enrollAll uses piece.value?.toList) := by
  cases piece with
  | placeholder v =>
    obtain ⟨scope, used, inside⟩ := lists.parameterName v
    exact ⟨scope, used, inside⟩
  | terminator =>
    rw [Context.put, terminate]
    split
    · exact ⟨lists.scope, lists.used, lists.inside⟩
    · exact lists
  | _ => exact ⟨lists.scope, lists.used, lists.inside⟩

theorem Lists.emit (lists : Lists d ctx roll uses) (layout : Layout) :
    Lists d (ctx.emit layout).1 (enrollAll roll layout.written.bound)
      (enrollAll uses layout.written.bound) := by
  induction layout generalizing ctx roll uses with
  | nil => exact lists
  | cons piece rest ih =>
    by_cases fails : ∃ e, piece = .failure e
    · obtain ⟨e, rfl⟩ := fails
      exact lists
    · have writes : ∀ e, piece ≠ .failure e := fun e same => fails ⟨e, same⟩
      have later := ih (lists.put piece)
      rw [← enrollAll_append, ← enrollAll_append, ← Layout.bound_cons] at later
      rw [emit_cons writes, Layout.written_cons writes]
      exact later

end Context

theorem Layout.bound_written_identifiers (names : List String) :
    bound (identifiers names).written = [] := by
  cases names with
  | nil => rfl
  | cons name rest =>
    induction rest with
    | nil => rfl
    | cons next rest ih => exact ih

mutual

theorem Action.lists_run {ctx : Context} {roll uses : List Value} (lists : ctx.Lists d roll uses) :
    (action : Action) → (action.run ctx).1.Lists d (enrollAll roll (action.asked ctx))
      (enrollAll uses (action.asked ctx))
  | .write s => lists.emit [.text s]
  | .identifier name => lists.emit [.identifier name]
  | .identifierList names => by
    have listed := lists.emit (Layout.identifiers names)
    rw [Layout.bound_written_identifiers] at listed
    exact listed
  | .literal c => lists.emit [.literal c]
  | .parameter v => lists.emit [.placeholder v]
  | .parameterName v => lists.parameterName v
  | .terminate => lists.emit [.terminator]
  | .render e => lists.emit (e.layout ctx.dialect)
  | .renderList es separator =>
    lists.emit (Layout.separated separator (es.map (Element.layout ctx.dialect)))
  | .scoped mode body => (Action.lists_runUntilFailure (lists.enter mode) body).leave
  | .enter mode body => (Action.lists_runAll (lists.enter mode) body).leave

theorem Action.lists_runUntilFailure {ctx : Context} {roll uses : List Value}
    (lists : ctx.Lists d roll uses) : (body : List Action) →
    (Action.runUntilFailure ctx body).1.Lists d (enrollAll roll (Action.askedUntilFailure ctx body))
      (enrollAll uses (Action.askedUntilFailure ctx body))
  | [] => lists
  | action :: rest => by
    have first := Action.lists_run lists action
    rw [Action.runUntilFailure, Action.askedUntilFailure]
    cases outcome : (action.run ctx).2.outcome with
    | error e =>
      simp only [outcome, List.append_nil]
      exact first
    | ok done =>
      simp only [outcome, enrollAll_append]
      exact Action.lists_runUntilFailure first rest

theorem Action.lists_runAll {ctx : Context} {roll uses : List Value}
    (lists : ctx.Lists d roll uses) : (body : List Action) →
    (Action.runAll ctx body).1.Lists d (enrollAll roll (Action.askedOfAll ctx body))
      (enrollAll uses (Action.askedOfAll ctx body))
  | [] => lists
  | action :: rest => by
    rw [Action.askedOfAll, enrollAll_append, enrollAll_append]
    exact Action.lists_runAll (Action.lists_run lists action) rest

end

theorem Scope.numbering_of_respelled {s : Scope} {roll : List Value}
    (same : s.respelled d = .numbering d roll) : s.issued = roll.length ∧ s.retained = roll :=
  ⟨congrArg issued same, congrArg retained same⟩

/-- By induction over the passes: each of them enrolls the values that it asks for. -/
theorem Scope.Reached.exists_roll {s : Scope} (reached : s.Reached) (d : Dialect) :
    ∃ roll : List Value, roll.Nodup ∧ s.respelled d = .numbering d roll := by
  have passed : ∀ {s : Scope} {roll : List Value}, s.respelled d = .numbering d roll →
      ∀ (d' : Dialect) (mode : RenderMode) (body : List Action),
        (Action.runAll (s.opened d' mode) body).1.Lists d
          (enrollAll roll (Action.askedOfAll (s.opened d' mode) body))
          (enrollAll [] (Action.askedOfAll (s.opened d' mode) body)) := by
    intro s roll numbered d' mode body
    exact Action.lists_runAll ⟨numbered, rfl, List.nil_subset roll⟩ body
  induction reached with
  | fresh => exact ⟨[], List.nodup_nil, rfl⟩
  | passed before d' mode body ih =>
    obtain ⟨roll, distinct, numbered⟩ := ih
    exact ⟨_, nodup_enrollAll distinct _, (passed numbered d' mode body).scope⟩
  | undone before d' mode body ih =>
    obtain ⟨roll, distinct, numbered⟩ := ih
    have lists := passed numbered d' mode body
    obtain ⟨issued, -⟩ := numbering_of_respelled numbered
    refine ⟨roll, distinct, ?_⟩
    rw [← rollback_respelled, lists.scope, issued, rollback_numbering]

/-! ### Order -/

/-- In order of first use: some of the values on a roll, as they follow one another there, and
behind them values that are not on it. -/
def InStep (roll uses : List Value) : Prop :=
  ∃ known fresh, uses = known ++ fresh ∧ known.Sublist roll ∧ ∀ v ∈ fresh, v ∉ roll

theorem pairwise_idxOf {roll : List Value} (distinct : roll.Nodup) :
    roll.Pairwise fun v w => roll.idxOf v < roll.idxOf w := by
  rw [List.pairwise_iff_getElem]
  intro i j first second before
  rw [distinct.idxOf_getElem, distinct.idxOf_getElem]
  exact before

/-- Values stand in the order of a roll when they are what is left of it once others have gone. -/
theorem pairwise_idxOf_iff_sublist {roll uses : List Value} (distinct : roll.Nodup)
    (once : uses.Nodup) (inside : uses ⊆ roll) :
    uses.Pairwise (fun v w => roll.idxOf v < roll.idxOf w) ↔ uses.Sublist roll := by
  constructor
  · intro ordered
    have antisymm : Std.Antisymm fun v w : Value => roll.idxOf v < roll.idxOf w :=
      ⟨fun v w first second => absurd second (Nat.lt_asymm first)⟩
    have among : uses.Subperm roll := List.subperm_of_subset once inside
    exact List.sublist_of_subperm_of_pairwise among ordered (pairwise_idxOf distinct)
  · intro left
    exact (pairwise_idxOf distinct).sublist left

theorem sublist_enrollAll_iff {roll uses : List Value} (once : uses.Nodup) :
    uses.Sublist (enrollAll roll uses) ↔ InStep roll uses := by
  constructor
  · intro left
    obtain ⟨fresh, longer, new⟩ := enrollAll_eq_append roll uses
    rw [longer] at left
    obtain ⟨known, behind, rfl, former, latter⟩ := List.sublist_append_iff.mp left
    refine ⟨known, behind, rfl, former, ?_⟩
    intro v member
    exact new v (latter.subset member)
  · rintro ⟨known, fresh, rfl, former, new⟩
    have distinct : fresh.Nodup := (List.nodup_append.mp once).2.1
    rw [enrollAll_append, enrollAll_of_subset former.subset, enrollAll_of_new distinct new]
    exact former.append (List.Sublist.refl fresh)

/-- A pass lists what it asked for in the order of first use, under the numbers that its scope
keeps. Those increase exactly if the pass first uses values that had their numbers before, in the
order of these, and only then others. -/
theorem in_number_order_iff {s : Scope} (reached : s.Reached) (d : Dialect) (mode : RenderMode)
    (body : List Action) :
    let start := s.opened d mode
    let after := (Action.runAll start body).1
    let table := after.finish.parameters.entries
    let uses := (Action.askedOfAll start body).eraseDups
    table.map (fun p => (p.ordinal, p.value)) =
        uses.map (fun v => (after.scope.retained.idxOf v + 1, v.content)) ∧
      (table.Pairwise (fun p q => p.ordinal < q.ordinal) ↔ InStep s.retained uses) := by
  intro start after table uses
  obtain ⟨roll, distinct, numbered⟩ := reached.exists_roll d
  obtain ⟨-, retained⟩ := Scope.numbering_of_respelled numbered
  have begun : start.Lists d roll [] := ⟨numbered, rfl, List.nil_subset roll⟩
  have lists := Action.lists_runAll begun body
  have first : enrollAll [] (Action.askedOfAll start body) = uses := enrollAll_nil_eq_eraseDups _
  have once : uses.Nodup := first ▸ nodup_enrollAll List.nodup_nil _
  -- The roll at the end is the same when every value is enrolled at its first use only.
  have final : enrollAll roll (Action.askedOfAll start body) = enrollAll roll uses := by
    rw [← first, enrollAll_enrollAll, enrollAll_nil]
  rw [first, final] at lists
  obtain ⟨-, kept⟩ := Scope.numbering_of_respelled lists.scope
  have entries : table.map (fun p => (p.ordinal, p.value)) =
      uses.map fun v => ((enrollAll roll uses).idxOf v + 1, v.content) := by
    have listed := congrArg (·.entries.map fun p => (p.ordinal, p.value)) lists.used
    simp only [Parameters.respelled, tableOn, List.map_map] at listed
    exact listed
  refine ⟨by rw [entries, kept], ?_⟩
  have numbers : table.map (·.ordinal) = uses.map fun v => (enrollAll roll uses).idxOf v + 1 := by
    have both := congrArg (List.map Prod.fst) entries
    simpa only [List.map_map, Function.comp_def] using both
  calc table.Pairwise (fun p q => p.ordinal < q.ordinal)
      ↔ (table.map (·.ordinal)).Pairwise (· < ·) := List.pairwise_map.symm
    _ ↔ uses.Pairwise fun v w =>
          (enrollAll roll uses).idxOf v < (enrollAll roll uses).idxOf w := by
        rw [numbers, List.pairwise_map]
        simp only [Nat.add_lt_add_iff_right]
    _ ↔ uses.Sublist (enrollAll roll uses) :=
        pairwise_idxOf_iff_sublist (nodup_enrollAll distinct uses) once lists.inside
    _ ↔ InStep s.retained uses := by rw [sublist_enrollAll_iff once, retained]

/-- A pass in another dialect and mode skips a value that has a number, goes on behind an action that
fails, and ends with a new value. -/
theorem in_number_order_iff_skipping :
    let one : Value := ⟨1, .int 1⟩
    let two : Value := ⟨2, .int 2⟩
    let three : Value := ⟨3, .int 3⟩
    let four : Value := ⟨4, .int 1⟩
    let s := (Action.runAll (({} : Scope).opened .generic .statement)
      [.parameter one, .parameterName two, .parameter three]).1.scope
    let d : Dialect := .custom { parameterPrefix := ":" }
    let body : List Action :=
      [.scoped .statement [.render (.expr (.cast (.value one) none)),
          .render (.expr (.operation .sub [.value two])), .parameter two],
        .enter .nested [.parameter three, .parameter one], .parameter four]
    let table := (Action.runAll (s.opened d .nested) body).1.finish.parameters.entries
    s.Reached ∧ table.map (·.ordinal) = [1, 3, 4] ∧
      (table.Pairwise (fun p q => p.ordinal < q.ordinal) ↔
        InStep s.retained [one, three, four]) := by
  intro one two three four s d body table
  have reached : s.Reached := .passed .fresh _ _ _
  have numbers : table.map (·.ordinal) = [1, 3, 4] := by decide +kernel
  have uses : (Action.askedOfAll (s.opened d .nested) body).eraseDups = [one, three, four] := by
    decide +kernel
  refine ⟨reached, numbers, ?_⟩
  rw [← uses]
  exact (in_number_order_iff reached d .nested body).2

/-- The second of two passes compares with the same values the other way round. -/
theorem numbers_descend :
    let low : Value := ⟨1, .int 5⟩
    let high : Value := ⟨2, .int 9⟩
    let both (first second : Value) : Action := .render (.condition (Condition.and
      (.compare (.col "a") .eq (.value first)) (.compare (.col "b") .eq (.value second))))
    let s := (Action.runAll (({} : Scope).opened .generic .statement) [both low high]).1.scope
    let table := (Action.runAll (s.opened .generic .statement) [both high low]).1.finish.parameters
    s.Reached ∧ table.names = ["@P2", "@P1"] ∧ table.entries.map (·.ordinal) = [2, 1] ∧
      ¬table.entries.Pairwise (fun p q => p.ordinal < q.ordinal) := by
  intro low high both s table
  exact ⟨.passed .fresh _ _ _, by decide +kernel, by decide +kernel, by decide +kernel⟩

end SqlBatch
