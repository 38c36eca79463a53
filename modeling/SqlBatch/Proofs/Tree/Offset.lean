import SqlBatch.Proofs.Tree.Occurrences

/-!
# Numbers behind others

In a scope that has numbered other values, a pass gives its own values the numbers behind those and
does nothing else otherwise: `numbers_shift` holds it against the pass in a fresh scope.
-/
namespace SqlBatch

open Layout

variable {d : Dialect}

/-! ### A later start -/

/-- The dialect as a pass sees it whose numbers start behind `k`. -/
def Dialect.behind (d : Dialect) (k : Nat) : Dialect :=
  { d with parameterName := fun ordinal => d.parameterName (ordinal + k) }

def Parameter.behind (k : Nat) (p : Parameter) : Parameter := { p with ordinal := p.ordinal + k }

def Parameters.behind (k : Nat) (table : Parameters) : Parameters :=
  ⟨table.entries.map (Parameter.behind k)⟩

def Interned.behind (k : Nat) (known : Interned) : Interned :=
  { known with parameter := known.parameter.behind k }

def Rendered.behind (k : Nat) (r : Rendered) : Rendered :=
  { r with parameters := r.parameters.behind k }

theorem Parameters.note_behind (k : Nat) (table : Parameters) (p : Parameter) :
    (table.behind k).note (p.behind k) = (table.note p).behind k := by
  have listed : (table.behind k).entries.any (·.ordinal = (p.behind k).ordinal) =
      table.entries.any (·.ordinal = p.ordinal) := by
    simp [behind, Parameter.behind, Function.comp_def]
  unfold note
  rw [listed]
  split
  · rfl
  · simp [behind]

namespace Scope

/-- A scope that went on with the parameters of another one. -/
def followedBy (s t : Scope) : Scope where
  issued := s.issued + t.issued
  interned := s.interned ++ t.interned.map (Interned.behind s.issued)
  retained := s.retained ++ t.retained

theorem followedBy_fresh (s : Scope) : s.followedBy {} = s := by
  simp [followedBy]

variable {s : Scope} {v : Value}

theorem find?_followedBy (absent : s.find? v = none) (t : Scope) :
    (s.followedBy t).find? v = (t.find? v).map (Parameter.behind s.issued) := by
  have missed := Option.map_eq_none_iff.mp absent
  simp only [find?, followedBy, List.find?_append, missed, Option.none_or, List.find?_map,
    Option.map_map]
  rfl

theorem intern_followedBy (absent : s.find? v = none) (d : Dialect) (t : Scope) :
    (s.followedBy t).intern d v =
      ((t.intern (d.behind s.issued) v).1.behind s.issued,
        s.followedBy (t.intern (d.behind s.issued) v).2) := by
  have place : s.issued + t.issued + 1 = t.issued + 1 + s.issued := by omega
  have total : s.issued + (t.issued + 1) = t.issued + 1 + s.issued := Nat.add_comm ..
  unfold intern
  rw [find?_followedBy absent]
  cases t.find? v with
  | some p => rfl
  | none =>
    simp only [followedBy, Parameter.behind, Interned.behind, Dialect.behind, place, total,
      Option.map_none, List.map_append, List.map_cons, List.map_nil, List.append_assoc]

end Scope

/-! ### Passes -/

namespace Context

/-- The same moment of a pass that started behind the parameters of a scope. -/
def behind (ctx : Context) (d : Dialect) (s : Scope) : Context :=
  { ctx with dialect := d, scope := s.followedBy ctx.scope, used := ctx.used.behind s.issued }

variable {ctx : Context} {s : Scope}

theorem put_behind (dialect : ctx.dialect = d.behind s.issued) {piece : Piece}
    (fresh : ∀ v ∈ piece.value?, s.find? v = none) :
    (ctx.behind d s).put piece = (ctx.put piece).behind d s := by
  rcases ctx with ⟨_, text, mode, enclosing, scope, used, statements⟩
  obtain rfl := dialect
  cases piece with
  | literal c => cases c <;> rfl
  | placeholder v =>
    -- The only piece that asks the scope for anything.
    simp only [put, parameterName, behind, Scope.intern_followedBy (fresh v rfl),
      Parameters.note_behind]
    rfl
  | terminator => cases mode <;> rfl
  | _ => rfl

theorem emit_behind (dialect : ctx.dialect = d.behind s.issued) {layout : Layout}
    (fresh : ∀ v ∈ layout.bound, s.find? v = none) :
    (ctx.behind d s).emit layout = ((ctx.emit layout).1.behind d s, (ctx.emit layout).2) := by
  induction layout generalizing ctx with
  | nil => rfl
  | cons piece rest ih =>
    rw [bound_cons, List.forall_mem_append] at fresh
    have now := put_behind dialect fun v bound => fresh.1 v (Option.mem_toList.mpr bound)
    have later := ih ((dialect_put ctx piece).trans dialect) fresh.2
    cases piece with
    | failure e => rfl
    | _ => simpa only [emit, now] using later

end Context

theorem Layout.renderIn_behind {layout : Layout} {scope : Scope}
    (fresh : ∀ v ∈ layout.bound, scope.find? v = none) :
    (layout.renderIn d scope).1 =
      (layout.render (d.behind scope.issued)).map (Rendered.behind scope.issued) := by
  -- A pass in the scope is one in a fresh scope that is moved behind it from its first moment on.
  have start : ({ dialect := d, scope } : Context) =
      ({ dialect := d.behind scope.issued } : Context).behind d scope := by
    rw [Context.behind, Scope.followedBy_fresh]
    rfl
  unfold renderIn render
  rw [start, Context.emit_behind rfl fresh]
  rcases ({ dialect := d.behind scope.issued } : Context).emit layout with ⟨ctx, e | ⟨⟩⟩ <;> rfl

/-! ### Nodes -/

theorem Layout.fragments_behind (d : Dialect) (k : Nat) (layout : Layout) :
    layout.fragments (d.behind k) = layout.fragments d := by
  induction layout with
  | nil => rfl
  | cons piece rest ih =>
    cases piece with
    | literal c => cases c <;> simp only [fragments, ih] <;> rfl
    | _ => simp only [fragments, ih] <;> rfl

/-- The number that a fresh scope gives to a value of a node. -/
def Node.numberOf (d : Dialect) (n : Node) (v : Value) : Nat :=
  (n.values d).eraseDups.idxOf v + 1

/-- The parameter with the number that is `k` higher, and the placeholder for that. -/
def Parameter.renumbered (d : Dialect) (k : Nat) (p : Parameter) : Parameter :=
  ⟨d.parameterName (p.ordinal + k), p.ordinal + k, p.value⟩

theorem Node.writes_behind {n : Node} (whole : ¬(n.layout d).Fails) (k : Nat) :
    n.Writes d (n.numberOf d · + k) (((n.layout d).rendering (d.behind k) []).behind k) := by
  have bound := bound_layout whole
  refine ⟨?_, ?_, ?_⟩
  · rw [length_fragments, bound]
  · rw [Rendered.behind, rendering, textOn_eq_weave, fragments_behind, bound,
      enrollAll_nil_eq_eraseDups]
    rfl
  · rw [Rendered.behind, rendering, bound, enrollAll_nil_eq_eraseDups]
    exact List.map_map

/-- A node is written alone, and later behind `k` other values. Each occurrence of a value stands
between the same texts, with a number that is `k` higher, and so does each entry of the table. -/
structure Node.Shifted (d : Dialect) (k : Nat) (n : Node) (alone later : Rendered) : Prop where
  first : n.Writes d (n.numberOf d) alone
  second : n.Writes d (n.numberOf d · + k) later
  statements : later.statements = alone.statements
  parameters : later.parameters.entries =
    alone.parameters.entries.map (Parameter.renumbered d k)

theorem Node.shifted_rendering {n : Node} (whole : ¬(n.layout d).Fails) (k : Nat) :
    n.Shifted d k ((n.layout d).rendering d [])
      (((n.layout d).rendering (d.behind k) []).behind k) := by
  have alone : n.Writes d (n.numberOf d) ((n.layout d).rendering d []) := by
    have written := n.writes_rendering whole [] []
    rw [enrollAll_nil, enrollAll_nil_eq_eraseDups] at written
    exact written
  have later := n.writes_behind whole k
  refine ⟨alone, later, rfl, ?_⟩
  rw [later.parameters, alone.parameters, List.map_map]
  rfl

theorem Layout.renderIn_of_failure {layout : Layout} {e : Error} (first : layout.failure? = some e)
    (d : Dialect) (scope : Scope) : (layout.renderIn d scope).1 = .error e := by
  have failed : (({ dialect := d, scope } : Context).emit layout).2 = .error e := by
    rw [Context.outcome_emit, outcome, first]
  rw [renderIn, show ({ dialect := d, scope } : Context).emit layout = (_, .error e) from
    Prod.ext rfl failed]

/-- A pass over a node whose values a scope does not know comes out as in a fresh scope, with the
numbers of all parameters higher by those that the scope has issued. -/
theorem numbers_shift (d : Dialect) (n : Node) (scope : Scope)
    (fresh : ∀ v ∈ n.values d, scope.find? v = none) :
    match ((n.layout d).renderIn d {}).1, ((n.layout d).renderIn d scope).1 with
    | .ok alone, .ok later => n.Shifted d scope.issued alone later
    | .error e, .error e' => e' = e
    | _, _ => False := by
  cases first : (n.layout d).failure? with
  | some e =>
    rw [renderIn_of_failure first, renderIn_of_failure first]
  | none =>
    have whole := failure?_eq_none.mp first
    have unknown : ∀ v ∈ (n.layout d).bound, scope.find? v = none := by
      rwa [n.bound_layout whole]
    have alone : ((n.layout d).renderIn d {}).1 = .ok ((n.layout d).rendering d []) := by
      rw [show ({} : Scope) = .numbering d [] from rfl, renderIn_numbering, first]
    rw [alone, renderIn_behind unknown, render_eq, first]
    exact n.shifted_rendering whole scope.issued

/-- A page that uses one value as a sort key and in its filter comes behind a pass that fails and
one that succeeds. -/
theorem numbers_shift_page :
    let d := Dialect.custom { paging := .rowNumber }
    let other (groups : List Expr) : Node :=
      .query { items := [⟨.value ⟨9, .null⟩, none⟩, ⟨.value ⟨8, .int 8⟩, none⟩], groupBy := groups }
    let page : Node := .query
      { items := [⟨.value ⟨0, .int 5⟩, none⟩]
        filter := some (.compare (.value ⟨1, .int 6⟩) .eq (.value ⟨2, .int 5⟩))
        sortKeys := [⟨.value ⟨1, .int 6⟩, none⟩]
        limit := some 1 }
    let scope := (passes d {} [other [.case [] none], other []]).2
    scope.issued = 2 ∧ (∀ v ∈ page.values d, scope.find? v = none) ∧
      match ((page.layout d).renderIn d {}).1, ((page.layout d).renderIn d scope).1 with
      | .ok alone, .ok later => page.Shifted d scope.issued alone later
      | .error e, .error e' => e' = e
      | _, _ => False := by
  intro d other page scope
  have whole : ¬(page.layout d).Fails := failure?_eq_none.mp (by decide +kernel)
  have fresh : ∀ v ∈ page.values d, scope.find? v = none := by
    rw [← page.bound_layout whole]
    decide +kernel
  exact ⟨by decide +kernel, fresh, numbers_shift d page scope fresh⟩

end SqlBatch
