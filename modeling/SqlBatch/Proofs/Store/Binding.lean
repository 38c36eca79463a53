import Mathlib.Data.List.Nodup
import SqlBatch.Proofs.Render.Numbering
import SqlBatch.Store.Sqlite

/-!
# Arguments by ordinal

A request binds the positions up to its largest ordinal: a parameter's value stands at its ordinal
and null where there is no parameter. A statement that names some of the positions gets the values
of those, whatever the others take.
-/
namespace SqlBatch.Sqlite

/-! ### Spans -/

theorem span_cons (n : Nat) (rest : List Nat) : span (n :: rest) = max n (span rest) := by
  have start : max 0 n = max n 0 := Nat.max_comm 0 n
  rw [span, List.foldl_cons, start, List.foldl_assoc, span]

theorem le_span {ordinals : List Nat} {n : Nat} (member : n ∈ ordinals) : n ≤ span ordinals := by
  induction ordinals with
  | nil => cases member
  | cons first rest ih =>
    rw [span_cons]
    rcases List.mem_cons.mp member with rfl | later
    · exact Nat.le_max_left _ _
    · exact Nat.le_trans (ih later) (Nat.le_max_right _ _)

theorem span_mem {ordinals : List Nat} (filled : span ordinals ≠ 0) : span ordinals ∈ ordinals := by
  induction ordinals with
  | nil => exact absurd rfl filled
  | cons first rest ih =>
    rw [span_cons] at filled ⊢
    rcases Nat.le_total first (span rest) with later | here
    · rw [Nat.max_eq_right later] at filled ⊢
      exact List.mem_cons_of_mem _ (ih filled)
    · rw [Nat.max_eq_left here]
      exact List.mem_cons_self

theorem span_le {ordinals : List Nat} {bound : Nat} (all : ∀ n ∈ ordinals, n ≤ bound) :
    span ordinals ≤ bound := by
  by_cases filled : span ordinals = 0
  · omega
  · exact all _ (span_mem filled)

/-! ### Arguments -/

/-- Each position holds the value of the parameter with that ordinal, counted from 1, or else null;
there is a parameter for the last one. -/
structure Binds (table : Parameters) (bound : List SqlValue) : Prop where
  value : ∀ p ∈ table.entries, bound[p.ordinal - 1]? = some p.value
  gap : ∀ position < bound.length, (∀ p ∈ table.entries, p.ordinal ≠ position + 1) →
    bound[position]? = some .null
  last : bound ≠ [] → ∃ p ∈ table.entries, p.ordinal = bound.length

variable {table : Parameters}

theorem length_arguments (table : Parameters) :
    (arguments table).length = span (table.entries.map (·.ordinal)) := by
  simp [arguments]

/-- A search for an ordinal that only one parameter has. -/
theorem find?_ordinal (distinct : (table.entries.map (·.ordinal)).Nodup) {p : Parameter}
    (member : p ∈ table.entries) :
    table.entries.reverse.find? (·.ordinal = p.ordinal) = some p := by
  have reversed : (table.entries.reverse.map (·.ordinal)).Nodup := by
    rw [List.map_reverse]
    exact List.nodup_reverse.mpr distinct
  exact find?_key _ reversed (List.mem_reverse.mpr member)

theorem binds_arguments (distinct : (table.entries.map (·.ordinal)).Nodup)
    (positive : ∀ p ∈ table.entries, 1 ≤ p.ordinal) : Binds table (arguments table) := by
  constructor
  · intro p member
    have counted : p.ordinal - 1 + 1 = p.ordinal := Nat.sub_add_cancel (positive p member)
    have inside : p.ordinal - 1 < span (table.entries.map (·.ordinal)) := by
      have most := le_span (List.mem_map_of_mem (f := (·.ordinal)) member)
      omega
    simp [arguments, inside, counted, find?_ordinal distinct member]
  · intro position inside absent
    have none : table.entries.reverse.find? (·.ordinal = position + 1) = none := by
      rw [List.find?_eq_none]
      intro p member same
      exact absent p (List.mem_reverse.mp member) (of_decide_eq_true same)
    rw [length_arguments] at inside
    simp [arguments, inside, none]
  · intro filled
    have positions : span (table.entries.map (·.ordinal)) ≠ 0 := by
      rwa [← length_arguments, Ne, List.length_eq_zero_iff]
    obtain ⟨p, member, same⟩ := List.mem_map.mp (span_mem positions)
    exact ⟨p, member, same.trans (length_arguments table).symm⟩

/-! ### Positions of a statement -/

/-- A position that is not named takes an argument of an earlier position or its own. -/
theorem bindPositions_cons {arguments : List SqlValue} {taken position : Nat} (named : List Nat)
    (behind : taken ≤ position) (inside : position < arguments.length) (rest : List Nat) :
    ∃ value further, further ≤ position + 1 ∧
      (position + 1 ∈ named → arguments[position]? = some value) ∧
      (bindPositions arguments named taken ((position + 1) :: rest)).1 =
        value :: (bindPositions arguments named further rest).1 := by
  by_cases member : position + 1 ∈ named
  · have value := List.getElem?_eq_getElem inside
    refine ⟨arguments[position], taken, by omega, fun _ => value, ?_⟩
    simp [bindPositions, member, value]
  · have value : arguments[taken]? = some arguments[taken] := List.getElem?_eq_getElem (by omega)
    refine ⟨arguments[taken], taken + 1, by omega, fun named => absurd named member, ?_⟩
    simp [bindPositions, member, value]

/-- By induction over the positions: those before a position have taken no more arguments than
there are of them. -/
theorem bindPositions_range' (arguments : List SqlValue) (named : List Nat)
    {count start taken : Nat} (behind : taken ≤ start) (enough : start + count ≤ arguments.length)
    {place : Nat} (inside : place < count) (member : start + place + 1 ∈ named) :
    (bindPositions arguments named taken ((List.range' start count).map (· + 1))).1[place]? =
      arguments[start + place]? := by
  induction count generalizing start taken place with
  | zero => exact absurd inside (Nat.not_lt_zero place)
  | succ count ih =>
    have next : start < arguments.length := by omega
    obtain ⟨value, further, few, here, bound⟩ :=
      bindPositions_cons named behind next ((List.range' (start + 1) count).map (· + 1))
    rw [List.range'_succ, List.map_cons, bound]
    cases place with
    | zero =>
      rw [List.getElem?_cons_zero, Nat.add_zero]
      exact (here member).symm
    | succ place =>
      have shifted : start + (place + 1) = start + 1 + place := by omega
      rw [shifted] at member ⊢
      rw [List.getElem?_cons_succ]
      exact ih few (by omega) (Nat.lt_of_succ_lt_succ inside) member

/-- The positions that a statement names get their arguments. -/
theorem bindPositions_named {arguments : List SqlValue} {named : List Nat}
    (enough : ∀ n ∈ named, n ≤ arguments.length) {n : Nat} (positive : 1 ≤ n) (member : n ∈ named) :
    (bindPositions arguments named 0 ((List.range (span named)).map (· + 1))).1[n - 1]? =
      arguments[n - 1]? := by
  have inside : n - 1 < span named := by
    have most := le_span member
    omega
  have counted : 0 + (n - 1) + 1 = n := by omega
  have fits : 0 + span named ≤ arguments.length := by
    rw [Nat.zero_add]
    exact span_le enough
  have bound := bindPositions_range' arguments named (Nat.le_refl 0) fits inside (by rwa [counted])
  rwa [Nat.zero_add, ← List.range_eq_range'] at bound

end SqlBatch.Sqlite
