import Mathlib.Data.List.Perm.Basic
import SqlBatch.Proofs.Tree.Success

/-!
# Occurrences of values

Each occurrence of a value in a tree writes one placeholder, whose number is the value's place among
all values in the order of their first occurrence: `one_number_per_value`. The way a dialect pages
changes the order of the occurrences only: `Node.values_perm`.
-/
namespace SqlBatch

open Layout

variable {d : Dialect}

/-! ### Values of a tree -/

namespace Node

/-- The values that stand in a tree, one for each occurrence, in the order of the text. What a
dialect binds around a transaction counts as an occurrence, too. -/
def values (d : Dialect) (n : Node) : List Value :=
  (n.ownMarks d).bound ++ (n.children d).attach.flatMap fun ⟨c, _⟩ => c.values d
termination_by sizeOf n
decreasing_by exact sizeOf_children ‹_›

theorem values_eq (d : Dialect) (n : Node) :
    n.values d = (n.ownMarks d).bound ++ (n.children d).flatMap (values d) := by
  rw [values]
  simp

theorem children_perm (d d' : Dialect) (n : Node) : (n.children d).Perm (n.children d') := by
  cases n with
  | query q =>
    have keys : ∀ d : Dialect, (q.children d).Perm
        (q.items.map (.element ∘ .item) ++ (q.keyNodes ++ q.clauseNodes)) := by
      intro d
      refine List.Perm.append_left _ ?_
      split
      · exact .refl _
      · exact List.perm_append_comm
    exact (keys d).trans (keys d').symm
  | _ => exact .refl _

/-- Dialects differ in the order of the values only, where they bind nothing of their own. -/
theorem values_perm {d d' : Dialect}
    (plain : ∀ n : Node, (n.ownMarks d).bound = (n.ownMarks d').bound) (n : Node) :
    (n.values d).Perm (n.values d') := by
  induction n using fromChildren d with
  | step n ih =>
    rw [values_eq, values_eq, plain]
    refine List.Perm.append_left _ ?_
    exact (List.Perm.flatMap_left _ ih).trans ((children_perm d d' n).flatMap_right _)

theorem bound_layout {n : Node} (whole : ¬(n.layout d).Fails) :
    (n.layout d).bound = n.values d := by
  induction n using fromChildren d with
  | step n ih =>
    have sound : ¬n.Flawed d fun options => (d.beginTransaction options).Fails := fun flawed =>
      whole (flawed.fails fun _ fails => fails)
    have marks := marks_layout sound
    have inside : ∀ c ∈ n.children d, (c.layout d).marks.bound = c.values d := by
      intro c member
      rw [bound_marks]
      refine ih c member fun ⟨e, failing⟩ => whole ⟨e, mem_marks_failure.mp ?_⟩
      rw [marks, List.mem_append]
      exact .inr (List.mem_flatMap.mpr ⟨c, member, mem_marks_failure.mpr failing⟩)
    rw [← bound_marks, marks, bound_append, values_eq]
    congr 1
    rw [marksOf, bound, List.filterMap_flatMap]
    exact List.flatMap_congr inside

end Node

/-! ### Placeholders in a text -/

/-- Texts with names between them, one name behind each text but the last. -/
def weave : (texts names : List String) → String
  | text :: texts, name :: names => text ++ name ++ weave texts names
  | texts, _ => String.join texts

namespace Layout

def fragments (d : Dialect) : Layout → List String
  | [] => [""]
  | .placeholder _ :: rest => "" :: fragments d rest
  | piece :: rest =>
    match fragments d rest with
    | text :: others => (piece.textOn d [] ++ text) :: others
    | [] => [piece.textOn d []]

theorem length_fragments (layout : Layout) :
    (layout.fragments d).length = layout.bound.length + 1 := by
  induction layout with
  | nil => rfl
  | cons piece rest ih =>
    cases piece with
    | placeholder v => simp [fragments, bound_cons, Piece.value?, ih]
    | _ =>
      simp only [fragments, bound_cons, Piece.value?]
      split <;> simp_all

theorem textOn_eq_weave (roll : List Value) (layout : Layout) :
    layout.textOn d roll =
      weave (layout.fragments d) (layout.bound.map fun v => (parameterOn d roll v).name) := by
  have front : ∀ (s text : String) (others names : List String),
      s ++ weave (text :: others) names = weave ((s ++ text) :: others) names := by
    intro s text others names
    cases names with
    | nil => simp only [weave, String.join_cons, String.append_assoc]
    | cons name names => simp only [weave, String.append_assoc]
  induction layout with
  | nil => rfl
  | cons piece rest ih =>
    obtain ⟨text, others, split⟩ : ∃ text others, fragments d rest = text :: others :=
      List.exists_cons_of_length_eq_add_one (length_fragments rest)
    rw [textOn, ih, bound_cons]
    cases piece with
    | placeholder v => simp [fragments, weave, Piece.value?, Piece.textOn]
    | _ =>
      simp only [fragments, split]
      exact front ..

end Layout

/-! ### Passes over one scope -/

/-- Renders nodes one after another, each with the numbers that the passes before it left. -/
def passes (d : Dialect) : Scope → List Node → List (Except Error Rendered) × Scope
  | scope, [] => ([], scope)
  | scope, n :: rest =>
    let (result, after) := (n.layout d).renderIn d scope
    let (results, last) := passes d after rest
    (result :: results, last)

/-- The values of the nodes whose passes succeeded, one for each occurrence. -/
def occurrences (d : Dialect) : List Node → List (Except Error Rendered) → List Value
  | n :: nodes, .ok _ :: results => n.values d ++ occurrences d nodes results
  | _ :: nodes, .error _ :: results => occurrences d nodes results
  | _, _ => []

/-- What a pass over a node writes where values have the given numbers: one placeholder for each
occurrence, in order, and each value once in the table, in the order of first use. -/
structure Node.Writes (d : Dialect) (number : Value → Nat) (n : Node) (r : Rendered) : Prop where
  placeholders : ((n.layout d).fragments d).length = (n.values d).length + 1
  sql : r.sql = weave ((n.layout d).fragments d) ((n.values d).map (d.parameterName ∘ number))
  parameters : r.parameters.entries =
    (n.values d).eraseDups.map fun v => ⟨d.parameterName (number v), number v, v.content⟩

structure Numbered (d : Dialect) (nodes : List Node) (results : List (Except Error Rendered))
    (scope : Scope) (roll : List Value) : Prop where
  order : roll = (occurrences d nodes results).eraseDups
  issued : scope.issued = roll.length
  retained : scope.retained = roll
  names : ∀ v ∈ occurrences d nodes results, ∀ w ∈ occurrences d nodes results,
    d.parameterName (roll.idxOf v + 1) = d.parameterName (roll.idxOf w + 1) ↔ v = w
  passes : List.Forall₂ (fun n result => ∀ r, result = .ok r → n.Writes d (roll.idxOf · + 1) r)
    nodes results

theorem Node.writes_rendering {n : Node} (whole : ¬(n.layout d).Fails) (roll later : List Value) :
    n.Writes d ((enrollAll (enrollAll roll (n.values d)) later).idxOf · + 1)
      ((n.layout d).rendering d roll) := by
  have bound := bound_layout whole
  have known := values_subset_enrollAll roll (n.values d)
  have names : ∀ v ∈ n.values d, parameterOn d (enrollAll roll (n.values d)) v =
      parameterOn d (enrollAll (enrollAll roll (n.values d)) later) v :=
    fun v member => (parameterOn_enrollAll (known member) later).symm
  refine ⟨?_, ?_, ?_⟩
  · rw [length_fragments, bound]
  · rw [rendering, textOn_eq_weave, bound]
    refine congrArg _ (List.map_congr_left fun v member => ?_)
    rw [names v member]
    rfl
  · rw [rendering, tableOn, bound, enrollAll_nil_eq_eraseDups]
    refine List.map_congr_left fun v member => names v ?_
    rwa [← enrollAll_nil_eq_eraseDups, mem_enrollAll, or_iff_right List.not_mem_nil] at member

theorem pass_numbering (n : Node) (roll : List Value) :
    (∃ e, (n.layout d).renderIn d (.numbering d roll) = (.error e, .numbering d roll)) ∨
      ¬(n.layout d).Fails ∧ (n.layout d).renderIn d (.numbering d roll) =
        (.ok ((n.layout d).rendering d roll), .numbering d (enrollAll roll (n.values d))) := by
  rw [renderIn_numbering]
  cases first : (n.layout d).failure? with
  | some e => exact .inl ⟨e, rfl⟩
  | none =>
    have whole := failure?_eq_none.mp first
    exact .inr ⟨whole, by rw [← Node.bound_layout whole]⟩

/-- By induction over the passes: a pass that fails leaves the roll as it is, and one that succeeds
enrolls its values. -/
theorem passes_numbering (roll : List Value) (nodes : List Node) :
    let (results, scope) := passes d (.numbering d roll) nodes
    let final := enrollAll roll (occurrences d nodes results)
    scope = .numbering d final ∧
      List.Forall₂ (fun n result => ∀ r, result = .ok r → n.Writes d (final.idxOf · + 1) r)
        nodes results := by
  induction nodes generalizing roll with
  | nil => exact ⟨rfl, .nil⟩
  | cons n rest ih =>
    rcases pass_numbering (d := d) n roll with ⟨e, fails⟩ | ⟨whole, renders⟩
    · obtain ⟨scope, writes⟩ := ih roll
      simp only [passes, fails]
      exact ⟨scope, .cons (fun r wrong => by cases wrong) writes⟩
    · obtain ⟨scope, writes⟩ := ih (enrollAll roll (n.values d))
      simp only [passes, renders, occurrences, enrollAll_append]
      refine ⟨scope, .cons (fun r same => ?_) writes⟩
      obtain rfl := Except.ok.inj same
      exact n.writes_rendering whole roll _

/-- Whatever the passes over one scope and however many of them fail, the values are numbered in the
order of their first occurrence. -/
theorem one_number_per_value (names : Function.Injective d.parameterName) (nodes : List Node) :
    let (results, scope) := passes d {} nodes
    Numbered d nodes results scope (occurrences d nodes results).eraseDups := by
  obtain ⟨scope, writes⟩ := passes_numbering (d := d) [] nodes
  rw [enrollAll_nil_eq_eraseDups] at scope writes
  refine ⟨rfl, congrArg Scope.issued scope, congrArg Scope.retained scope, ?_, writes⟩
  intro v occurs w _
  constructor
  · intro same
    refine idxOf_inj ?_ (Nat.succ.inj (names same))
    rw [← enrollAll_nil_eq_eraseDups]
    exact values_subset_enrollAll [] _ occurs
  · rintro rfl
    rfl

/-- Between two pages that share a value stands a pass that fails behind a value of its own. The
sort key of a page comes in front of its filter. -/
theorem one_number_per_value_pages :
    let d := Dialect.custom { paging := .rowNumber }
    let five : Value := ⟨0, .int 5⟩
    let six : Value := ⟨1, .int 6⟩
    let page (key : Value) : Node := .query
      { items := [⟨.value five, none⟩]
        filter := some (.compare (.value five) .eq (.value six))
        sortKeys := [⟨.value key, none⟩]
        limit := some 1 }
    let failing : Node := .query
      { items := [⟨.value ⟨2, .null⟩, none⟩], groupBy := [.case [] none] }
    let nodes := [page five, failing, page six]
    let (results, scope) := passes d {} nodes
    Function.Injective d.parameterName ∧ scope.issued = 2 ∧
      Numbered d nodes results scope (occurrences d nodes results).eraseDups :=
  ⟨injective_stem "@P", by decide +kernel, one_number_per_value (injective_stem "@P") _⟩

end SqlBatch
