import SqlBatch.Proofs.Render.Tables

/-!
# Appended outputs

A combined text takes an output in as a whole or not at all. `Combined.Unites` is what it holds once
it has taken some outputs in, and `offered_in_turn` says so of any outputs that are offered to it
one after another, whichever of them it refuses.
-/
namespace SqlBatch

/-- What the outputs bind, in the order of the outputs. -/
def parametersOf (outputs : List Rendered) : List Parameter :=
  outputs.flatMap (·.parameters.entries)

theorem parametersOf_append (outputs more : List Rendered) :
    parametersOf (outputs ++ more) = parametersOf outputs ++ parametersOf more :=
  List.flatMap_append

theorem parametersOf_concat (outputs : List Rendered) (r : Rendered) :
    parametersOf (outputs ++ [r]) = parametersOf outputs ++ r.parameters.entries := by
  simp [parametersOf]

namespace Combined

open Parameters

variable {c after : Combined} {outputs more : List Rendered} {r : Rendered}

/-- An output is taken in just when its table can be merged. -/
theorem append_eq_ok :
    c.append r = .ok after ↔
      absorb c.parameters.entries r.parameters.entries = (after.parameters.entries, .ok ()) ∧
        after.sql = (if c.sql.isEmpty then c.sql else c.sql ++ "\n") ++ r.sql ∧
        after.statements = c.statements + r.statements ∧ after.parts = c.parts + 1 := by
  rcases after with ⟨sql, ⟨entries⟩, statements, parts⟩
  unfold append merge
  rcases absorb c.parameters.entries r.parameters.entries with ⟨merged, e | ⟨⟩⟩
  · simp
  · simp only [Except.ok.injEq, Combined.mk.injEq, Parameters.mk.injEq, Prod.mk.injEq, and_true]
    tauto

theorem append_eq_error {e : Error} :
    c.append r = .error e ↔ (absorb c.parameters.entries r.parameters.entries).2 = .error e := by
  unfold append merge
  rcases absorb c.parameters.entries r.parameters.entries with ⟨merged, f | ⟨⟩⟩ <;> simp

/-- A combined text that has taken some outputs in. -/
structure Unites (c : Combined) (outputs : List Rendered) : Prop where
  merged : absorb [] (parametersOf outputs) = (c.parameters.entries, .ok ())
  sql : c.sql = joinLines (outputs.map (·.sql))
  statements : c.statements = (outputs.map (·.statements)).sum
  parts : c.parts = outputs.length

theorem unites_empty : Unites {} [] := ⟨rfl, rfl, rfl, rfl⟩

namespace Unites

theorem append (unites : c.Unites outputs) (taken : c.append r = .ok after) :
    after.Unites (outputs ++ [r]) := by
  obtain ⟨merged, sql, statements, parts⟩ := append_eq_ok.mp taken
  refine ⟨?_, ?_, ?_, ?_⟩
  · rw [parametersOf_concat, absorb_append, unites.merged]
    exact merged
  · rw [List.map_append, List.map_singleton, joinLines_concat, ← unites.sql, sql]
  · simp [statements, unites.statements]
  · simp [parts, unites.parts]

theorem nodup_names (unites : c.Unites outputs) : c.parameters.names.Nodup := by
  have distinct := nodup_absorb nodup_names_nil (parametersOf outputs)
  rwa [unites.merged] at distinct

/-- The table grows at its end, by what has a new name. -/
theorem extended (unites : c.Unites outputs) (longer : after.Unites (outputs ++ more)) :
    (c.parameters.entries ++ parametersOf more).Pairwise Parameter.Compatible ∧
      after.parameters.entries = enlistAll c.parameters.entries (parametersOf more) := by
  have grown := longer.merged
  rw [parametersOf_append, absorb_append, unites.merged] at grown
  rcases contested_or_pairwise unites.nodup_names (parametersOf more) with
    ⟨compatible, listed⟩ | ⟨name, -, fails⟩
  · exact ⟨compatible, congrArg Prod.fst (grown.symm.trans listed)⟩
  · simp only [grown] at fails
    cases fails

theorem consistent (unites : c.Unites outputs) :
    (parametersOf outputs).Pairwise Parameter.Compatible ∧
      c.parameters.entries = enlistAll [] (parametersOf outputs) := unites_empty.extended unites

theorem prefix_entries (unites : c.Unites outputs) (longer : after.Unites (outputs ++ more)) :
    c.parameters.entries <+: after.parameters.entries := by
  rw [(unites.extended longer).2]
  exact prefix_enlistAll _ _

/-- Whatever an output binds is bound to an equal value. -/
theorem binding (unites : c.Unites outputs) (taken : r ∈ outputs) {p : Parameter}
    (bound : p ∈ r.parameters.entries) (clean : p.value.isNaN = false) :
    ∃ x, c.parameters.get? p.name = some x ∧ x.agrees p.value := by
  obtain ⟨compatible, listed⟩ := unites.consistent
  have member : p ∈ parametersOf outputs := List.mem_flatMap.mpr ⟨r, taken, bound⟩
  obtain ⟨q, here, found, named⟩ := exists_first (List.mem_map_of_mem member)
  rw [get?, listed, find?_enlistAll, List.nil_append, found]
  exact ⟨q.value, rfl, agrees_of_pairwise compatible here member named clean⟩

end Unites

/-! ### Sequences of offers -/

def offerAll (c : Combined) (outputs : List Rendered) : Combined :=
  outputs.foldl (fun c r => (c.offer r).1) c

/-- The outputs that are taken in when some are offered in turn. -/
def taken (c : Combined) : List Rendered → List Rendered
  | [] => []
  | r :: rest =>
    match c.offer r with
    | (after, .ok ()) => r :: after.taken rest
    | (after, .error _) => after.taken rest

theorem taken_append (c : Combined) (outputs more : List Rendered) :
    c.taken (outputs ++ more) = c.taken outputs ++ (c.offerAll outputs).taken more := by
  induction outputs generalizing c with
  | nil => rfl
  | cons r rest ih =>
    simp only [List.cons_append, taken, offerAll, List.foldl_cons]
    rcases c.offer r with ⟨after, e | ⟨⟩⟩
    · exact ih after
    · exact congrArg (r :: ·) (ih after)

theorem taken_subset (c : Combined) (outputs : List Rendered) : c.taken outputs ⊆ outputs := by
  induction outputs generalizing c with
  | nil => exact List.Subset.refl _
  | cons r rest ih =>
    rw [taken]
    rcases c.offer r with ⟨after, e | ⟨⟩⟩
    · exact List.subset_cons_of_subset r (ih after)
    · exact List.cons_subset_cons r (ih after)

/-- An offer is taken, or it is refused and leaves no trace. -/
theorem offer_cases (c : Combined) (r : Rendered) :
    (∃ after, c.append r = .ok after ∧ c.offer r = (after, .ok ())) ∨
      ∃ e, c.append r = .error e ∧ c.offer r = (c, .error e) := by
  unfold offer
  cases c.append r with
  | ok after => exact .inl ⟨after, rfl, rfl⟩
  | error e => exact .inr ⟨e, rfl, rfl⟩

theorem Unites.offerAll (unites : c.Unites outputs) (more : List Rendered) :
    (c.offerAll more).Unites (outputs ++ c.taken more) := by
  induction more generalizing c outputs with
  | nil => simpa [Combined.offerAll, taken] using unites
  | cons r rest ih =>
    rw [Combined.offerAll, List.foldl_cons, taken, ← Combined.offerAll]
    rcases c.offer_cases r with ⟨after, appended, offered⟩ | ⟨e, -, offered⟩
    · rw [offered]
      simpa using ih (unites.append appended)
    · rw [offered]
      exact ih unites

theorem unites_offerAll (outputs : List Rendered) :
    (offerAll {} outputs).Unites (taken {} outputs) := unites_empty.offerAll outputs

/-- An offer is refused just when it binds a name that is bound already, by the combined text or
further up in the offer itself, to an unequal value. -/
theorem Unites.offer_refused (unites : c.Unites outputs) (r : Rendered) :
    ((∀ name, ¬Contested c.parameters.entries r.parameters.entries name) ∧
        ∃ after, c.offer r = (after, .ok ()) ∧ after.Unites (outputs ++ [r])) ∨
      ∃ name, Contested c.parameters.entries r.parameters.entries name ∧
        c.offer r = (c, .error (.parameterCollision name)) := by
  rcases contested_or_pairwise unites.nodup_names r.parameters.entries with
    ⟨compatible, merged⟩ | ⟨name, contested, fails⟩
  · rcases c.offer_cases r with ⟨after, appended, offered⟩ | ⟨e, refused, -⟩
    · exact .inl ⟨fun name contested => contested.not_pairwise compatible, after, offered,
        unites.append appended⟩
    · rw [append_eq_error, merged] at refused
      cases refused
  · refine .inr ⟨name, contested, ?_⟩
    rw [offer, append_eq_error.mpr fails]

/-- What a combined text keeps of the outputs that it took in. -/
structure Keeps (c : Combined) (outputs : List Rendered) : Prop where
  names : c.parameters.names.Nodup
  bindings : ∀ r ∈ outputs, ∀ p ∈ r.parameters.entries,
    ∃ x, c.parameters.get? p.name = some x ∧ x.agrees p.value
  statements : c.statements = (outputs.map (·.statements)).sum
  parts : c.parts = outputs.length

/-- Any outputs may be offered in turn, from whatever passes. Behind them the combined text keeps
those that it took, its table extends all tables that it had on the way, and the next offer is
refused just when it binds a name that is bound already to an unequal value; then nothing changes.
-/
theorem offered_in_turn {outputs : List Rendered}
    (clean : ∀ r ∈ outputs, ∀ p ∈ r.parameters.entries, p.value.isNaN = false) (next : Rendered) :
    let c := offerAll {} outputs
    let (after, outcome) := c.offer next
    c.Keeps (taken {} outputs) ∧
      (∀ before, before <+: outputs →
        (offerAll {} before).parameters.entries <+: c.parameters.entries) ∧
      ((∃ e, outcome = .error e) ↔
        ∃ name, Contested c.parameters.entries next.parameters.entries name) ∧
      ∀ e, outcome = .error e → after = c ∧
        ∃ name, Contested c.parameters.entries next.parameters.entries name ∧
          e = .parameterCollision name := by
  intro c
  have unites := unites_offerAll outputs
  have keeps : c.Keeps (taken {} outputs) :=
    ⟨unites.nodup_names, fun r inside p bound => unites.binding inside bound
      (clean r (taken_subset {} outputs inside) p bound), unites.statements, unites.parts⟩
  have grows : ∀ before, before <+: outputs →
      (offerAll {} before).parameters.entries <+: c.parameters.entries := by
    rintro before ⟨more, rfl⟩
    have longer := unites
    rw [taken_append] at longer
    exact (unites_offerAll before).prefix_entries longer
  rcases unites.offer_refused next with ⟨free, after, offered, -⟩ | ⟨name, contested, offered⟩
  · rw [offered]
    refine ⟨keeps, grows, ⟨?_, ?_⟩, ?_⟩
    · rintro ⟨e, wrong⟩
      cases wrong
    · rintro ⟨name, contested⟩
      exact absurd contested (free name)
    · intro e wrong
      cases wrong
  · rw [offered]
    refine ⟨keeps, grows, ⟨fun _ => ⟨name, contested⟩, fun _ => ⟨_, rfl⟩⟩, ?_⟩
    rintro e same
    cases same
    exact ⟨rfl, name, contested, rfl⟩

/-- The second offer is refused behind a parameter that was merged by then. The third one shares a
zero of the other sign, and the next one binds a number of the third to something else. -/
theorem offered_in_turn_apart :
    let output (sql : String) (values : List (Nat × SqlValue)) : Rendered :=
      ⟨sql, ⟨values.map fun (n, x) => ⟨"@P" ++ toString n, n, x⟩⟩, 1⟩
    let outputs := [output "SELECT @P1;" [(1, .float ⟨0⟩)],
      output "SELECT @P2, @P1;" [(2, .int 1), (1, .int 2)],
      output "SELECT @P1, @P2;" [(1, .float ⟨0x8000000000000000⟩), (2, .int 3)]]
    let next := output "SELECT @P2;" [(2, .int 4)]
    let c := offerAll {} outputs
    (∀ r ∈ outputs, ∀ p ∈ r.parameters.entries, p.value.isNaN = false) ∧
      c.sql = "SELECT @P1;\nSELECT @P1, @P2;" ∧ c.parameters.values = [.float ⟨0⟩, .int 3] ∧
      c.Keeps (taken {} outputs) ∧
      ∃ name, Contested c.parameters.entries next.parameters.entries name := by
  intro output outputs next c
  have clean : ∀ r ∈ outputs, ∀ p ∈ r.parameters.entries, p.value.isNaN = false := by
    decide +kernel
  obtain ⟨keeps, -, refused, -⟩ := offered_in_turn clean next
  have collides : (c.offer next).2 = .error (.parameterCollision "@P2") := by decide +kernel
  exact ⟨clean, by decide +kernel, by decide +kernel, keeps, refused.mp ⟨_, collides⟩⟩

end Combined
end SqlBatch
