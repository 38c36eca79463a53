import SqlBatch.Command
import SqlBatch.Proofs.Render.Appending
import SqlBatch.Proofs.Tree.Occurrences

/-!
# Combined trees

Trees that are rendered one after another, with the numbers of one scope, and combined afterwards.
`parameters_kept` says what becomes of their parameters, and `combined_lines` when their text is
that of a single pass over all of them.
-/
namespace SqlBatch

open Layout

variable {d : Dialect}

/-! ### Parameters -/

theorem values_subset_occurrences {nodes : List Node} {results : List (Except Error Rendered)}
    {n : Node} {r : Rendered} (pass : (n, Except.ok r) ∈ nodes.zip results) :
    n.values d ⊆ occurrences d nodes results := by
  induction nodes generalizing results with
  | nil => cases pass
  | cons m rest ih =>
    cases results with
    | nil => cases pass
    | cons result others =>
      rcases List.mem_cons.mp pass with same | later
      · cases same
        exact List.subset_append_left _ _
      · cases result with
        | ok first => exact List.Subset.trans (ih later) (List.subset_append_right _ _)
        | error e => exact ih later

theorem mem_parametersOf_passes {nodes : List Node} {shown : List (Node × Rendered)}
    (passed : ∀ x ∈ shown, (x.1, Except.ok x.2) ∈ nodes.zip (passes d {} nodes).1) :
    ∃ roll : List Value, shown.flatMap (·.1.values d) ⊆ roll ∧
      ∀ p, p ∈ parametersOf (shown.map (·.2)) ↔
        ∃ v ∈ shown.flatMap (·.1.values d), parameterOn d roll v = p := by
  obtain ⟨-, writes⟩ := passes_numbering (d := d) [] nodes
  let roll := enrollAll [] (occurrences d nodes (passes d {} nodes).1)
  have tables : ∀ x ∈ shown,
      x.2.parameters.entries = (x.1.values d).eraseDups.map (parameterOn d roll) := fun x member =>
    ((List.forall₂_iff_zip.mp writes).2 (passed x member) x.2 rfl).parameters
  refine ⟨roll, fun v bound => ?_, fun p => ⟨fun bound => ?_, ?_⟩⟩
  · obtain ⟨x, member, occurs⟩ := List.mem_flatMap.mp bound
    exact values_subset_enrollAll [] _ (values_subset_occurrences (passed x member) occurs)
  · obtain ⟨r, output, listed⟩ := List.mem_flatMap.mp bound
    obtain ⟨x, member, rfl⟩ := List.mem_map.mp output
    rw [tables x member] at listed
    obtain ⟨v, occurs, rfl⟩ := List.mem_map.mp listed
    exact ⟨v, List.mem_flatMap.mpr ⟨x, member, List.mem_eraseDups.mp occurs⟩, rfl⟩
  · rintro ⟨v, bound, rfl⟩
    obtain ⟨x, member, occurs⟩ := List.mem_flatMap.mp bound
    refine List.mem_flatMap.mpr ⟨x.2, List.mem_map_of_mem member, ?_⟩
    rw [tables x member]
    exact List.mem_map_of_mem (List.mem_eraseDups.mpr occurs)

namespace Combined

open Parameters

theorem Unites.entries_of_passes {c : Combined} {nodes : List Node}
    {shown : List (Node × Rendered)} (names : Function.Injective d.parameterName)
    (passed : ∀ x ∈ shown, (x.1, Except.ok x.2) ∈ nodes.zip (passes d {} nodes).1)
    (unites : c.Unites (shown.map (·.2))) :
    (∀ x ∈ shown, x.2.parameters.entries ⊆ c.parameters.entries) ∧
      c.parameters.entries.length = (shown.flatMap (·.1.values d)).eraseDups.length := by
  obtain ⟨roll, inside, bound⟩ := mem_parametersOf_passes passed
  let values := shown.flatMap (·.1.values d)
  have told : ∀ v ∈ values, ∀ w ∈ values,
      (parameterOn d roll v).name = (parameterOn d roll w).name → v = w :=
    fun v member w _ same => idxOf_inj (inside member) (Nat.succ.inj (names same))
  have kept : ∀ p, p ∈ c.parameters.entries ↔ p ∈ parametersOf (shown.map (·.2)) := by
    intro p
    rw [unites.consistent.2]
    refine mem_enlistAll_of_names fun q first other second same => ?_
    obtain ⟨v, member, rfl⟩ := (bound q).mp first
    obtain ⟨w, also, rfl⟩ := (bound other).mp second
    rw [told v member w also same]
  refine ⟨fun x member p listed => ?_, ?_⟩
  · exact (kept p).mpr (List.mem_flatMap.mpr ⟨x.2, List.mem_map_of_mem member, listed⟩)
  · have distinct : values.eraseDups.Nodup := by
      rw [← enrollAll_nil_eq_eraseDups]
      exact nodup_enrollAll List.nodup_nil values
    have apart : (values.eraseDups.map (parameterOn d roll)).Nodup := by
      refine (List.nodup_map_iff_inj_on distinct).mpr fun v member w other same => ?_
      exact told v (List.mem_eraseDups.mp member) w (List.mem_eraseDups.mp other)
        (congrArg Parameter.name same)
    have perm : c.parameters.entries.Perm (values.eraseDups.map (parameterOn d roll)) := by
      refine (List.perm_ext_iff_of_nodup (List.Nodup.of_map _ unites.nodup_names) apart).mpr ?_
      intro p
      simp only [kept, bound, List.mem_map, List.mem_eraseDups]
      rfl
    rw [perm.length_eq, List.length_map]

/-- Behind an output each of its parameters is an entry, unless its name was taken. Then the name is
bound to an equal value. -/
theorem Unites.entry_of_append {c after : Combined} {outputs : List Rendered} {r : Rendered}
    (unites : c.Unites outputs) (longer : after.Unites (outputs ++ [r]))
    {front behind : List Parameter} {p : Parameter}
    (split : r.parameters.entries = front ++ p :: behind) :
    if p.name ∈ (c.parameters.entries ++ front).map (·.name) then
      ∃ q ∈ after.parameters.entries, q.name = p.name ∧ q.value.agrees p.value
    else p ∈ after.parameters.entries := by
  have first := find?_enlistAll c.parameters.entries (parametersOf [r]) p.name
  obtain ⟨compatible, listed⟩ := unites.extended longer
  have whole : c.parameters.entries ++ parametersOf [r] =
      (c.parameters.entries ++ front) ++ p :: behind := by
    simp [parametersOf, split]
  rw [whole] at compatible first
  rw [← listed, List.find?_append] at first
  cases found : (c.parameters.entries ++ front).find? (·.name = p.name) with
  | none =>
    rw [if_neg (find?_eq_none_iff_name.mp found)]
    rw [found, Option.none_or, List.find?_cons_of_pos (by simp)] at first
    exact List.mem_of_find?_eq_some first
  | some q =>
    obtain ⟨earlier, named⟩ := of_find?_eq_some found
    rw [if_pos (named ▸ List.mem_map_of_mem earlier)]
    rw [found, Option.some_or] at first
    refine ⟨q, List.mem_of_find?_eq_some first, named, ?_⟩
    exact (List.pairwise_append.mp compatible).2.2 q earlier p List.mem_cons_self named

theorem Unites.entry_of_dialect {c : Combined} {outputs : List Rendered}
    (names : Function.Injective d.parameterName)
    (rendered : ∀ r ∈ outputs, ∃ layout : Layout, ∃ roll after,
      layout.renderIn d (.numbering d roll) = (.ok r, after))
    (unites : c.Unites outputs) {r : Rendered} (member : r ∈ outputs) {p : Parameter}
    (bound : p ∈ r.parameters.entries) :
    ∃ q ∈ c.parameters.entries, q.name = p.name ∧ q.ordinal = p.ordinal ∧
      (q = p ∨ q.value.agrees p.value) := by
  have named : ∀ q ∈ parametersOf outputs, q.name = d.parameterName q.ordinal := by
    intro q listed
    obtain ⟨s, output, inside⟩ := List.mem_flatMap.mp listed
    obtain ⟨layout, roll, after, pass⟩ := rendered s output
    rw [(renderIn_eq_ok pass).2.1] at inside
    obtain ⟨v, -, rfl⟩ := List.mem_map.mp inside
    rfl
  have listed : p ∈ parametersOf outputs := List.mem_flatMap.mpr ⟨r, member, bound⟩
  obtain ⟨compatible, entries⟩ := unites.consistent
  obtain ⟨q, here, found, same⟩ := exists_first (List.mem_map_of_mem listed)
  rw [← List.nil_append (parametersOf outputs), ← find?_enlistAll, ← entries] at found
  refine ⟨q, List.mem_of_find?_eq_some found, same, names ?_, ?_⟩
  · rw [← named q here, ← named p listed, same]
  · by_cases equal : q = p
    · exact .inl equal
    · exact .inr (compatible.forall here listed equal same)

/-- An output that is appended keeps all entries in place and adds what it binds under new names; a
name that was bound stays bound to an equal value. With a dialect that tells numbers apart, entries
keep the ordinals too, and outputs of one scope have all their parameters in the table, one for each
value. -/
theorem parameters_kept (outputs : List Rendered) :
    let c := offerAll {} outputs
    (∀ r after, c.offer r = (after, .ok ()) →
      c.parameters.entries <+: after.parameters.entries ∧
        ∀ front p behind, r.parameters.entries = front ++ p :: behind →
          if p.name ∈ (c.parameters.entries ++ front).map (·.name) then
            ∃ q ∈ after.parameters.entries, q.name = p.name ∧ q.value.agrees p.value
          else p ∈ after.parameters.entries) ∧
    ∀ d : Dialect, Function.Injective d.parameterName →
      ((∀ r ∈ outputs, ∃ layout : Layout, ∃ roll after,
          layout.renderIn d (.numbering d roll) = (.ok r, after)) →
        ∀ r ∈ taken {} outputs, ∀ p ∈ r.parameters.entries,
          ∃ q ∈ c.parameters.entries, q.name = p.name ∧ q.ordinal = p.ordinal ∧
            (q = p ∨ q.value.agrees p.value)) ∧
      ∀ (nodes : List Node) (shown : List (Node × Rendered)), shown.map (·.2) = outputs →
        (∀ x ∈ shown, (x.1, Except.ok x.2) ∈ nodes.zip (passes d {} nodes).1) →
        taken {} outputs = outputs →
          (∀ r ∈ outputs, r.parameters.entries ⊆ c.parameters.entries) ∧
            c.parameters.entries.length = (shown.flatMap (·.1.values d)).eraseDups.length := by
  have unites := unites_offerAll outputs
  refine ⟨?_, fun d names => ⟨?_, ?_⟩⟩
  · intro r after offered
    rcases unites.offer_refused r with ⟨-, next, accepted, longer⟩ | ⟨name, -, refused⟩
    · obtain rfl : next = after := congrArg Prod.fst (accepted.symm.trans offered)
      exact ⟨unites.prefix_entries longer, fun front p behind => unites.entry_of_append longer⟩
    · cases congrArg Prod.snd (refused.symm.trans offered)
  · intro rendered r member p bound
    exact unites.entry_of_dialect names
      (fun s output => rendered s (taken_subset {} outputs output)) member bound
  · rintro nodes shown rfl passed all
    rw [all] at unites
    obtain ⟨inside, count⟩ := unites.entries_of_passes names passed
    exact ⟨List.forall_mem_map.mpr inside, count⟩

theorem parameters_kept_sharing :
    let five : Value := ⟨0, .int 5⟩
    let zero : Value := ⟨1, .float ⟨0⟩⟩
    let nodes : List Node := [.value five, .value zero, .value five]
    let first : Rendered := ⟨"@P1", ⟨[⟨"@P1", 1, .int 5⟩]⟩, 0⟩
    let second : Rendered := ⟨"@P2", ⟨[⟨"@P2", 2, .float ⟨0⟩⟩]⟩, 0⟩
    let other : Rendered :=
      ⟨"", ⟨[⟨"@P2", 2, .float ⟨0x8000000000000000⟩⟩, ⟨"@P3", 3, .int 7⟩]⟩, 0⟩
    let outputs := [first, second, first]
    let c := offerAll {} outputs
    let after := (c.offer other).1
    (passes .generic {} nodes).1 = outputs.map .ok ∧
      (∃ q ∈ after.parameters.entries,
        q.name = "@P2" ∧ q.value.agrees (.float ⟨0x8000000000000000⟩)) ∧
      ⟨"@P3", 3, .int 7⟩ ∈ after.parameters.entries ∧
      (∃ q ∈ c.parameters.entries, q.name = "@P2" ∧ q.ordinal = 2 ∧
        (q = ⟨"@P2", 2, .float ⟨0⟩⟩ ∨ q.value.agrees (.float ⟨0⟩))) ∧
      (∀ r ∈ outputs, r.parameters.entries ⊆ c.parameters.entries) ∧
      c.parameters.entries.length =
        ((nodes.zip outputs).flatMap (·.1.values .generic)).eraseDups.length := by
  intro five zero nodes first second other outputs c after
  have passed : (passes .generic {} nodes).1 = outputs.map .ok := by decide +kernel
  have accepted : c.offer other = (after, .ok ()) := by decide +kernel
  obtain ⟨-, behind⟩ := (parameters_kept outputs).1 other after accepted
  obtain ⟨apart, together⟩ := (parameters_kept outputs).2 .generic injective_generic
  have rendered : ∀ r ∈ outputs, ∃ layout : Layout, ∃ roll after,
      layout.renderIn .generic (.numbering .generic roll) = (.ok r, after) := by
    intro r member
    simp only [outputs, List.mem_cons, List.not_mem_nil, or_false] at member
    rcases member with rfl | rfl | rfl
    · exact ⟨[.placeholder five], [], .numbering .generic [five], by decide +kernel⟩
    · exact ⟨[.placeholder zero], [five], .numbering .generic [five, zero], by decide +kernel⟩
    · exact ⟨[.placeholder five], [], .numbering .generic [five], by decide +kernel⟩
  have shown : ∀ x ∈ nodes.zip outputs,
      (x.1, Except.ok x.2) ∈ nodes.zip (passes .generic {} nodes).1 := by
    intro x member
    rw [passed, List.zip_map_right]
    exact List.mem_map_of_mem member
  obtain ⟨all, count⟩ := together nodes (nodes.zip outputs) rfl shown (by decide +kernel)
  refine ⟨passed, ?_, ?_, ?_, all, count⟩
  · exact behind [] ⟨"@P2", 2, _⟩ [⟨"@P3", 3, .int 7⟩] rfl
  · exact behind [⟨"@P2", 2, _⟩] ⟨"@P3", 3, .int 7⟩ [] rfl
  · exact apart rendered second (by decide +kernel) ⟨"@P2", 2, .float ⟨0⟩⟩ (by decide +kernel)

/-- Both placeholders are written alike, so the second parameter is taken for the first one. -/
theorem positional_parameter_lost :
    let d : Dialect := { name := "stub", parameterName := fun _ => "?" }
    let five : Value := ⟨0, .int 5⟩
    let other : Value := ⟨1, .int 5⟩
    let equals (name : String) (v : Value) : Condition :=
      .compare (.column ⟨none, name⟩) .eq (.value v)
    let node : Node := .condition (.pair (equals "a" five) (equals "b" other) .any false)
    ∃ r after, (passes d {} [node]).1 = [.ok r] ∧ ({} : Combined).offer r = (after, .ok ()) ∧
      r.sql = "\"a\" = ? OR \"b\" = ?" ∧
      r.parameters.entries = [⟨"?", 1, .int 5⟩, ⟨"?", 2, .int 5⟩] ∧
      after.parameters.entries = [⟨"?", 1, .int 5⟩] := by
  intro d five other equals node
  refine ⟨⟨"\"a\" = ? OR \"b\" = ?", ⟨[⟨"?", 1, .int 5⟩, ⟨"?", 2, .int 5⟩]⟩, 0⟩,
    ⟨"\"a\" = ? OR \"b\" = ?", ⟨[⟨"?", 1, .int 5⟩]⟩, 0, 1⟩, ?_, ?_, rfl, rfl, rfl⟩
  · decide +kernel
  · decide +kernel

/-! ### Texts -/

theorem texts_of_passes {nodes : List Node} {outputs : List Rendered} {roll : List Value}
    {scope : Scope} (passed : passes d (.numbering d roll) nodes = (outputs.map .ok, scope)) :
    (∀ n ∈ nodes, (n.layout d).failure? = none) ∧
      outputs.map (·.sql) = nodes.map fun n =>
        (n.layout d).textOn d (enrollAll roll (bound (nodes.map (Node.layout d)).flatten)) := by
  induction nodes generalizing outputs roll with
  | nil =>
    cases outputs with
    | nil => exact ⟨List.forall_mem_nil _, rfl⟩
    | cons r others => cases congrArg Prod.fst passed
  | cons n rest ih =>
    rcases pass_numbering (d := d) n roll with ⟨e, fails⟩ | ⟨whole, renders⟩
    · simp only [passes, fails] at passed
      cases outputs <;> cases congrArg Prod.fst passed
    · simp only [passes, renders] at passed
      cases outputs with
      | nil => cases congrArg Prod.fst passed
      | cons r others =>
        obtain ⟨same, results⟩ := List.cons.inj (congrArg Prod.fst passed)
        obtain rfl := Except.ok.inj same
        have last := congrArg Prod.snd passed
        obtain ⟨unfailing, texts⟩ := ih (Prod.ext results last)
        rw [← Node.bound_layout whole, ← enrollAll_append, ← bound_append,
          ← List.flatten_cons] at texts
        refine ⟨List.forall_mem_cons.mpr ⟨failure?_eq_none.mpr whole, unfailing⟩, ?_⟩
        rw [List.map_cons, List.map_cons, List.map_cons, texts]
        congr 1
        have known := values_subset_enrollAll roll (n.layout d).bound
        rw [List.flatten_cons, bound_append, enrollAll_append, textOn_enrollAll known]
        rfl

theorem render_separated {nodes : List Node} {outputs : List Rendered} {scope : Scope}
    (passed : passes d {} nodes = (outputs.map .ok, scope)) :
    ∃ whole, (Layout.separated "\n" (nodes.map (Node.layout d))).render d = .ok whole ∧
      whole.sql = "\n".intercalate (outputs.map (·.sql)) := by
  have start : ({} : Scope) = .numbering d [] := rfl
  rw [start] at passed
  obtain ⟨unfailing, texts⟩ := texts_of_passes passed
  have whole : failure? (separated "\n" (nodes.map (Node.layout d))) = none :=
    failure?_separated (List.forall_mem_map.mpr unfailing)
  refine ⟨rendering (separated "\n" (nodes.map (Node.layout d))) d [], ?_, ?_⟩
  · rw [render_eq, whole]
  · rw [texts, rendering, textOn_separated, bound_separated, List.map_map]
    rfl

/-- Line breaks stand between all appended texts but the empty ones in front. So the combined text
is that of one pass over all of them unless an empty text stands in front of others. -/
theorem combined_lines (outputs : List Rendered) :
    let texts := (taken {} outputs).map (·.sql)
    let sql := (offerAll {} outputs).sql
    sql = "\n".intercalate (texts.dropWhile (· = "")) ∧
    (sql = "\n".intercalate texts ↔ texts.length ≤ 1 ∨ texts.head? ≠ some "") ∧
    ∀ (d : Dialect) (nodes : List Node) (scope : Scope),
      passes d {} nodes = (outputs.map .ok, scope) →
        ∃ whole, (Layout.separated "\n" (nodes.map (Node.layout d))).render d = .ok whole ∧
          whole.sql = "\n".intercalate (outputs.map (·.sql)) ∧
          (taken {} outputs = outputs →
            (sql = whole.sql ↔ texts.length ≤ 1 ∨ texts.head? ≠ some "")) ∧
          ∀ statements : List Statement, statements ≠ [] → nodes = statements.map .statement →
            Command.render ⟨d, statements⟩ = .ok whole := by
  have unites := unites_offerAll outputs
  dsimp only
  rw [unites.sql]
  refine ⟨joinLines_eq_dropWhile _, joinLines_eq_intercalate_iff _, fun d nodes scope passed => ?_⟩
  obtain ⟨whole, rendered, joined⟩ := render_separated passed
  refine ⟨whole, rendered, joined, fun all => ?_, ?_⟩
  · rw [all, joined, joinLines_eq_intercalate_iff]
  · rintro statements nonempty rfl
    have filled : statements.isEmpty = false := by simpa using nonempty
    rw [Command.render, filled, ← rendered, List.map_map]
    rfl

theorem combined_lines_endless :
    let d : Dialect := { name := "endless", terminator := "" }
    let statements : List Statement := [.raw "a", .raw "", .raw "b"]
    let outputs : List Rendered := [⟨"a", {}, 1⟩, ⟨"", {}, 1⟩, ⟨"b", {}, 1⟩]
    passes d {} (statements.map .statement) = (outputs.map .ok, {}) ∧
      (offerAll {} outputs).sql = "a\n\nb" ∧
      ∃ whole, Command.render ⟨d, statements⟩ = .ok whole ∧
        (offerAll {} outputs).sql = whole.sql := by
  intro d statements outputs
  have passed : passes d {} (statements.map .statement) = (outputs.map .ok, {}) := by decide +kernel
  obtain ⟨-, -, refined⟩ := combined_lines outputs
  obtain ⟨whole, -, -, combined, command⟩ := refined d _ {} passed
  refine ⟨passed, by decide +kernel, whole, command statements (List.cons_ne_nil _ _) rfl, ?_⟩
  exact (combined (by decide +kernel)).mpr (.inr (by decide +kernel))

/-- A condition without any text stands in front of a query, whose text is all that is left. -/
theorem line_break_missing :
    let nodes : List Node :=
      [.condition (.raw ""), .statement (.select { source := some (.named "t" none) })]
    let outputs : List Rendered := [⟨"", {}, 0⟩, ⟨"SELECT *\nFROM t;", {}, 1⟩]
    passes .generic {} nodes = (outputs.map .ok, {}) ∧ taken {} outputs = outputs ∧
      (offerAll {} outputs).sql = "SELECT *\nFROM t;" ∧
      "\n".intercalate (outputs.map (·.sql)) = "\nSELECT *\nFROM t;" := by
  decide +kernel

end Combined
end SqlBatch
