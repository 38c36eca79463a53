import Mathlib.Data.List.Nodup
import Mathlib.Data.List.Pairwise
import Mathlib.Data.List.Perm.Basic
import SqlBatch.Proofs.Render.Merging

/-!
# Tables by name

Merging takes the parameters of another table in by name. It goes through just when no two
parameters give one name to unequal values: `absorb_cases`. So nothing depends on the order in which
tables are merged: `merged_in_any_order`.
-/
namespace SqlBatch

/-! ### Equal values -/

namespace SqlValue

variable {x y z : SqlValue}

def isZero : SqlValue → Bool
  | .float x => x.isZero
  | _ => false

/-- Doubles are compared as numbers, all else as it is. -/
theorem agrees_iff :
    x.agrees y ↔ x.isNaN = false ∧ y.isNaN = false ∧ (x = y ∨ x.isZero ∧ y.isZero) := by
  cases x <;> cases y <;> simp [agrees, isNaN, isZero, Binary64.agrees, and_assoc]

theorem agrees_symm (h : x.agrees y) : y.agrees x := by
  obtain ⟨first, second, same | ⟨zero, other⟩⟩ := agrees_iff.mp h
  · exact agrees_iff.mpr ⟨second, first, .inl same.symm⟩
  · exact agrees_iff.mpr ⟨second, first, .inr ⟨other, zero⟩⟩

theorem agrees_trans (h : x.agrees y) (more : y.agrees z) : x.agrees z := by
  obtain ⟨first, -, same | ⟨zero, middle⟩⟩ := agrees_iff.mp h
  · rwa [same]
  · obtain ⟨-, last, equal | ⟨-, other⟩⟩ := agrees_iff.mp more
    · exact agrees_iff.mpr ⟨first, last, .inr ⟨zero, equal ▸ middle⟩⟩
    · exact agrees_iff.mpr ⟨first, last, .inr ⟨zero, other⟩⟩

end SqlValue

/-! ### Parameters of one name -/

/-- Two parameters that do not give one name to unequal values. -/
def Parameter.Compatible (p q : Parameter) : Prop := p.name = q.name → p.value.agrees q.value

instance : Std.Symm Parameter.Compatible :=
  ⟨fun _ _ compatible same => SqlValue.agrees_symm (compatible same.symm)⟩

theorem Parameter.not_compatible {p q : Parameter} :
    ¬p.Compatible q ↔ p.name = q.name ∧ p.value.agrees q.value = false := by
  simp [Compatible]

namespace Parameters

variable {entries ps qs : List Parameter} {p known : Parameter}

/-- Lists a parameter unless its name is listed already. -/
def enlist (entries : List Parameter) (p : Parameter) : List Parameter :=
  if p.name ∈ entries.map (·.name) then entries else entries ++ [p]

def enlistAll (entries ps : List Parameter) : List Parameter := ps.foldl enlist entries

@[simp] theorem enlistAll_nil (entries : List Parameter) : enlistAll entries [] = entries := rfl

theorem enlistAll_cons (entries : List Parameter) (p : Parameter) (ps : List Parameter) :
    enlistAll entries (p :: ps) = enlistAll (enlist entries p) ps := rfl

theorem find?_eq_none_iff_name {name : String} :
    entries.find? (·.name = name) = none ↔ name ∉ entries.map (·.name) := by
  simp

theorem of_find?_eq_some {name : String} (found : entries.find? (·.name = name) = some p) :
    p ∈ entries ∧ p.name = name :=
  ⟨List.mem_of_find?_eq_some found, by simpa using List.find?_some found⟩

/-- The first parameter of a name that is listed. -/
theorem exists_first {name : String} (listed : name ∈ entries.map (·.name)) :
    ∃ q ∈ entries, entries.find? (·.name = name) = some q ∧ q.name = name := by
  cases found : entries.find? (·.name = name) with
  | none => exact absurd listed (find?_eq_none_iff_name.mp found)
  | some q =>
    obtain ⟨member, named⟩ := of_find?_eq_some found
    exact ⟨q, member, rfl, named⟩

theorem enlist_of_listed (listed : p.name ∈ entries.map (·.name)) : enlist entries p = entries :=
  if_pos listed

theorem enlist_of_unlisted (unlisted : p.name ∉ entries.map (·.name)) :
    enlist entries p = entries ++ [p] := if_neg unlisted

theorem nodup_names_nil : (([] : List Parameter).map (·.name)).Nodup := List.nodup_nil

theorem nodup_enlist (distinct : (entries.map (·.name)).Nodup) (p : Parameter) :
    ((enlist entries p).map (·.name)).Nodup := by
  by_cases listed : p.name ∈ entries.map (·.name)
  · rwa [enlist_of_listed listed]
  · rw [enlist_of_unlisted listed, List.map_append]
    exact List.nodup_append_comm.mp (List.nodup_cons.mpr ⟨listed, distinct⟩)

theorem nodup_enlistAll (distinct : (entries.map (·.name)).Nodup) (ps : List Parameter) :
    ((enlistAll entries ps).map (·.name)).Nodup := by
  induction ps generalizing entries with
  | nil => exact distinct
  | cons p rest ih => exact ih (nodup_enlist distinct p)

/-- No entry ever changes place. -/
theorem prefix_enlistAll (entries ps : List Parameter) : entries <+: enlistAll entries ps := by
  induction ps generalizing entries with
  | nil => exact List.prefix_rfl
  | cons p rest ih =>
    refine List.IsPrefix.trans ?_ (ih (enlist entries p))
    unfold enlist
    split
    · exact List.prefix_rfl
    · exact List.prefix_append entries [p]

/-- A name stands for the first parameter that has it. -/
theorem find?_enlistAll (entries ps : List Parameter) (name : String) :
    (enlistAll entries ps).find? (·.name = name) = (entries ++ ps).find? (·.name = name) := by
  induction ps generalizing entries with
  | nil => simp
  | cons p rest ih =>
    rw [enlistAll_cons, ih]
    by_cases listed : p.name ∈ entries.map (·.name)
    · rw [enlist_of_listed listed, List.find?_append, List.find?_append, List.find?_cons]
      by_cases same : p.name = name
      · obtain ⟨q, -, found, -⟩ := exists_first (same ▸ listed)
        simp [found]
      · simp [same]
    · simp [enlist_of_unlisted listed]

theorem subset_enlistAll (entries ps : List Parameter) : enlistAll entries ps ⊆ entries ++ ps := by
  induction ps generalizing entries with
  | nil => simp
  | cons p rest ih =>
    refine List.Subset.trans (ih (enlist entries p)) ?_
    unfold enlist
    split <;> simp

/-- Nothing is left out where a name belongs to one parameter only. -/
theorem mem_enlistAll_of_names (names : ∀ p ∈ ps, ∀ q ∈ ps, p.name = q.name → p = q) :
    p ∈ enlistAll [] ps ↔ p ∈ ps := by
  refine ⟨fun listed => subset_enlistAll [] ps listed, fun member => ?_⟩
  obtain ⟨q, here, found, named⟩ := exists_first (List.mem_map_of_mem member)
  rw [names q here p member named, ← List.nil_append ps, ← find?_enlistAll] at found
  exact List.mem_of_find?_eq_some found

/-! ### Merging -/

/-- What agrees with an entry fits in wherever the entry does. -/
theorem pairwise_insert (distinct : (entries.map (·.name)).Nodup) (member : known ∈ entries)
    (same : known.name = p.name) (agrees : known.value.agrees p.value)
    (compatible : (entries ++ ps).Pairwise Parameter.Compatible) :
    (entries ++ p :: ps).Pairwise Parameter.Compatible := by
  obtain ⟨inside, others, across⟩ := List.pairwise_append.mp compatible
  have ahead : ∀ q ∈ ps, p.Compatible q := fun q later equal =>
    SqlValue.agrees_trans (SqlValue.agrees_symm agrees)
      (across known member q later (same.trans equal))
  refine List.pairwise_append.mpr ⟨inside, List.pairwise_cons.mpr ⟨ahead, others⟩, ?_⟩
  intro e listed q either
  rcases List.mem_cons.mp either with rfl | later
  · intro equal
    rwa [List.inj_on_of_nodup_map distinct listed member (equal.trans same.symm)]
  · exact across e listed q later

theorem pairwise_of_nodup (distinct : (entries.map (·.name)).Nodup) :
    entries.Pairwise Parameter.Compatible :=
  (List.pairwise_map.mp distinct).imp fun different same => absurd same different

/-- Where no name is given to unequal values, it is given to equal ones. -/
theorem agrees_of_pairwise {q : Parameter} (compatible : ps.Pairwise Parameter.Compatible)
    (here : q ∈ ps) (there : p ∈ ps) (named : q.name = p.name) (clean : p.value.isNaN = false) :
    q.value.agrees p.value := by
  by_cases same : q = p
  · rw [same, SqlValue.agrees_self, clean]
    rfl
  · exact compatible.forall here there same named

/-- Either all parameters fit together and are listed, or those in front of the first that does not
fit are. -/
theorem absorb_cases (distinct : (entries.map (·.name)).Nodup) (ps : List Parameter) :
    (entries ++ ps).Pairwise Parameter.Compatible ∧
        absorb entries ps = (enlistAll entries ps, .ok ()) ∨
      ∃ front p behind, ps = front ++ p :: behind ∧
        (entries ++ front).Pairwise Parameter.Compatible ∧
        (∃ q ∈ entries ++ front, ¬q.Compatible p) ∧
        absorb entries ps = (enlistAll entries front, .error (.parameterCollision p.name)) := by
  induction ps generalizing entries with
  | nil =>
    left
    rw [List.append_nil]
    exact ⟨pairwise_of_nodup distinct, rfl⟩
  | cons p rest ih =>
    rw [absorb]
    cases found : entries.find? (·.name = p.name) with
    | none =>
      have unlisted := find?_eq_none_iff_name.mp found
      have more := nodup_enlist distinct p
      rw [enlist_of_unlisted unlisted] at more
      simp only [enlistAll_cons, enlist_of_unlisted unlisted]
      rcases ih more with ⟨compatible, merged⟩ | ⟨front, q, behind, rfl, compatible, clash, merged⟩
      · left
        rw [List.append_assoc] at compatible
        exact ⟨compatible, merged⟩
      · right
        rw [List.append_assoc] at compatible clash
        refine ⟨p :: front, q, behind, rfl, compatible, clash, ?_⟩
        rw [merged, enlistAll_cons, enlist_of_unlisted unlisted]
    | some known =>
      obtain ⟨member, same⟩ := of_find?_eq_some found
      have listed : p.name ∈ entries.map (·.name) := same ▸ List.mem_map_of_mem member
      cases agrees : known.value.agrees p.value with
      | false =>
        right
        refine ⟨[], p, rest, rfl, ?_, ⟨known, ?_, ?_⟩, ?_⟩
        · rw [List.append_nil]
          exact pairwise_of_nodup distinct
        · exact List.mem_append_left _ member
        · exact Parameter.not_compatible.mpr ⟨same, agrees⟩
        · simp [agrees]
      | true =>
        simp only [agrees, if_true, enlistAll_cons, enlist_of_listed listed]
        rcases ih distinct with ⟨compatible, merged⟩ |
          ⟨front, q, behind, rfl, compatible, ⟨e, there, clash⟩, merged⟩
        · exact .inl ⟨pairwise_insert distinct member same agrees compatible, merged⟩
        · right
          have fits := pairwise_insert distinct member same agrees compatible
          refine ⟨p :: front, q, behind, rfl, fits, ⟨e, ?_, clash⟩, ?_⟩
          · simp only [List.mem_append, List.mem_cons] at there ⊢
            tauto
          · rw [merged, enlistAll_cons, enlist_of_listed listed]

theorem nodup_absorb (distinct : (entries.map (·.name)).Nodup) (ps : List Parameter) :
    ((absorb entries ps).1.map (·.name)).Nodup := by
  rcases absorb_cases distinct ps with ⟨-, merged⟩ | ⟨front, p, behind, -, -, -, merged⟩
  all_goals
    rw [merged]
    exact nodup_enlistAll distinct _

theorem absorb_append (entries ps qs : List Parameter) :
    absorb entries (ps ++ qs) =
      match absorb entries ps with
      | (more, .ok ()) => absorb more qs
      | (more, .error e) => (more, .error e) := by
  induction ps generalizing entries with
  | nil => rfl
  | cons p rest ih =>
    rw [List.cons_append, absorb, absorb]
    cases entries.find? (·.name = p.name) with
    | none => exact ih _
    | some known =>
      cases agrees : known.value.agrees p.value with
      | true => simpa [agrees] using ih entries
      | false => simp [agrees]

/-- Some parameter gives the name to a value that is unequal to one bound to it already, in the
table or further up. -/
def Contested (entries ps : List Parameter) (name : String) : Prop :=
  ∃ front p behind, ps = front ++ p :: behind ∧ p.name = name ∧
    ∃ q ∈ entries ++ front, q.name = name ∧ q.value.agrees p.value = false

theorem Contested.not_pairwise {name : String} (contested : Contested entries ps name) :
    ¬(entries ++ ps).Pairwise Parameter.Compatible := by
  obtain ⟨front, p, behind, rfl, rfl, q, earlier, same, unequal⟩ := contested
  intro compatible
  rw [← List.append_assoc] at compatible
  have fits := (List.pairwise_append.mp compatible).2.2 q earlier p List.mem_cons_self
  exact Parameter.not_compatible.mpr ⟨same, unequal⟩ fits

theorem contested_or_pairwise (distinct : (entries.map (·.name)).Nodup) (ps : List Parameter) :
    (entries ++ ps).Pairwise Parameter.Compatible ∧
        absorb entries ps = (enlistAll entries ps, .ok ()) ∨
      ∃ name, Contested entries ps name ∧
        (absorb entries ps).2 = .error (.parameterCollision name) := by
  refine (absorb_cases distinct ps).imp_right ?_
  rintro ⟨front, p, behind, split, -, ⟨q, earlier, clash⟩, merged⟩
  obtain ⟨same, unequal⟩ := Parameter.not_compatible.mp clash
  exact ⟨p.name, ⟨front, p, behind, split, rfl, q, earlier, same, unequal⟩, by rw [merged]⟩

/-! ### Families of tables -/

/-- Merges tables in turn, up to the first that collides. -/
def mergeAll (table : Parameters) : List Parameters → Parameters × Except Error Unit
  | [] => (table, .ok ())
  | other :: rest =>
    match table.merge other with
    | (merged, .ok ()) => merged.mergeAll rest
    | (merged, .error e) => (merged, .error e)

theorem mergeAll_eq_merge (table : Parameters) (tables : List Parameters) :
    table.mergeAll tables = table.merge ⟨tables.flatMap (·.entries)⟩ := by
  induction tables generalizing table with
  | nil => rfl
  | cons other rest ih =>
    simp only [mergeAll, merge, List.flatMap_cons, absorb_append]
    rcases absorb table.entries other.entries with ⟨entries, e | ⟨⟩⟩
    · rfl
    · exact ih ⟨entries⟩

/-- All parameters of the tables give one name to equal values only. -/
def Consistent (tables : List Parameters) : Prop :=
  (tables.flatMap (·.entries)).Pairwise Parameter.Compatible

theorem Consistent.perm {tables others : List Parameters} (consistent : Consistent tables)
    (reordered : tables.Perm others) : Consistent others :=
  ((reordered.flatMap_right _).pairwise_iff fun compatible => symm compatible).mp consistent

theorem mergeAll_cases (tables : List Parameters) :
    Consistent tables ∧
        mergeAll {} tables = (⟨enlistAll [] (tables.flatMap (·.entries))⟩, .ok ()) ∨
      ¬Consistent tables ∧ ∃ name, (mergeAll {} tables).2 = .error (.parameterCollision name) := by
  rw [mergeAll_eq_merge, merge]
  rcases contested_or_pairwise nodup_names_nil (tables.flatMap (·.entries)) with
    ⟨compatible, merged⟩ | ⟨name, contested, fails⟩
  · exact .inl ⟨compatible, by rw [merged]⟩
  · exact .inr ⟨contested.not_pairwise, name, fails⟩

theorem mem_names_enlistAll {name : String} :
    name ∈ (enlistAll entries ps).map (·.name) ↔ name ∈ (entries ++ ps).map (·.name) := by
  rw [← not_iff_not, ← find?_eq_none_iff_name, ← find?_eq_none_iff_name, find?_enlistAll]

/-- The same parameters in another order give every name an equal value. -/
theorem get?_enlistAll_perm (clean : ∀ p ∈ ps, p.value.isNaN = false)
    (compatible : ps.Pairwise Parameter.Compatible) (reordered : ps.Perm qs) (name : String) :
    Option.Rel (fun x y => x.agrees y = true) (get? ⟨enlistAll [] ps⟩ name)
      (get? ⟨enlistAll [] qs⟩ name) := by
  simp only [get?, find?_enlistAll, List.nil_append]
  cases first : ps.find? (·.name = name) with
  | none =>
    have absent := find?_eq_none_iff_name.mp first
    rw [(reordered.map _).mem_iff] at absent
    rw [find?_eq_none_iff_name.mpr absent]
    exact .none
  | some p =>
    cases second : qs.find? (·.name = name) with
    | none =>
      have absent := find?_eq_none_iff_name.mp second
      rw [← (reordered.map _).mem_iff, ← find?_eq_none_iff_name, first] at absent
      cases absent
    | some q =>
      obtain ⟨here, named⟩ := of_find?_eq_some first
      obtain ⟨there, likewise⟩ := of_find?_eq_some second
      have known := reordered.mem_iff.mpr there
      exact .some (agrees_of_pairwise compatible here known (named.trans likewise.symm)
        (clean q known))

/-- In whatever order tables are merged, all of them merge or one collides, and what they merge into
binds the same names to equal values. A table may list a name twice. -/
theorem merged_in_any_order {tables others : List Parameters}
    (clean : ∀ table ∈ tables, ∀ p ∈ table.entries, p.value.isNaN = false)
    (reordered : tables.Perm others) :
    let (first, one) := mergeAll {} tables
    let (second, another) := mergeAll {} others
    Consistent tables ∧ one = .ok () ∧ another = .ok () ∧ first.names.Perm second.names ∧
        (∀ name, Option.Rel (fun x y => x.agrees y = true) (first.get? name) (second.get? name)) ∨
      ¬Consistent tables ∧ ∃ m n, one = .error (.parameterCollision m) ∧
        another = .error (.parameterCollision n) := by
  rcases mergeAll_cases tables with ⟨consistent, merged⟩ | ⟨inconsistent, m, collides⟩
  · rcases mergeAll_cases others with ⟨-, likewise⟩ | ⟨inconsistent, -⟩
    · rw [merged, likewise]
      have entries := reordered.flatMap_right (·.entries)
      refine .inl ⟨consistent, rfl, rfl, ?_, ?_⟩
      · have distinct := nodup_enlistAll nodup_names_nil
        refine (List.perm_ext_iff_of_nodup (distinct _) (distinct _)).mpr fun name => ?_
        rw [mem_names_enlistAll, mem_names_enlistAll]
        exact (entries.map _).mem_iff
      · refine get?_enlistAll_perm ?_ consistent entries
        intro p member
        obtain ⟨table, inside, listed⟩ := List.mem_flatMap.mp member
        exact clean table inside p listed
    · exact absurd (consistent.perm reordered) inconsistent
  · rcases mergeAll_cases others with ⟨consistent, -⟩ | ⟨-, n, likewise⟩
    · exact absurd (consistent.perm reordered.symm) inconsistent
    · exact .inr ⟨inconsistent, m, n, collides, likewise⟩

/-- Three tables overlap, and the two that bind the first name bind it to zeros of either sign. -/
theorem merged_in_any_order_zeros :
    let zero : Parameter := ⟨"@P1", 1, .float ⟨0⟩⟩
    let negative : Parameter := ⟨"@P1", 1, .float ⟨0x8000000000000000⟩⟩
    let two : Parameter := ⟨"@P2", 2, .int 2⟩
    let three : Parameter := ⟨"@P3", 3, .text "x"⟩
    let tables : List Parameters := [⟨[zero, two]⟩, ⟨[two, three]⟩, ⟨[three, negative]⟩]
    let others : List Parameters := [⟨[three, negative]⟩, ⟨[zero, two]⟩, ⟨[two, three]⟩]
    let first := mergeAll {} tables
    let second := mergeAll {} others
    (∀ table ∈ tables, ∀ p ∈ table.entries, p.value.isNaN = false) ∧ tables.Perm others ∧
      first.1.names = ["@P1", "@P2", "@P3"] ∧ second.1.names = ["@P3", "@P1", "@P2"] ∧
      first.2 = .ok () ∧ second.2 = .ok () ∧ first.1.names.Perm second.1.names ∧
      ∀ name, Option.Rel (fun x y => x.agrees y = true)
        (first.1.get? name) (second.1.get? name) := by
  intro zero negative two three tables others first second
  have clean : ∀ table ∈ tables, ∀ p ∈ table.entries, p.value.isNaN = false := by decide +kernel
  have reordered : tables.Perm others := by decide +kernel
  refine ⟨clean, reordered, by decide +kernel, by decide +kernel, ?_⟩
  rcases merged_in_any_order clean reordered with ⟨-, facts⟩ | ⟨-, m, n, collides, -⟩
  · exact facts
  · have succeeds : first.2 = .ok () := by decide +kernel
    cases succeeds.symm.trans collides

end Parameters
end SqlBatch
