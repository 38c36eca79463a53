import Mathlib.Data.List.Basic
import Mathlib.Data.List.Induction
import Mathlib.Data.List.Nodup
import SqlBatch.Render.Parameter

/-!
# Numbered values

A scope is known by the roll of its values: each stands there once, at the place that its number
gives. `intern_numbering` and `rollback_numbering` say what a scope does in terms of its roll.
-/
namespace SqlBatch

/-! ### Lists with numbers and keys -/

section

variable {α : Type} (rows : List α)

theorem filter_from (k skipped : Nat) :
    (rows.zipIdx k).filter (fun row => k + skipped ≤ row.2) =
      (rows.drop skipped).zipIdx (k + skipped) := by
  induction rows generalizing k skipped with
  | nil => simp
  | cons a rest ih =>
    cases skipped with
    | zero =>
      refine List.filter_eq_self.mpr fun row member => ?_
      simpa using List.le_snd_of_mem_zipIdx member
    | succ skipped =>
      have later := ih (k + 1) skipped
      rw [Nat.add_right_comm] at later
      rw [List.zipIdx_cons, List.filter_cons_of_neg (by simp)]
      exact later

theorem filter_below (k count : Nat) :
    (rows.zipIdx k).filter (fun row => row.2 < k + count) = (rows.take count).zipIdx k := by
  induction rows generalizing k count with
  | nil => simp
  | cons a rest ih =>
    cases count with
    | zero =>
      refine List.filter_eq_nil_iff.mpr fun row member => ?_
      simpa using List.le_snd_of_mem_zipIdx member
    | succ count =>
      have later := ih (k + 1) count
      rw [Nat.add_right_comm] at later
      rw [List.zipIdx_cons, List.filter_cons_of_pos (by simp), List.take_succ_cons,
        List.zipIdx_cons]
      exact congrArg _ later

/-- A search for a key that only one entry has. -/
theorem find?_key {κ : Type} [DecidableEq κ] {key : α → κ} {row : α}
    (distinct : (rows.map key).Nodup) (member : row ∈ rows) :
    rows.find? (key · = key row) = some row := by
  cases found : rows.find? (key · = key row) with
  | none => exact absurd (decide_eq_true rfl) (List.find?_eq_none.mp found row member)
  | some other =>
    have same : key other = key row := by simpa using List.find?_some found
    rw [List.inj_on_of_nodup_map distinct (List.mem_of_find?_eq_some found) member same]

end

/-! ### Rolls -/

/-- Puts a value on a roll, at the end unless it is there already. -/
def enroll (roll : List Value) (v : Value) : List Value := if v ∈ roll then roll else roll ++ [v]

def enrollAll (roll vs : List Value) : List Value := vs.foldl enroll roll

@[simp] theorem enrollAll_nil (roll : List Value) : enrollAll roll [] = roll := rfl

@[simp] theorem enrollAll_cons (roll : List Value) (v : Value) (vs : List Value) :
    enrollAll roll (v :: vs) = enrollAll (enroll roll v) vs := rfl

theorem enrollAll_append (roll vs ws : List Value) :
    enrollAll roll (vs ++ ws) = enrollAll (enrollAll roll vs) ws := List.foldl_append

theorem enroll_of_mem {roll : List Value} {v : Value} (known : v ∈ roll) : enroll roll v = roll :=
  if_pos known

theorem mem_enroll {roll : List Value} {v w : Value} : w ∈ enroll roll v ↔ w ∈ roll ∨ w = v := by
  unfold enroll
  by_cases known : v ∈ roll
  · rw [if_pos known]
    exact ⟨.inl, fun either => either.elim id fun same => same ▸ known⟩
  · simp [if_neg known]

theorem mem_enrollAll {roll vs : List Value} {w : Value} :
    w ∈ enrollAll roll vs ↔ w ∈ roll ∨ w ∈ vs := by
  induction vs generalizing roll with
  | nil => simp
  | cons v rest ih => rw [enrollAll_cons, ih, mem_enroll, List.mem_cons, or_assoc]

theorem subset_enrollAll (roll vs : List Value) : roll ⊆ enrollAll roll vs :=
  fun _ known => mem_enrollAll.mpr (.inl known)

theorem values_subset_enrollAll (roll vs : List Value) : vs ⊆ enrollAll roll vs :=
  fun _ member => mem_enrollAll.mpr (.inr member)

theorem nodup_enrollAll {roll : List Value} (distinct : roll.Nodup) (vs : List Value) :
    (enrollAll roll vs).Nodup := by
  induction vs generalizing roll with
  | nil => exact distinct
  | cons v rest ih =>
    refine ih ?_
    unfold enroll
    split
    · exact distinct
    · rename_i absent
      refine List.nodup_append.mpr ⟨distinct, List.pairwise_singleton _ v, ?_⟩
      intro w known _ last same
      rw [same, List.mem_singleton.mp last] at known
      exact absent known

/-- Nobody on a roll ever changes place. -/
theorem enrollAll_eq_append (roll vs : List Value) :
    ∃ fresh, enrollAll roll vs = roll ++ fresh ∧ ∀ v ∈ fresh, v ∉ roll := by
  induction vs generalizing roll with
  | nil => exact ⟨[], (List.append_nil roll).symm, fun v member => by cases member⟩
  | cons v rest ih =>
    obtain ⟨fresh, longer, absent⟩ := ih (enroll roll v)
    rw [enrollAll_cons, longer]
    by_cases known : v ∈ roll
    · rw [enroll_of_mem known] at absent ⊢
      exact ⟨fresh, rfl, absent⟩
    · refine ⟨v :: fresh, by simp [enroll, known], ?_⟩
      intro w member
      rcases List.mem_cons.mp member with rfl | later
      · exact known
      · exact fun early => absent w later (mem_enroll.mpr (.inl early))

theorem enrollAll_of_subset {roll known : List Value} (former : known ⊆ roll) :
    enrollAll roll known = roll := by
  induction known with
  | nil => rfl
  | cons v rest ih =>
    obtain ⟨here, later⟩ := List.cons_subset.mp former
    rw [enrollAll_cons, enroll_of_mem here, ih later]

theorem enrollAll_of_new {roll fresh : List Value} (once : fresh.Nodup)
    (new : ∀ v ∈ fresh, v ∉ roll) : enrollAll roll fresh = roll ++ fresh := by
  induction fresh generalizing roll with
  | nil => exact (List.append_nil roll).symm
  | cons v rest ih =>
    obtain ⟨here, others⟩ := List.forall_mem_cons.mp new
    obtain ⟨last, distinct⟩ := List.nodup_cons.mp once
    have apart : ∀ w ∈ rest, w ∉ roll ++ [v] := by
      intro w member listed
      rcases List.mem_append.mp listed with earlier | same
      · exact others w member earlier
      · exact last (List.mem_singleton.mp same ▸ member)
    rw [enrollAll_cons, enroll, if_neg here, ih distinct apart, List.append_assoc]
    rfl

theorem idxOf_enrollAll {roll : List Value} {v : Value} (known : v ∈ roll) (vs : List Value) :
    (enrollAll roll vs).idxOf v = roll.idxOf v := by
  obtain ⟨fresh, longer, -⟩ := enrollAll_eq_append roll vs
  rw [longer, List.idxOf_append_of_mem known]

theorem idxOf_enroll (roll : List Value) (v : Value) : (enroll roll v).idxOf v = roll.idxOf v := by
  unfold enroll
  split
  · rfl
  · rename_i absent
    rw [List.idxOf_append_of_notMem absent, List.idxOf_cons_self, List.idxOf_eq_length absent,
      Nat.add_zero]

/-- To put a roll behind another it is enough to know who is on it. -/
theorem enrollAll_enrollAll (roll known vs : List Value) :
    enrollAll roll (enrollAll known vs) = enrollAll (enrollAll roll known) vs := by
  induction vs generalizing known with
  | nil => rfl
  | cons v rest ih =>
    rw [enrollAll_cons, ih, enrollAll_cons]
    congr 1
    unfold enroll
    by_cases inside : v ∈ known
    · rw [if_pos inside, if_pos (mem_enrollAll.mpr (.inr inside))]
    · rw [if_neg inside, enrollAll_append]
      rfl

theorem enrollAll_nil_eq_eraseDups (vs : List Value) : enrollAll [] vs = vs.eraseDups := by
  induction vs using List.reverseRecOn with
  | nil => rfl
  | append_singleton vs v ih =>
    have known : v ∈ vs.eraseDups ↔ v ∈ vs := List.mem_eraseDups
    rw [enrollAll_append, ih, List.eraseDups_append, enrollAll_cons, enrollAll_nil, enroll]
    by_cases member : v ∈ vs
    · simp [member, known, List.removeAll]
    · simp [member, known, List.removeAll, List.eraseDups_cons]

theorem idxOf_inj {roll : List Value} {v w : Value} (known : v ∈ roll)
    (same : roll.idxOf v = roll.idxOf w) : v = w := by
  have inside : roll.idxOf w < roll.length := same ▸ List.idxOf_lt_length_of_mem known
  have atV := List.getElem?_idxOf known
  have atW := List.getElem?_idxOf (List.idxOf_lt_length_iff.mp inside)
  rw [same, atW] at atV
  exact (Option.some.inj atV).symm

/-- A search that only one value can end. -/
theorem find?_only {vs : List Value} {v : Value} {p : Value → Bool}
    (only : ∀ w ∈ vs, p w = true ↔ w = v) : vs.find? p = if v ∈ vs then some v else none := by
  by_cases member : v ∈ vs
  · rw [if_pos member]
    cases found : vs.find? p with
    | none => exact absurd ((only v member).mpr rfl) (List.find?_eq_none.mp found v member)
    | some w => rw [(only w (List.mem_of_find?_eq_some found)).mp (List.find?_some found)]
  · rw [if_neg member, List.find?_eq_none]
    intro w inside holds
    exact member ((only w inside).mp holds ▸ inside)

theorem find?_enrollAll (roll vs : List Value) (p : Value → Bool) :
    (enrollAll roll vs).find? p = (roll.find? p).or (vs.find? p) := by
  induction vs generalizing roll with
  | nil => simp
  | cons v rest ih =>
    rw [enrollAll_cons, ih, enroll, List.find?_cons]
    by_cases known : v ∈ roll
    · rw [if_pos known]
      cases holds : p v with
      | false => rfl
      | true =>
        cases found : roll.find? p with
        | some w => rfl
        | none => exact absurd holds (List.find?_eq_none.mp found v known)
    · rw [if_neg known, List.find?_append, Option.or_assoc, List.find?_singleton]
      cases p v <;> rfl

/-! ### Parameters -/

/-- The parameter of a value whose number is its place on a roll; one that is not there comes
behind all others. -/
def parameterOn (d : Dialect) (roll : List Value) (v : Value) : Parameter where
  name := d.parameterName (roll.idxOf v + 1)
  ordinal := roll.idxOf v + 1
  value := v.content

/-- The parameters of some of the values on a roll. -/
def tableOn (d : Dialect) (roll vs : List Value) : Parameters := ⟨vs.map (parameterOn d roll)⟩

theorem parameterOn_append {d : Dialect} {roll : List Value} {v : Value} (known : v ∈ roll)
    (fresh : List Value) : parameterOn d (roll ++ fresh) v = parameterOn d roll v := by
  simp only [parameterOn, List.idxOf_append_of_mem known]

theorem parameterOn_enrollAll {d : Dialect} {roll : List Value} {v : Value} (known : v ∈ roll)
    (vs : List Value) : parameterOn d (enrollAll roll vs) v = parameterOn d roll v := by
  simp only [parameterOn, idxOf_enrollAll known]

theorem parameterOn_enroll (d : Dialect) (roll : List Value) (v : Value) :
    parameterOn d (enroll roll v) v = parameterOn d roll v := by
  simp only [parameterOn, idxOf_enroll]

theorem tableOn_enrollAll {d : Dialect} {roll vs : List Value} (inside : vs ⊆ roll)
    (ws : List Value) : tableOn d (enrollAll roll ws) vs = tableOn d roll vs := by
  have same : ∀ v ∈ vs, parameterOn d (enrollAll roll ws) v = parameterOn d roll v :=
    fun v member => parameterOn_enrollAll (inside member) ws
  rw [tableOn, List.map_congr_left same, tableOn]

/-- A pass lists a value that it uses as the roll of its uses does. -/
theorem note_tableOn {d : Dialect} {roll uses : List Value} (inside : uses ⊆ roll) (v : Value) :
    (tableOn d (enroll roll v) uses).note (parameterOn d (enroll roll v) v) =
      tableOn d (enroll roll v) (enroll uses v) := by
  have listed : (tableOn d (enroll roll v) uses).entries.any
      (·.ordinal = (parameterOn d (enroll roll v) v).ordinal) = decide (v ∈ uses) := by
    rw [Bool.eq_iff_iff, List.any_eq_true, decide_eq_true_iff]
    constructor
    · rintro ⟨p, member, same⟩
      obtain ⟨w, used, rfl⟩ := List.mem_map.mp member
      have places := Nat.succ.inj (of_decide_eq_true same)
      rwa [← idxOf_inj (mem_enroll.mpr (.inl (inside used))) places]
    · intro used
      exact ⟨_, List.mem_map_of_mem used, decide_eq_true rfl⟩
  unfold Parameters.note
  rw [listed]
  by_cases used : v ∈ uses
  · simp [used, enroll_of_mem used]
  · simp [used, enroll, tableOn]

/-! ### Scopes -/

namespace Scope

/-- The scope that has numbered the values on a roll. -/
def numbering (d : Dialect) (roll : List Value) : Scope where
  issued := roll.length
  interned := roll.map fun v => ⟨v, parameterOn d roll v⟩
  retained := roll

theorem find?_numbering (d : Dialect) (roll : List Value) (v : Value) :
    (numbering d roll).find? v = if v ∈ roll then some (parameterOn d roll v) else none := by
  have search : roll.find? (fun w => decide (w = v)) = if v ∈ roll then some v else none :=
    find?_only fun w _ => decide_eq_true_iff
  simp only [find?, numbering, List.find?_map, Function.comp_def, search]
  split <;> rfl

theorem intern_numbering (d : Dialect) (roll : List Value) (v : Value) :
    (numbering d roll).intern d v = (parameterOn d roll v, numbering d (enroll roll v)) := by
  unfold intern
  rw [find?_numbering]
  by_cases known : v ∈ roll
  · rw [if_pos known, enroll_of_mem known]
  · have place := List.idxOf_eq_length known
    have last : parameterOn d (roll ++ [v]) v = parameterOn d roll v := by
      have same := parameterOn_enroll d roll v
      rwa [enroll, if_neg known] at same
    have earlier : ∀ w ∈ roll, (⟨w, parameterOn d (roll ++ [v]) w⟩ : Interned) =
        ⟨w, parameterOn d roll w⟩ := by
      intro w member
      rw [parameterOn_append member]
    simp only [if_neg known, enroll, numbering, List.length_append, List.length_singleton,
      List.map_append, List.map_cons, List.map_nil, last, List.map_congr_left earlier]
    simp only [parameterOn, place]

/-- Numbers that a pass took are given back as if it had never been. -/
theorem rollback_numbering (d : Dialect) (roll vs : List Value) :
    (numbering d (enrollAll roll vs)).rollback roll.length = numbering d roll := by
  obtain ⟨fresh, longer, absent⟩ := enrollAll_eq_append roll vs
  rw [longer]
  unfold rollback
  split
  · rename_i short
    obtain rfl : fresh = [] := by
      rw [← List.length_eq_zero_iff]
      simp only [numbering, List.length_append] at short
      omega
    rw [List.append_nil]
  · let entry (w : Value) : Interned := ⟨w, parameterOn d (roll ++ fresh) w⟩
    have earlier : ∀ w ∈ roll, entry w = ⟨w, parameterOn d roll w⟩ := by
      intro w member
      simp only [entry, parameterOn_append member]
    have kept : ∀ p ∈ roll.map entry, decide (p.parameter.ordinal ≤ roll.length) = true := by
      intro p member
      obtain ⟨w, known, rfl⟩ := List.mem_map.mp member
      rw [earlier w known]
      exact decide_eq_true (List.idxOf_lt_length_of_mem known)
    have gone : ∀ p ∈ fresh.map entry, ¬decide (p.parameter.ordinal ≤ roll.length) = true := by
      intro p member
      obtain ⟨w, new, rfl⟩ := List.mem_map.mp member
      simp only [entry, parameterOn, List.idxOf_append_of_notMem (absent w new), decide_eq_true_iff]
      omega
    have trimmed : (numbering d (roll ++ fresh)).interned.filter
        (·.parameter.ordinal ≤ roll.length) = (numbering d roll).interned := by
      have split : (numbering d (roll ++ fresh)).interned = roll.map entry ++ fresh.map entry :=
        List.map_append
      rw [split, List.filter_append, List.filter_eq_self.mpr kept, List.filter_eq_nil_iff.mpr gone,
        List.append_nil, List.map_congr_left earlier]
      rfl
    rw [trimmed]
    simp only [numbering, List.take_left]

end Scope
end SqlBatch
