import Mathlib.Data.List.Find
import Mathlib.Data.List.Nodup
import SqlBatch.Dialect.Custom
import SqlBatch.Proofs.Render.Numbering

/-!
# Lifetimes of values

A scope can only tell values by their places in memory, and a place is taken again once nobody holds
the value that was there. Whatever is interned and rolled back around a scope, it holds each value
whose place it knows, and it is the scope that has numbered just the values which it holds:
`survivors_interned`.
-/
namespace SqlBatch

/-- A value that asks for a number, and the dialect that spells it. -/
structure Naming where
  dialect : Dialect
  value : Value

namespace Naming

def entry (n : Naming) (ordinal : Nat) : Interned :=
  ⟨n.value, n.dialect.parameterName ordinal, ordinal, n.value.content⟩

def values (ledger : List Naming) : List Value := ledger.map (·.value)

/-- Puts a naming at the end of a ledger, unless its value is there already. -/
def record (ledger : List Naming) (n : Naming) : List Naming :=
  if n.value ∈ values ledger then ledger else ledger ++ [n]

theorem values_record (ledger : List Naming) (n : Naming) :
    values (record ledger n) = enroll (values ledger) n.value := by
  unfold record enroll
  split <;> simp [values]

theorem values_take (ledger : List Naming) (checkpoint : Nat) :
    values (ledger.take checkpoint) = (values ledger).take checkpoint := List.map_take

end Naming

/-! ### Scopes by their ledgers -/

namespace Scope

open Naming

variable {ledger : List Naming}

def interning (ledger : List Naming) : Scope :=
  ledger.foldl (fun s n => (s.intern n.dialect n.value).2) {}

/-- The scope whose numbers are the positions on a ledger. -/
def numberingEach (ledger : List Naming) : Scope where
  issued := ledger.length
  interned := (ledger.zipIdx 1).map fun (n, ordinal) => Naming.entry n ordinal
  retained := values ledger

theorem entry_mem {i : Nat} {n : Naming} (listed : ledger[i]? = some n) :
    n.entry (i + 1) ∈ (numberingEach ledger).interned := by
  have numbered : (n, i + 1) ∈ ledger.zipIdx 1 :=
    List.mk_mem_zipIdx_iff_le_and_getElem?_sub.mpr ⟨Nat.le_add_left 1 i, listed⟩
  exact List.mem_map_of_mem numbered

theorem values_numberingEach (ledger : List Naming) :
    (numberingEach ledger).interned.map (·.value) = values ledger := by
  calc (numberingEach ledger).interned.map (·.value)
      = ((ledger.zipIdx 1).map Prod.fst).map (·.value) := by
        rw [numberingEach, List.map_map, List.map_map]
        rfl
    _ = values ledger := by rw [List.zipIdx_map_fst, values]

theorem value_mem {known : Interned} (member : known ∈ (numberingEach ledger).interned) :
    known.value ∈ values ledger :=
  values_numberingEach ledger ▸ List.mem_map_of_mem member

theorem find?_of_listed (once : (values ledger).Nodup) {i : Nat} {n : Naming}
    (listed : ledger[i]? = some n) :
    (numberingEach ledger).find? n.value = some (n.entry (i + 1)).parameter := by
  rw [← values_numberingEach] at once
  have found : (numberingEach ledger).interned.find? (·.value = n.value) =
      some (n.entry (i + 1)) := find?_key _ once (entry_mem listed)
  rw [find?, found]
  rfl

theorem find?_of_unlisted {v : Value} (unlisted : v ∉ values ledger) :
    (numberingEach ledger).find? v = none := by
  rw [find?, Option.map_eq_none_iff, List.find?_eq_none]
  intro known member same
  exact unlisted (of_decide_eq_true same ▸ value_mem member)

theorem intern_numberingEach (once : (values ledger).Nodup) (n : Naming) :
    ((numberingEach ledger).intern n.dialect n.value).2 = numberingEach (record ledger n) := by
  unfold intern record
  by_cases known : n.value ∈ values ledger
  · obtain ⟨m, member, same⟩ := List.mem_map.mp known
    obtain ⟨i, listed⟩ := List.getElem?_of_mem member
    rw [if_pos known, ← same, find?_of_listed once listed]
  · rw [if_neg known, find?_of_unlisted known]
    simp [numberingEach, values, entry, List.zipIdx_append, Nat.add_comm]

theorem rollback_numberingEach (ledger : List Naming) (checkpoint : Nat) :
    (numberingEach ledger).rollback checkpoint = numberingEach (ledger.take checkpoint) := by
  unfold rollback
  split
  · rename_i short
    rw [List.take_of_length_le short]
  · rename_i long
    -- What keeps its number is what stands on the positions up to the checkpoint.
    have kept : (numberingEach ledger).interned.filter (·.parameter.ordinal ≤ checkpoint) =
        (numberingEach (ledger.take checkpoint)).interned := by
      simp only [numberingEach, List.filter_map]
      rw [← filter_below]
      congr 2
      funext row
      exact decide_eq_decide.mpr (by simp [entry]; omega)
    have length : (ledger.take checkpoint).length = checkpoint := by
      rw [List.length_take]
      exact Nat.min_eq_left (Nat.le_of_not_le long)
    rw [kept]
    simp only [numberingEach, length, values_take]

theorem interning_eq (once : (values ledger).Nodup) : interning ledger = numberingEach ledger := by
  induction ledger using List.reverseRecOn with
  | nil => rfl
  | append_singleton earlier n ih =>
    have split : (values earlier ++ [n.value]).Nodup := by simpa [values] using once
    obtain ⟨distinct, -, apart⟩ := List.nodup_append.mp split
    have fresh : n.value ∉ values earlier :=
      fun known => apart n.value known n.value (List.mem_singleton.mpr rfl) rfl
    have step : interning (earlier ++ [n]) = ((interning earlier).intern n.dialect n.value).2 := by
      simp [interning]
    rw [step, ih distinct, intern_numberingEach distinct, record, if_neg fresh]

/-- What is found by nothing but a place in memory. -/
def at? (s : Scope) (place : Nat) : Option Parameter :=
  (s.interned.find? (·.value.key = place)).map (·.parameter)

/-- The counter, the parameters and the retained values of a scope say the same: the numbers are
those from 1 on, and they are the positions of the values that are found at their places. -/
structure Coherent (s : Scope) : Prop where
  ordinals : (s.interned.map (·.parameter.ordinal)).Perm (List.range' 1 s.issued)
  length : s.retained.length = s.issued
  numbered : ∀ i v, s.retained[i]? = some v →
    ∃ p, s.at? v.key = some p ∧ p.ordinal = i + 1 ∧ p.value = v.content
  places : (s.interned.map (·.value.key)).Nodup
  held : ∀ known ∈ s.interned, known.value ∈ s.retained

end Scope

/-! ### Memory -/

/-- A scope and what is around it. The key of a value is its place in memory. -/
structure Memory where
  /-- The values that somebody else holds. -/
  held : List Value := []
  scope : Scope := {}

namespace Memory

open Naming

variable {m : Memory} {ledger : List Naming}

def alive (m : Memory) : List Value := m.held ++ m.scope.retained

/-- What can come about around a scope, and the namings that it has taken in and not rolled back. -/
inductive Reached : List Naming → Memory → Prop
  | start : Reached [] {}
  -- A value is made at a place where none is alive.
  | made {ledger : List Naming} {m : Memory} (before : Reached ledger m) (v : Value)
    (free : ∀ w ∈ m.alive, w.key ≠ v.key) : Reached ledger { m with held := v :: m.held }
  -- Nobody holds a value any more, unless the scope does.
  | released {ledger : List Naming} {m : Memory} (before : Reached ledger m) (v : Value) :
    Reached ledger { m with held := m.held.filter (· ≠ v) }
  | interned {ledger : List Naming} {m : Memory} (before : Reached ledger m) (n : Naming)
    (handed : n.value ∈ m.held) :
    Reached (record ledger n) { m with scope := (m.scope.intern n.dialect n.value).2 }
  -- Back to any number: a checkpoint that has gone stale can lie among numbers that were given out
  -- anew, or behind the last one.
  | rolledBack {ledger : List Naming} {m : Memory} (before : Reached ledger m) (checkpoint : Nat) :
    Reached (ledger.take checkpoint) { m with scope := m.scope.rollback checkpoint }

/-- No two values that are alive are at one place. -/
def Apart (m : Memory) : Prop := ∀ v ∈ m.alive, ∀ w ∈ m.alive, v.key = w.key → v = w

theorem Apart.of_subset {before after : Memory} (apart : before.Apart)
    (inside : after.alive ⊆ before.alive) : after.Apart :=
  fun v first w second same => apart v (inside first) w (inside second) same

structure Sound (ledger : List Naming) (m : Memory) : Prop where
  scope : m.scope = .numberingEach ledger
  once : (values ledger).Nodup
  apart : m.Apart

theorem Sound.alive_of_listed (sound : Sound ledger m) {v : Value} (listed : v ∈ values ledger) :
    v ∈ m.alive := by
  rw [alive, sound.scope]
  exact List.mem_append_right _ listed

theorem Sound.made (sound : Sound ledger m) {v : Value} (free : ∀ w ∈ m.alive, w.key ≠ v.key) :
    Sound ledger { m with held := v :: m.held } := by
  refine ⟨sound.scope, sound.once, ?_⟩
  intro x first y second same
  rcases List.mem_cons.mp first with rfl | early
  · rcases List.mem_cons.mp second with rfl | late
    · rfl
    · exact absurd same.symm (free y late)
  · rcases List.mem_cons.mp second with rfl | late
    · exact absurd same (free x early)
    · exact sound.apart x early y late same

theorem Sound.released (sound : Sound ledger m) (v : Value) :
    Sound ledger { m with held := m.held.filter (· ≠ v) } := by
  refine ⟨sound.scope, sound.once, sound.apart.of_subset fun w living => ?_⟩
  rcases List.mem_append.mp living with kept | retained
  · exact List.mem_append_left _ (List.mem_of_mem_filter kept)
  · exact List.mem_append_right _ retained

/-- Another scope around the same holders, with nothing on it that was not alive before. -/
theorem Sound.rescoped (sound : Sound ledger m) {s : Scope} {others : List Naming}
    (scope : s = .numberingEach others) (once : (values others).Nodup)
    (living : ∀ v ∈ values others, v ∈ m.alive) : Sound others { m with scope := s } := by
  subst scope
  refine ⟨rfl, once, sound.apart.of_subset ?_⟩
  exact List.append_subset.mpr ⟨List.subset_append_left _ _, living⟩

theorem Sound.interned (sound : Sound ledger m) {n : Naming} (handed : n.value ∈ m.held) :
    Sound (record ledger n) { m with scope := (m.scope.intern n.dialect n.value).2 } := by
  have after : (m.scope.intern n.dialect n.value).2 = .numberingEach (record ledger n) := by
    rw [sound.scope, Scope.intern_numberingEach sound.once]
  refine sound.rescoped after ?_ fun v listed => ?_
  · rw [values_record]
    exact nodup_enrollAll sound.once [n.value]
  · rw [values_record] at listed
    rcases mem_enroll.mp listed with earlier | rfl
    · exact sound.alive_of_listed earlier
    · exact List.mem_append_left _ handed

theorem Sound.rolledBack (sound : Sound ledger m) (checkpoint : Nat) :
    Sound (ledger.take checkpoint) { m with scope := m.scope.rollback checkpoint } := by
  have after : m.scope.rollback checkpoint = .numberingEach (ledger.take checkpoint) := by
    rw [sound.scope, Scope.rollback_numberingEach]
  have fewer : (values (ledger.take checkpoint)).Sublist (values ledger) :=
    (List.take_sublist checkpoint ledger).map _
  refine sound.rescoped after (sound.once.sublist fewer) fun v listed => ?_
  exact sound.alive_of_listed (fewer.subset listed)

theorem Reached.sound (reached : Reached ledger m) : Sound ledger m := by
  induction reached with
  | start => exact ⟨rfl, List.nodup_nil, fun v first => absurd first List.not_mem_nil⟩
  | made _ _ free ih => exact ih.made free
  | released _ v ih => exact ih.released v
  | interned _ _ handed ih => exact ih.interned handed
  | rolledBack _ checkpoint ih => exact ih.rolledBack checkpoint

/-! ### What a scope holds -/

namespace Sound

variable (sound : Sound ledger m)

include sound

theorem held {known : Interned} (member : known ∈ m.scope.interned) :
    known.value ∈ m.scope.retained := by
  rw [sound.scope] at member ⊢
  exact Scope.value_mem member

theorem at?_eq {v : Value} (living : v ∈ m.alive) : m.scope.at? v.key = m.scope.find? v := by
  have alike : ∀ known ∈ m.scope.interned,
      decide (known.value.key = v.key) = decide (known.value = v) := by
    -- What the scope has numbered it holds, so that the place was not free for `v`.
    intro known member
    have alive : known.value ∈ m.alive := List.mem_append_right _ (sound.held member)
    exact decide_eq_decide.mpr ⟨sound.apart _ alive v living, congrArg Value.key⟩
  rw [Scope.at?, Scope.find?, List.find?_congr alike]

theorem coherent : m.scope.Coherent where
  ordinals := by
    have numbers : m.scope.interned.map (·.parameter.ordinal) =
        List.range' 1 m.scope.issued := by
      rw [sound.scope, Scope.numberingEach, List.map_map, ← List.zipIdx_map_snd 1 ledger]
      rfl
    rw [numbers]
  length := by
    rw [sound.scope]
    exact List.length_map _
  numbered := by
    intro i v retained
    have alive : v ∈ m.alive := List.mem_append_right _ (List.mem_of_getElem? retained)
    have there : (values ledger)[i]? = some v := by
      rw [sound.scope] at retained
      exact retained
    rw [values, List.getElem?_map, Option.map_eq_some_iff] at there
    obtain ⟨n, listed, rfl⟩ := there
    refine ⟨(n.entry (i + 1)).parameter, ?_, rfl, rfl⟩
    rw [sound.at?_eq alive, sound.scope, Scope.find?_of_listed sound.once listed]
  places := by
    have places : m.scope.interned.map (·.value.key) = (values ledger).map Value.key := by
      rw [sound.scope, ← Scope.values_numberingEach, List.map_map]
      rfl
    rw [places]
    refine List.Nodup.map_on (fun v first w second same => ?_) sound.once
    exact sound.apart v (sound.alive_of_listed first) w (sound.alive_of_listed second) same
  held := fun _ => sound.held

end Sound

/-- Whatever has come about around a scope: the parameters have the numbers from 1 on, and the one
with a number belongs to the value that is retained at that position, at whose place it is found. To
go by places alone never takes a value that is alive for another. The scope is what comes of
interning the retained values one after another, and what it goes back to in a rollback is what
comes of interning those that survive. -/
theorem survivors_interned (reached : m.Reached ledger) :
    m.scope.Coherent ∧ (∀ v ∈ m.alive, m.scope.at? v.key = m.scope.find? v) ∧
      m.scope = .interning ledger ∧ m.scope.retained = values ledger ∧
      ∀ checkpoint, m.scope.rollback checkpoint = .interning (ledger.take checkpoint) := by
  have sound := reached.sound
  have replayed : ∀ {ledger : List Naming} {m : Memory}, Sound ledger m →
      m.scope = .interning ledger := by
    intro ledger m sound
    rw [sound.scope, Scope.interning_eq sound.once]
  refine ⟨sound.coherent, fun v living => sound.at?_eq living, replayed sound, ?_, ?_⟩
  · rw [sound.scope, Scope.numberingEach]
  · intro checkpoint
    exact replayed (sound.rolledBack checkpoint)

/-- A value is rolled back and gone, and `heir` takes its place in memory and its number. The last
rollback is to a checkpoint from before that, when the number was the other value's. -/
theorem survivors_interned_reusing :
    let kept : Value := ⟨1, .int 1⟩
    let heir : Value := ⟨2, .text "x"⟩
    let late : Value := ⟨3, .int 1⟩
    let d : Dialect := .custom { parameterPrefix := ":" }
    ∃ m : Memory, m.Reached [⟨.generic, kept⟩, ⟨d, heir⟩] ∧ m.alive ⊆ [kept, heir, late] ∧
      m.scope.retained = [kept, heir] ∧ m.scope.at? 2 = some ⟨":2", 2, .text "x"⟩ ∧
      m.scope.rollback 1 = .interning [⟨.generic, kept⟩] := by
  intro kept heir late d
  let lost : Value := ⟨2, .int 2⟩
  have both : Reached [⟨.generic, kept⟩, ⟨.generic, lost⟩]
      ⟨[lost, kept], .interning [⟨.generic, kept⟩, ⟨.generic, lost⟩]⟩ :=
    .interned (.interned (.made (.made .start kept (by decide)) lost (by decide))
      ⟨.generic, kept⟩ (by decide)) ⟨.generic, lost⟩ (by decide)
  have gone : Reached [⟨.generic, kept⟩] ⟨[kept], .interning [⟨.generic, kept⟩]⟩ :=
    .released (.rolledBack both 1) lost
  have last : Reached [⟨.generic, kept⟩, ⟨d, heir⟩]
      ⟨[late, heir, kept], .interning [⟨.generic, kept⟩, ⟨d, heir⟩]⟩ :=
    .rolledBack (.interned (.made (.interned (.made gone heir (by decide))
      ⟨d, heir⟩ (by decide)) late (by decide)) ⟨.generic, late⟩ (by decide)) 2
  obtain ⟨-, places, -, retained, undone⟩ := survivors_interned last
  refine ⟨_, last, by decide, retained, ?_, undone 1⟩
  rw [places heir (by decide)]
  decide +kernel

end Memory

end SqlBatch
