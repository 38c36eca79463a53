import Mathlib.Algebra.Ring.Nat
import Mathlib.Data.List.Induction
import SqlBatch.Proofs.Render.Pass
import SqlBatch.Render.Combine

/-!
# Merged tables

Tables that number their values on one roll merge into the table of that roll, if the dialect tells
numbers apart. Only a value that differs from itself collides: `append_rendering` says when.
-/
namespace SqlBatch

/-! ### Names -/

theorem injective_stem (stem : String) : Function.Injective fun n : Nat => stem ++ toString n := by
  intro m n same
  have digits : Nat.toDigits 10 m = Nat.toDigits 10 n := by
    have texts := (String.append_right_inj stem).mp same
    simpa [Nat.toString_eq_ofList_toDigits] using congrArg String.toList texts
  calc
    m = Nat.ofDigitChars 10 (Nat.toDigits 10 m) 0 := Nat.ofDigitChars_ten_toDigits.symm
    _ = Nat.ofDigitChars 10 (Nat.toDigits 10 n) 0 := by rw [digits]
    _ = n := Nat.ofDigitChars_ten_toDigits

theorem injective_generic : Function.Injective Dialect.generic.parameterName := injective_stem "@P"

/-! ### Values that differ from themselves -/

def SqlValue.isNaN : SqlValue → Bool
  | .float x => x.isNaN
  | _ => false

theorem SqlValue.agrees_self (x : SqlValue) : x.agrees x = !x.isNaN := by
  cases x with
  | float x => cases h : x.isNaN <;> simp [agrees, isNaN, Binary64.agrees, h]
  | _ => simp [agrees, isNaN]

/-- The first value that is known already and differs from itself. -/
def clash? (known vs : List Value) : Option Value :=
  vs.find? fun v => decide (v ∈ known) && v.content.isNaN

theorem clash?_cons (known : List Value) (v : Value) (rest : List Value) :
    clash? known (v :: rest) =
      if v ∈ known ∧ v.content.isNaN then some v else clash? known rest := by
  rw [clash?, List.find?_cons, clash?]
  by_cases member : v ∈ known <;> cases v.content.isNaN <;> simp [member]

theorem clash?_enroll {known rest : List Value} {v : Value} (absent : v ∉ rest) :
    clash? (enroll known v) rest = clash? known rest := by
  induction rest with
  | nil => rfl
  | cons w others ih =>
    obtain ⟨other, later⟩ := List.ne_and_not_mem_of_not_mem_cons absent
    have same : w ∈ enroll known v ↔ w ∈ known := by simp [mem_enroll, other.symm]
    simp only [clash?_cons, same, ih later]

theorem clash?_enrollAll (known vs : List Value) :
    clash? known (enrollAll [] vs) = clash? known vs := by
  rw [clash?, find?_enrollAll, clash?]
  rfl

theorem mem_of_clash? {known vs : List Value} {v : Value} (found : clash? known vs = some v) :
    v ∈ known ∧ v ∈ vs := by
  have holds := List.find?_some found
  have member := List.mem_of_find?_eq_some found
  simp only [Bool.and_eq_true, decide_eq_true_eq] at holds
  exact ⟨holds.1, member⟩

/-! ### Tables -/

section

variable {d : Dialect} {roll : List Value}

/-- A name is found in a table only under the value that it was made for. -/
theorem find?_tableOn (names : Function.Injective d.parameterName) {us : List Value}
    (inside : us ⊆ roll) (v : Value) :
    (tableOn d roll us).entries.find? (·.name = (parameterOn d roll v).name) =
      if v ∈ us then some (parameterOn d roll v) else none := by
  have only : ∀ u ∈ us, decide ((parameterOn d roll u).name = (parameterOn d roll v).name) = true ↔
      u = v := by
    intro u member
    refine decide_eq_true_iff.trans ⟨fun equal => ?_, fun equal => by rw [equal]⟩
    exact idxOf_inj (inside member) (Nat.succ.inj (names equal))
  rw [tableOn, List.find?_map, Function.comp_def, find?_only only]
  split <;> rfl

theorem absorb_tableOn (names : Function.Injective d.parameterName) {us vs : List Value}
    (first : us ⊆ roll) (second : vs ⊆ roll) (distinct : vs.Nodup) :
    match clash? us vs with
    | some v =>
      (Parameters.absorb (tableOn d roll us).entries (tableOn d roll vs).entries).2 =
        .error (.parameterCollision (parameterOn d roll v).name)
    | none =>
      Parameters.absorb (tableOn d roll us).entries (tableOn d roll vs).entries =
        ((tableOn d roll (enrollAll us vs)).entries, .ok ()) := by
  induction vs generalizing us with
  | nil => rfl
  | cons v rest ih =>
    obtain ⟨new, distinct⟩ := List.nodup_cons.mp distinct
    obtain ⟨member, second⟩ := List.cons_subset.mp second
    have entries : (tableOn d roll (v :: rest)).entries =
        parameterOn d roll v :: (tableOn d roll rest).entries := rfl
    rw [clash?_cons, entries, enrollAll_cons, Parameters.absorb, find?_tableOn names first]
    by_cases known : v ∈ us
    · have agrees : (parameterOn d roll v).value.agrees (parameterOn d roll v).value =
          !v.content.isNaN := SqlValue.agrees_self _
      simp only [if_pos known, agrees, enroll_of_mem known]
      cases v.content.isNaN with
      | true => simp [known]
      | false => simpa [known] using ih first second distinct
    · have longer : (tableOn d roll us).entries ++ [parameterOn d roll v] =
          (tableOn d roll (enroll us v)).entries := by simp [tableOn, enroll, known]
      have inside : enroll us v ⊆ roll := by
        intro w either
        rcases mem_enroll.mp either with earlier | rfl
        · exact first earlier
        · exact member
      simp only [if_neg known, longer]
      have later := ih inside second distinct
      rw [clash?_enroll new] at later
      simpa [known] using later

theorem merge_tableOn (names : Function.Injective d.parameterName) {us vs : List Value}
    (first : us ⊆ roll) (second : vs ⊆ roll) (distinct : vs.Nodup) :
    match clash? us vs with
    | some v =>
      ((tableOn d roll us).merge (tableOn d roll vs)).2 =
        .error (.parameterCollision (parameterOn d roll v).name)
    | none =>
      (tableOn d roll us).merge (tableOn d roll vs) =
        (tableOn d roll (enrollAll us vs), .ok ()) := by
  have absorbed := absorb_tableOn names first second distinct
  cases found : clash? us vs with
  | some v =>
    rw [found] at absorbed
    exact absorbed
  | none =>
    rw [found] at absorbed
    simp only [Parameters.merge, absorbed]

end

/-! ### Texts -/

/-- Texts on lines of their own; a line break goes only behind something. -/
def joinLines (texts : List String) : String :=
  texts.foldl (fun sql text => (if sql.isEmpty then sql else sql ++ "\n") ++ text) ""

theorem joinLines_concat (texts : List String) (text : String) :
    joinLines (texts ++ [text]) =
      (if (joinLines texts).isEmpty then joinLines texts else joinLines texts ++ "\n") ++ text :=
  List.foldl_concat ..

theorem intercalate_ne_empty {separator first : String} (filled : first ≠ "")
    (rest : List String) : separator.intercalate (first :: rest) ≠ "" := by
  cases rest with
  | nil => simpa using filled
  | cons second others => simp [filled]

/-- Line breaks stand between all texts but the empty ones in front. -/
theorem joinLines_eq_dropWhile (texts : List String) :
    joinLines texts = "\n".intercalate (texts.dropWhile (· = "")) := by
  induction texts using List.reverseRecOn with
  | nil => rfl
  | append_singleton before last ih =>
    rw [joinLines_concat, ih, List.dropWhile_append]
    cases split : before.dropWhile (· = "") with
    | nil => by_cases empty : last = "" <;> simp [empty]
    | cons first rest =>
      have filled : first ≠ "" := by
        simpa [split] using @List.head_dropWhile_not _ (· = "") before (by simp [split])
      have nonempty : ("\n".intercalate (first :: rest)).isEmpty = false := by
        simpa using intercalate_ne_empty filled rest
      rw [nonempty, List.isEmpty_cons, if_neg Bool.false_ne_true, if_neg Bool.false_ne_true,
        String.intercalate_append_of_ne_nil (List.cons_ne_nil first rest) (List.cons_ne_nil last [])]
      simp

/-- Where no text is empty, line breaks stand between all of them. -/
theorem joinLines_eq_intercalate {texts : List String} (filled : ∀ text ∈ texts, text ≠ "") :
    joinLines texts = "\n".intercalate texts := by
  rw [joinLines_eq_dropWhile]
  cases texts with
  | nil => rfl
  | cons first rest =>
    rw [List.dropWhile_cons_of_neg (by simpa using filled first List.mem_cons_self)]

theorem joinLines_empty_cons (rest : List String) : joinLines ("" :: rest) = joinLines rest := by
  simp [joinLines_eq_dropWhile]

theorem length_joinLines_le (texts : List String) :
    (joinLines texts).length ≤ ("\n".intercalate texts).length := by
  induction texts with
  | nil => exact Nat.le_refl _
  | cons first rest ih =>
    by_cases empty : first = ""
    · subst empty
      rw [joinLines_empty_cons]
      cases rest with
      | nil => exact ih
      | cons second others =>
        rw [String.intercalate_cons_cons, String.empty_append, String.length_append]
        omega
    · simp [joinLines_eq_dropWhile, empty]

/-- A line break is missing just where an empty text stands in front of others. -/
theorem joinLines_eq_intercalate_iff (texts : List String) :
    joinLines texts = "\n".intercalate texts ↔ texts.length ≤ 1 ∨ texts.head? ≠ some "" := by
  cases texts with
  | nil => simp [joinLines]
  | cons first rest =>
    by_cases empty : first = ""
    · subst empty
      rw [joinLines_empty_cons]
      cases rest with
      | nil => simp [joinLines]
      | cons second others =>
        have differ : joinLines (second :: others) ≠
            "\n" ++ "\n".intercalate (second :: others) := by
          intro same
          have shorter := length_joinLines_le (second :: others)
          rw [same, String.length_append] at shorter
          have one : "\n".length = 1 := rfl
          omega
        simp [differ]
    · simp [joinLines_eq_dropWhile, empty]

namespace Layout

theorem separated_cons_cons (separator : String) (first second : Layout) (rest : List Layout) :
    separated separator (first :: second :: rest) =
      first ++ .text separator :: separated separator (second :: rest) := by
  simp [separated]

theorem textOn_separated (d : Dialect) (roll : List Value) (separator : String)
    (layouts : List Layout) :
    textOn d roll (separated separator layouts) =
      separator.intercalate (layouts.map (textOn d roll)) := by
  induction layouts with
  | nil => rfl
  | cons first rest ih =>
    cases rest with
    | nil => simp [separated]
    | cons second others =>
      simp only [separated_cons_cons, textOn_append, textOn, ih, Piece.textOn, List.map_cons,
        String.intercalate_cons_cons, String.append_assoc]

theorem bound_separated (separator : String) (layouts : List Layout) :
    bound (separated separator layouts) = bound layouts.flatten := by
  induction layouts with
  | nil => rfl
  | cons first rest ih =>
    cases rest with
    | nil => simp [separated]
    | cons second others =>
      rw [separated_cons_cons, bound_append, bound_cons, ih, @List.flatten_cons _ first, bound_append]
      rfl

theorem endings_separated (separator : String) (layouts : List Layout) :
    endings (separated separator layouts) = (layouts.map endings).sum := by
  induction layouts with
  | nil => rfl
  | cons first rest ih =>
    cases rest with
    | nil => simp [separated]
    | cons second others =>
      rw [separated_cons_cons, endings_append, endings_cons, ih, List.map_cons, List.sum_cons]
      simp

theorem failure?_separated {separator : String} {layouts : List Layout}
    (whole : ∀ layout ∈ layouts, failure? layout = none) :
    failure? (separated separator layouts) = none := by
  induction layouts with
  | nil => rfl
  | cons first rest ih =>
    have later := ih fun layout member => whole layout (List.mem_cons_of_mem _ member)
    have now := whole first List.mem_cons_self
    cases rest with
    | nil => simpa [separated] using now
    | cons second others =>
      rw [separated_cons_cons, failure?_append, now]
      exact later

/-- A text that ends a statement is not empty if the end of a statement is something. -/
theorem textOn_ne_empty {d : Dialect} (ends : d.terminator ≠ "") {layout : Layout}
    (some : 0 < layout.endings) (roll : List Value) : layout.textOn d roll ≠ "" := by
  obtain ⟨before, behind, rfl⟩ := List.append_of_mem (List.count_pos_iff.mp some)
  simp [textOn_append, textOn, Piece.textOn, ends]

end Layout

namespace Combined

/-- A pass over the numbers of a text is taken into it, unless it uses a number that differs from
itself once more. -/
theorem append_rendering {c : Combined} {d : Dialect} {roll : List Value}
    (names : Function.Injective d.parameterName) (table : c.parameters = tableOn d roll roll)
    (layout : Layout) :
    c.append (layout.rendering d roll) =
      match clash? roll layout.bound with
      | some v => .error (.parameterCollision (parameterOn d roll v).name)
      | none =>
        .ok { sql := (if c.sql.isEmpty then c.sql else c.sql ++ "\n") ++
                layout.textOn d (enrollAll roll layout.bound)
              parameters := tableOn d (enrollAll roll layout.bound) (enrollAll roll layout.bound)
              statements := c.statements + layout.endings
              parts := c.parts + 1 } := by
  have inside : enrollAll [] layout.bound ⊆ enrollAll roll layout.bound := by
    intro v member
    rcases mem_enrollAll.mp member with nothing | bound
    · cases nothing
    · exact values_subset_enrollAll roll layout.bound bound
  have before := subset_enrollAll roll layout.bound
  have merged := merge_tableOn names before inside (nodup_enrollAll List.nodup_nil layout.bound)
  rw [clash?_enrollAll, enrollAll_enrollAll, enrollAll_nil, tableOn_enrollAll (List.Subset.refl roll),
    ← table] at merged
  unfold append
  cases found : clash? roll layout.bound with
  | some v =>
    simp only [found, parameterOn_enrollAll (mem_of_clash? found).1] at merged
    rcases outcome : c.parameters.merge (layout.rendering d roll).parameters with ⟨left, result⟩
    rw [show result = _ from (congrArg Prod.snd outcome).symm.trans merged]
  | none =>
    simp only [found] at merged
    rw [show c.parameters.merge (layout.rendering d roll).parameters = _ from merged]
    rfl

/-- A text that spells some layouts, all of which end statements and none of which fails. -/
structure Spells (d : Dialect) (layouts : List Layout) (c : Combined) : Prop where
  whole : ∀ layout ∈ layouts, layout.failure? = none
  ending : ∀ layout ∈ layouts, 0 < layout.endings
  sql : c.sql = joinLines (layouts.map (Layout.textOn d (rollOf layouts)))
  parameters : c.parameters = tableOn d (rollOf layouts) (rollOf layouts)
  statements : c.statements = (layouts.map Layout.endings).sum

theorem spells_empty (d : Dialect) : Spells d [] {} :=
  ⟨List.forall_mem_nil _, List.forall_mem_nil _, rfl, rfl, rfl⟩

/-- By `append_rendering`, and because the layouts before look the same under the longer roll. -/
theorem Spells.append {d : Dialect} {layouts : List Layout} {c after : Combined}
    (names : Function.Injective d.parameterName) (spells : c.Spells d layouts) {layout : Layout}
    (whole : layout.failure? = none) (ending : 0 < layout.endings)
    (h : c.append (layout.rendering d (rollOf layouts)) = .ok after) :
    after.Spells d (layouts ++ [layout]) := by
  rw [append_rendering names spells.parameters] at h
  cases clash : clash? (rollOf layouts) layout.bound with
  | some v =>
    rw [clash] at h
    cases h
  | none =>
    rw [clash] at h
    cases h
    have earlier : layouts.map (Layout.textOn d (rollOf (layouts ++ [layout]))) =
        layouts.map (Layout.textOn d (rollOf layouts)) := by
      refine List.map_congr_left fun other member => ?_
      rw [rollOf_concat, Layout.textOn_enrollAll (bound_subset_rollOf member)]
    refine ⟨?_, ?_, ?_, ?_, ?_⟩
    · exact List.forall_mem_append.mpr ⟨spells.whole, by simpa using whole⟩
    · exact List.forall_mem_append.mpr ⟨spells.ending, by simpa using ending⟩
    · rw [List.map_append, earlier, List.map_singleton, joinLines_concat, ← spells.sql, rollOf_concat]
    · rw [rollOf_concat]
    · simp [spells.statements]

/-- Such a text is what a single pass over the layouts writes. -/
theorem Spells.finish {d : Dialect} {layouts : List Layout} {c : Combined}
    (spells : c.Spells d layouts) (ends : d.terminator ≠ "") :
    (Layout.separated "\n" layouts).render d = .ok c.finish := by
  have filled : ∀ text ∈ layouts.map (Layout.textOn d (rollOf layouts)), text ≠ "" := by
    intro text member
    obtain ⟨layout, inside, rfl⟩ := List.mem_map.mp member
    exact Layout.textOn_ne_empty ends (spells.ending layout inside) _
  rw [Layout.render_eq, Layout.failure?_separated spells.whole, Combined.finish, spells.sql,
    spells.parameters, spells.statements, joinLines_eq_intercalate filled]
  simp only [Layout.rendering, Layout.bound_separated, Layout.textOn_separated,
    Layout.endings_separated, rollOf]

end Combined
end SqlBatch
