import Mathlib.Data.List.Forall2
import SqlBatch.Proofs.Render.Pass

/-!
# Alike layouts

Layouts that differ only in the values that they bind. As long as related values stand for each
other and for no third one, a pass writes the same for both: `alike_render`.
-/
namespace SqlBatch

variable {R : Value → Value → Prop}

/-- The same piece, or two placeholders of related values. -/
inductive Piece.Alike (R : Value → Value → Prop) : Piece → Piece → Prop
  | placeholder {v w : Value} (related : R v w) : Alike R (.placeholder v) (.placeholder w)
  | same (piece : Piece) (plain : piece.value? = none) : Alike R piece piece

abbrev Layout.Alike (R : Value → Value → Prop) : Layout → Layout → Prop :=
  List.Forall₂ (Piece.Alike R)

/-! ### Alike layouts from alike parts -/

namespace Layout

variable {a b : Layout}

theorem alike_self {layout : Layout} (own : ∀ v ∈ layout.bound, R v v) :
    Layout.Alike R layout layout := by
  refine List.forall₂_same.mpr fun piece member => ?_
  cases piece with
  | placeholder v => exact .placeholder (own v (List.mem_filterMap.mpr ⟨_, member, rfl⟩))
  | _ => exact .same _ rfl

theorem alike_plain {layout : Layout} (plain : layout.bound = []) :
    Layout.Alike R layout layout := by
  refine alike_self fun v member => ?_
  rw [plain] at member
  cases member

theorem alike_text (s : String) (inner : Layout.Alike R a b) :
    Layout.Alike R (.text s :: a) (.text s :: b) := .cons (.same _ rfl) inner

theorem alike_identifier (name : String) (inner : Layout.Alike R a b) :
    Layout.Alike R (.identifier name :: a) (.identifier name :: b) := .cons (.same _ rfl) inner

theorem alike_append {c e : Layout} (first : Layout.Alike R a b) (second : Layout.Alike R c e) :
    Layout.Alike R (a ++ c) (b ++ e) := List.rel_append first second

theorem alike_separated (separator : String) {as bs : List Layout}
    (parts : List.Forall₂ (Layout.Alike R) as bs) :
    Layout.Alike R (separated separator as) (separated separator bs) := by
  cases parts with
  | nil => exact .nil
  | cons first rest =>
    have later := List.rel_flatMap rest fun _ _ part => alike_text separator part
    exact alike_append first later

theorem alike_parenthesized (inner : Layout.Alike R a b) :
    Layout.Alike R (parenthesized a) (parenthesized b) :=
  alike_text "(" (alike_append inner (alike_plain rfl))

theorem alike_ite (c : Prop) [Decidable c] {a' b' : Layout} (holds : Layout.Alike R a b)
    (fails : Layout.Alike R a' b') :
    Layout.Alike R (if c then a else a') (if c then b else b') := by
  split
  · exact holds
  · exact fails

theorem alike_parenthesizedIf (wanted : Bool) (inner : Layout.Alike R a b) :
    Layout.Alike R (parenthesizedIf wanted a) (parenthesizedIf wanted b) :=
  alike_ite _ (alike_parenthesized inner) inner

theorem alike_clause (keyword : String) {a b : Option Layout}
    (inner : Option.Rel (Layout.Alike R) a b) :
    Layout.Alike R (clause keyword a) (clause keyword b) := by
  cases inner with
  | none => exact .nil
  | some inner => exact alike_text keyword inner

/-! ### What alike layouts have in common -/

theorem failure?_eq (alike : Layout.Alike R a b) : a.failure? = b.failure? := by
  induction alike with
  | nil => rfl
  | @cons first _ _ _ piece _ ih =>
    cases piece with
    | placeholder => exact ih
    | same =>
      cases first with
      | failure e => rfl
      | _ => exact ih

theorem endings_eq (alike : Layout.Alike R a b) : a.endings = b.endings := by
  induction alike with
  | nil => rfl
  | cons piece _ ih =>
    rw [endings_cons, endings_cons, ih]
    cases piece with
    | placeholder => simp
    | same => rfl

theorem alike_bound (alike : Layout.Alike R a b) : List.Forall₂ R a.bound b.bound := by
  induction alike with
  | nil => exact .nil
  | cons piece _ ih =>
    rw [bound_cons, bound_cons]
    cases piece with
    | placeholder related => exact .cons related ih
    | same piece plain => rwa [plain]

end Layout

/-! ### Rolls of related values -/

section

variable {roll roll' vs vs' : List Value} {v v' : Value}

theorem forall₂_enroll (pairs : Relator.BiUnique R) (rolls : List.Forall₂ R roll roll')
    (related : R v v') : List.Forall₂ R (enroll roll v) (enroll roll' v') := by
  have member : v ∈ roll ↔ v' ∈ roll' := List.rel_mem pairs related rolls
  unfold enroll
  by_cases known : v ∈ roll
  · rwa [if_pos known, if_pos (member.mp known)]
  · rw [if_neg known, if_neg (mt member.mpr known)]
    exact List.rel_append rolls (.cons related .nil)

theorem forall₂_enrollAll (pairs : Relator.BiUnique R) (rolls : List.Forall₂ R roll roll')
    (values : List.Forall₂ R vs vs') :
    List.Forall₂ R (enrollAll roll vs) (enrollAll roll' vs') := by
  induction values generalizing roll roll' with
  | nil => exact rolls
  | cons related _ ih => exact ih (forall₂_enroll pairs rolls related)

theorem idxOf_eq_idxOf (pairs : Relator.BiUnique R) (rolls : List.Forall₂ R roll roll')
    (related : R v v') : roll.idxOf v = roll'.idxOf v' := by
  induction rolls with
  | nil => rfl
  | @cons w w' rest rest' now _ ih =>
    have same : w = v ↔ w' = v' := by
      refine ⟨fun h => pairs.2 now (h ▸ related), fun h => pairs.1 now (h ▸ related)⟩
    rw [List.idxOf_cons, List.idxOf_cons, ih]
    simp only [beq_iff_eq, same, Bool.cond_eq_ite]

theorem textOn_eq (pairs : Relator.BiUnique R) (d : Dialect) (rolls : List.Forall₂ R roll roll')
    {a b : Layout} (alike : Layout.Alike R a b) : a.textOn d roll = b.textOn d roll' := by
  induction alike with
  | nil => rfl
  | @cons first _ _ _ piece _ ih =>
    rw [Layout.textOn, Layout.textOn, ih]
    cases piece with
    | placeholder related =>
      simp only [Piece.textOn, parameterOn, idxOf_eq_idxOf pairs rolls related]
    | same _ plain =>
      cases first with
      | placeholder v => cases plain
      | _ => rfl

end

/-! ### What a pass writes -/

/-- Two texts that cannot be told apart but by the contents of the values in their tables. -/
structure Rendered.Alike (R : Value → Value → Prop) (used used' : List Value)
    (r r' : Rendered) : Prop where
  sql : r.sql = r'.sql
  statements : r.statements = r'.statements
  names : r.parameters.names = r'.parameters.names
  ordinals : r.parameters.entries.map (·.ordinal) = r'.parameters.entries.map (·.ordinal)
  related : List.Forall₂ R used used'
  values : r.parameters.values = used.map (·.content)
  values' : r'.parameters.values = used'.map (·.content)

/-- Related values have the same places on their rolls, and so the same ordinals and names. -/
theorem alike_tableOn (pairs : Relator.BiUnique R) (d : Dialect) {roll roll' : List Value}
    (rolls : List.Forall₂ R roll roll') {used used' : List Value}
    (related : List.Forall₂ R used used') :
    (tableOn d roll used).names = (tableOn d roll' used').names ∧
      (tableOn d roll used).entries.map (·.ordinal) =
        (tableOn d roll' used').entries.map (·.ordinal) := by
  induction related with
  | nil => exact ⟨rfl, rfl⟩
  | cons now _ ih =>
    obtain ⟨names, ordinals⟩ := ih
    have place := idxOf_eq_idxOf pairs rolls now
    have name := congrArg (fun place => d.parameterName (place + 1)) place
    have ordinal := congrArg Nat.succ place
    exact ⟨List.cons_eq_cons.mpr ⟨name, names⟩, List.cons_eq_cons.mpr ⟨ordinal, ordinals⟩⟩

theorem values_tableOn (d : Dialect) (roll used : List Value) :
    (tableOn d roll used).values = used.map (·.content) := by
  simp only [tableOn, Parameters.values, List.map_map]
  rfl

theorem alike_rendering (pairs : Relator.BiUnique R) (d : Dialect) {a b : Layout}
    (alike : Layout.Alike R a b) :
    Rendered.Alike R (enrollAll [] a.bound) (enrollAll [] b.bound) (a.rendering d [])
      (b.rendering d []) := by
  have rolls := forall₂_enrollAll pairs .nil (Layout.alike_bound alike)
  obtain ⟨names, ordinals⟩ := alike_tableOn pairs d rolls rolls
  exact {
    sql := textOn_eq pairs d rolls alike
    statements := Layout.endings_eq alike
    names
    ordinals
    related := rolls
    values := values_tableOn d _ _
    values' := values_tableOn d _ _ }

/-- What becomes of two alike layouts: the same error, or texts that only contents tell apart. -/
theorem alike_render (pairs : Relator.BiUnique R) (d : Dialect) {a b : Layout}
    (alike : Layout.Alike R a b) :
    (∃ e, a.render d = .error e ∧ b.render d = .error e) ∨
      ∃ r r', a.render d = .ok r ∧ b.render d = .ok r' ∧
        Rendered.Alike R (enrollAll [] a.bound) (enrollAll [] b.bound) r r' := by
  rw [Layout.render_eq, Layout.render_eq, Layout.failure?_eq alike]
  cases b.failure? with
  | some e => exact .inl ⟨e, rfl, rfl⟩
  | none => exact .inr ⟨_, _, rfl, rfl, alike_rendering pairs d alike⟩

end SqlBatch
