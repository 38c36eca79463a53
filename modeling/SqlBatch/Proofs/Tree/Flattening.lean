import Mathlib.Logic.Relation
import SqlBatch.Proofs.Tree.Logic
import SqlBatch.Render.Context

/-!
# Groups inside groups

A group that stands among members of its own junction, with no parentheses around it, could give
way to its members. `grouping_does_not_show` says that nobody who renders a condition would notice.
-/
namespace SqlBatch

variable {d : Dialect} {junction : Junction}

/-! ### Members that give way -/

namespace Condition

/-- The members of a pair or a group that is joined as the group around it and asks for no
parentheses. A group without members is a condition of its own. -/
def openMembers? (junction : Junction) : Condition → Option (List Condition)
  | .pair left right inner false => if inner = junction then some [left, right] else none
  | .group (c :: rest) inner false => if inner = junction then some (c :: rest) else none
  | _ => none

/-- One of the members is replaced, in its place, by its own. -/
inductive Unfolds (junction : Junction) : List Condition → List Condition → Prop
  | member {c : Condition} {inner : List Condition} (before after : List Condition)
      (opens : c.openMembers? junction = some inner) :
      Unfolds junction (before ++ c :: after) (before ++ inner ++ after)

/-- What some members come to when they are replaced for as long as one of them can be. -/
structure Flattening (junction : Junction) (members flat : List Condition) : Prop where
  reached : Relation.ReflTransGen (Unfolds junction) members flat
  done : ∀ c ∈ flat, c.openMembers? junction = none

mutual

def flatten (junction : Junction) : Condition → List Condition
  | .pair left right inner false =>
    if inner = junction then left.flatten junction ++ right.flatten junction
    else [.pair left right inner false]
  | .group (c :: rest) inner false =>
    if inner = junction then c.flatten junction ++ flattenAll junction rest
    else [.group (c :: rest) inner false]
  | c => [c]

def flattenAll (junction : Junction) : List Condition → List Condition
  | [] => []
  | c :: rest => c.flatten junction ++ flattenAll junction rest

end

variable {c : Condition} {inner members flat : List Condition}

theorem openMembers?_eq_some (opens : c.openMembers? junction = some inner) :
    (∃ left right, c = .pair left right junction false ∧ inner = [left, right]) ∨
      ∃ first rest, c = .group (first :: rest) junction false ∧ inner = first :: rest := by
  unfold openMembers? at opens
  split at opens
  · obtain ⟨rfl, same⟩ := Option.ite_none_right_eq_some.mp opens
    exact .inl ⟨_, _, rfl, (Option.some.inj same).symm⟩
  · obtain ⟨rfl, same⟩ := Option.ite_none_right_eq_some.mp opens
    exact .inr ⟨_, _, rfl, (Option.some.inj same).symm⟩
  · cases opens

theorem flatten_of_opens (opens : c.openMembers? junction = some inner) :
    c.flatten junction = flattenAll junction inner := by
  rcases openMembers?_eq_some opens with ⟨left, right, rfl, rfl⟩ | ⟨first, rest, rfl, rfl⟩
  · simp only [flatten, flattenAll, if_true, List.append_nil]
  · simp only [flatten, flattenAll, if_true]

theorem flatten_of_closed (closed : c.openMembers? junction = none) :
    c.flatten junction = [c] := by
  unfold openMembers? at closed
  split at closed
  · rename_i left right other
    have apart : other ≠ junction := fun same => by rw [if_pos same] at closed; cases closed
    rw [flatten, if_neg apart]
  · rename_i first rest other
    have apart : other ≠ junction := fun same => by rw [if_pos same] at closed; cases closed
    rw [flatten, if_neg apart]
  · rw [flatten] <;> assumption

theorem flattenAll_append (before after : List Condition) :
    flattenAll junction (before ++ after) =
      flattenAll junction before ++ flattenAll junction after := by
  induction before with
  | nil => rfl
  | cons c rest ih => rw [List.cons_append, flattenAll, flattenAll, ih, List.append_assoc]

theorem sizeOf_lt_of_opens (opens : c.openMembers? junction = some inner) {member : Condition}
    (inside : member ∈ inner) : sizeOf member < sizeOf c := by
  have smaller := List.sizeOf_lt_of_mem inside
  rcases openMembers?_eq_some opens with ⟨left, right, rfl, rfl⟩ | ⟨first, rest, rfl, rfl⟩
  · rcases List.mem_cons.mp inside with rfl | last
    · simp only [pair.sizeOf_spec]
      omega
    · obtain rfl := List.mem_singleton.mp last
      simp only [pair.sizeOf_spec]
      omega
  · simp only [group.sizeOf_spec]
    omega

/-- What passes from the members that can give way to the condition holds of all conditions. -/
theorem fromOpenMembers {motive : Condition → Prop} (junction : Junction)
    (closed : ∀ c, c.openMembers? junction = none → motive c)
    (opens : ∀ c inner, c.openMembers? junction = some inner → (∀ member ∈ inner, motive member) →
      motive c) (c : Condition) : motive c :=
  match members : c.openMembers? junction with
  | none => closed c members
  | some inner => opens c inner members fun member inside =>
      have := sizeOf_lt_of_opens members inside
      fromOpenMembers junction closed opens member
termination_by sizeOf c

/-! ### The flattening -/

theorem unfolds_flattenAll_of (each : ∀ c ∈ members, ∀ before after : List Condition,
      Relation.ReflTransGen (Unfolds junction) (before ++ c :: after)
        (before ++ c.flatten junction ++ after)) (before after : List Condition) :
    Relation.ReflTransGen (Unfolds junction) (before ++ members ++ after)
      (before ++ flattenAll junction members ++ after) := by
  induction members generalizing before with
  | nil => exact .refl
  | cons c rest ih =>
    obtain ⟨here, others⟩ := List.forall_mem_cons.mp each
    have first := here before (rest ++ after)
    have later := ih others (before ++ c.flatten junction)
    rw [flattenAll]
    simp only [List.append_assoc, List.cons_append] at first later ⊢
    exact first.trans later

theorem unfolds_flatten (c : Condition) (before after : List Condition) :
    Relation.ReflTransGen (Unfolds junction) (before ++ c :: after)
      (before ++ c.flatten junction ++ after) := by
  induction c using fromOpenMembers junction generalizing before after with
  | closed c closed =>
    rw [flatten_of_closed closed, List.append_assoc]
    exact .refl
  | opens c inner opens ih =>
    rw [flatten_of_opens opens]
    exact .head (.member before after opens) (unfolds_flattenAll_of ih before after)

theorem closed_of_mem_flatten (c : Condition) :
    ∀ member ∈ c.flatten junction, member.openMembers? junction = none := by
  induction c using fromOpenMembers junction with
  | closed c closed =>
    rw [flatten_of_closed closed]
    exact List.forall_mem_singleton.mpr closed
  | opens c inner opens ih =>
    rw [flatten_of_opens opens]
    clear opens
    induction inner with
    | nil => exact List.forall_mem_nil _
    | cons first rest again =>
      obtain ⟨here, others⟩ := List.forall_mem_cons.mp ih
      exact List.forall_mem_append.mpr ⟨here, again others⟩

theorem flattening_flattenAll (members : List Condition) :
    Flattening junction members (flattenAll junction members) := by
  constructor
  · have each : ∀ c ∈ members, ∀ before after : List Condition,
        Relation.ReflTransGen (Unfolds junction) (before ++ c :: after)
          (before ++ c.flatten junction ++ after) := fun c _ => unfolds_flatten c
    have whole := unfolds_flattenAll_of each [] []
    simpa only [List.nil_append, List.append_nil] using whole
  · induction members with
    | nil => exact List.forall_mem_nil _
    | cons c rest ih => exact List.forall_mem_append.mpr ⟨closed_of_mem_flatten c, ih⟩

/-- A replacement does not change what all replacements come to. -/
theorem Unfolds.flattenAll_eq (unfolds : Unfolds junction members flat) :
    flattenAll junction members = flattenAll junction flat := by
  cases unfolds with
  | member before after opens =>
    rw [List.append_assoc, flattenAll_append, flattenAll_append, flattenAll_append, flattenAll,
      flatten_of_opens opens]

theorem flattenAll_of_closed (closed : ∀ c ∈ members, c.openMembers? junction = none) :
    flattenAll junction members = members := by
  induction members with
  | nil => rfl
  | cons c rest ih =>
    obtain ⟨here, others⟩ := List.forall_mem_cons.mp closed
    rw [flattenAll, flatten_of_closed here, ih others, List.singleton_append]

/-- Whatever is replaced first, there is one flattening. -/
theorem flattening_iff :
    Flattening junction members flat ↔ flat = flattenAll junction members := by
  constructor
  · rintro ⟨reached, done⟩
    have kept : flattenAll junction members = flattenAll junction flat := by
      clear done
      induction reached with
      | refl => rfl
      | tail earlier last ih => exact ih.trans last.flattenAll_eq
    rw [kept, flattenAll_of_closed done]
  · rintro rfl
    exact flattening_flattenAll members

/-! ### Layouts -/

end Condition

theorem Layout.separated_regroup (separator : String) (before after : List Layout)
    (first : Layout) (rest : List Layout) :
    separated separator (before ++ separated separator (first :: rest) :: after) =
      separated separator (before ++ first :: rest ++ after) := by
  cases before <;> simp [separated]

namespace Condition

variable {c : Condition} {inner members flat : List Condition}

/-- The layout of a member as it stands in a group. -/
def memberLayout (d : Dialect) (junction : Junction) (c : Condition) : Layout :=
  Layout.parenthesizedIf (c.needsParentheses junction) (c.layout d)

theorem layout_group_of_ne_nil (some : members ≠ []) :
    layout d (.group members junction false) =
      Layout.separated (" " ++ junction.keyword ++ " ")
        (members.map (memberLayout d junction)) := by
  have filled : (members.map (memberLayout d junction)).isEmpty = false := by
    simpa using some
  rw [layout, memberLayouts_eq_map]
  change junction.layout (members.map (memberLayout d junction)) = _
  unfold Junction.layout
  rw [filled]
  rfl

theorem layout_of_opens (opens : c.openMembers? junction = some inner) :
    c.layout d = layout d (.group inner junction false) := by
  rcases openMembers?_eq_some opens with ⟨left, right, rfl, rfl⟩ | ⟨first, rest, rfl, rfl⟩
  · exact layout_pair d left right junction false
  · rfl

theorem memberLayout_of_opens (opens : c.openMembers? junction = some inner) :
    memberLayout d junction c = layout d (.group inner junction false) := by
  have bare : c.needsParentheses junction = false := by
    rcases openMembers?_eq_some opens with ⟨left, right, rfl, rfl⟩ | ⟨first, rest, rfl, rfl⟩ <;>
      simp [needsParentheses, openJunction?]
  rw [memberLayout, bare, ← layout_of_opens opens]
  rfl

/-- The layouts of the inner members come between the same separators as those of the outer ones. -/
theorem Unfolds.layout_eq (unfolds : Unfolds junction members flat) :
    layout d (.group members junction false) = layout d (.group flat junction false) := by
  cases unfolds with
  | @member c inner before after opens =>
    obtain ⟨first, rest, rfl⟩ : ∃ first rest, inner = first :: rest := by
      rcases openMembers?_eq_some opens with ⟨left, right, -, rfl⟩ | ⟨first, rest, -, rfl⟩
      · exact ⟨_, _, rfl⟩
      · exact ⟨_, _, rfl⟩
    have grouped : memberLayout d junction c = Layout.separated (" " ++ junction.keyword ++ " ")
        (memberLayout d junction first :: rest.map (memberLayout d junction)) := by
      rw [memberLayout_of_opens opens, layout_group_of_ne_nil (List.cons_ne_nil first rest),
        List.map_cons]
    rw [layout_group_of_ne_nil (by simp), layout_group_of_ne_nil (by simp)]
    simp only [List.map_append, List.map_cons, grouped]
    exact Layout.separated_regroup ..

theorem layout_of_reached (reached : Relation.ReflTransGen (Unfolds junction) members flat) :
    layout d (.group members junction false) = layout d (.group flat junction false) := by
  induction reached with
  | refl => rfl
  | tail earlier last ih => exact ih.trans last.layout_eq

/-! ### Rendering -/

/-- Two conditions that come to the same text, table and scope, or to the same failure, wherever
they are rendered. -/
structure RendersAlike (c c' : Condition) : Prop where
  within : ∀ ctx : Context, ctx.emit (c.layout ctx.dialect) = ctx.emit (c'.layout ctx.dialect)
  alone : ∀ (d : Dialect) (scope : Scope),
    (c.layout d).renderIn d scope = (c'.layout d).renderIn d scope

theorem rendersAlike_of_layout {c c' : Condition} (same : ∀ d, c.layout d = c'.layout d) :
    RendersAlike c c' :=
  ⟨fun ctx => by rw [same], fun d scope => by rw [same]⟩

theorem rendersAlike_of_reached (opens : c.openMembers? junction = some members)
    (reached : Relation.ReflTransGen (Unfolds junction) members flat) :
    RendersAlike c (.group flat junction false) :=
  rendersAlike_of_layout fun _ => (layout_of_opens opens).trans (layout_of_reached reached)

theorem rendersAlike_left (junction : Junction) (a b c : Condition) :
    RendersAlike (.pair (.pair a b junction false) c junction false)
      (.group [a, b, c] junction false) := by
  have opens : openMembers? junction (.pair a b junction false) = some [a, b] := if_pos rfl
  exact rendersAlike_of_reached (if_pos rfl) (.single (.member [] [c] opens))

theorem rendersAlike_right (junction : Junction) (a b c : Condition) :
    RendersAlike (.pair a (.pair b c junction false) junction false)
      (.group [a, b, c] junction false) := by
  have opens : openMembers? junction (.pair b c junction false) = some [b, c] := if_pos rfl
  exact rendersAlike_of_reached (if_pos rfl) (.single (.member [a] [] opens))

/-- A condition renders as the one group of its flattening does, which is the same whatever is
replaced first. It does not matter from which side three conditions are joined. -/
theorem grouping_does_not_show :
    (∀ (junction : Junction) (c : Condition) (members : List Condition),
      c.openMembers? junction = some members →
        (∀ flat, Flattening junction members flat ↔ flat = flattenAll junction members) ∧
          RendersAlike c (.group (flattenAll junction members) junction false)) ∧
      ∀ a b c : Condition,
        RendersAlike ((a.and b).and c) (.group [a, b, c] .all false) ∧
          RendersAlike (a.and (b.and c)) (.group [a, b, c] .all false) ∧
          RendersAlike ((a.or b).or c) (.group [a, b, c] .any false) ∧
          RendersAlike (a.or (b.or c)) (.group [a, b, c] .any false) := by
  constructor
  · intro junction c members opens
    refine ⟨fun flat => flattening_iff, ?_⟩
    exact rendersAlike_of_reached opens (flattening_flattenAll members).reached
  · intro a b c
    exact ⟨rendersAlike_left .all a b c, rendersAlike_right .all a b c,
      rendersAlike_left .any a b c, rendersAlike_right .any a b c⟩

/-- Members that stay: a pair of the other junction, one with parentheses, an empty group. -/
theorem grouping_does_not_show_mixed :
    let raw (s : String) : Condition := .raw s
    let either := (raw "a").or (raw "b")
    let own := ((raw "c").and (raw "d")).nested
    let none : Condition := .group [] .all false
    let left := (Condition.group [raw "e", either] .all false).and none
    let right := (raw "f").and (own.and (raw "g"))
    openMembers? .all (left.and right) = some [left, right] ∧
      Flattening .all [left, right] [raw "e", either, none, raw "f", own, raw "g"] ∧
      RendersAlike (left.and right)
        (.group [raw "e", either, none, raw "f", own, raw "g"] .all false) := by
  intro raw either own none left right
  have opens : openMembers? .all (left.and right) = some [left, right] := rfl
  obtain ⟨flattening, alike⟩ := grouping_does_not_show.1 .all (left.and right) [left, right] opens
  have flat : flattenAll .all [left, right] = [raw "e", either, none, raw "f", own, raw "g"] := rfl
  rw [flat] at flattening alike
  exact ⟨opens, (flattening _).mpr rfl, alike⟩

end Condition
end SqlBatch
