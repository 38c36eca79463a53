import Mathlib.Data.List.Find
import Mathlib.Data.List.Infix
import SqlBatch.Proofs.Text.Digits
import SqlBatch.Tree.Layout

/-!
# Landmarks of a compound

Read from the outside, a compound is a sequence of members with set operators between them, and an
order or a page behind them. The reader counts parentheses and sees nothing of what is in them;
names, literals and placeholders are single pieces to it.
-/
namespace SqlBatch

/-- What can be seen of a compound outside of all parentheses. -/
inductive Landmark
  | ordering
  | paging
  /-- A set operator. -/
  | junction
  deriving DecidableEq

namespace Landmark

/-- The words that are seen, wherever they stand. -/
def signs : List (String × Landmark) :=
  [("ORDER", ordering), ("LIMIT", paging), ("OFFSET", paging), ("FETCH", paging),
    ("UNION", junction), ("INTERSECT", junction), ("EXCEPT", junction)]

/-- The landmark that a text begins with. -/
def at? (text : List Char) : Option Landmark :=
  (signs.find? fun entry => entry.1.toList.isPrefixOf text).map (·.2)

end Landmark

open Landmark

/-! ### The reader -/

/-- A text as the reader takes it: to SQL, small letters are as good as capitals. -/
def capitals (s : String) : List Char := s.toList.map Char.toUpper

/-- The landmarks of a text that begins in some parentheses, and how many are open behind it. -/
def survey (depth : Nat) : List Char → List Landmark × Nat
  | [] => ([], depth)
  | c :: rest =>
    let later := survey (if c = '(' then depth + 1 else if c = ')' then depth - 1 else depth) rest
    ((if depth = 0 then (at? (c :: rest)).toList else []) ++ later.1, later.2)

def Piece.survey (depth : Nat) : Piece → List Landmark × Nat
  | .text s => SqlBatch.survey depth (capitals s)
  | _ => ([], depth)

def Layout.survey (depth : Nat) : Layout → List Landmark × Nat
  | [] => ([], depth)
  | piece :: rest =>
    let here := piece.survey depth
    let later := survey here.2 rest
    (here.1 ++ later.1, later.2)

theorem Layout.survey_append (depth : Nat) (first second : Layout) :
    survey depth (first ++ second) =
      ((survey depth first).1 ++ (survey (survey depth first).2 second).1,
        (survey (survey depth first).2 second).2) := by
  induction first generalizing depth with
  | nil => rfl
  | cons piece rest ih => simp only [List.cons_append, survey, ih, List.append_assoc]

theorem capitals_append (s t : String) : capitals (s ++ t) = capitals s ++ capitals t := by
  rw [capitals, String.toList_append, List.map_append]
  rfl

/-! ### Ordinary characters -/

/-- A character that is in none of the words and no parenthesis. -/
def IsOrdinary (c : Char) : Prop := c ∉ '(' :: ')' :: signs.flatMap (·.1.toList)

instance (c : Char) : Decidable (IsOrdinary c) := inferInstanceAs (Decidable (c ∉ _))

instance (text : List Char) : Decidable (∀ c ∈ text, IsOrdinary c) :=
  List.decidableBAll IsOrdinary text

theorem toUpper_digit {c : Char} (digit : c.isDigit = true) : c.toUpper = c := by
  simp only [Char.isDigit, Bool.and_eq_true, decide_eq_true_eq] at digit
  unfold Char.toUpper
  rw [dif_neg]
  rintro ⟨small, -⟩
  exact absurd (UInt32.le_trans small digit.2) (by decide)

theorem isOrdinary_digit {c : Char} (digit : c.isDigit = true) : IsOrdinary c := by
  have others : ('(' :: ')' :: signs.flatMap (·.1.toList)).all fun special =>
      !special.isDigit := by decide
  intro member
  have plain := List.all_eq_true.mp others c member
  rw [digit] at plain
  cases plain

namespace Landmark

theorem not_ordinary_of_mem {entry : String × Landmark} (listed : entry ∈ signs) {c : Char}
    (member : c ∈ entry.1.toList) : ¬IsOrdinary c := fun ordinary =>
  ordinary (List.mem_cons_of_mem _ (List.mem_cons_of_mem _
    (List.mem_flatMap.mpr ⟨entry, listed, member⟩)))

theorem not_ordinary_of_at? {c : Char} {rest : List Char} {mark : Landmark}
    (seen : at? (c :: rest) = some mark) : ¬IsOrdinary c := by
  obtain ⟨entry, found, -⟩ := Option.map_eq_some_iff.mp seen
  have listed := List.mem_of_find?_eq_some found
  have fits : entry.1.toList.isPrefixOf (c :: rest) = true := by
    simpa using List.find?_some found
  have filled : ∀ entry ∈ signs, entry.1.toList ≠ [] := by decide
  obtain ⟨first, word, text⟩ := List.exists_cons_of_ne_nil (filled entry listed)
  rw [List.isPrefixOf_iff_prefix, text] at fits
  obtain rfl := (List.cons_prefix_cons.mp fits).1
  exact not_ordinary_of_mem listed (by simp [text])

/-- No word goes on with a character that none of them has. -/
theorem at?_append (text : List Char) {w : List Char} (ordinary : ∀ c ∈ w.head?, IsOrdinary c) :
    at? (text ++ w) = at? text := by
  have same : ∀ entry ∈ signs,
      entry.1.toList.isPrefixOf (text ++ w) = entry.1.toList.isPrefixOf text := by
    intro entry listed
    rw [Bool.eq_iff_iff, List.isPrefixOf_iff_prefix, List.isPrefixOf_iff_prefix]
    refine ⟨fun fits => ?_, fun fits => fits.trans (List.prefix_append _ _)⟩
    rcases List.prefix_or_prefix_of_prefix fits (List.prefix_append text w) with inside | beyond
    · exact inside
    · obtain ⟨more, word⟩ := beyond
      rw [← word, List.prefix_append_right_inj] at fits
      cases more with
      | nil =>
        rw [List.append_nil] at word
        exact word ▸ List.prefix_refl _
      | cons c others =>
        obtain ⟨later, rfl⟩ := fits
        have member : c ∈ entry.1.toList := by simp [← word]
        exact absurd (ordinary c rfl) (not_ordinary_of_mem listed member)
  rw [at?, at?, List.find?_congr same]

end Landmark

/-- Nothing is seen in ordinary characters. -/
theorem survey_ordinary {text : List Char} (ordinary : ∀ c ∈ text, IsOrdinary c) (depth : Nat)
    (rest : List Char) : survey depth (text ++ rest) = survey depth rest := by
  induction text with
  | nil => rfl
  | cons c text ih =>
    obtain ⟨first, later⟩ := List.forall_mem_cons.mp ordinary
    have other (special : Char) (listed : ¬IsOrdinary special) : c ≠ special := by
      rintro rfl
      exact listed first
    have none : at? (c :: (text ++ rest)) = none := by
      cases seen : at? (c :: (text ++ rest)) with
      | none => rfl
      | some mark => exact absurd first (not_ordinary_of_at? seen)
    rw [List.cons_append, survey, none, if_neg (other '(' (by decide)),
      if_neg (other ')' (by decide)), ih later]
    simp

theorem survey_append (depth : Nat) (text : List Char) {w : List Char}
    (ordinary : ∀ c ∈ w.head?, IsOrdinary c) :
    survey depth (text ++ w) =
      ((survey depth text).1 ++ (survey (survey depth text).2 w).1,
        (survey (survey depth text).2 w).2) := by
  induction text generalizing depth with
  | nil => rfl
  | cons c rest ih =>
    have same := at?_append (c :: rest) ordinary
    rw [List.cons_append] at same
    simp only [List.cons_append, survey, same, ih, List.append_assoc]

/-! ### Texts -/

/-- A text in which nothing is seen, between two places of which it is known how many parentheses
are open, whatever else is open around them. -/
def Hidden (a : Nat) (s : String) (b : Nat) : Prop :=
  ∀ depth, survey (depth + a) (capitals s) = ([], depth + b)

/-- A text in which nothing is seen and which closes the parentheses that it opens. -/
def IsSilent (s : String) : Prop := ∀ depth, survey depth (capitals s) = ([], depth)

/-- A text that displays its landmarks where no parenthesis is open. -/
def Displays (marks : List Landmark) (s : String) : Prop :=
  ∀ depth, survey depth (capitals s) = (if depth = 0 then marks else [], depth)

/-- How many parentheses are open behind a text without any landmark outside of them. -/
def unseen : Nat → List Char → Option Nat
  | depth, [] => some depth
  | depth, c :: rest =>
    if depth = 0 ∧ (at? (c :: rest)).isSome then none
    else if c = '(' then unseen (depth + 1) rest
    else if c = ')' then
      match depth with
      | 0 => none
      | depth + 1 => unseen depth rest
    else unseen depth rest

/-- By induction over the text, whatever else is open around it. -/
theorem survey_of_unseen {a b : Nat} {text : List Char} (h : unseen a text = some b) (depth : Nat) :
    survey (depth + a) text = ([], depth + b) := by
  induction text generalizing a with
  | nil =>
    obtain rfl := Option.some.inj h
    rfl
  | cons c rest ih =>
    unfold unseen at h
    by_cases seen : a = 0 ∧ (at? (c :: rest)).isSome
    · rw [if_pos seen] at h
      cases h
    · rw [if_neg seen] at h
      have nothing : (if depth + a = 0 then (at? (c :: rest)).toList else []) = [] := by
        split
        · rename_i outside
          rw [Option.toList_eq_nil_iff, ← Option.not_isSome_iff_eq_none]
          exact fun shown => seen ⟨by omega, shown⟩
        · rfl
      rw [survey, nothing]
      by_cases opens : c = '('
      · rw [if_pos opens] at h
        have later := ih h
        rw [← Nat.add_assoc] at later
        simp [opens, later]
      · rw [if_neg opens] at h
        by_cases closes : c = ')'
        · rw [if_pos closes] at h
          cases a with
          | zero => cases h
          | succ a => simp [closes, ← Nat.add_assoc, ih h]
        · rw [if_neg closes] at h
          simp [opens, closes, ih h]

theorem hidden_of_unseen {a b : Nat} {s : String} (h : unseen a (capitals s) = some b) :
    Hidden a s b := survey_of_unseen h

theorem silent_of_unseen {s : String} (h : unseen 0 (capitals s) = some 0) : IsSilent s :=
  survey_of_unseen h

theorem survey_of_flat {text : List Char} (opening : '(' ∉ text) (closing : ')' ∉ text)
    (depth : Nat) : survey depth text = (if depth = 0 then (survey 0 text).1 else [], depth) := by
  induction text with
  | nil => cases depth <;> rfl
  | cons c rest ih =>
    obtain ⟨first, opening⟩ := List.ne_and_not_mem_of_not_mem_cons opening
    obtain ⟨second, closing⟩ := List.ne_and_not_mem_of_not_mem_cons closing
    have later := ih opening closing
    rw [survey, survey, if_neg first.symm, if_neg second.symm, if_neg first.symm,
      if_neg second.symm, later]
    split <;> rfl

/-- A text without parentheses displays the same wherever none is open. -/
theorem displays_of_flat {s : String} {marks : List Landmark}
    (h : '(' ∉ capitals s ∧ ')' ∉ capitals s ∧ (survey 0 (capitals s)).1 = marks) :
    Displays marks s := by
  obtain ⟨opening, closing, rfl⟩ := h
  exact survey_of_flat opening closing

/-! ### Numerals -/

theorem ordinary_numeral (n : Nat) : ∀ c ∈ capitals (toString n), IsOrdinary c := by
  intro c member
  obtain ⟨digit, inside, rfl⟩ := List.mem_map.mp member
  have plain := isDigit_toString inside
  rw [toUpper_digit plain]
  exact isOrdinary_digit plain

section

variable {a b c : Nat} {s t w : String} {marks others : List Landmark}

theorem IsSilent.displays (silent : IsSilent s) : Displays [] s := by
  intro depth
  rw [silent depth, ite_self]

theorem ordinary_head (filled : w ≠ "") (ordinary : ∀ c ∈ capitals w, IsOrdinary c) :
    ∀ c ∈ (capitals w ++ capitals t).head?, IsOrdinary c := by
  have letters : capitals w ≠ [] := fun none =>
    filled (String.toList_eq_nil_iff.mp (List.map_eq_nil_iff.mp none))
  obtain ⟨first, rest, text⟩ := List.exists_cons_of_ne_nil letters
  intro c head
  rw [text] at head ordinary
  obtain rfl := Option.some.inj head
  exact ordinary first List.mem_cons_self

/-- Ordinary characters keep what stands before them apart from what stands behind them. -/
theorem survey_apart (filled : w ≠ "") (ordinary : ∀ c ∈ capitals w, IsOrdinary c) (depth : Nat) :
    survey depth (capitals (s ++ w ++ t)) =
      ((survey depth (capitals s)).1 ++ (survey (survey depth (capitals s)).2 (capitals t)).1,
        (survey (survey depth (capitals s)).2 (capitals t)).2) := by
  rw [capitals_append, capitals_append, List.append_assoc,
    survey_append _ _ (ordinary_head filled ordinary), survey_ordinary ordinary]

theorem Hidden.append (hidden : Hidden a s b) (filled : w ≠ "")
    (ordinary : ∀ c ∈ capitals w, IsOrdinary c) (later : Hidden b t c) :
    Hidden a (s ++ w ++ t) c := by
  intro depth
  rw [survey_apart filled ordinary, hidden depth, later depth]
  rfl

theorem Displays.append (displays : Displays marks s) (filled : w ≠ "")
    (ordinary : ∀ c ∈ capitals w, IsOrdinary c) (later : Displays others t) :
    Displays (marks ++ others) (s ++ w ++ t) := by
  intro depth
  rw [survey_apart filled ordinary, displays depth, later depth]
  split <;> rfl

theorem Hidden.numeral (hidden : Hidden a s b) (n : Nat) (later : Hidden b t c) :
    Hidden a (s ++ toString n ++ t) c :=
  hidden.append (toString_ne_empty n) (ordinary_numeral n) later

theorem Hidden.last_numeral (hidden : Hidden a s b) (n : Nat) : Hidden a (s ++ toString n) b := by
  have whole := hidden.numeral n (t := "") fun _ => rfl
  rwa [String.append_empty] at whole

theorem Displays.numeral (displays : Displays marks s) (n : Nat) (later : Displays others t) :
    Displays (marks ++ others) (s ++ toString n ++ t) :=
  displays.append (toString_ne_empty n) (ordinary_numeral n) later

theorem Displays.last_numeral (displays : Displays marks s) (n : Nat) :
    Displays marks (s ++ toString n) := by
  have nothing : IsSilent "" := fun _ => rfl
  have whole := displays.numeral n nothing.displays
  rwa [String.append_empty, List.append_nil] at whole

end

/-! ### Layouts -/

namespace Layout

/-- A layout in which nothing is seen and which closes the parentheses that it opens. -/
def Silent (layout : Layout) : Prop := ∀ depth, layout.survey depth = ([], depth)

/-- A layout that shows its landmarks where no parenthesis is open. -/
def Reveals (marks : List Landmark) (layout : Layout) : Prop :=
  ∀ depth, layout.survey depth = (if depth = 0 then marks else [], depth)

/-- A layout in which nothing is seen, from one number of open parentheses to another. -/
def Between (a : Nat) (layout : Layout) (b : Nat) : Prop :=
  ∀ depth, layout.survey (depth + a) = ([], depth + b)

variable {a b c : Nat} {first second : Layout} {marks others : List Landmark} {s : String}

theorem survey_text (depth : Nat) (s : String) :
    survey depth [.text s] = SqlBatch.survey depth (capitals s) := by
  simp [survey, Piece.survey]

theorem Between.append (left : Between a first b) (right : Between b second c) :
    Between a (first ++ second) c := by
  intro depth
  rw [survey_append, left depth, right depth]
  rfl

theorem Between.silent (between : Between 0 first 0) : Silent first := between

theorem between_text (hidden : Hidden a s b) : Between a [.text s] b := by
  intro depth
  rw [survey_text, hidden depth]

theorem Silent.between (silent : Silent first) (a : Nat) : Between a first a :=
  fun depth => silent (depth + a)

theorem silent_nil : Silent [] := fun _ => rfl

theorem Silent.append (left : Silent first) (right : Silent second) : Silent (first ++ second) :=
  ((left.between 0).append (right.between 0)).silent

theorem silent_text (silent : IsSilent s) : Silent [.text s] := by
  intro depth
  rw [survey_text, silent depth]

theorem silent_fixed (h : unseen 0 (capitals s) = some 0) : Silent [.text s] :=
  silent_text (silent_of_unseen h)

theorem Reveals.silent (reveals : Reveals [] first) : Silent first := by
  intro depth
  rw [reveals depth, ite_self]

theorem Silent.reveals (silent : Silent first) : Reveals [] first := by
  intro depth
  rw [silent depth, ite_self]

theorem Reveals.append (left : Reveals marks first) (right : Reveals others second) :
    Reveals (marks ++ others) (first ++ second) := by
  intro depth
  rw [survey_append, left depth, right depth]
  split <;> rfl

theorem Reveals.between (reveals : Reveals marks first) (a : Nat) :
    Between (a + 1) first (a + 1) := by
  intro depth
  rw [reveals, if_neg (by omega)]

theorem reveals_text (displays : Displays marks s) : Reveals marks [.text s] := by
  intro depth
  rw [survey_text, displays depth]

theorem silent_separated (silent : IsSilent s) {layouts : List Layout}
    (each : ∀ layout ∈ layouts, Silent layout) : Silent (separated s layouts) := by
  have behind : ∀ rest : List Layout, (∀ layout ∈ rest, Silent layout) →
      Silent (rest.flatMap (.text s :: ·)) := by
    intro rest each
    induction rest with
    | nil => exact silent_nil
    | cons layout others ih =>
      obtain ⟨here, later⟩ := List.forall_mem_cons.mp each
      exact ((silent_text silent).append here).append (ih later)
  cases layouts with
  | nil => exact silent_nil
  | cons first rest =>
    obtain ⟨here, later⟩ := List.forall_mem_cons.mp each
    exact here.append (behind rest later)

theorem mem_separated {layouts : List Layout} {layout : Layout} {piece : Piece}
    (listed : layout ∈ layouts) (member : piece ∈ layout) : piece ∈ separated s layouts := by
  cases layouts with
  | nil => cases listed
  | cons first rest =>
    rcases List.mem_cons.mp listed with rfl | later
    · exact List.mem_append_left _ member
    · have inside : piece ∈ Piece.text s :: layout := List.mem_cons_of_mem _ member
      exact List.mem_append_right _ (List.mem_flatMap.mpr ⟨layout, later, inside⟩)

/-- Landmarks of parts, and one more between each two of them. -/
theorem reveals_separated {α : Type} {mark : Landmark} (between : Displays [mark] s)
    (parts : List α) {layout : α → Layout} {marks : α → List Landmark}
    (each : ∀ a ∈ parts, Reveals (marks a) (layout a)) :
    Reveals ([mark].intercalate (parts.map marks)) (separated s (parts.map layout)) := by
  induction parts with
  | nil => exact silent_nil.reveals
  | cons a rest ih =>
    obtain ⟨here, later⟩ := List.forall_mem_cons.mp each
    cases rest with
    | nil => simpa [separated] using here
    | cons b others =>
      have joined := (here.append (reveals_text between)).append (ih later)
      rw [List.map_cons, List.map_cons, List.intercalate_cons_cons]
      simpa [separated] using joined

end Layout

end SqlBatch
