import Mathlib.Data.List.Chain
import Mathlib.Data.List.Infix
import Mathlib.Data.Nat.Digits.Defs
import SqlBatch.Proofs.Render.Pass
import SqlBatch.Proofs.Text.Digits
import SqlBatch.Proofs.Text.Spelling

/-!
# Where comments begin

A comment begins where two characters meet outside of quotes. A text that has no such place in it,
and does not end in the first of the two, can be followed by anything of its kind.
-/
namespace SqlBatch

/-! ### Characters in quotes -/

/-- Characters, and for each whether it belongs to a quoted name or a string with its quotes. -/
abbrev Marked := List (Char × Bool)

def plainly (text : List Char) : Marked := text.map (·, false)

/-- Single quotes are part of the strings that they enclose. -/
def markedStrings (inside : Bool) : List Char → Marked
  | [] => []
  | c :: rest =>
    if c = '\'' then (c, true) :: markedStrings (!inside) rest
    else (c, inside) :: markedStrings inside rest

/-- Dots between the parts of a name and lone asterisks are outside of the quotes. -/
def Identifier.marked (q : QuotePair) (name : List Char) : Marked :=
  List.intercalate (plainly ['.'])
    ((pieces '.' name).map fun part => (quotePart q part).map (·, part != ['*']))

def Piece.marked (d : Dialect) (q : QuotePair) (roll : List Value) : Piece → Marked
  | .identifier name => Identifier.marked q name.toList
  | .literal c => markedStrings false (d.literal c).toList
  | piece => plainly (piece.textOn d roll).toList

def Layout.marked (d : Dialect) (q : QuotePair) (roll : List Value) (layout : Layout) : Marked :=
  layout.flatMap (Piece.marked d q roll)

theorem map_fst_plainly (text : List Char) : (plainly text).map Prod.fst = text := by
  simp [plainly, Function.comp_def]

theorem map_fst_markedStrings (inside : Bool) (text : List Char) :
    (markedStrings inside text).map Prod.fst = text := by
  induction text generalizing inside with
  | nil => rfl
  | cons c rest ih =>
    unfold markedStrings
    split <;> rw [List.map_cons, ih]

theorem Identifier.map_fst_marked (q : QuotePair) (name : List Char) :
    (marked q name).map Prod.fst = quoteChars q name := by
  have parts : ∀ parts : List (List Char),
      (List.intercalate (plainly ['.'])
        (parts.map fun part => (quotePart q part).map (·, part != ['*']))).map Prod.fst =
      List.intercalate ['.'] (parts.map (quotePart q)) := by
    intro parts
    induction parts with
    | nil => rfl
    | cons part rest ih =>
      have same : ((quotePart q part).map (·, part != ['*'])).map Prod.fst = quotePart q part := by
        simp [Function.comp_def]
      cases rest with
      | nil => simp only [List.map_singleton, List.intercalate_singleton, same]
      | cons second others =>
        rw [List.map_cons, List.map_cons] at ih ⊢
        rw [List.map_cons, List.intercalate_cons_cons, List.map_cons, List.intercalate_cons_cons,
          List.map_append, List.map_append, ih, same, map_fst_plainly]
  exact parts _

/-- The marks are on the characters of the text. -/
theorem Layout.map_fst_marked {d : Dialect} {q : QuotePair}
    (names : d.quoteIdentifier = Identifier.quote (some q)) (roll : List Value) (layout : Layout) :
    (layout.marked d q roll).map Prod.fst = (layout.textOn d roll).toList := by
  induction layout with
  | nil => rfl
  | cons piece rest ih =>
    have here : (piece.marked d q roll).map Prod.fst = (piece.textOn d roll).toList := by
      cases piece with
      | identifier name =>
        rw [Piece.marked, Identifier.map_fst_marked, Piece.textOn, names, Identifier.quote,
          String.toList_ofList]
      | literal c => exact map_fst_markedStrings false _
      | _ => exact map_fst_plainly _
    rw [textOn, String.toList_append, ← here, ← ih]
    exact List.map_append

/-! ### Openers -/

/-- The two characters that begin a comment. -/
def commentOpeners : List (Char × Char) := [('-', '-'), ('/', '*')]

variable {opener : Char × Char} {first second : Marked}

/-- The characters of the opener meet outside of quotes. -/
def Marked.Opens (opener : Char × Char) (text : Marked) : Prop :=
  [(opener.1, false), (opener.2, false)] <:+: text

instance (opener : Char × Char) (text : Marked) : Decidable (text.Opens opener) :=
  inferInstanceAs (Decidable (_ <:+: _))

/-- A text that does not open a comment, neither in itself nor together with what follows it. -/
structure Quiet (opener : Char × Char) (text : Marked) : Prop where
  apart : text.IsChain fun x y => ¬(x = (opener.1, false) ∧ y = (opener.2, false))
  last : ∀ x ∈ text.getLast?, x ≠ (opener.1, false)

instance (opener : Char × Char) (text : Marked) : Decidable (Quiet opener text) :=
  decidable_of_iff
    ((text.IsChain fun x y => ¬(x = (opener.1, false) ∧ y = (opener.2, false))) ∧
      ∀ x ∈ text.getLast?, x ≠ (opener.1, false))
    ⟨fun ⟨apart, last⟩ => ⟨apart, last⟩, fun ⟨apart, last⟩ => ⟨apart, last⟩⟩

namespace Quiet

theorem nil : Quiet opener [] := ⟨.nil, nofun⟩

theorem append (left : Quiet opener first) (right : Quiet opener second) :
    Quiet opener (first ++ second) := by
  constructor
  · refine left.apart.append right.apart ?_
    rintro x ends y - ⟨opens, -⟩
    exact left.last x ends opens
  · intro x ends
    rw [List.getLast?_append] at ends
    cases behind : second.getLast? with
    | none =>
      rw [behind, Option.none_or] at ends
      exact left.last x ends
    | some y =>
      rw [behind, Option.some_or] at ends
      exact right.last x (behind.trans ends)

/-- A character in front of a text that does not go on as a comment. -/
theorem cons {x y : Char × Bool} (text : Quiet opener second) (starts : y ∈ second.head?)
    (other : x = (opener.1, false) → y ≠ (opener.2, false)) : Quiet opener (x :: second) := by
  obtain ⟨rest, rfl⟩ := List.head?_eq_some_iff.mp starts
  refine ⟨text.apart.cons_cons fun ⟨opens, goes⟩ => other opens goes, fun z ends => ?_⟩
  rw [List.getLast?_cons_cons] at ends
  exact text.last z ends

theorem of_absent (absent : (opener.1, false) ∉ second) : Quiet opener second := by
  constructor
  · refine List.isChain_iff_forall_rel_of_append_cons_cons.mpr ?_
    rintro x y before after rfl ⟨rfl, -⟩
    exact absent (by simp)
  · rintro x ends rfl
    exact absent (List.mem_of_getLast? ends)

theorem not_opens (quiet : Quiet opener second) : ¬second.Opens opener := by
  intro inside
  have chain := quiet.apart.infix inside
  exact (List.isChain_pair.mp chain) ⟨rfl, rfl⟩

end Quiet

/-! ### Texts without dashes and slashes -/

/-- A text with neither a dash nor a slash in it. -/
def Dashless (text : List Char) : Prop := ∀ c ∈ text, c ≠ '-' ∧ c ≠ '/'

instance (text : List Char) : Decidable (Dashless text) :=
  List.decidableBAll (fun c => c ≠ '-' ∧ c ≠ '/') text

namespace Dashless

theorem append {first second : List Char} (left : Dashless first) (right : Dashless second) :
    Dashless (first ++ second) := fun c member =>
  (List.mem_append.mp member).elim (left c) (right c)

theorem subset {text part : List Char} (dashless : Dashless text) (inside : part ⊆ text) :
    Dashless part := fun c member => dashless c (inside member)

theorem toDigits (n : Nat) : Dashless (Nat.toDigits 10 n) := by
  intro c member
  have digit := isDigit_toDigits member
  exact ⟨ne_of_isDigit digit rfl, ne_of_isDigit digit rfl⟩

theorem zeros (count : Nat) : Dashless (List.replicate count '0') := by
  intro c member
  rw [List.eq_of_mem_replicate member]
  decide

theorem quiet {text : List Char} (dashless : Dashless text) (opens : opener ∈ commentOpeners) :
    Quiet opener (plainly text) := by
  refine Quiet.of_absent fun member => ?_
  obtain ⟨c, inside, same⟩ := List.mem_map.mp member
  obtain ⟨dash, slash⟩ := dashless c inside
  obtain rfl := congrArg Prod.fst same
  rcases List.mem_pair.mp opens with rfl | rfl
  · exact dash rfl
  · exact slash rfl

end Dashless

theorem dashless_nat (n : Nat) : Dashless (toString n).toList := by
  rw [Nat.toString_eq_ofList_toDigits, String.toList_ofList]
  exact .toDigits n

theorem plainly_append (first second : List Char) :
    plainly (first ++ second) = plainly first ++ plainly second := List.map_append

/-! ### Names and strings -/

theorem Identifier.quiet_marked (opens : opener ∈ commentOpeners) (q : QuotePair)
    (name : List Char) :
    Quiet opener (marked q name) := by
  have other : opener.1 ≠ '*' := by
    rcases List.mem_pair.mp opens with rfl | rfl <;> decide
  have each (part : List Char) : Quiet opener ((quotePart q part).map (·, part != ['*'])) := by
    refine Quiet.of_absent fun member => ?_
    obtain ⟨c, inside, same⟩ := List.mem_map.mp member
    obtain ⟨rfl, outside⟩ := Prod.mk.inj same
    obtain rfl : part = ['*'] := by simpa using outside
    exact other (List.mem_singleton.mp inside)
  have parts : ∀ parts : List (List Char), Quiet opener (List.intercalate (plainly ['.'])
      (parts.map fun part => (quotePart q part).map (·, part != ['*']))) := by
    intro parts
    induction parts with
    | nil => exact .nil
    | cons part rest ih =>
      have dot : Quiet opener (plainly ['.']) := Dashless.quiet (by decide) opens
      cases rest with
      | nil => simpa only [List.map_singleton, List.intercalate_singleton] using each part
      | cons second others =>
        rw [List.map_cons, List.map_cons, List.intercalate_cons_cons]
        exact ((each part).append dot).append ih
  exact parts _

theorem markedStrings_append {first : List Char} (inside : Bool) (none : '\'' ∉ first)
    (second : List Char) :
    markedStrings inside (first ++ second) =
      first.map (·, inside) ++ markedStrings inside second := by
  induction first with
  | nil => rfl
  | cons c rest ih =>
    obtain ⟨other, later⟩ := List.ne_and_not_mem_of_not_mem_cons none
    rw [List.cons_append, markedStrings, if_neg other.symm, ih later, List.map_cons,
      List.cons_append]

/-- A quote that is doubled closes the string and opens it again. -/
theorem markedStrings_doubled (body : List Char) :
    markedStrings true (doubled '\'' body ++ ['\'']) =
      (doubled '\'' body ++ ['\'']).map (·, true) := by
  induction body with
  | nil => rfl
  | cons c rest ih =>
    unfold doubled
    split
    · simpa [markedStrings] using ih
    · rename_i other
      simpa [markedStrings, other] using ih

theorem markedStrings_singleQuoted (s : String) :
    markedStrings false (singleQuoted s).toList = (singleQuoted s).toList.map (·, true) := by
  rw [singleQuoted, String.toList_ofList, List.cons_append, markedStrings, if_pos rfl,
    Bool.not_false, markedStrings_doubled, List.map_cons]

theorem quiet_quoted (text : List Char) : Quiet opener (text.map (·, true)) := by
  refine Quiet.of_absent fun member => ?_
  obtain ⟨c, -, same⟩ := List.mem_map.mp member
  cases congrArg Prod.snd same

/-! ### Numerals -/

/-- A text that is quiet and begins with something else than a dash. -/
structure Unsigned (opener : Char × Char) (text : List Char) : Prop where
  quiet : Quiet opener (plainly text)
  starts : ∃ c ∈ text.head?, c ≠ '-'

namespace Unsigned

theorem of_dashless {text : List Char} (dashless : Dashless text) (filled : text ≠ [])
    (opens : opener ∈ commentOpeners) : Unsigned opener text := by
  refine ⟨dashless.quiet opens, ?_⟩
  obtain ⟨c, rest, rfl⟩ := List.exists_cons_of_ne_nil filled
  exact ⟨c, rfl, (dashless c List.mem_cons_self).1⟩

theorem append {first second : List Char} (left : Unsigned opener first)
    (right : Quiet opener (plainly second)) : Unsigned opener (first ++ second) := by
  obtain ⟨c, head, other⟩ := left.starts
  obtain ⟨rest, rfl⟩ := List.head?_eq_some_iff.mp head
  refine ⟨?_, c, rfl, other⟩
  rw [plainly_append]
  exact left.quiet.append right

/-- With a sign in front, the text begins with a dash. -/
theorem signed {text : List Char} (unsigned : Unsigned opener text)
    (opens : opener ∈ commentOpeners) : Quiet opener (plainly ('-' :: text)) := by
  obtain ⟨c, head, other⟩ := unsigned.starts
  obtain ⟨rest, rfl⟩ := List.head?_eq_some_iff.mp head
  refine unsigned.quiet.cons (y := (c, false)) rfl fun first second => ?_
  rcases List.mem_pair.mp opens with rfl | rfl
  · exact other (congrArg Prod.fst second)
  · exact absurd (congrArg Prod.fst first) (by decide)

end Unsigned

section

variable (opens : opener ∈ commentOpeners)

include opens

theorem unsigned_nat (n : Nat) : Unsigned opener (Nat.toDigits 10 n) :=
  .of_dashless (.toDigits n) Nat.toDigits_ne_nil opens

theorem quiet_int (n : Int) : Quiet opener (plainly (toString n).toList) := by
  rw [toList_toString_int]
  split
  · exact (unsigned_nat opens n.natAbs).signed opens
  · exact (unsigned_nat opens n.natAbs).quiet

namespace Decimal

theorem unsigned_positional (x : Decimal) : Unsigned opener x.positional := by
  have digits := Dashless.toDigits x.digits
  have point : Dashless ['.'] := by decide
  have zero : Dashless "0.".toList := by decide
  have filled : Nat.toDigits 10 x.digits ≠ [] := Nat.toDigits_ne_nil
  unfold positional
  dsimp only
  split
  · refine .of_dashless ((digits.append (.zeros _)).append (by decide)) ?_ opens
    simp
  · split
    · have before (i : Nat) := digits.subset (List.take_subset i _)
      have behind (i : Nat) := digits.subset (List.drop_subset i _)
      refine .of_dashless ((before _).append (point.append (behind _))) ?_ opens
      simp
    · exact .of_dashless ((zero.append (.zeros _)).append digits) (by simp) opens

theorem unsigned_scientific (x : Decimal) : Unsigned opener x.scientific := by
  have digits := Dashless.toDigits x.digits
  have point : Dashless ['.'] := by decide
  have mark : Dashless ['e'] := by decide
  have filled : (Nat.toDigits 10 x.digits).take 1 ≠ [] := by
    rw [Ne, List.take_eq_nil_iff]
    simp
  have leading : Unsigned opener ((Nat.toDigits 10 x.digits).take 1) :=
    .of_dashless (digits.subset (List.take_subset _ _)) filled opens
  have behind := digits.subset (List.drop_subset 1 _)
  have fraction : Dashless (if ((Nat.toDigits 10 x.digits).drop 1).isEmpty then []
      else '.' :: (Nat.toDigits 10 x.digits).drop 1) := by
    split
    · exact nofun
    · exact point.append behind
  have exponent : Quiet opener (plainly ('e' ::
      (toString ((Nat.toDigits 10 x.digits).length + x.scale - 1)).toList)) :=
    (mark.quiet opens).append (quiet_int opens _)
  exact (leading.append (fraction.quiet opens)).append exponent

theorem unsigned_numeral (x : Decimal) : Unsigned opener x.numeral := by
  unfold numeral
  dsimp only
  split
  · exact unsigned_positional opens x
  · exact unsigned_scientific opens x

end Decimal

end

/-- What is written behind the sign of a number. -/
def Binary64.magnitude (x : Binary64) : List Char :=
  if x.isInfinite then "inf".toList else if x.isZero then "0.0".toList else x.shortest.numeral

theorem Binary64.toList_numeral (x : Binary64) :
    x.numeral.toList =
      if x.isNaN then "NaN".toList
      else if x.negative then '-' :: x.magnitude else x.magnitude := by
  unfold numeral magnitude
  split
  · rfl
  · dsimp only
    cases x.negative <;> split <;> (try split) <;> simp

theorem Binary64.unsigned_magnitude (opens : opener ∈ commentOpeners) (x : Binary64) :
    Unsigned opener x.magnitude := by
  unfold magnitude
  split
  · exact .of_dashless (by decide) (by decide) opens
  · split
    · exact .of_dashless (by decide) (by decide) opens
    · exact Decimal.unsigned_numeral opens x.shortest

/-! ### Literals -/

/-- The constants that are written with a minus. -/
def Constant.isNegative : Constant → Bool
  | .int n => n.toInt < 0
  | .float x => x.negative && !x.isNaN
  | _ => false

/-- A text between single quotes behind a keyword, which can be missing. -/
def dated (keyword text : String) : String := keyword ++ "'" ++ text ++ "'"

/-- A keyword in front of a string. -/
structure IsKeyword (s : String) : Prop where
  dashless : Dashless s.toList
  unquoted : '\'' ∉ s.toList

instance (s : String) : Decidable (IsKeyword s) :=
  decidable_of_iff (Dashless s.toList ∧ '\'' ∉ s.toList)
    ⟨fun ⟨dashless, unquoted⟩ => ⟨dashless, unquoted⟩,
      fun ⟨dashless, unquoted⟩ => ⟨dashless, unquoted⟩⟩

theorem markedStrings_unquoted {text : List Char} (unquoted : '\'' ∉ text) :
    markedStrings false text = plainly text := by
  have alone := markedStrings_append false unquoted []
  rwa [List.append_nil, markedStrings, List.append_nil] at alone

theorem markedStrings_dated {keyword : String} (word : IsKeyword keyword) {text : List Char}
    (numeric : IsNumeric text) :
    markedStrings false (dated keyword (String.ofList text)).toList =
      plainly keyword.toList ++ (singleQuoted (String.ofList text)).toList.map (·, true) := by
  have split : (dated keyword (String.ofList text)).toList =
      keyword.toList ++ (singleQuoted (String.ofList text)).toList := by
    rw [singleQuoted, String.toList_ofList, String.toList_ofList, numeric.doubled]
    simp [dated]
  rw [split, markedStrings_append false word.unquoted, markedStrings_singleQuoted]
  rfl

/-- What opens no comment begins with a dash exactly when it is a number with a sign. -/
structure LiteralMarks (c : Constant) (text : Marked) : Prop where
  quiet : ∀ opener ∈ commentOpeners, Quiet opener text
  starts : ∃ x ∈ text.head?, (x = ('-', false) ↔ c.isNegative = true)

namespace LiteralMarks

variable {c : Constant} (positive : c.isNegative = false)

include positive

theorem of_word {s : String} (word : IsKeyword s) (filled : s ≠ "") :
    LiteralMarks c (markedStrings false s.toList) := by
  obtain ⟨x, rest, text⟩ := List.exists_cons_of_ne_nil fun none =>
    filled (String.toList_eq_nil_iff.mp none)
  rw [markedStrings_unquoted word.unquoted]
  refine ⟨fun opener opens => word.dashless.quiet opens, (x, false), by simp [text, plainly], ?_⟩
  have other : x ≠ '-' := (word.dashless x (by simp [text])).1
  simp [positive, other]

theorem of_singleQuoted (s : String) :
    LiteralMarks c (markedStrings false (singleQuoted s).toList) := by
  rw [markedStrings_singleQuoted]
  refine ⟨fun opener opens => quiet_quoted _, ('\'', true), ?_, by simp [positive]⟩
  rw [singleQuoted, String.toList_ofList]
  rfl

theorem of_dated {keyword : String} (word : IsKeyword keyword) {text : List Char}
    (numeric : IsNumeric text) :
    LiteralMarks c (markedStrings false (dated keyword (String.ofList text)).toList) := by
  rw [markedStrings_dated word numeric]
  refine ⟨fun opener opens => (word.dashless.quiet opens).append (quiet_quoted _), ?_⟩
  cases start : keyword.toList with
  | nil =>
    refine ⟨('\'', true), ?_, by simp [positive]⟩
    rw [singleQuoted, String.toList_ofList]
    rfl
  | cons x rest =>
    have other : x ≠ '-' := (word.dashless x (by simp [start])).1
    exact ⟨(x, false), rfl, by simp [positive, other]⟩

end LiteralMarks

theorem literalMarks_number {c : Constant} {text : List Char} (unquoted : '\'' ∉ text)
    (magnitude : List Char)
    (signed : text = if c.isNegative then '-' :: magnitude else magnitude)
    (unsigned : ∀ opener ∈ commentOpeners, Unsigned opener magnitude) :
    LiteralMarks c (markedStrings false text) := by
  rw [markedStrings_unquoted unquoted, signed]
  cases negative : c.isNegative with
  | false =>
    obtain ⟨x, head, other⟩ := (unsigned ('-', '-') (by decide)).starts
    obtain ⟨rest, rfl⟩ := List.head?_eq_some_iff.mp head
    exact ⟨fun opener opens => (unsigned opener opens).quiet, (x, false), rfl,
      by simp [negative, other]⟩
  | true =>
    exact ⟨fun opener opens => (unsigned opener opens).signed opens, ('-', false), rfl,
      by simp [negative]⟩

theorem literalMarks_int (n : Int64) :
    LiteralMarks (.int n) (markedStrings false (toString n).toList) := by
  have numeral : (toString n).toList =
      if (Constant.int n).isNegative then '-' :: Nat.toDigits 10 n.toInt.natAbs
      else Nat.toDigits 10 n.toInt.natAbs := by
    have spelled : toString n = toString n.toInt := rfl
    rw [spelled, toList_toString_int, Constant.isNegative]
    simp only [decide_eq_true_eq]
  have unquoted : '\'' ∉ (toString n).toList := by
    intro member
    exact absurd (isNumeric_int n.toInt _ member) (by decide)
  exact literalMarks_number unquoted _ numeral fun opener opens => unsigned_nat opens _

theorem literalMarks_float (x : Binary64) :
    LiteralMarks (.float x) (markedStrings false x.numeral.toList) := by
  have unquoted : '\'' ∉ x.numeral.toList := by
    intro member
    have word : IsWord QuoteStyle.double.pair x.numeral := isWord_numeral x
    exact absurd (word _ member) (by decide)
  cases none : x.isNaN with
  | true =>
    have numeral : x.numeral = "NaN" := by rw [Binary64.numeral, none, if_pos rfl]
    have positive : (Constant.float x).isNegative = false := by simp [Constant.isNegative, none]
    rw [numeral]
    exact .of_word positive (by decide) (by decide)
  | false =>
    have signed : (Constant.float x).isNegative = x.negative := by simp [Constant.isNegative, none]
    refine literalMarks_number unquoted x.magnitude ?_ fun opener opens =>
      x.unsigned_magnitude opens
    rw [Binary64.toList_numeral, none, signed, if_neg Bool.false_ne_true]

/-- What a dialect spells of literals if it writes its booleans and dates in known ways. -/
theorem Dialect.literalMarks {d : Dialect} (date time : String)
    (bools : ∀ b, IsKeyword (d.formatBool b) ∧ d.formatBool b ≠ "")
    (strings : d.formatString = singleQuoted)
    (dates : ∀ x, d.formatDate x = dated date x.text) (dateWord : IsKeyword date)
    (times : ∀ x, d.formatTimestamp x = dated time x.text) (timeWord : IsKeyword time)
    (c : Constant) : LiteralMarks c (markedStrings false (d.literal c).toList) := by
  cases c with
  | null => exact .of_word rfl (s := "NULL") (by decide) (by decide)
  | bool b => exact .of_word rfl (bools b).1 (bools b).2
  | int n => exact literalMarks_int n
  | float x => exact literalMarks_float x
  | date x =>
    rw [literal, dates]
    exact .of_dated rfl dateWord x.isNumeric_chars
  | timestamp x =>
    rw [literal, times]
    exact .of_dated rfl timeWord x.isNumeric_chars
  | string s =>
    rw [literal, strings]
    exact .of_singleQuoted rfl s

/-! ### Types -/

/-- The names of engine-specific types come from outside. -/
def DataType.IsDashless : DataType → Prop
  | .custom name => Dashless name.toList
  | _ => True

theorem dashless_append {s t : String} (first : Dashless s.toList) (second : Dashless t.toList) :
    Dashless (s ++ t).toList := by
  rw [String.toList_append]
  exact first.append second

theorem DataType.dashless_sql {t : DataType} (dashless : t.IsDashless) : Dashless t.sql.toList := by
  have behind {s : String} (word : Dashless s.toList) (n : Nat) {u : String}
      (last : Dashless u.toList) : Dashless (s ++ toString n ++ u).toList :=
    dashless_append (dashless_append word (dashless_nat n)) last
  have sized {name : String} (word : Dashless name.toList) (length : Option UInt32) :
      Dashless (DataType.sized name length).toList := by
    cases length with
    | none => exact word
    | some length => exact behind (dashless_append word (by decide)) length.toNat (by decide)
  cases t with
  | decimal precision scale =>
    cases precision with
    | none => exact (by decide : Dashless "DECIMAL".toList)
    | some precision =>
      have first : Dashless "DECIMAL(".toList := by decide
      cases scale with
      | none => exact behind first precision.toNat (by decide)
      | some scale =>
        exact behind (behind first precision.toNat (u := ", ") (by decide)) scale.toNat (by decide)
  | char length => exact sized (by decide) length
  | varchar length => exact sized (by decide) length
  | varbinary length => exact sized (by decide) length
  | custom name => exact dashless
  | _ =>
    simp only [sql]
    decide

theorem DataType.dashless_storageClass {t : DataType} (dashless : t.IsDashless) :
    Dashless t.storageClass.toList := by
  cases t with
  | custom name => exact dashless
  | _ =>
    simp only [storageClass]
    decide

/-! ### Dialects -/

/-- A dialect that quotes names and spells nothing that could open a comment. -/
structure Dialect.Cautious (d : Dialect) (q : QuotePair) : Prop where
  names : d.quoteIdentifier = Identifier.quote (some q)
  literal : ∀ c, LiteralMarks c (markedStrings false (d.literal c).toList)
  placeholder : ∀ n, Dashless (d.parameterName n).toList ∧ d.parameterName n ≠ ""
  operator : Dashless d.concatOperator.toList
  type : ∀ t : DataType, t.IsDashless → Dashless (d.formatType t).toList
  rows : ∀ s, d.unboundedLimit = some s → ∀ opener ∈ commentOpeners, Quiet opener (plainly s.toList)

/-- The dialects that quote names, with whichever quotes; the words that they are configured with
have neither a dash nor a slash. -/
inductive Dialect.QuotesNames : Dialect → QuotePair → Prop
  /-- Nothing is done in another way than the usual one. -/
  | standard (name : String) : QuotesNames { name } ⟨'"', '"'⟩
  | sqlite : QuotesNames .sqlite ⟨'"', '"'⟩
  | custom {config : DialectConfig} {q : QuotePair} (quote : config.identifierQuote = some q)
      (stem : Dashless config.parameterPrefix.toList)
      (operator : Dashless config.concatOperator.toList) : QuotesNames (.custom config) q

theorem isKeyword_bool (b : Bool) :
    IsKeyword (if b then "TRUE" else "FALSE") ∧ (if b then "TRUE" else "FALSE") ≠ "" := by
  cases b <;> decide

theorem isKeyword_numericBool (b : Bool) : IsKeyword (numericBool b) ∧ numericBool b ≠ "" := by
  cases b <;> decide

theorem dashless_numbered (stem : String) (dashless : Dashless stem.toList) (n : Nat) :
    Dashless (stem ++ toString n).toList ∧ stem ++ toString n ≠ "" := by
  refine ⟨dashless_append dashless (dashless_nat n), fun none => ?_⟩
  have digits := congrArg String.toList (String.append_eq_empty_iff.mp none).2
  rw [Nat.toString_eq_ofList_toDigits, String.toList_ofList] at digits
  exact Nat.toDigits_ne_nil digits

theorem Dialect.QuotesNames.cautious {d : Dialect} {q : QuotePair} (quoting : d.QuotesNames q) :
    d.Cautious q := by
  cases quoting with
  | standard name =>
    exact {
      names := rfl
      literal := literalMarks "DATE " "TIMESTAMP " isKeyword_bool rfl (fun _ => rfl) (by decide)
        (fun _ => rfl) (by decide)
      placeholder := dashless_numbered "@P" (by decide)
      operator := (by decide : Dashless "||".toList)
      type := fun _ => DataType.dashless_sql
      rows := nofun }
  | sqlite =>
    have mark : IsKeyword "" := by decide
    have shown (s : String) : "'" ++ s ++ "'" = dated "" s := by simp [dated]
    exact {
      names := rfl
      literal := literalMarks "" "" isKeyword_numericBool rfl (fun x => shown x.text) mark
        (fun x => shown x.text) mark
      placeholder := dashless_numbered "?" (by decide)
      operator := by decide
      type := fun _ => DataType.dashless_storageClass
      rows := by
        rintro s unbounded opener opens
        obtain rfl := Option.some.inj unbounded
        rcases List.mem_pair.mp opens with rfl | rfl <;> decide }
  | @custom config q quote stem operator =>
    exact {
      names := by
        change Identifier.quote config.identifierQuote = _
        rw [quote]
      literal := by
        refine literalMarks "DATE " "TIMESTAMP " (fun b => ?_) rfl (fun _ => rfl) (by decide)
          (fun _ => rfl) (by decide)
        cases literals : config.booleanLiterals with
        | keywords =>
          simp only [Dialect.custom, literals]
          exact isKeyword_bool b
        | numeric =>
          simp only [Dialect.custom, literals]
          exact isKeyword_numericBool b
      placeholder := dashless_numbered config.parameterPrefix stem
      operator := operator
      type := fun _ => DataType.dashless_sql
      rows := nofun }

end SqlBatch
