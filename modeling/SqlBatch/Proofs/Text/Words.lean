import SqlBatch.Proofs.Text.Digits

/-!
# Words of a text

A text is read word by word; blanks keep the words apart, and a comma belongs to the word before it.
-/
namespace SqlBatch

/-! ### Words -/

def isBlank (c : Char) : Bool := c = ' ' || c = '\n'

/-- What stands between the blanks of a text. -/
def words (text : String) : List String :=
  ((text.toList.splitOnP isBlank).filter (· ≠ [])).map String.ofList

def startsBlank (text : String) : Bool := text.toList.head?.any isBlank

def endsBlank (text : String) : Bool := text.toList.getLast?.any isBlank

def number? (word : String) : Option Nat :=
  if word ≠ "" ∧ word.toList.all Char.isDigit then some (Nat.ofDigitChars 10 word.toList 0) else none

/-- The number of a word that has another one listed behind it. -/
def listed? (word : String) : Option Nat :=
  if word.toList.getLast? = some ',' then number? (String.ofList word.toList.dropLast) else none

section Words

variable {a b : String}

theorem words_of_split {c : Char} (blank : isBlank c = true) (front back : List Char) :
    words (String.ofList (front ++ c :: back)) =
      words (String.ofList front) ++ words (String.ofList back) := by
  simp [words, List.splitOnP_append_cons _ _ blank]

@[simp] theorem words_append_of_startsBlank (starts : startsBlank b) :
    words (a ++ b) = words a ++ words b := by
  obtain ⟨c, first, blank⟩ := (Option.any_eq_true _ _).mp starts
  obtain ⟨rest, text⟩ := List.head?_eq_some_iff.mp first
  have alone := words_of_split blank [] rest
  have both := words_of_split blank a.toList rest
  simp only [List.nil_append, ← text, ← String.toList_append, String.ofList_toList] at alone both
  rw [both, alone]
  rfl

@[simp] theorem words_append_of_endsBlank (ends : endsBlank a) :
    words (a ++ b) = words a ++ words b := by
  obtain ⟨c, last, blank⟩ := (Option.any_eq_true _ _).mp ends
  obtain ⟨stem, text⟩ := List.getLast?_eq_some_iff.mp last
  have alone := words_of_split blank stem []
  have both := words_of_split blank stem b.toList
  rw [← text, String.ofList_toList] at alone
  rw [List.append_cons, ← text, ← String.toList_append, String.ofList_toList] at both
  rw [both, alone]
  simp [words]

@[simp] theorem startsBlank_append (starts : startsBlank a) : startsBlank (a ++ b) := by
  obtain ⟨c, first, blank⟩ := (Option.any_eq_true _ _).mp starts
  obtain ⟨rest, text⟩ := List.head?_eq_some_iff.mp first
  simp [startsBlank, text, blank]

theorem words_word {word : String} (filled : word ≠ "") (solid : word.toList.all (!isBlank ·)) :
    words word = [word] := by
  unfold words
  rw [List.splitOnP_eq_singleton]
  · simp [filled]
  · simpa using solid

theorem not_isBlank_of_isDigit {c : Char} (digit : c.isDigit = true) : (!isBlank c) = true := by
  cases blank : isBlank c with
  | false => rfl
  | true =>
    simp only [isBlank, Bool.or_eq_true, decide_eq_true_eq] at blank
    rcases blank with rfl | rfl <;> exact absurd digit (by decide)

theorem words_toString (n : Nat) : words (toString n) = [toString n] :=
  words_word (toString_ne_empty n) (List.all_eq_true.mpr fun _ member =>
    not_isBlank_of_isDigit (isDigit_toString member))

theorem words_listed (n : Nat) : words (toString n ++ ",") = [toString n ++ ","] := by
  refine words_word (by simp) ?_
  rw [String.toList_append, List.all_append, Bool.and_eq_true, List.all_eq_true]
  exact ⟨fun _ member => not_isBlank_of_isDigit (isDigit_toString member), by decide⟩

theorem number?_toString (n : Nat) : number? (toString n) = some n := by
  unfold number?
  rw [if_pos ⟨toString_ne_empty n, List.all_eq_true.mpr fun c member => isDigit_toString member⟩,
    Nat.toString_eq_ofList_toDigits, String.toList_ofList, Nat.ofDigitChars_ten_toDigits]

theorem listed?_toString (n : Nat) : listed? (toString n ++ ",") = some n := by
  have parts : (toString n ++ ",").toList = (toString n).toList ++ [','] := String.toList_append
  rw [listed?, parts, List.getLast?_concat, if_pos rfl, List.dropLast_concat, String.ofList_toList]
  exact number?_toString n

end Words

/-! ### Row counts -/

@[simp] theorem words_count (n : UInt64) : words (toString n) = [toString n] :=
  words_toString n.toNat

@[simp] theorem number?_count (n : UInt64) : number? (toString n) = some n.toNat :=
  number?_toString n.toNat

@[simp] theorem listed?_count (n : UInt64) : listed? (toString n ++ ",") = some n.toNat :=
  listed?_toString n.toNat

/-- A comma holds on to the word before it. -/
theorem words_count_comma (n : UInt64) (rest : String) :
    words (toString n ++ ", " ++ rest) = (toString n ++ ",") :: words rest := by
  have comma : ", " = "," ++ " " := rfl
  have apart : toString n ++ ", " ++ rest = toString n ++ "," ++ (" " ++ rest) := by
    simp only [comma, String.append_assoc]
  have alone : words (toString n ++ ",") = [toString n ++ ","] := words_listed n.toNat
  have starts : startsBlank (" " ++ rest) := startsBlank_append (by decide)
  have space : words (" " ++ rest) = words rest := words_append_of_endsBlank (by decide)
  rw [apart, words_append_of_startsBlank starts, alone, space]
  rfl

end SqlBatch
