import Mathlib.Data.List.Basic
import SqlBatch.Dialect.Custom

/-!
# Quoted names read back

A reader of qualified names that knows quotes, lone asterisks and dots. It comes out of a quoted
name exactly at its end, with the parts of the name, whatever characters the name is made of.
-/
namespace SqlBatch

/-! ### Quotes -/

theorem readQuoted_cons_of_ne {closing c : Char} (other : c ≠ closing) (rest : List Char) :
    readQuoted closing (c :: rest) =
      (readQuoted closing rest).map fun (body, behind) => (c :: body, behind) := by
  cases rest with
  | nil => simp [readQuoted, other]
  | cons d rest => rw [readQuoted, if_pos other]

theorem readQuoted_cons_cons (closing : Char) (rest : List Char) :
    readQuoted closing (closing :: closing :: rest) =
      (readQuoted closing rest).map fun (body, behind) => (closing :: body, behind) := by
  simp [readQuoted]

theorem readQuoted_closing {closing : Char} {rest : List Char}
    (ends : ∀ c ∈ rest.head?, c ≠ closing) :
    readQuoted closing (closing :: rest) = some ([], rest) := by
  cases rest with
  | nil => simp [readQuoted]
  | cons d rest =>
    have other : d ≠ closing := ends d rfl
    simp [readQuoted, other]

/-- What is written with its closing character doubled is read up to the first one that stands
alone. -/
theorem readQuoted_doubled (closing : Char) (body : List Char) {rest : List Char}
    (ends : ∀ c ∈ rest.head?, c ≠ closing) :
    readQuoted closing (doubled closing body ++ closing :: rest) = some (body, rest) := by
  induction body with
  | nil => exact readQuoted_closing ends
  | cons c body ih =>
    by_cases closes : c = closing
    · subst closes
      rw [doubled, if_pos rfl, List.cons_append, List.cons_append, readQuoted_cons_cons, ih]
      rfl
    · rw [doubled, if_neg closes, List.cons_append, readQuoted_cons_of_ne closes, ih]
      rfl

theorem length_readQuoted {closing : Char} {text body rest : List Char}
    (read : readQuoted closing text = some (body, rest)) : rest.length < text.length := by
  fun_induction readQuoted closing text generalizing body with
  | case1 => cases read
  | case2 => grind
  | case3 => cases read
  | case4 _ _ _ _ ih | case5 _ _ _ ih =>
    obtain ⟨⟨inner, behind⟩, found, same⟩ := Option.map_eq_some_iff.mp read
    obtain ⟨-, rfl⟩ := Prod.mk.inj same
    have shorter := ih found
    simp only [List.length_cons] at shorter ⊢
    omega
  | case6 => grind

/-! ### Names -/

namespace Identifier

variable {q : QuotePair} {text part rest : List Char}

/-- One part of a name: a lone asterisk, or a text in quotes. -/
def readPart (q : QuotePair) : List Char → Option (List Char × List Char)
  | [] => none
  | c :: rest =>
    if c = '*' then some (['*'], rest)
    else if c = q.opening then readQuoted q.closing rest
    else none

theorem length_readPart (read : readPart q text = some (part, rest)) :
    rest.length < text.length := by
  cases text with
  | nil => cases read
  | cons c text =>
    simp only [readPart] at read
    split at read
    · obtain ⟨-, rfl⟩ := Prod.mk.inj (Option.some.inj read)
      exact Nat.lt_succ_self _
    · split at read
      · exact Nat.lt_trans (length_readQuoted read) (Nat.lt_succ_self _)
      · cases read

/-- The parts at the front of a text, as many as there are dots between them, and what is behind. -/
def readParts (q : QuotePair) (text : List Char) : Option (List (List Char) × List Char) :=
  match _ : readPart q text with
  | none => none
  | some (part, '.' :: rest) =>
    (readParts q rest).map fun (parts, behind) => (part :: parts, behind)
  | some (part, rest) => some ([part], rest)
termination_by text.length
decreasing_by
  have shorter : ('.' :: rest).length < text.length := length_readPart ‹_›
  exact Nat.lt_trans (Nat.lt_succ_self _) shorter

theorem readParts_of_dot (read : readPart q text = some (part, '.' :: rest)) :
    readParts q text = (readParts q rest).map fun (parts, behind) => (part :: parts, behind) := by
  rw [readParts]
  split <;> simp_all

theorem readParts_of_last (read : readPart q text = some (part, rest))
    (ends : ∀ c ∈ rest.head?, c ≠ '.') : readParts q text = some ([part], rest) := by
  rw [readParts]
  split
  · simp_all
  · rename_i found
    rw [read] at found
    obtain ⟨-, rfl⟩ := Prod.mk.inj (Option.some.inj found)
    exact absurd rfl (ends '.' rfl)
  · simp_all

theorem readPart_quotePart (asterisk : q.opening ≠ '*') (part : List Char)
    (ends : ∀ c ∈ rest.head?, c ≠ q.closing) :
    readPart q (quotePart q part ++ rest) = some (part, rest) := by
  unfold quotePart
  split
  · rename_i lone
    subst lone
    rfl
  · rw [List.cons_append, List.cons_append, List.append_assoc, readPart, if_neg asterisk, if_pos rfl]
    exact readQuoted_doubled q.closing part ends

/-- By induction over the parts: behind each but the last one stands a dot. -/
theorem readParts_intercalate (asterisk : q.opening ≠ '*') (dot : q.closing ≠ '.')
    {parts : List (List Char)} (filled : parts ≠ [])
    (ends : ∀ c ∈ rest.head?, c ≠ q.closing ∧ c ≠ '.') :
    readParts q (List.intercalate ['.'] (parts.map (quotePart q)) ++ rest) =
      some (parts, rest) := by
  induction parts with
  | nil => exact absurd rfl filled
  | cons part others ih =>
    cases others with
    | nil =>
      have read := readPart_quotePart asterisk part fun c first => (ends c first).1
      rw [List.map_singleton, List.intercalate_singleton]
      exact readParts_of_last read fun c first => (ends c first).2
    | cons second others =>
      let later := List.intercalate ['.'] ((second :: others).map (quotePart q)) ++ rest
      have read : readPart q (quotePart q part ++ '.' :: later) = some (part, '.' :: later) :=
        readPart_quotePart asterisk part (by simpa using dot.symm)
      have apart : List.intercalate ['.'] ((part :: second :: others).map (quotePart q)) ++ rest =
          quotePart q part ++ '.' :: later := by
        rw [List.map_cons, List.map_cons, List.intercalate_cons_cons]
        simp [later]
      rw [apart, readParts_of_dot read, ih (List.cons_ne_nil _ _)]
      rfl

end Identifier

/-! ### The parts of a name -/

theorem pieces_eq_splitOn (separator : Char) (text : List Char) :
    pieces separator text = text.splitOn separator := by
  induction text with
  | nil => rfl
  | cons c rest ih =>
    have filled : rest.splitOn separator ≠ [] := List.splitOnP_ne_nil _ _
    obtain ⟨piece, others, split⟩ := List.exists_cons_of_ne_nil filled
    have step : (c :: rest).splitOn separator = if c == separator then [] :: rest.splitOn separator
        else (rest.splitOn separator).modifyHead (List.cons c) :=
      List.splitOnP_cons_eq_if_modifyHead ..
    rw [pieces, ih, step, split]
    by_cases separates : c = separator <;> simp [separates]

theorem pieces_ne_nil (separator : Char) (text : List Char) : pieces separator text ≠ [] := by
  rw [pieces_eq_splitOn]
  exact List.splitOnP_ne_nil _ _

theorem pieces_append_cons (separator : Char) (front back : List Char) :
    pieces separator (front ++ separator :: back) =
      pieces separator front ++ pieces separator back := by
  simp only [pieces_eq_splitOn, List.splitOn_eq_splitOnP]
  exact List.splitOnP_append_cons front back (beq_self_eq_true separator)

/-- Behind a quoted name there can stand anything but another dot and the closing quote; the reader
stops in front of it, with the parts of the name at its dots. So no two names are quoted alike. -/
theorem parts_of_quoted {d : Dialect} {q : QuotePair}
    (names : d.quoteIdentifier = Identifier.quote (some q)) (asterisk : q.opening ≠ '*')
    (dot : q.closing ≠ '.') :
    (∀ (name : String) (rest : List Char), (∀ c ∈ rest.head?, c ≠ q.closing ∧ c ≠ '.') →
      Identifier.readParts q ((d.quoteIdentifier name).toList ++ rest) =
        some (name.toList.splitOn '.', rest)) ∧
      Function.Injective d.quoteIdentifier := by
  have read : ∀ (name : String) (rest : List Char),
      (∀ c ∈ rest.head?, c ≠ q.closing ∧ c ≠ '.') →
      Identifier.readParts q ((d.quoteIdentifier name).toList ++ rest) =
        some (name.toList.splitOn '.', rest) := by
    intro name rest ends
    rw [names, Identifier.quote, String.toList_ofList, Identifier.quoteChars, pieces_eq_splitOn]
    exact Identifier.readParts_intercalate asterisk dot (List.splitOnP_ne_nil _ _) ends
  refine ⟨read, fun first second same => ?_⟩
  have parts : first.toList.splitOn '.' = second.toList.splitOn '.' := by
    have one := read first [] nofun
    rw [same, read second [] nofun] at one
    exact (congrArg Prod.fst (Option.some.inj one)).symm
  apply String.toList_injective
  calc first.toList = List.intercalate ['.'] (first.toList.splitOn '.') :=
        (List.intercalate_splitOn '.').symm
    _ = List.intercalate ['.'] (second.toList.splitOn '.') := by rw [parts]
    _ = second.toList := List.intercalate_splitOn '.'

/-- Brackets in a name, an empty part and an asterisk between its dots, and a semicolon behind it. -/
theorem parts_of_quoted_hostile :
    let d := Dialect.custom { identifierQuote := some ⟨'[', ']'⟩ }
    (d.quoteIdentifier "a].[b..*").toList = "[a]]].[[b].[].*".toList ∧
      Identifier.readParts ⟨'[', ']'⟩ "[a]]].[[b].[].*; SELECT".toList =
        some (["a]".toList, "[b".toList, [], ['*']], "; SELECT".toList) := by
  intro d
  have quoted : (d.quoteIdentifier "a].[b..*").toList = "[a]]].[[b].[].*".toList := by decide
  have read := (parts_of_quoted (d := d) (q := ⟨'[', ']'⟩) rfl (by decide) (by decide)).1
    "a].[b..*" "; SELECT".toList (by simp)
  rw [quoted] at read
  exact ⟨quoted, read⟩

end SqlBatch
