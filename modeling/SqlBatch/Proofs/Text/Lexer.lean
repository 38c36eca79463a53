import Mathlib.Data.List.Basic
import SqlBatch.Text

/-!
# Reading a text back

A lexer that knows quotes, parentheses and the ends of statements, and nothing else of the
language. `Reads` says where it comes out of a text that it reads from somewhere.
-/
namespace SqlBatch

/-! ### The lexer -/

inductive Place
  | outside
  /-- Inside a quote that ends with the character. -/
  | inside (closing : Char)
  /-- Behind the end of a quote; the same character once more belongs to the quote. -/
  | shut (closing : Char)
  deriving DecidableEq

structure Scan where
  place : Place := .outside
  /-- How many parentheses are open. -/
  depth : Nat := 0
  /-- How many ends of statements there were. -/
  ends : Nat := 0
  deriving DecidableEq

namespace Scan

/-- A character outside of quotes. There is no closing of a parenthesis that is not open, and no
end of a statement inside of one. -/
def stepOutside (q : QuotePair) (s : Scan) (c : Char) : Option Scan :=
  if c = '\'' then some { s with place := .inside '\'' }
  else if c = q.opening then some { s with place := .inside q.closing }
  else if c = '(' then some { s with place := .outside, depth := s.depth + 1 }
  else if c = ')' then
    if s.depth = 0 then none else some { s with place := .outside, depth := s.depth - 1 }
  else if c = ';' then
    if s.depth = 0 then some { s with place := .outside, ends := s.ends + 1 } else none
  else some { s with place := .outside }

def step (q : QuotePair) (s : Scan) (c : Char) : Option Scan :=
  match s.place with
  | .outside => s.stepOutside q c
  | .inside closing =>
    some { s with place := if c = closing then .shut closing else .inside closing }
  | .shut closing =>
    if c = closing then some { s with place := .inside closing } else s.stepOutside q c

/-- Single quotes and the quotes of identifiers are the only ones. -/
def Outside (q : QuotePair) (s : Scan) : Prop :=
  s.place = .outside ∨ s.place = .shut '\'' ∨ s.place = .shut q.closing

/-- Outside, and not right behind a quote. -/
structure Clear (depth : Nat) (s : Scan) : Prop where
  place : s.place = .outside
  depth : s.depth = depth

structure Free (q : QuotePair) (depth : Nat) (s : Scan) : Prop where
  outside : s.Outside q
  depth : s.depth = depth

theorem Clear.free {q : QuotePair} {depth : Nat} {s : Scan} (clear : s.Clear depth) :
    s.Free q depth := ⟨.inl clear.place, clear.depth⟩

end Scan

open Scan

def scan (q : QuotePair) (s : Scan) (text : List Char) : Option Scan := text.foldlM (step q) s

variable {q : QuotePair}

/-- Reads a text from one kind of place to another without meeting the end of a statement. -/
def Reads (q : QuotePair) (pre : Scan → Prop) (text : List Char) (post : Scan → Prop) : Prop :=
  ∀ s, pre s → ∃ t, scan q s text = some t ∧ post t ∧ t.ends = s.ends

theorem scan_append {s t : Scan} {first : List Char} (read : scan q s first = some t)
    (second : List Char) : scan q s (first ++ second) = scan q t second := by
  rw [scan, List.foldlM_append, ← scan, read]
  rfl

namespace Reads

variable {pre mid post : Scan → Prop} {first second : List Char}

theorem nil (q : QuotePair) (pre : Scan → Prop) : Reads q pre [] pre :=
  fun s here => ⟨s, rfl, here, rfl⟩

theorem append (left : Reads q pre first mid) (right : Reads q mid second post) :
    Reads q pre (first ++ second) post := by
  intro s here
  obtain ⟨t, read, there, same⟩ := left s here
  obtain ⟨u, rest, beyond, still⟩ := right t there
  exact ⟨u, (scan_append read second).trans rest, beyond, still.trans same⟩

theorem fromClear {depth : Nat} {text : List Char} (read : Reads q (Free q depth) text post) :
    Reads q (Clear depth) text post := fun s here => read s here.free

theorem toFree {depth : Nat} {text : List Char} (read : Reads q pre text (Clear depth)) :
    Reads q pre text (Free q depth) := by
  intro s here
  obtain ⟨t, done, there, same⟩ := read s here
  exact ⟨t, done, there.free, same⟩

end Reads

/-! ### Quotes -/

/-- What is written inside a quote with its end doubled stays inside of it. -/
theorem scan_doubled (closing : Char) (depth ends : Nat) (body : List Char) :
    scan q ⟨.inside closing, depth, ends⟩ (doubled closing body) =
      some ⟨.inside closing, depth, ends⟩ := by
  induction body with
  | nil => rfl
  | cons c rest ih =>
    unfold doubled
    by_cases closes : c = closing
    · simpa [closes, scan, step] using ih
    · simpa [closes, scan, step] using ih

theorem reads_quoted {opening closing : Char}
    (known : opening = '\'' ∧ closing = '\'' ∨
      opening ≠ '\'' ∧ opening = q.opening ∧ closing = q.closing)
    (depth : Nat) (body : List Char) :
    Reads q (Clear depth) (opening :: doubled closing body ++ [closing]) (Free q depth) := by
  rintro ⟨place, depth, ends⟩ ⟨rfl, rfl⟩
  have opens : scan q ⟨.outside, depth, ends⟩ [opening] = some ⟨.inside closing, depth, ends⟩ := by
    rcases known with ⟨rfl, rfl⟩ | ⟨other, rfl, rfl⟩
    · rfl
    · simp [scan, step, stepOutside, other]
  have inside := scan_append opens (doubled closing body)
  rw [scan_doubled] at inside
  refine ⟨⟨.shut closing, depth, ends⟩, ?_, ⟨?_, rfl⟩, rfl⟩
  · refine (scan_append inside [closing]).trans ?_
    simp [scan, step]
  · rcases known with ⟨-, rfl⟩ | ⟨-, -, rfl⟩
    · exact .inr (.inl rfl)
    · exact .inr (.inr rfl)

/-! ### Plain texts -/

/-- A character that means nothing to the lexer wherever it stands. -/
def QuotePair.isPlain (q : QuotePair) (c : Char) : Bool :=
  c ≠ '\'' && c ≠ q.opening && c ≠ q.closing && c ≠ '(' && c ≠ ')' && c ≠ ';'

def IsWord (q : QuotePair) (s : String) : Prop := ∀ c ∈ s.toList, q.isPlain c = true

/-- How many parentheses are open behind a text that only has plain characters and parentheses, when
some are open in front of it. -/
def openBehind (plain : Char → Bool) : (depth : Nat) → List Char → Option Nat
  | depth, [] => some depth
  | depth, c :: rest =>
    if c = '(' then openBehind plain (depth + 1) rest
    else if c = ')' then
      match depth with
      | 0 => none
      | depth + 1 => openBehind plain depth rest
    else if plain c then openBehind plain depth rest
    else none

theorem isPlain_iff {c : Char} : q.isPlain c = true ↔
    c ≠ '\'' ∧ c ≠ q.opening ∧ c ≠ q.closing ∧ c ≠ '(' ∧ c ≠ ')' ∧ c ≠ ';' := by
  simp [QuotePair.isPlain, and_assoc]

/-- Only the end of a quote once more reads otherwise right behind the quote. -/
theorem scan_outside {s : Scan} (outside : s.Outside q) {c : Char}
    (other : c ≠ '\'' ∧ c ≠ q.closing) (rest : List Char) :
    scan q s (c :: rest) = scan q { s with place := .outside } (c :: rest) := by
  rcases s with ⟨place, depth, ends⟩
  obtain rfl | rfl | rfl : place = .outside ∨ place = .shut '\'' ∨ place = .shut q.closing :=
    outside
  · rfl
  · simp [scan, step, other.1, stepOutside]
  · simp [scan, step, other.2, stepOutside]

/-- The three ways to quote identifiers. -/
inductive QuoteStyle
  | double
  | backtick
  | bracket

namespace QuoteStyle

def pair : QuoteStyle → QuotePair
  | double => ⟨'"', '"'⟩
  | backtick => ⟨'\x60', '\x60'⟩
  | bracket => ⟨'[', ']'⟩

def isPlain (c : Char) : Bool := [double, backtick, bracket].all (·.pair.isPlain c)

theorem isPlain_pair {c : Char} (plain : isPlain c = true) (style : QuoteStyle) :
    style.pair.isPlain c = true := by
  simp only [isPlain, List.all_cons, List.all_nil, Bool.and_eq_true] at plain
  cases style with
  | double => exact plain.1
  | backtick => exact plain.2.1
  | bracket => exact plain.2.2.1

end QuoteStyle

variable {style : QuoteStyle} {plain : Char → Bool} {before after : Nat}

theorem Reads.cons {c : Char} {rest : List Char} {depth next : Nat} {post : Scan → Prop}
    (first : ∀ ends, step q ⟨.outside, depth, ends⟩ c = some ⟨.outside, next, ends⟩)
    (read : Reads q (Clear next) rest post) : Reads q (Clear depth) (c :: rest) post := by
  rintro ⟨place, depth, ends⟩ ⟨rfl, rfl⟩
  obtain ⟨t, done, there, same⟩ := read ⟨.outside, next, ends⟩ ⟨rfl, rfl⟩
  refine ⟨t, ?_, there, same⟩
  rw [scan, List.foldlM_cons, first]
  exact done

/-- By induction over the text, whatever else is open around it. -/
theorem reads_openBehind (known : ∀ c, plain c = true → style.pair.isPlain c = true)
    {text : List Char} (h : openBehind plain before text = some after) (depth : Nat) :
    Reads style.pair (Clear (depth + before)) text (Clear (depth + after)) := by
  have quotes : '(' ≠ style.pair.opening ∧ ')' ≠ style.pair.opening := by
    cases style <;> decide
  induction text generalizing before with
  | nil =>
    obtain rfl := Option.some.inj h
    exact Reads.nil _ _
  | cons c rest ih =>
    unfold openBehind at h
    split at h
    · rename_i opens
      refine Reads.cons (fun ends => ?_) (ih h)
      simp [step, stepOutside, opens, quotes.1, Nat.add_assoc]
    · split at h
      · rename_i closes
        cases before with
        | zero => cases h
        | succ before =>
          refine Reads.cons (fun ends => ?_) (ih h)
          simp [step, stepOutside, closes, quotes.2]
      · split at h
        · rename_i opens closes holds
          obtain ⟨apostrophe, opening, -, -, -, semicolon⟩ := isPlain_iff.mp (known c holds)
          refine Reads.cons (fun ends => ?_) (ih h)
          simp [step, stepOutside, apostrophe, opening, opens, closes, semicolon]
        · cases h

theorem openBehind_word {word : List Char} (holds : ∀ c ∈ word, style.pair.isPlain c = true)
    (depth : Nat) : openBehind style.pair.isPlain depth word = some depth := by
  induction word with
  | nil => rfl
  | cons c rest ih =>
    have first := holds c List.mem_cons_self
    obtain ⟨-, -, -, opens, closes, -⟩ := isPlain_iff.mp first
    unfold openBehind
    rw [if_neg opens, if_neg closes, if_pos first]
    exact ih fun other member => holds other (List.mem_cons_of_mem c member)

theorem reads_word {word : String} (holds : IsWord style.pair word) (depth : Nat) :
    Reads style.pair (Clear depth) word.toList (Clear depth) :=
  (reads_openBehind (fun _ => id) (openBehind_word holds 0) depth :)

/-- A text that can stand right behind a quote and changes how many parentheses are open. -/
def Turns (style : QuoteStyle) (before after : Nat) (s : String) : Prop :=
  ∀ depth, Reads style.pair (Free style.pair (depth + before)) s.toList (Clear (depth + after))

theorem turns_of_openBehind {s : String} (filled : s.toList ≠ [])
    (known : ∀ c, plain c = true → style.pair.isPlain c = true)
    (h : openBehind plain before s.toList = some after) : Turns style before after s := by
  intro depth
  obtain ⟨c, rest, text⟩ := List.exists_cons_of_ne_nil filled
  have other : c ≠ '\'' ∧ c ≠ style.pair.closing := by
    rw [text] at h
    unfold openBehind at h
    split at h
    · rename_i opens
      subst opens
      cases style <;> decide
    · split at h
      · rename_i closes
        subst closes
        cases style <;> decide
      · split at h
        · obtain ⟨apostrophe, -, closing, -⟩ := isPlain_iff.mp (known c ‹_›)
          exact ⟨apostrophe, closing⟩
        · cases h
  have read := reads_openBehind known h depth
  rw [text] at read ⊢
  rintro s ⟨outside, same⟩
  rw [scan_outside outside other]
  exact read _ ⟨rfl, same⟩

/-- A fixed text, whichever way identifiers are quoted. -/
theorem turns_fixed {s : String}
    (h : s.toList ≠ [] ∧ openBehind QuoteStyle.isPlain before s.toList = some after) :
    Turns style before after s :=
  turns_of_openBehind h.1 (fun _ plain => QuoteStyle.isPlain_pair plain style) h.2

example : Turns style 0 2 "SELECT * FROM (\nSELECT PagedQuery.*, ROWNUM AS RowNumber FROM (\n" :=
  turns_fixed (by decide)

namespace Turns

variable {s : String}

theorem append {t : String} {last : Nat} (first : Turns style before after s)
    (second : Turns style after last t) : Turns style before last (s ++ t) := by
  intro depth
  rw [String.toList_append]
  exact (first depth).append (second depth).fromClear

theorem word {w : String} (turns : Turns style before after s) (holds : IsWord style.pair w) :
    Turns style before after (s ++ w) := by
  intro depth
  rw [String.toList_append]
  exact (turns depth).append (reads_word holds _)

end Turns

end SqlBatch
