import Mathlib.Data.List.SplitBy
import SqlBatch.Proofs.Render.Pass

/-!
# Texts with marks

What a leaf of a tree writes is not looked into when the text around it is read: it is marked, and
the mark stands in the text like one character. A lexer cuts such a text into words, signs and
single symbols. `Spells.shows` goes from the symbols of a layout to the text that a pass writes.
-/
namespace SqlBatch

/-- A character of a text, or a stretch of it that is taken as one. -/
inductive Symbol (ι : Type)
  | char (c : Char)
  | mark (i : ι)
  deriving DecidableEq

namespace Symbol

variable {ι τ : Type}

def mark? : Symbol ι → Option ι
  | .char _ => none
  | .mark i => some i

def plain (s : String) : List (Symbol ι) := s.toList.map .char

theorem plain_spaced (s : String) : plain (" " ++ s ++ " ") =
    (.char ' ' :: plain s ++ [.char ' '] : List (Symbol ι)) := by
  simp [plain]

/-! ### Lexemes -/

/-- How a symbol goes with its neighbours. -/
inductive Kind
  | blank
  /-- A lexeme by itself. -/
  | single
  | word
  | sign
  deriving DecidableEq

def kind : Symbol ι → Kind
  | .char c =>
    if c.isWhitespace then .blank
    else if c ∈ ['(', ')', '+', '-', '*', '/', '%'] then .single
    else if c.isAlphanum || c = '_' then .word
    else .sign
  | .mark _ => .word

/-- Neighbours in one lexeme are both of a word or both of a sign. -/
def joins (a b : Symbol ι) : Bool :=
  match a.kind, b.kind with
  | .word, .word | .sign, .sign => true
  | _, _ => false

def lexemes (text : List (Symbol ι)) : List (List (Symbol ι)) :=
  (text.splitBy joins).filter fun lexeme => lexeme.all (·.kind ≠ .blank)

/-- The tokens of a text, if each of its lexemes is one. -/
def lex (token : List (Symbol ι) → Option τ) (text : List (Symbol ι)) : Option (List τ) :=
  (lexemes text).mapM token

/-- What goes with no neighbour. -/
def IsLone (s : Symbol ι) : Prop := s.kind = .blank ∨ s.kind = .single

instance : DecidablePred (IsLone (ι := ι)) := fun _ => inferInstanceAs (Decidable (_ ∨ _))

@[simp] theorem isLone_blank : (.char ' ' : Symbol ι).IsLone := .inl rfl

theorem joins_of_lone {a b : Symbol ι} (lone : a.IsLone ∨ b.IsLone) : joins a b = false := by
  unfold joins
  rcases lone with (blank | single) | (blank | single)
  · rw [blank]
  · rw [single]
  · rw [blank]
    cases a.kind <;> rfl
  · rw [single]
    cases a.kind <;> rfl

variable {token : List (Symbol ι) → Option τ} {first second : List (Symbol ι)} {ts us : List τ}

/-- Two texts are read one after the other if one of the symbols that meet goes with no neighbour. -/
theorem lex_append (former : lex token first = some ts) (latter : lex token second = some us)
    (apart : (∀ s ∈ first.getLast?, s.IsLone) ∨ ∀ s ∈ second.head?, s.IsLone) :
    lex token (first ++ second) = some (ts ++ us) := by
  have cut : ∀ x ∈ first.getLast?, ∀ y ∈ second.head?, joins x y = false := fun x last y head =>
    joins_of_lone (apart.imp (· x last) (· y head))
  unfold lex lexemes at *
  rw [List.splitBy_append cut, List.filter_append, List.mapM_append, former, latter]
  rfl

/-- A word between blanks is read by itself. -/
theorem lex_spaced {word : List (Symbol ι)} {t : τ} (former : lex token first = some ts)
    (middle : lex token word = some [t]) (latter : lex token second = some us) :
    lex token (first ++ .char ' ' :: word ++ .char ' ' :: second) = some (ts ++ t :: us) := by
  have blank : ∀ {rest vs}, lex token rest = some vs → lex token (.char ' ' :: rest) = some vs :=
    fun read => lex_append (rfl : lex token [.char ' '] = some []) read (.inl (by simp))
  have behind := lex_append middle (blank latter) (.inr (by simp))
  have whole := lex_append former (blank behind) (.inr (by simp))
  simpa using whole

/-! ### Characters -/

/-- The characters of a symbol when those of the marks are known. -/
def expand (write : ι → List Char) : Symbol ι → List Char
  | .char c => [c]
  | .mark i => write i

theorem flatMap_expand_plain (write : ι → List Char) (s : String) :
    (plain s).flatMap (expand write) = s.toList := by
  simp [plain, List.flatMap_map, expand]

end Symbol

/-- What a layout looks like in a scope in which all of its values have their numbers. -/
def Layout.WritesIn (layout : Layout) (d : Dialect) (scope : Scope) (text : List Char) : Prop :=
  ∃ r, layout.renderIn d scope = (.ok r, scope) ∧ r.sql.toList = text

/-- A text in symbols, each mark being what a layout of its own is rendered as in the scope. -/
def Symbol.Shows {ι : Type} (d : Dialect) (scope : Scope) (stand : ι → Layout)
    (text : List (Symbol ι)) (sql : String) : Prop :=
  ∃ write : ι → List Char, (∀ i, .mark i ∈ text → (stand i).WritesIn d scope (write i)) ∧
    sql.toList = text.flatMap (expand write)

/-! ### Layouts in symbols -/

/-- The layout is written in the symbols, and fails with one of its marks only. -/
structure Spells {ι : Type} (d : Dialect) (stand : ι → Layout) (text : List (Symbol ι))
    (layout : Layout) : Prop where
  written (roll : List Value) : (layout.textOn d roll).toList =
    text.flatMap (Symbol.expand fun i => ((stand i).textOn d roll).toList)
  bound (i : ι) (marked : .mark i ∈ text) : (stand i).bound ⊆ layout.bound
  failing (e : Error) (fails : layout.failure? = some e) :
    ∃ i, .mark i ∈ text ∧ (stand i).failure? = some e
  whole (works : layout.failure? = none) (i : ι) (marked : .mark i ∈ text) :
    (stand i).failure? = none

namespace Spells

variable {ι : Type} {d : Dialect} {stand : ι → Layout} {text more : List (Symbol ι)}
  {layout second : Layout}

theorem plain (s : String) : Spells d stand (Symbol.plain s) [.text s] where
  written roll := by
    rw [Symbol.flatMap_expand_plain, Layout.textOn_singleton]
    rfl
  bound i marked := by simp [Symbol.plain] at marked
  failing e fails := by cases fails
  whole _ i marked := by simp [Symbol.plain] at marked

theorem mark (i : ι) : Spells d stand [.mark i] (stand i) where
  written roll := by simp [Symbol.expand]
  bound j marked := by
    obtain rfl := Symbol.mark.inj (List.mem_singleton.mp marked)
    exact List.Subset.refl _
  failing e fails := ⟨i, List.mem_singleton_self _, fails⟩
  whole works j marked := by
    obtain rfl := Symbol.mark.inj (List.mem_singleton.mp marked)
    exact works

theorem append (former : Spells d stand text layout) (latter : Spells d stand more second) :
    Spells d stand (text ++ more) (layout ++ second) where
  written roll := by
    rw [Layout.textOn_append, String.toList_append, former.written, latter.written,
      List.flatMap_append]
  bound i marked := by
    rw [Layout.bound_append]
    rcases List.mem_append.mp marked with here | there
    · exact List.subset_append_of_subset_left _ (former.bound i here)
    · exact List.subset_append_of_subset_right _ (latter.bound i there)
  failing e fails := by
    rw [Layout.failure?_append] at fails
    rcases Option.or_eq_some_iff.mp fails with now | ⟨-, later⟩
    · obtain ⟨i, here, why⟩ := former.failing e now
      exact ⟨i, List.mem_append_left _ here, why⟩
    · obtain ⟨i, there, why⟩ := latter.failing e later
      exact ⟨i, List.mem_append_right _ there, why⟩
  whole works i marked := by
    rw [Layout.failure?_append, Option.or_eq_none_iff] at works
    rcases List.mem_append.mp marked with here | there
    · exact former.whole works.1 i here
    · exact latter.whole works.2 i there

theorem parenthesized (spells : Spells d stand text layout) :
    Spells d stand (Symbol.plain "(" ++ text ++ Symbol.plain ")") (Layout.parenthesized layout) :=
  ((plain "(").append spells).append (plain ")")

/-- What goes on with further layouts, each behind the same text. -/
theorem behind {between : List (Symbol ι)} {separator : String} {texts : List (List (Symbol ι))}
    {layouts : List Layout} (spells : Spells d stand text layout)
    (joint : Spells d stand between [.text separator])
    (others : List.Forall₂ (Spells d stand) texts layouts) :
    Spells d stand (text ++ texts.flatMap (between ++ ·))
      (layout ++ layouts.flatMap (.text separator :: ·)) := by
  induction others generalizing text layout with
  | nil => simpa using spells
  | cons next rest ih =>
    have longer := ih ((spells.append joint).append next)
    simpa using longer

/-- A pass fails with a mark or comes to the text of the symbols, the marks being what their layouts
are rendered as in the scope that the pass leaves. -/
theorem shows (spells : Spells d stand text layout) (roll : List Value) :
    match layout.renderIn d (.numbering d roll) with
    | (.ok r, after) => Symbol.Shows d after stand text r.sql
    | (.error e, _) => ∃ i, .mark i ∈ text ∧ (stand i).failure? = some e := by
  rw [Layout.renderIn_numbering]
  cases fails : layout.failure? with
  | some e => exact spells.failing e fails
  | none =>
    let after := enrollAll roll layout.bound
    refine ⟨fun i => ((stand i).textOn d after).toList, fun i marked => ?_, spells.written after⟩
    have inside : (stand i).bound ⊆ after :=
      List.Subset.trans (spells.bound i marked) (values_subset_enrollAll roll layout.bound)
    have same : enrollAll after (stand i).bound = after := enrollAll_of_subset inside
    refine ⟨(stand i).rendering d after, ?_, ?_⟩
    · rw [Layout.renderIn_numbering, spells.whole fails i marked, same]
    · rw [Layout.rendering, same]

end Spells
end SqlBatch
