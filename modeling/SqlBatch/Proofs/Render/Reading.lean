import SqlBatch.Proofs.Render.Merging
import SqlBatch.Proofs.Text.Spelling

/-!
# Layouts read back

How the texts of layouts take the lexer from one kind of place to another, put together from the
texts of their pieces. Every layout of a part of a tree is a phrase, an opener in front of one or a
tail behind one.
-/
namespace SqlBatch

open Scan

/-! ### Layouts read back -/

/-- A dialect and a way to quote in which its texts are read back, values carrying the numbers of a
roll. -/
structure Reading where
  dialect : Dialect
  style : QuoteStyle
  roll : List Value

namespace Reading

variable {g : Reading}

/-- Reads the text of a layout, and as many ends of statements as the layout has. -/
def Leads (g : Reading) (pre : Scan → Prop) (layout : Layout) (post : Scan → Prop) : Prop :=
  ∀ s, pre s → ∃ t, scan g.style.pair s (layout.textOn g.dialect g.roll).toList = some t ∧ post t ∧
    t.ends = s.ends + layout.endings

/-- A layout that comes out right behind a quote at worst, when it is entered elsewhere. -/
def Phrase (g : Reading) (layout : Layout) : Prop :=
  ∀ depth, g.Leads (Clear depth) layout (Free g.style.pair depth)

/-- A layout that can stand in front of a phrase. -/
def Opener (g : Reading) (layout : Layout) : Prop :=
  ∀ depth, g.Leads (Clear depth) layout (Clear depth)

/-- A layout that can stand behind a phrase. -/
def Tail (g : Reading) (layout : Layout) : Prop :=
  ∀ depth, g.Leads (Free g.style.pair depth) layout (Free g.style.pair depth)

/-- A layout of whole statements. -/
def Script (g : Reading) (layout : Layout) : Prop := g.Leads (Clear 0) layout (Clear 0)

variable {pre mid post : Scan → Prop} {first second : Layout} {depth : Nat} {s : String}

theorem leads_nil (g : Reading) (pre : Scan → Prop) : g.Leads pre [] pre :=
  fun s here => ⟨s, rfl, here, rfl⟩

theorem Leads.append (left : g.Leads pre first mid) (right : g.Leads mid second post) :
    g.Leads pre (first ++ second) post := by
  intro s here
  obtain ⟨t, read, there, ends⟩ := left s here
  obtain ⟨u, rest, beyond, further⟩ := right t there
  refine ⟨u, ?_, beyond, by rw [further, ends, Layout.endings_append, Nat.add_assoc]⟩
  rw [Layout.textOn_append, String.toList_append, scan_append read, rest]

theorem Leads.fromClear (leads : g.Leads (Free g.style.pair depth) first post) :
    g.Leads (Clear depth) first post := fun s here => leads s here.free

theorem Leads.toFree (leads : g.Leads pre first (Clear depth)) :
    g.Leads pre first (Free g.style.pair depth) := by
  intro s here
  obtain ⟨t, read, there, ends⟩ := leads s here
  exact ⟨t, read, there.free, ends⟩

theorem leads_piece {piece : Piece}
    (read : Reads g.style.pair pre (piece.textOn g.dialect g.roll).toList post)
    (inside : piece ≠ .terminator) : g.Leads pre [piece] post := by
  intro s here
  obtain ⟨t, done, there, same⟩ := read s here
  refine ⟨t, ?_, there, ?_⟩
  · rw [Layout.textOn_singleton]
    exact done
  · rw [same, Layout.endings_cons, if_neg inside]
    rfl

theorem leads_turn {before after : Nat} (turns : Turns g.style before after s) (depth : Nat) :
    g.Leads (Free g.style.pair (depth + before)) [.text s] (Clear (depth + after)) :=
  leads_piece (turns depth) nofun

/-! ### Rules of composition -/

theorem Opener.nil : g.Opener [] := fun _ => leads_nil g _

theorem Tail.nil : g.Tail [] := fun _ => leads_nil g _

theorem Opener.phrase (opener : g.Opener first) : g.Phrase first := fun depth =>
  (opener depth).toFree

theorem Tail.phrase (tail : g.Tail first) : g.Phrase first := fun depth => (tail depth).fromClear

theorem Opener.append (left : g.Opener first) (right : g.Opener second) :
    g.Opener (first ++ second) := fun depth => (left depth).append (right depth)

theorem Opener.into (opener : g.Opener first) (phrase : g.Phrase second) :
    g.Phrase (first ++ second) := fun depth => (opener depth).append (phrase depth)

theorem Phrase.append (phrase : g.Phrase first) (tail : g.Tail second) :
    g.Phrase (first ++ second) := fun depth => (phrase depth).append (tail depth)

theorem Tail.append (left : g.Tail first) (right : g.Tail second) : g.Tail (first ++ second) :=
  fun depth => (left depth).append (right depth)

theorem opener_word {w : String} (word : IsWord g.style.pair w) : g.Opener [.text w] := fun depth =>
  leads_piece (reads_word word depth) nofun

theorem opener_fixed (h : s.toList.all QuoteStyle.isPlain = true) : g.Opener [.text s] :=
  opener_word (isWord_fixed h)

theorem opener_if (wanted : Bool) (h : s.toList.all QuoteStyle.isPlain = true) :
    g.Opener (if wanted then [.text s] else []) := by
  split
  · exact opener_fixed h
  · exact Opener.nil

theorem opener_text (turns : Turns g.style 0 0 s) (opener : g.Opener first) :
    g.Opener (.text s :: first) := fun depth =>
  (leads_turn turns depth).fromClear.append (opener depth)

theorem tail_text (turns : Turns g.style 0 0 s) (phrase : g.Phrase first) :
    g.Tail (.text s :: first) := fun depth => (leads_turn turns depth).append (phrase depth)

/-- Two texts of which the first opens a parenthesis that the second closes. -/
theorem tail_enclosed {t : String} (opens : Turns g.style 0 1 s) (closes : Turns g.style 1 0 t)
    (inner : g.Phrase first) (rest : g.Phrase second) :
    g.Tail (.text s :: first ++ .text t :: second) := fun depth =>
  ((leads_turn opens depth).append (inner (depth + 1))).append
    ((leads_turn closes depth).append (rest depth))

theorem tail_fixed_cons (h : s.toList ≠ [] ∧ openBehind QuoteStyle.isPlain 0 s.toList = some 0)
    (phrase : g.Phrase first) : g.Tail (.text s :: first) := tail_text (turns_fixed h) phrase

theorem tail_fixed (h : s.toList ≠ [] ∧ openBehind QuoteStyle.isPlain 0 s.toList = some 0) :
    g.Tail [.text s] := tail_fixed_cons h Opener.nil.phrase

theorem tail_parenthesized (inner : g.Phrase first) : g.Tail (Layout.parenthesized first) :=
  tail_enclosed (turns_fixed (by decide)) (turns_fixed (by decide)) inner Opener.nil.phrase

theorem phrase_parenthesizedIf (wanted : Bool) (inner : g.Phrase first) :
    g.Phrase (Layout.parenthesizedIf wanted first) := by
  cases wanted with
  | false => exact inner
  | true => exact (tail_parenthesized inner).phrase

theorem phrase_separated (turns : Turns g.style 0 0 s) {layouts : List Layout}
    (phrases : ∀ layout ∈ layouts, g.Phrase layout) : g.Phrase (Layout.separated s layouts) := by
  induction layouts with
  | nil => exact Opener.nil.phrase
  | cons first rest ih =>
    have later := ih fun layout member => phrases layout (List.mem_cons_of_mem _ member)
    have now := phrases first List.mem_cons_self
    cases rest with
    | nil => simpa [Layout.separated] using now
    | cons second others =>
      rw [Layout.separated_cons_cons]
      exact now.append (tail_text turns later)

theorem script_separated (turns : Turns g.style 0 0 s) {layouts : List Layout}
    (scripts : ∀ layout ∈ layouts, g.Script layout) : g.Script (Layout.separated s layouts) := by
  induction layouts with
  | nil => exact leads_nil g _
  | cons first rest ih =>
    have later := ih fun layout member => scripts layout (List.mem_cons_of_mem _ member)
    have now := scripts first List.mem_cons_self
    cases rest with
    | nil => simpa [Layout.separated] using now
    | cons second others =>
      rw [Layout.separated_cons_cons]
      exact now.append ((leads_turn turns 0).fromClear.append later)

theorem tail_clause (turns : Turns g.style 0 0 s) {inner : Option Layout}
    (phrases : ∀ layout ∈ inner, g.Phrase layout) : g.Tail (Layout.clause s inner) := by
  cases inner with
  | none => exact .nil
  | some layout => exact tail_text turns (phrases layout rfl)

theorem tail_flatten {layouts : List Layout} (tails : ∀ layout ∈ layouts, g.Tail layout) :
    g.Tail layouts.flatten := by
  induction layouts with
  | nil => exact .nil
  | cons first rest ih =>
    exact (tails first List.mem_cons_self).append
      (ih fun layout member => tails layout (List.mem_cons_of_mem _ member))

theorem phrase_failure (e : Error) : g.Phrase (Layout.failure e) := fun _ =>
  leads_piece (Reads.nil _ _).toFree nofun

theorem tail_failure (e : Error) : g.Tail (Layout.failure e) := fun _ =>
  leads_piece (Reads.nil _ _) nofun

end Reading

end SqlBatch
