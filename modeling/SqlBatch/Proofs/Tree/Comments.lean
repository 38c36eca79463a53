import SqlBatch.Proofs.Text.Comments
import SqlBatch.Proofs.Text.Quoted
import SqlBatch.Proofs.Tree.Assembly

/-!
# Trees and comments

A tree without texts of its own writes no comment but one: a minus in front of a minus. The texts
that go between the parts of a tree never open a comment, whatever stands next to them.
-/
namespace SqlBatch

open Layout

variable {d : Dialect} {q : QuotePair} {roll : List Value} {opener : Char × Char}

/-- A piece that opens no comment, whatever is open around it. -/
def Piece.IsQuiet (d : Dialect) (q : QuotePair) (roll : List Value) (opener : Char × Char) :
    Nat → Piece → Nat → Prop :=
  fun _ piece _ => Quiet opener (piece.marked d q roll)

namespace Layout

@[simp] theorem marked_nil : marked d q roll [] = [] := rfl

@[simp] theorem marked_cons (piece : Piece) (rest : Layout) :
    marked d q roll (piece :: rest) = piece.marked d q roll ++ marked d q roll rest := rfl

@[simp] theorem marked_append (first second : Layout) :
    marked d q roll (first ++ second) = marked d q roll first ++ marked d q roll second :=
  List.flatMap_append

theorem marked_text (s : String) : Piece.marked d q roll (.text s) = plainly s.toList := rfl

/-- What is made of quiet layouts and quiet pieces is quiet. -/
theorem Made.quiet {before after : Nat} {nodes : List Node} {layout : Layout}
    (made : Made d (Piece.IsQuiet d q roll opener) before nodes layout after)
    (children : ∀ c ∈ nodes, Quiet opener ((c.layout d).marked d q roll)) :
    Quiet opener (layout.marked d q roll) := by
  induction made with
  | nil => exact .nil
  | piece here later ih =>
    rw [marked_cons]
    exact here.append (ih children)
  | child enclosed later ih =>
    obtain ⟨first, rest⟩ := List.forall_mem_cons.mp children
    rw [marked_append]
    exact first.append (ih rest)

end Layout

/-! ### Quiet texts -/

section

variable (cautious : d.Cautious q) (opens : opener ∈ commentOpeners)

include opens

theorem quiet_text {s : String} (dashless : Dashless s.toList) :
    Level (Piece.IsQuiet d q roll opener) s := fun _ => dashless.quiet opens

include cautious

theorem quiet_operator (op : Operator) :
    Level (Piece.IsQuiet d q roll opener) (" " ++ op.symbolIn d ++ " ") := by
  have blank : Dashless " ".toList := by decide
  have symbol (op : Operator) : ∀ opener ∈ commentOpeners,
      Quiet opener (plainly (" " ++ op.symbol ++ " ").toList) := by
    cases op <;> decide
  cases op with
  | concat =>
    have symbol := dashless_append blank cautious.operator
    exact quiet_text opens (dashless_append symbol blank)
  | _ => exact fun depth => symbol _ opener opens

theorem quietVocabulary (roll : List Value) : Vocabulary d (Piece.IsQuiet d q roll opener) where
  fixed := by
    have dashless : ∀ text ∈ fixedTexts, Dashless text.1.toList := by decide
    intro s closes opens' listed depth
    exact (dashless _ listed).quiet opens
  identifier name depth := Identifier.quiet_marked opens q name.toList
  literal c depth := (cautious.literal c).quiet opener opens
  placeholder v depth := (cautious.placeholder _).1.quiet opens
  operator := quiet_operator cautious opens
  type t ordinary := by
    refine quiet_text opens (cautious.type t ?_)
    cases t with
    | custom => cases ordinary
    | _ => trivial

theorem quietPaging : PagingWords d (Piece.IsQuiet d q roll opener) where
  fixed s listed := by
    have dashless : ∀ s ∈ pagingTexts, Dashless s.toList := by decide
    exact quiet_text opens (dashless s listed)
  count n := quiet_text opens (dashless_nat n.toNat)
  rows s unbounded depth := cautious.rows s unbounded opener opens
  append s t first second depth := by
    have together := (first depth).append (second depth)
    change Quiet opener (plainly (s ++ t).toList)
    rw [String.toList_append, plainly_append]
    exact together

end

/-! ### Minuses -/

/-- The expressions whose own text begins with a minus. -/
def Expr.leadsWithMinus : Expr → Bool
  | .negate _ => true
  | .constant c => c.isNegative
  | _ => false

/-- A node without texts from outside, other than words with neither a dash nor a slash. -/
def Node.IsDashless : Node → Prop
  | .expr (.raw _) | .condition (.raw _) => False
  | .expr (.call function _ _) => Dashless function.toList
  | .expr (.cast _ (some t)) => t.IsDashless
  | _ => True

theorem Node.IsDashless.words {n : Node} (cautious : d.Cautious q) (dashless : n.IsDashless) :
    ∀ w ∈ n.words d, Dashless w.toList := by
  unfold Node.words
  split
  · exact dashless.elim
  · exact dashless.elim
  · exact List.forall_mem_singleton.mpr dashless
  · exact List.forall_mem_singleton.mpr (cautious.type _ dashless)
  · exact List.forall_mem_nil _

theorem Identifier.head_marked (q : QuotePair) (name : List Char) :
    ∃ x ∈ (marked q name).head?, x ≠ ('-', false) := by
  obtain ⟨part, rest, parts⟩ := List.exists_cons_of_ne_nil (pieces_ne_nil '.' name)
  have first : ∃ x ∈ ((quotePart q part).map (·, part != ['*'])).head?, x ≠ ('-', false) := by
    unfold quotePart
    split
    · rename_i asterisk
      subst asterisk
      exact ⟨('*', false), rfl, by decide⟩
    · rename_i quoted
      exact ⟨(q.opening, true), by simp [quoted], by simp⟩
  obtain ⟨x, head, other⟩ := first
  refine ⟨x, ?_, other⟩
  rw [marked, parts, List.map_cons]
  cases rest with
  | nil => simpa only [List.map_nil, List.intercalate_singleton] using head
  | cons second others =>
    rw [List.map_cons, List.intercalate_cons_cons]
    simp only [List.head?_append, Option.mem_def.mp head, List.append_assoc, Option.some_or,
      Option.mem_some]

/-- The text of a layout begins like that of its first piece. -/
theorem Layout.head_marked {piece : Piece} {x : Char × Bool}
    (head : x ∈ (piece.marked d q roll).head?) (rest : Layout) :
    x ∈ (marked d q roll (piece :: rest)).head? := by
  rw [marked_cons, List.head?_append, Option.mem_def.mp head]
  rfl

theorem Layout.head_text (s : String) {c : Char} (head : c ∈ s.toList.head?) (rest : Layout) :
    (c, false) ∈ (marked d q roll (.text s :: rest)).head? := by
  refine head_marked ?_ rest
  simp [Piece.marked, Piece.textOn, plainly, Option.mem_def.mp head]

theorem Expr.marked_negate (e : Expr) :
    ((Expr.negate e).layout d).marked d q roll =
      ('-', false) :: marked d q roll (parenthesizedIf e.isOperation (e.layout d)) := by
  have minus : plainly "-".toList = [('-', false)] := by decide
  rw [Expr.layout, marked_cons, marked_text, minus]
  rfl

section

variable (cautious : d.Cautious q)

include cautious

/-- The text of an operand begins with a minus or with something else. -/
theorem Expr.head_marked (roll : List Value) {e : Expr} (dashless : (Node.expr e).IsDashless)
    (single : e.isOperation = false) (whole : ¬(e.layout d).Fails) :
    ∃ x ∈ ((e.layout d).marked d q roll).head?, (x = ('-', false) ↔ e.leadsWithMinus = true) := by
  have named (name : String) (rest : Layout) (positive : e.leadsWithMinus = false) :
      ∃ x ∈ (marked d q roll (.identifier name :: rest)).head?,
        (x = ('-', false) ↔ e.leadsWithMinus = true) := by
    obtain ⟨x, head, other⟩ := Identifier.head_marked q name.toList
    exact ⟨x, Layout.head_marked head rest, by simp [other, positive]⟩
  have worded {s : String} {c : Char} (head : c ∈ s.toList.head?) (other : c ≠ '-') (rest : Layout)
      (positive : e.leadsWithMinus = false) :
      ∃ x ∈ (marked d q roll (.text s :: rest)).head?,
        (x = ('-', false) ↔ e.leadsWithMinus = true) :=
    ⟨(c, false), Layout.head_text s head rest, by simp [other, positive]⟩
  cases e with
  | column c =>
    rcases c with ⟨_ | table, name⟩
    · exact named name [] rfl
    · exact named table _ rfl
  | value v =>
    obtain ⟨word, filled⟩ := cautious.placeholder (roll.idxOf v + 1)
    obtain ⟨c, rest, text⟩ := List.exists_cons_of_ne_nil fun none =>
      filled (String.toList_eq_nil_iff.mp none)
    have other : c ≠ '-' := (word c (by simp [text])).1
    refine ⟨(c, false), Layout.head_marked ?_ [], by simp [leadsWithMinus, other]⟩
    have shown : (parameterOn d roll v).name.toList = c :: rest := text
    simp [Piece.marked, Piece.textOn, plainly, shown]
  | constant c =>
    obtain ⟨x, head, sign⟩ := (cautious.literal c).starts
    exact ⟨x, Layout.head_marked head [], sign⟩
  | wildcard table =>
    cases table with
    | none => exact worded (s := "*") rfl (by decide) [] rfl
    | some table => exact named table _ rfl
  | operation => cases single
  | negate e => exact ⟨('-', false), Layout.head_text "-" rfl _, by simp [leadsWithMinus]⟩
  | call function arguments distinct =>
    cases text : function.toList with
    | nil =>
      obtain rfl := String.toList_eq_nil_iff.mp text
      obtain ⟨x, head, sign⟩ := worded (s := "(") rfl (by decide) _ rfl
      exact ⟨x, head, sign⟩
    | cons c rest =>
      have other : c ≠ '-' := (dashless c (by simp [text])).1
      exact worded (s := function) (by simp [text]) other _ rfl
  | cast e target =>
    rw [layout] at whole ⊢
    split at whole
    · exact worded (s := "CAST(") rfl (by decide) _ rfl
    · exact (whole (fails_failure _)).elim
  | case branches otherwise =>
    rw [layout] at whole ⊢
    split at whole
    · exact (whole (fails_failure _)).elim
    · rename_i some
      rw [if_neg some]
      exact worded (s := "CASE") rfl (by decide) _ rfl
  | subquery query => exact worded (s := "(") rfl (by decide) _ rfl
  | raw sql => exact dashless.elim

/-- A minus goes with the operand behind it, unless that begins with another one. -/
theorem Expr.quiet_negate {e : Expr} (opens : opener ∈ commentOpeners)
    (dashless : (Node.expr e).IsDashless) (whole : ¬(e.layout d).Fails)
    (calm : opener = ('-', '-') → e.leadsWithMinus = false)
    (operand : Quiet opener ((e.layout d).marked d q roll)) :
    Quiet opener (((Expr.negate e).layout d).marked d q roll) := by
  have dash (s : Marked) {x : Char × Bool} (quiet : Quiet opener s) (head : x ∈ s.head?)
      (other : opener = ('-', '-') → x ≠ ('-', false)) : Quiet opener (('-', false) :: s) := by
    refine quiet.cons head fun first => ?_
    rcases List.mem_pair.mp opens with rfl | rfl
    · exact other rfl
    · exact absurd (congrArg Prod.fst first) (by decide)
  rw [e.marked_negate]
  cases single : e.isOperation with
  | false =>
    obtain ⟨x, head, sign⟩ := Expr.head_marked cautious roll dashless single whole
    refine dash _ operand head fun minus same => ?_
    rw [calm minus] at sign
    exact Bool.false_ne_true (sign.mp same)
  | true =>
    have enclosed : Quiet opener (marked d q roll (parenthesized (e.layout d))) := by
      have before : Quiet opener (plainly "(".toList) := Dashless.quiet (by decide) opens
      have behind : Quiet opener (plainly ")".toList) := Dashless.quiet (by decide) opens
      have whole := (before.append operand).append behind
      rwa [parenthesized, marked_append, marked_cons, marked_cons, marked_nil, List.append_nil]
    exact dash _ enclosed (x := ('(', false)) (Layout.head_text "(" rfl _) fun _ => by decide

/-- By induction from the children upwards. -/
theorem Node.quiet {n : Node} (opens : opener ∈ commentOpeners) (inner : n.isInner = true)
    (dashless : ∀ p : Node, p.PartOf d n → p.IsDashless) (whole : ¬(n.layout d).Fails)
    (calm : opener = ('-', '-') →
      ∀ e, PartOf d (.expr (.negate e)) n → e.leadsWithMinus = false) :
    Quiet opener ((n.layout d).marked d q roll) := by
  induction n using fromChildren d with
  | step n ih =>
    have children : ∀ c ∈ n.children d, Quiet opener ((c.layout d).marked d q roll) := by
      intro c member
      refine ih c member (isInner_children inner c member) ?_ ?_ ?_
      · exact fun p part => dashless p (.child member part)
      · exact fun fails => whole (fails.of_infix (infix_of_mem_children inner whole member))
      · exact fun minus e part => calm minus e (.child member part)
    by_cases negation : ∃ e, n = .expr (.negate e)
    · obtain ⟨e, rfl⟩ := negation
      have member : Node.expr e ∈ (Node.expr (.negate e)).children d := List.mem_cons_self
      have operand := infix_of_mem_children inner whole member
      exact Expr.quiet_negate cautious opens (dashless _ (.child member .self))
        (fun fails => whole (fails.of_infix operand)) (fun minus => calm minus e .self)
        (children _ member)
    · have made := Node.made (quietVocabulary cautious opens roll)
        (quietPaging cautious opens) inner (fun e same => (negation ⟨e, same⟩).elim)
        (fun w written => quiet_text opens ((dashless n .self).words cautious w written)) whole
      exact (made 0).quiet children

end

/-- A minus in front of another one is the beginning of a comment, wherever it is in a tree. -/
theorem Node.opens_of_part {n : Node} (cautious : d.Cautious q) (inner : n.isInner = true)
    (dashless : ∀ p : Node, p.PartOf d n → p.IsDashless) (whole : ¬(n.layout d).Fails) {e : Expr}
    (part : PartOf d (.expr (.negate e)) n) (leads : e.leadsWithMinus = true) :
    ((n.layout d).marked d q roll).Opens ('-', '-') := by
  have single : e.isOperation = false := by
    cases e with
    | operation => cases leads
    | _ => rfl
  have inside := part.infix inner whole
  have operand : e.layout d <:+: (Expr.negate e).layout d := by
    rw [Expr.layout, single]
    exact (List.suffix_cons _ _).isInfix
  have fine : ¬(e.layout d).Fails := fun fails => whole (fails.of_infix (operand.trans inside))
  have plain : (Node.expr e).IsDashless :=
    dashless _ (part.trans (.child List.mem_cons_self .self))
  obtain ⟨x, head, sign⟩ := Expr.head_marked cautious roll plain single fine
  obtain rfl := sign.mpr leads
  obtain ⟨rest, text⟩ := List.head?_eq_some_iff.mp head
  have begins : [('-', false), ('-', false)] <:+: ((Expr.negate e).layout d).marked d q roll := by
    rw [e.marked_negate, single]
    change _ <:+: ('-', false) :: marked d q roll (e.layout d)
    rw [text]
    exact (List.prefix_append [('-', false), ('-', false)] rest).isInfix
  exact begins.trans (List.IsInfix.flatMap inside _)

/-- The text of a tree that a dialect with quoted names renders has no `/*` outside of its strings
and names. It has a `--` there exactly if it negates a negation or a negative constant somewhere. -/
theorem opens_comment_iff {n : Node} {r : Rendered} (quoting : d.QuotesNames q)
    (inner : n.isInner = true) (dashless : ∀ p : Node, p.PartOf d n → p.IsDashless)
    (rendered : (n.layout d).render d = .ok r) :
    ∃ text : Marked, text.map Prod.fst = r.sql.toList ∧
      text = (n.layout d).marked d q (enrollAll [] (n.layout d).bound) ∧
      ¬text.Opens ('/', '*') ∧
      (text.Opens ('-', '-') ↔
        ∃ e, Node.PartOf d (.expr (.negate e)) n ∧ e.leadsWithMinus = true) := by
  have cautious := quoting.cautious
  obtain ⟨success, rfl⟩ := Layout.render_eq_ok rendered
  have whole := Layout.failure?_eq_none.mp success
  refine ⟨_, Layout.map_fst_marked cautious.names _ _, rfl, ?_, fun opens => ?_, ?_⟩
  · have slash : ('/', '*') ≠ ('-', '-') := by decide
    exact (Node.quiet cautious (by decide) inner dashless whole (absurd · slash)).not_opens
  · by_contra none
    have calm : ∀ e, Node.PartOf d (.expr (.negate e)) n → e.leadsWithMinus = false :=
      fun e part => Bool.eq_false_iff.mpr fun leads => none ⟨e, part, leads⟩
    exact (Node.quiet cautious (by decide) inner dashless whole fun _ => calm).not_opens opens
  · rintro ⟨e, part, leads⟩
    exact Node.opens_of_part cautious inner dashless whole part leads

/-- `-(-a)` is written `--"a"`. -/
theorem negated_negation_opens_comment :
    let d : Dialect := .custom {}
    let n : Node := .expr (.negate (.negate (.column ⟨none, "a"⟩)))
    d.QuotesNames ⟨'"', '"'⟩ ∧ (∀ p : Node, p.PartOf d n → p.IsDashless) ∧
      ∃ r, (n.layout d).render d = .ok r ∧ r.sql = "--\"a\"" ∧
        ((n.layout d).marked d ⟨'"', '"'⟩ []).Opens ('-', '-') := by
  intro d n
  have tree {n : Node} (here : n.IsDashless)
      (below : ∀ c ∈ n.children d, ∀ p : Node, p.PartOf d c → p.IsDashless) :
      ∀ p : Node, p.PartOf d n → p.IsDashless := Node.forall_partOf.mpr ⟨here, below⟩
  have column := tree (n := .element (.column ⟨none, "a"⟩)) trivial (List.forall_mem_nil _)
  have name := tree (n := .expr (.column ⟨none, "a"⟩)) trivial
    (List.forall_mem_singleton.mpr column)
  have operand := tree (n := .expr (.negate (.column ⟨none, "a"⟩))) trivial
    (List.forall_mem_singleton.mpr name)
  have all := tree (n := n) trivial (List.forall_mem_singleton.mpr operand)
  exact ⟨.custom rfl (by decide) (by decide), all, _, rfl, by decide, by decide⟩

/-- Two dashes in a string and two that do not meet. -/
theorem opens_comment_iff_signed :
    let d : Dialect := .sqlite
    let n : Node := .expr (.operation .sub [.constant (.string "--"), .constant (.int (-5))])
    ∃ r, (n.layout d).render d = .ok r ∧ r.sql = "'--' - -5" ∧
      ∃ text : Marked, text.map Prod.fst = r.sql.toList ∧
        text = (n.layout d).marked d ⟨'"', '"'⟩ (enrollAll [] (n.layout d).bound) ∧
        ¬text.Opens ('/', '*') ∧
        (text.Opens ('-', '-') ↔
          ∃ e, Node.PartOf d (.expr (.negate e)) n ∧ e.leadsWithMinus = true) := by
  intro d n
  have tree {n : Node} (here : n.IsDashless)
      (below : ∀ c ∈ n.children d, ∀ p : Node, p.PartOf d c → p.IsDashless) :
      ∀ p : Node, p.PartOf d n → p.IsDashless := Node.forall_partOf.mpr ⟨here, below⟩
  have literal (c : Constant) := tree (n := .expr (.constant c)) trivial
    (List.forall_mem_singleton.mpr
      (tree (n := .element (.constant c)) trivial (List.forall_mem_nil _)))
  have all := tree (n := n) trivial
    (List.forall_mem_cons.mpr ⟨literal _, List.forall_mem_singleton.mpr (literal _)⟩)
  exact ⟨_, rfl, by decide, opens_comment_iff .sqlite rfl all rfl⟩

end SqlBatch
