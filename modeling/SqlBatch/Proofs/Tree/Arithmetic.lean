import Mathlib.Logic.Function.Iterate
import SqlBatch.Dialect.Sqlite
import SqlBatch.Proofs.Render.Symbols
import SqlBatch.Proofs.Tree.Node

/-!
# What operations mean

A formula is put together from columns, values and constants, operator by operator. Its text is read
with the atoms marked, one token for every symbol: parentheses first, then the minus in front of an
operand, then a run of one operator from left to right. `reads_as_built` says that the text reads as
the formula was built.
-/
namespace SqlBatch

/-! ### Building -/

/-- What an operation is made of in the end. -/
inductive Atom
  | column (c : ColumnRef)
  | value (v : Value)
  | constant (c : Constant)
  deriving DecidableEq

def Atom.expr : Atom → Expr
  | column c => .column c
  | value v => .value v
  | constant c => .constant c

/-- The steps in which an expression is built. -/
inductive Formula
  | atom (a : Atom)
  | negate (operand : Formula)
  /-- Two formulas with an operator between them. -/
  | apply (op : Operator) (left right : Formula)
  /-- An operation on two operands that are given at once. -/
  | operation (op : Operator) (first second : Formula)
  /-- Further operands are for the operators that may have them. -/
  | longOperation (op : Operator) (variadic : op.isVariadic = true) (first second : Formula)
    (more : List Formula)

namespace Formula

/-- Any functions in place of the operators: nothing is known of what they do. -/
structure Meaning (τ : Type) where
  apply : Operator → τ → τ → τ
  minus : τ → τ
  atom : Atom → τ

mutual

def expr : Formula → Expr
  | .atom a => a.expr
  | .negate operand => .negate operand.expr
  | .apply op left right => .chain op left.expr right.expr
  | .operation op first second => .operation op [first.expr, second.expr]
  | .longOperation op _ first second more =>
    .operation op (first.expr :: second.expr :: exprs more)

def exprs : List Formula → List Expr
  | [] => []
  | f :: rest => f.expr :: exprs rest

end

section Value

variable {τ : Type} (m : Meaning τ)

mutual

/-- The value of a formula as it was built; an operation folds its operands from the left. -/
def value : Formula → τ
  | .atom a => m.atom a
  | .negate operand => m.minus operand.value
  | .apply op left right => m.apply op left.value right.value
  | .operation op first second => m.apply op first.value second.value
  | .longOperation op _ first second more =>
    (values more).foldl (m.apply op) (m.apply op first.value second.value)

def values : List Formula → List τ
  | [] => []
  | f :: rest => f.value :: values rest

end

end Value

/-! ### Symbols -/

/-- What stands in a text for one symbol: an atom, or the operator of concatenation, which every
dialect spells in its own way. -/
inductive Mark
  | atom (a : Atom)
  | concat
  deriving DecidableEq

def Mark.layout (d : Dialect) : Mark → Layout
  | .atom a => a.expr.layout d
  | .concat => [.text d.concatOperator]

theorem Mark.whole_layout (d : Dialect) (mark : Mark) : (mark.layout d).failure? = none := by
  cases mark with
  | concat => rfl
  | atom a =>
    cases a with
    | column c => rcases c with ⟨_ | table, name⟩ <;> rfl
    | _ => rfl

abbrev Text := List (Symbol Mark)

/-- The same text with the operator of concatenation spelled in another way. -/
def respell (spelling : Text) : Symbol Mark → Text
  | .mark .concat => spelling
  | s => [s]

theorem flatMap_respell_plain (spelling : Text) (s : String) :
    (Symbol.plain s : Text).flatMap (respell spelling) = Symbol.plain s := by
  rw [Symbol.plain, List.flatMap_map, List.map_eq_flatMap]
  rfl

theorem flatMap_respell_self (text : Text) : text.flatMap (respell [.mark .concat]) = text := by
  have same : respell [.mark .concat] = fun s => [s] := by
    funext s
    rcases s with c | _ | _ <;> rfl
  rw [same, ← List.map_eq_flatMap, List.map_id']

inductive Token
  | opening
  | closing
  /-- The minus in front of an operand is the same token as the one between two. -/
  | operator (op : Operator)
  | atom (a : Atom)
  deriving DecidableEq

/-- The token of a lexeme, when `concat` is how concatenation is spelled. -/
def Token.ofLexeme (concat : String) : Text → Option Token
  | [.mark (.atom a)] => some (.atom a)
  | [.mark .concat] => some (.operator .concat)
  | [.char '('] => some .opening
  | [.char ')'] => some .closing
  | [.char '+'] => some (.operator .add)
  | [.char '-'] => some (.operator .sub)
  | [.char '*'] => some (.operator .mul)
  | [.char '/'] => some (.operator .div)
  | [.char '%'] => some (.operator .mod)
  | lexeme => if lexeme = Symbol.plain concat then some (.operator .concat) else none

def lex (concat : String) (text : Text) : Option (List Token) :=
  Symbol.lex (Token.ofLexeme concat) text

/-- Whether an operator of concatenation is one lexeme, and none that means something else. -/
def IsLexeme (concat : String) : Prop :=
  lex concat (Symbol.plain concat) = some [.operator .concat]

instance : DecidablePred IsLexeme := fun _ => inferInstanceAs (Decidable (_ = _))

/-- The text comes to the tokens, in whatever way concatenation is spelled. -/
def Lexes (text : Text) (ts : List Token) : Prop :=
  ∀ concat spelling, lex concat spelling = some [.operator .concat] →
    lex concat (text.flatMap (respell spelling)) = some ts

section Lexing

variable {text more : Text} {ts us : List Token}

theorem Lexes.enclosed (lexes : Lexes text ts) :
    Lexes (Symbol.plain "(" ++ text ++ Symbol.plain ")") (.opening :: ts ++ [.closing]) := by
  intro concat spelling spelled
  have opens : lex concat (Symbol.plain "(") = some [.opening] := rfl
  have closes : lex concat (Symbol.plain ")") = some [.closing] := rfl
  have before := Symbol.lex_append opens (lexes concat spelling spelled) (.inl (by decide))
  have behind := Symbol.lex_append before closes (.inr (by decide))
  simpa only [lex, List.flatMap_append, flatMap_respell_plain, List.singleton_append] using behind

theorem Lexes.minus (lexes : Lexes text ts) :
    Lexes (Symbol.plain "-" ++ text) (.operator .sub :: ts) := by
  intro concat spelling spelled
  have sign : lex concat (Symbol.plain "-") = some [.operator .sub] := rfl
  have whole := Symbol.lex_append sign (lexes concat spelling spelled) (.inl (by decide))
  simpa only [lex, List.flatMap_append, flatMap_respell_plain, List.singleton_append] using whole

def symbols : Operator → Text
  | .concat => [.mark .concat]
  | op => Symbol.plain op.symbol

theorem lexes_symbols (op : Operator) : Lexes (symbols op) [.operator op] := by
  intro concat spelling spelled
  cases op with
  | concat => simpa [symbols, respell] using spelled
  | _ =>
    rw [symbols, flatMap_respell_plain]
    · rfl
    · exact nofun

theorem Lexes.next (op : Operator) (former : Lexes text ts) (latter : Lexes more us) :
    Lexes (text ++ .char ' ' :: symbols op ++ .char ' ' :: more) (ts ++ .operator op :: us) := by
  intro concat spelling spelled
  have whole := Symbol.lex_spaced (former concat spelling spelled)
    (lexes_symbols op concat spelling spelled) (latter concat spelling spelled)
  simpa [lex, respell] using whole

end Lexing

/-! ### Grammar -/

/-- What a stretch of tokens is read as. -/
inductive Stretch
  | operand
  /-- Operands with one operator between each two of them. -/
  | run (op : Operator)
  | whole

section Grammar

variable {τ : Type} (m : Meaning τ)

/-- The readings of a list of tokens and what they come to. -/
inductive Reads : Stretch → List Token → τ → Prop
  | atom (a : Atom) : Reads .operand [.atom a] (m.atom a)
  | parenthesized {ts : List Token} {v : τ} (inner : Reads .whole ts v) :
    Reads .operand (.opening :: ts ++ [.closing]) v
  | minus {ts : List Token} {v : τ} (operand : Reads .operand ts v) :
    Reads .operand (.operator .sub :: ts) (m.minus v)
  | first {op : Operator} {ts : List Token} {v : τ} (operand : Reads .operand ts v) :
    Reads (.run op) ts v
  | next {op : Operator} {ts us : List Token} {v w : τ} (earlier : Reads (.run op) ts v)
    (operand : Reads .operand us w) : Reads (.run op) (ts ++ .operator op :: us) (m.apply op v w)
  | whole {op : Operator} {ts : List Token} {v : τ} (only : Reads (.run op) ts v) :
    Reads .whole ts v

end Grammar

/-! ### From left to right -/

/-- What the reader is at, between two parentheses. -/
inductive Level (τ : Type)
  /-- In front of an operand, behind a value and an operator if they are there, and then some
  minuses. -/
  | awaiting (before : Option (τ × Operator)) (minuses : Nat)
  | behind (v : τ)

structure Reader (τ : Type) where
  current : Level τ := .awaiting none 0
  /-- What stands in front of the parentheses that are open. -/
  enclosing : List (Option (τ × Operator) × Nat) := []

section Reading

variable {τ : Type} (m : Meaning τ)

def combine (before : Option (τ × Operator)) (minuses : Nat) (v : τ) : τ :=
  let operand := m.minus^[minuses] v
  match before with
  | none => operand
  | some (left, op) => m.apply op left operand

namespace Reader

def step (r : Reader τ) (t : Token) : Reader τ :=
  match r.current, t with
  | .awaiting before minuses, .atom a =>
    { r with current := .behind (combine m before minuses (m.atom a)) }
  | .awaiting before minuses, .opening => ⟨.awaiting none 0, (before, minuses) :: r.enclosing⟩
  | .awaiting before minuses, .operator .sub => { r with current := .awaiting before (minuses + 1) }
  | .behind v, .operator op => { r with current := .awaiting (some (v, op)) 0 }
  | .behind v, .closing =>
    match r.enclosing with
    | [] => r
    | (before, minuses) :: enclosing => ⟨.behind (combine m before minuses v), enclosing⟩
  | _, _ => r

def run (r : Reader τ) (ts : List Token) : Reader τ := ts.foldl (step m) r

end Reader

/-- The value of some tokens that are read to their end. -/
def evaluate (ts : List Token) : Option τ :=
  match Reader.run m {} ts with
  | ⟨.behind v, []⟩ => some v
  | _ => none

variable {m}

namespace Reader

theorem run_cons (r : Reader τ) (t : Token) (ts : List Token) :
    r.run m (t :: ts) = (r.step m t).run m ts := rfl

theorem run_append (r : Reader τ) (ts us : List Token) :
    r.run m (ts ++ us) = (r.run m ts).run m us := List.foldl_append

/-- What the reader has made of a stretch, wherever the stretch begins. -/
def Gets (m : Meaning τ) (ts : List Token) (v : τ) : Stretch → Prop
  | .operand => ∀ before minuses enclosing,
      run m ⟨.awaiting before minuses, enclosing⟩ ts =
        ⟨.behind (combine m before minuses v), enclosing⟩
  | .run _ | .whole => ∀ enclosing,
      run m ⟨.awaiting none 0, enclosing⟩ ts = ⟨.behind v, enclosing⟩

theorem gets_of_reads {stretch : Stretch} {ts : List Token} {v : τ}
    (read : Reads m stretch ts v) : Gets m ts v stretch := by
  induction read with
  | atom a =>
    intro before minuses enclosing
    rfl
  | @parenthesized ts v inner ih =>
    intro before minuses enclosing
    have opened : step m ⟨.awaiting before minuses, enclosing⟩ .opening =
        ⟨.awaiting none 0, (before, minuses) :: enclosing⟩ := rfl
    rw [List.cons_append, run_cons, opened, run_append, ih]
    rfl
  | @minus ts v operand ih =>
    intro before minuses enclosing
    have counted : step m ⟨.awaiting before minuses, enclosing⟩ (.operator .sub) =
        ⟨.awaiting before (minuses + 1), enclosing⟩ := rfl
    rw [run_cons, counted, ih]
    rfl
  | first operand ih => exact fun enclosing => ih none 0 enclosing
  | @next op ts us v w earlier operand former latter =>
    intro enclosing
    have signed : step m ⟨.behind v, enclosing⟩ (.operator op) =
        ⟨.awaiting (some (v, op)) 0, enclosing⟩ := rfl
    rw [run_append, former, run_cons, signed, latter]
    rfl
  | whole only ih => exact ih

end Reader

theorem evaluate_of_reads {ts : List Token} {v : τ} (read : Reads m .whole ts v) :
    evaluate m ts = some v := by
  have reached := Reader.gets_of_reads read []
  rw [evaluate, reached]

end Reading

/-! ### Layouts that are read -/

section

variable {τ : Type} {m : Meaning τ} {op : Operator} {v w : τ} {layout second : Dialect → Layout}

/-- With every dialect the layout is written in the same symbols, and their tokens are read as a
stretch of the value. -/
def Conveys (m : Meaning τ) (layout : Dialect → Layout) (stretch : Stretch) (v : τ) : Prop :=
  ∃ text ts, (∀ d, Spells d (Mark.layout d) text (layout d)) ∧ Lexes text ts ∧ Reads m stretch ts v

theorem conveys_atom (a : Atom) :
    Conveys m (fun d => a.expr.layout d) .operand (m.atom a) :=
  ⟨[.mark (.atom a)], [.atom a], fun _ => Spells.mark _, fun _ _ _ => rfl, .atom a⟩

theorem Conveys.enclosed (conveys : Conveys m layout (.run op) v) :
    Conveys m (fun d => Layout.parenthesized (layout d)) .operand v := by
  obtain ⟨text, ts, spells, lexes, read⟩ := conveys
  exact ⟨_, _, fun d => (spells d).parenthesized, lexes.enclosed, .parenthesized (.whole read)⟩

theorem Conveys.minus (conveys : Conveys m layout .operand v) :
    Conveys m (fun d => .text "-" :: layout d) .operand (m.minus v) := by
  obtain ⟨text, ts, spells, lexes, read⟩ := conveys
  exact ⟨_, _, fun d => (Spells.plain "-").append (spells d), lexes.minus, .minus read⟩

theorem Conveys.first (op : Operator) (conveys : Conveys m layout .operand v) :
    Conveys m layout (.run op) v := by
  obtain ⟨text, ts, spells, lexes, read⟩ := conveys
  exact ⟨text, ts, spells, lexes, .first read⟩

theorem spells_symbols (d : Dialect) (op : Operator) :
    Spells d (Mark.layout d) (.char ' ' :: symbols op ++ [.char ' '])
      [.text (" " ++ op.symbolIn d ++ " ")] := by
  have fixed (s : String) : Spells d (Mark.layout d) (.char ' ' :: Symbol.plain s ++ [.char ' '])
      [.text (" " ++ s ++ " ")] := by
    rw [← Symbol.plain_spaced]
    exact Spells.plain _
  cases op with
  | concat =>
    exact {
      written := fun roll => by
        simp [Layout.textOn, Piece.textOn, Operator.symbolIn, symbols, Symbol.expand, Mark.layout]
      bound := fun i marked => by
        obtain rfl : i = .concat := by simpa [symbols] using marked
        exact List.nil_subset _
      failing := fun e fails => by cases fails
      whole := fun _ i _ => i.whole_layout d }
  | _ => exact fixed _

theorem Conveys.next (former : Conveys m layout (.run op) v) (latter : Conveys m second .operand w) :
    Conveys m (fun d => layout d ++ .text (" " ++ op.symbolIn d ++ " ") :: second d) (.run op)
      (m.apply op v w) := by
  obtain ⟨text, ts, spells, lexes, read⟩ := former
  obtain ⟨more, us, spells', lexes', read'⟩ := latter
  refine ⟨_, _, fun d => ?_, lexes.next op lexes', .next read read'⟩
  have whole := ((spells d).append (spells_symbols d op)).append (spells' d)
  simpa using whole

/-! ### Expressions read as they were built -/

def operandLayout (d : Dialect) (e : Expr) : Layout :=
  Layout.parenthesizedIf e.isOperation (e.layout d)

/-- An expression reads as a value: an operation as a run of its operator, and all else as one
operand. -/
def ReadsAs (m : Meaning τ) (e : Expr) (v : τ) : Prop :=
  match e with
  | .operation op operands =>
    op.allows operands.length = true ∧ Conveys m (fun d => e.layout d) (.run op) v
  | _ => Conveys m (fun d => e.layout d) .operand v

theorem ReadsAs.operand {e : Expr} (read : ReadsAs m e v) :
    Conveys m (fun d => operandLayout d e) .operand v := by
  cases e with
  | operation op operands => exact read.2.enclosed
  | _ => exact read

/-- A run goes on with every further operand, by induction over them. -/
theorem conveys_more (run : Conveys m layout (.run op) v) {es : List Expr} {ws : List τ}
    (more : List.Forall₂ (ReadsAs m) es ws) :
    Conveys m (fun d => layout d ++ (es.map (operandLayout d)).flatMap
      (.text (" " ++ op.symbolIn d ++ " ") :: ·)) (.run op) (ws.foldl (m.apply op) v) := by
  induction more generalizing layout v with
  | nil => simpa using run
  | cons read rest ih =>
    have longer := ih (run.next read.operand)
    simpa using longer

theorem operation_layout {d : Dialect} {e : Expr} {es : List Expr}
    (allowed : op.allows (es.length + 1) = true) :
    (Expr.operation op (e :: es)).layout d =
      operandLayout d e ++ (es.map (operandLayout d)).flatMap
        (.text (" " ++ op.symbolIn d ++ " ") :: ·) := by
  rw [Expr.layout, Expr.operandLayouts_eq_map, Operator.layout, if_pos (by simpa using allowed)]
  rfl

theorem readsAs_operation {e : Expr} {es : List Expr} {ws : List τ}
    (allowed : op.allows (es.length + 1) = true) (first : ReadsAs m e v)
    (more : List.Forall₂ (ReadsAs m) es ws) :
    ReadsAs m (.operation op (e :: es)) (ws.foldl (m.apply op) v) := by
  have run := conveys_more (first.operand.first op) more
  refine ⟨allowed, ?_⟩
  simpa only [operation_layout allowed] using run

theorem allows_two (op : Operator) : op.allows 2 = true := by
  cases op <;> rfl

/-- An operand that joins the operation on its left comes last in its run; in any other place the
operation on the left is an operand of its own. -/
theorem readsAs_chain {left right : Expr} (op : Operator) (former : ReadsAs m left v)
    (latter : ReadsAs m right w) : ReadsAs m (.chain op left right) (m.apply op v w) := by
  have paired : ReadsAs m (.operation op [left, right]) (m.apply op v w) :=
    readsAs_operation (allows_two op) former (.cons latter .nil)
  cases left with
  | operation leftOp operands =>
    rw [Expr.chain]
    split
    · rename_i joins
      obtain ⟨rfl, variadic⟩ := joins
      obtain ⟨allowed, run⟩ := former
      cases operands with
      | nil => simp [Operator.allows, variadic] at allowed
      | cons first others =>
        have longer : leftOp.allows ((others ++ [right]).length + 1) = true := by
          simp [Operator.allows, variadic]
        have whole := conveys_more run (.cons latter .nil)
        refine ⟨longer, ?_⟩
        simpa [operation_layout allowed, operation_layout longer] using whole
    · exact paired
  | _ => exact paired

theorem forall₂_of_forall {fs : List Formula} (read : ∀ f ∈ fs, ReadsAs m f.expr (f.value m)) :
    List.Forall₂ (ReadsAs m) (exprs fs) (values m fs) := by
  induction fs with
  | nil => exact .nil
  | cons f rest ih =>
    obtain ⟨here, others⟩ := List.forall_mem_cons.mp read
    exact .cons here (ih others)

/-- By induction over the steps in which the formula was built. -/
theorem readsAs (f : Formula) : ReadsAs m f.expr (f.value m) := by
  match f with
  | .atom a => cases a <;> exact conveys_atom _
  | .negate operand => exact (readsAs operand).operand.minus
  | .apply op left right => exact readsAs_chain op (readsAs left) (readsAs right)
  | .operation op first second =>
    exact readsAs_operation (allows_two op) (readsAs first) (.cons (readsAs second) .nil)
  | .longOperation op variadic first second more =>
    have allowed : op.allows ((exprs (second :: more)).length + 1) = true := by
      simp [Operator.allows, variadic, exprs]
    have others : List.Forall₂ (ReadsAs m) (exprs more) (values m more) :=
      forall₂_of_forall fun f inside =>
        have := List.sizeOf_lt_of_mem inside
        readsAs f
    exact (readsAs_operation allowed (readsAs first) (.cons (readsAs second) others) :)
termination_by sizeOf f

theorem ReadsAs.whole {e : Expr} (read : ReadsAs m e v) :
    Conveys m (fun d => e.layout d) .whole v := by
  have run : ∃ op, Conveys m (fun d => e.layout d) (.run op) v := by
    cases e with
    | operation op operands => exact ⟨op, read.2⟩
    | _ => exact ⟨.add, Conveys.first .add read⟩
  obtain ⟨op, text, ts, spells, lexes, reads⟩ := run
  exact ⟨text, ts, spells, lexes, .whole reads⟩

end

end Formula

/-- With every dialect and in every scope, a formula is rendered to a text that has one reading: the
value of the formula as it was built. Atoms stand in the text as they are rendered by themselves. So
does the operator of concatenation, and where a dialect spells it in a lexeme of its own, its
characters are enough to tell it. -/
theorem reads_as_built {τ : Type} (m : Formula.Meaning τ) (f : Formula) :
    ∃ text : Formula.Text,
      (∀ (d : Dialect) (roll : List Value), ∃ r after,
        (f.expr.layout d).renderIn d (.numbering d roll) = (.ok r, after) ∧
          Symbol.Shows d after (Formula.Mark.layout d) text r.sql) ∧
      ∃ tokens, Formula.lex "" text = some tokens ∧
        (∀ concat, Formula.IsLexeme concat →
          Formula.lex concat (text.flatMap (Formula.respell (Symbol.plain concat))) =
            some tokens) ∧
        ∀ v, Formula.Reads m .whole tokens v ↔ v = f.value m := by
  obtain ⟨text, tokens, spells, lexes, read⟩ := (Formula.readsAs (m := m) f).whole
  refine ⟨text, fun d roll => ?_, tokens, ?_, fun concat own => lexes concat _ own, fun v => ?_⟩
  · have shown := (spells d).shows roll
    rcases rendered : (f.expr.layout d).renderIn d (.numbering d roll) with ⟨e | r, after⟩
    all_goals rw [rendered] at shown
    · obtain ⟨mark, -, fails⟩ := shown
      rw [mark.whole_layout d] at fails
      cases fails
    · exact ⟨r, after, rfl, shown⟩
  · have marked := lexes "" [.mark .concat] rfl
    rwa [Formula.flatMap_respell_self] at marked
  · constructor
    · intro other
      have same := (Formula.evaluate_of_reads other).symm.trans (Formula.evaluate_of_reads read)
      exact Option.some.inj same
    · rintro rfl
      exact read

/-- The inner difference keeps its parentheses, and the two minuses are told apart. -/
theorem reads_as_built_difference :
    let n (k : Int64) : Formula := .atom (.constant (.int k))
    let m : Formula.Meaning Int :=
      { apply := fun
          | .sub, a, b => a - b
          | _, a, b => 10 * a + b
        minus a := -a
        atom := fun
          | .constant (.int k) => k.toInt
          | _ => 7 }
    let f : Formula := .apply .concat (.apply .sub (n 1) (.apply .sub (n 2) (.negate (n 3))))
      (.atom (.column ⟨none, "a"⟩))
    let concat := Dialect.sqlite.concatOperator
    ((f.expr.layout .sqlite).render .sqlite).map (·.sql) = .ok "(1 - (2 - -3)) || \"a\"" ∧
      Formula.IsLexeme concat ∧
      ∃ (text : Formula.Text) (tokens : List Formula.Token),
        Formula.lex concat (text.flatMap (Formula.respell (Symbol.plain concat))) = some tokens ∧
          ∀ v, Formula.Reads m .whole tokens v ↔ v = -33 := by
  intro n m f concat
  have own : Formula.IsLexeme concat := by decide
  have value : f.value m = -33 := by decide
  obtain ⟨text, -, tokens, -, lexed, read⟩ := reads_as_built m f
  rw [value] at read
  exact ⟨by decide +kernel, own, text, tokens, lexed concat own, read⟩

end SqlBatch
