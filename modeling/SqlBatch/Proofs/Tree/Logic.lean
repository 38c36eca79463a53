import Mathlib.Order.BoundedOrder.Lattice
import Mathlib.Order.Lattice
import SqlBatch.Proofs.Render.Symbols
import SqlBatch.Proofs.Tree.Node

/-!
# What conditions mean

The text of a condition is read with its leaves marked. A lexer cuts it into words, and the words are
read by the rules of precedence: parentheses first, then NOT, AND and OR. `reads_as_meant` says that
there is one way to read the text of a condition, and that it comes to the value of the tree.
-/
namespace SqlBatch

/-! ### Truth values -/

/-- A condition on a missing value is neither true nor false. -/
inductive Truth
  | no
  | unknown
  | yes
  deriving DecidableEq

namespace Truth

def rank : Truth → Nat
  | no => 0
  | unknown => 1
  | yes => 2

/-- AND is the lesser of two truth values and OR the greater. -/
instance : LinearOrder Truth :=
  LinearOrder.lift' rank fun a b same => by
    cases a <;> cases b <;> first | rfl | cases same

instance : BoundedOrder Truth where
  top := yes
  le_top a := by cases a <;> decide
  bot := no
  bot_le a := by cases a <;> decide

def negate : Truth → Truth
  | no => yes
  | unknown => unknown
  | yes => no

end Truth

/-! ### Values of trees -/

section Value

variable {τ : Type} [Lattice τ] [BoundedOrder τ]

def Junction.join : Junction → τ → τ → τ
  | .all, v, w => v ⊓ w
  | .any, v, w => v ⊔ w

def Junction.unit : Junction → τ
  | .all => ⊤
  | .any => ⊥

@[simp] theorem Junction.join_unit (junction : Junction) (v : τ) :
    junction.join v junction.unit = v := by
  cases junction
  · exact inf_top_eq v
  · exact sup_bot_eq v

end Value

namespace Condition

def isLeaf : Condition → Bool
  | .not _ | .pair .. | .group .. => false
  | _ => true

mutual

/-- The leaves of a condition in the order in which they stand. -/
def leaves : Condition → List Condition
  | .not c => c.leaves
  | .pair left right _ _ => left.leaves ++ right.leaves
  | .group members _ _ => leavesOf members
  | leaf => [leaf]

def leavesOf : List Condition → List Condition
  | [] => []
  | c :: rest => c.leaves ++ leavesOf rest

end

section Value

variable {τ : Type} [Lattice τ] [BoundedOrder τ] (negate : τ → τ) (holds : Nat → τ)

mutual

/-- The value of a condition when the values of its leaves are given in order, those before the
first one left out. -/
def value (first : Nat) : Condition → τ
  | .not c => negate (c.value first)
  | .pair left right junction _ =>
    junction.join (left.value first) (right.value (first + left.leaves.length))
  | .group members junction _ => memberValue junction first members
  | _ => holds first

def memberValue (junction : Junction) (first : Nat) : List Condition → τ
  | [] => junction.unit
  | c :: rest =>
    junction.join (c.value first) (memberValue junction (first + c.leaves.length) rest)

end

end Value

/-- What holds of the leaves and passes on to negations and to groups holds of all conditions, if a
pair is as good as the group of its two members. -/
theorem fromLeaves {motive : Condition → Prop} (leaf : ∀ c, c.isLeaf = true → motive c)
    (not : ∀ c, motive c → motive (.not c))
    (pair : ∀ left right junction nested, motive (.group [left, right] junction nested) →
      motive (.pair left right junction nested))
    (group : ∀ members junction nested, (∀ c ∈ members, motive c) →
      motive (.group members junction nested)) : ∀ c, motive c
  | .not c => not c (fromLeaves leaf not pair group c)
  | .pair left right junction nested =>
    have first := fromLeaves leaf not pair group left
    have second := fromLeaves leaf not pair group right
    pair left right junction nested (group [left, right] junction nested
      (List.forall_mem_cons.mpr ⟨first, List.forall_mem_singleton.mpr second⟩))
  | .group members junction nested =>
    group members junction nested fun c inside =>
      have := List.sizeOf_lt_of_mem inside
      fromLeaves leaf not pair group c
  | .compare .. | .isNull .. | .between .. | .inList .. | .inQuery .. | .like .. | .existsIn ..
  | .raw .. => leaf _ rfl

theorem layout_pair (d : Dialect) (left right : Condition) (junction : Junction) (nested : Bool) :
    layout d (.pair left right junction nested) =
      layout d (.group [left, right] junction nested) := by
  simp only [layout, memberLayouts]

theorem value_pair {τ : Type} [Lattice τ] [BoundedOrder τ] (negate : τ → τ) (holds : Nat → τ)
    (left right : Condition) (junction : Junction) (nested : Bool) (first : Nat) :
    value negate holds first (.pair left right junction nested) =
      value negate holds first (.group [left, right] junction nested) := by
  simp only [value, memberValue, Junction.join_unit]

theorem leaves_pair (left right : Condition) (junction : Junction) (nested : Bool) :
    leaves (.pair left right junction nested) = leaves (.group [left, right] junction nested) := by
  simp only [leaves, leavesOf, List.append_nil]

/-! ### Symbols -/

/-- A leaf and its number. -/
abbrev Leaf := Condition × Nat

abbrev Text := List (Symbol Leaf)

def enclosedIf (wanted : Bool) (text : Text) : Text :=
  if wanted then Symbol.plain "(" ++ text ++ Symbol.plain ")" else text

def joined (junction : Junction) : List Text → Text
  | [] => Symbol.plain (match junction with
    | .all => "1 = 1"
    | .any => "1 = 0")
  | first :: rest => first ++ rest.flatMap (Symbol.plain (" " ++ junction.keyword ++ " ") ++ ·)

mutual

/-- The text of a condition with its leaves marked, which are numbered from the first one on. -/
def symbols (first : Nat) : Condition → Text
  | .not c => Symbol.plain "NOT " ++ enclosedIf true (c.symbols first)
  | .pair left right junction nested =>
    enclosedIf nested (joined junction
      [enclosedIf (left.needsParentheses junction) (left.symbols first),
        enclosedIf (right.needsParentheses junction) (right.symbols (first + left.leaves.length))])
  | .group members junction nested =>
    enclosedIf nested (joined junction (memberSymbols junction first members))
  | leaf => [.mark (leaf, first)]

def memberSymbols (parent : Junction) (first : Nat) : List Condition → List Text
  | [] => []
  | c :: rest =>
    enclosedIf (c.needsParentheses parent) (c.symbols first) ::
      memberSymbols parent (first + c.leaves.length) rest

end

theorem symbols_pair (left right : Condition) (junction : Junction) (nested : Bool) (first : Nat) :
    symbols first (.pair left right junction nested) =
      symbols first (.group [left, right] junction nested) := by
  simp only [symbols, memberSymbols]

theorem symbols_leaf {c : Condition} (single : c.isLeaf = true) (first : Nat) :
    c.symbols first = [.mark (c, first)] := by
  cases c <;> first | rfl | cases single

theorem leaves_leaf {c : Condition} (single : c.isLeaf = true) : c.leaves = [c] := by
  cases c <;> first | rfl | cases single

/-! ### Spelling -/

section Spelling

variable {d : Dialect} {stand : Leaf → Layout}

theorem spells_enclosedIf (wanted : Bool) {text : Text} {layout : Layout}
    (spells : Spells d stand text layout) :
    Spells d stand (enclosedIf wanted text) (Layout.parenthesizedIf wanted layout) := by
  cases wanted
  · exact spells
  · exact spells.parenthesized

theorem spells_joined (junction : Junction) {texts : List Text} {layouts : List Layout}
    (spells : List.Forall₂ (Spells d stand) texts layouts) :
    Spells d stand (joined junction texts) (junction.layout layouts) := by
  cases spells with
  | nil => exact Spells.plain _
  | cons first rest => exact first.behind (Spells.plain _) rest

/-- The layout of a condition is written in its symbols, each leaf being its own layout. -/
theorem spells_symbols (d : Dialect) (c : Condition) (first : Nat) :
    Spells d (fun leaf : Leaf => leaf.1.layout d) (c.symbols first) (c.layout d) := by
  induction c using fromLeaves generalizing first with
  | leaf c single =>
    rw [symbols_leaf single]
    exact Spells.mark (c, first)
  | not c ih =>
    rw [layout, symbols]
    exact (Spells.plain "NOT ").append (ih first).parenthesized
  | pair left right junction nested ih =>
    rw [layout_pair, symbols_pair]
    exact ih first
  | group members junction nested ih =>
    rw [layout, symbols]
    refine spells_enclosedIf nested (spells_joined junction ?_)
    induction members generalizing first with
    | nil => exact .nil
    | cons c rest again =>
      obtain ⟨here, others⟩ := List.forall_mem_cons.mp ih
      rw [memberLayouts, memberSymbols]
      exact .cons (spells_enclosedIf _ (here first)) (again others _)

end Spelling

/-! ### Numbering -/

@[simp] theorem marks_plain (s : String) :
    (Symbol.plain s : Text).filterMap Symbol.mark? = [] := by
  simp [Symbol.plain, Symbol.mark?]

theorem marks_enclosedIf (wanted : Bool) (text : Text) :
    (enclosedIf wanted text).filterMap Symbol.mark? = text.filterMap Symbol.mark? := by
  cases wanted <;> simp [enclosedIf]

theorem marks_joined (junction : Junction) (texts : List Text) :
    (joined junction texts).filterMap Symbol.mark? = texts.flatMap (·.filterMap Symbol.mark?) := by
  cases texts with
  | nil => exact marks_plain _
  | cons first rest => simp [joined, List.filterMap_flatMap]

theorem marks_symbols (c : Condition) (first : Nat) :
    (c.symbols first).filterMap Symbol.mark? = c.leaves.zipIdx first := by
  induction c using fromLeaves generalizing first with
  | leaf c single =>
    rw [symbols_leaf single, leaves_leaf single]
    rfl
  | not c ih =>
    rw [symbols, List.filterMap_append, marks_plain, marks_enclosedIf, ih]
    rfl
  | pair left right junction nested ih => rw [symbols_pair, leaves_pair, ih]
  | group members junction nested ih =>
    rw [symbols, marks_enclosedIf, marks_joined, leaves]
    induction members generalizing first with
    | nil => rfl
    | cons c rest again =>
      obtain ⟨here, others⟩ := List.forall_mem_cons.mp ih
      rw [memberSymbols, List.flatMap_cons, marks_enclosedIf, here first, again others, leavesOf,
        List.zipIdx_append]

/-! ### Tokens -/

/-- What the reader of a condition tells apart. Leaves go by their numbers. -/
inductive Token
  | opening
  | closing
  | not
  | and
  | or
  | one
  | zero
  | equals
  | leaf (number : Nat)
  deriving DecidableEq

def Token.ofLexeme : Text → Option Token
  | [.mark marked] => some (.leaf marked.2)
  | [.char '('] => some .opening
  | [.char ')'] => some .closing
  | [.char 'N', .char 'O', .char 'T'] => some .not
  | [.char 'A', .char 'N', .char 'D'] => some .and
  | [.char 'O', .char 'R'] => some .or
  | [.char '1'] => some .one
  | [.char '0'] => some .zero
  | [.char '='] => some .equals
  | _ => none

/-! ### Grammar -/

/-- How tightly a text is held together. -/
inductive Binding
  | disjunction
  | conjunction
  | factor

end Condition

def Junction.binding : Junction → Condition.Binding
  | .all => .conjunction
  | .any => .disjunction

def Junction.token : Junction → Condition.Token
  | .all => .and
  | .any => .or

namespace Condition

def binding (c : Condition) : Binding :=
  match c.openJunction? with
  | some junction => junction.binding
  | none => .factor

theorem binding_pair (left right : Condition) (junction : Junction) (nested : Bool) :
    binding (.pair left right junction nested) = binding (.group [left, right] junction nested) := by
  cases nested <;> rfl

section Grammar

variable {τ : Type} [Lattice τ] [BoundedOrder τ] (negate : τ → τ) (holds : Nat → τ)

/-- The readings of a list of tokens and what they come to. -/
inductive Reads : Binding → List Token → τ → Prop
  | leaf (number : Nat) : Reads .factor [.leaf number] (holds number)
  | truth : Reads .factor [.one, .equals, .one] ⊤
  | falsity : Reads .factor [.one, .equals, .zero] ⊥
  | parenthesized {ts : List Token} {v : τ} (inner : Reads .disjunction ts v) :
    Reads .factor (.opening :: ts ++ [.closing]) v
  | not {ts : List Token} {v : τ} (operand : Reads .factor ts v) :
    Reads .factor (.not :: ts) (negate v)
  | ofFactor {ts : List Token} {v : τ} (only : Reads .factor ts v) : Reads .conjunction ts v
  | and {ts us : List Token} {v w : τ} (left : Reads .conjunction ts v)
    (right : Reads .factor us w) : Reads .conjunction (ts ++ .and :: us) (v ⊓ w)
  | ofConjunction {ts : List Token} {v : τ} (only : Reads .conjunction ts v) :
    Reads .disjunction ts v
  | or {ts us : List Token} {v w : τ} (left : Reads .disjunction ts v)
    (right : Reads .conjunction us w) : Reads .disjunction (ts ++ .or :: us) (v ⊔ w)

/-- A text whose tokens have a reading. -/
def Means (binding : Binding) (text : Text) (v : τ) : Prop :=
  ∃ ts, Symbol.lex Token.ofLexeme text = some ts ∧ Reads negate holds binding ts v

variable {negate holds}

variable {ts us : List Token} {text more : Text} {v w : τ}

theorem Reads.join {junction : Junction} (left : Reads negate holds junction.binding ts v)
    (right : Reads negate holds junction.binding us w) :
    Reads negate holds junction.binding (ts ++ junction.token :: us) (junction.join v w) := by
  -- The grammar reads from the left and trees are joined from the right, so the induction is on the
  -- second text: its last operand is read last.
  cases junction with
  | all =>
    generalize same : Junction.binding .all = binding at right
    induction right with
    | ofFactor only => exact .and left only
    | and former latter ih =>
      rw [← List.cons_append, ← List.append_assoc, Junction.join, ← inf_assoc]
      exact .and (ih rfl) latter
    | _ => cases same
  | any =>
    generalize same : Junction.binding .any = binding at right
    induction right with
    | ofConjunction only => exact .or left only
    | or former latter ih =>
      rw [← List.cons_append, ← List.append_assoc, Junction.join, ← sup_assoc]
      exact .or (ih rfl) latter
    | _ => cases same

theorem Means.whole {binding : Binding} (means : Means negate holds binding text v) :
    Means negate holds .disjunction text v := by
  obtain ⟨ts, lexed, read⟩ := means
  refine ⟨ts, lexed, ?_⟩
  cases binding with
  | factor => exact .ofConjunction (.ofFactor read)
  | conjunction => exact .ofConjunction read
  | disjunction => exact read

theorem Means.alone (junction : Junction) (means : Means negate holds .factor text v) :
    Means negate holds junction.binding text v := by
  obtain ⟨ts, lexed, read⟩ := means
  refine ⟨ts, lexed, ?_⟩
  cases junction with
  | all => exact .ofFactor read
  | any => exact .ofConjunction (.ofFactor read)

theorem Means.join {junction : Junction} (left : Means negate holds junction.binding text v)
    (right : Means negate holds junction.binding more w) :
    Means negate holds junction.binding
      (text ++ Symbol.plain (" " ++ junction.keyword ++ " ") ++ more) (junction.join v w) := by
  obtain ⟨ts, former, first⟩ := left
  obtain ⟨us, latter, second⟩ := right
  have word : Symbol.lex Token.ofLexeme (Symbol.plain junction.keyword) =
      some [junction.token] := by
    cases junction <;> rfl
  have whole := Symbol.lex_spaced former word latter
  refine ⟨_, ?_, first.join second⟩
  simpa [Symbol.plain_spaced] using whole

theorem Means.enclosed {binding : Binding} (means : Means negate holds binding text v) :
    Means negate holds .factor (enclosedIf true text) v := by
  obtain ⟨ts, lexed, read⟩ := means.whole
  have opens : Symbol.lex Token.ofLexeme (Symbol.plain "(") = some [.opening] := rfl
  have closes : Symbol.lex Token.ofLexeme (Symbol.plain ")") = some [.closing] := rfl
  have before := Symbol.lex_append opens lexed (.inl (by decide))
  have behind := Symbol.lex_append before closes (.inr (by decide))
  exact ⟨_, behind, .parenthesized read⟩

theorem means_member {c : Condition} {first : Nat} (parent : Junction)
    (means : Means negate holds c.binding (c.symbols first) (c.value negate holds first)) :
    Means negate holds parent.binding
      (enclosedIf (c.needsParentheses parent) (c.symbols first))
      (c.value negate holds first) := by
  unfold binding at means
  unfold needsParentheses
  cases junction : c.openJunction? with
  | none =>
    rw [junction] at means
    exact means.alone parent
  | some junction' =>
    rw [junction] at means
    by_cases same : junction' = parent
    · subst same
      simpa [enclosedIf] using means
    · simpa [same] using means.enclosed.alone parent

theorem means_members {junction : Junction} (c : Condition) {rest : List Condition} {first : Nat}
    (means : ∀ member ∈ c :: rest, ∀ first, Means negate holds member.binding (member.symbols first)
      (member.value negate holds first)) :
    Means negate holds junction.binding (joined junction (memberSymbols junction first (c :: rest)))
      (memberValue negate holds junction first (c :: rest)) := by
  induction rest generalizing c first with
  | nil =>
    have here := means_member junction (means c List.mem_cons_self first)
    simpa [memberSymbols, memberValue, joined] using here
  | cons next rest ih =>
    obtain ⟨here, others⟩ := List.forall_mem_cons.mp means
    have later := @ih next (first + c.leaves.length) others
    have whole := (means_member junction (here first)).join later
    rw [memberValue]
    simpa [memberSymbols, joined] using whole

theorem means_empty (junction : Junction) :
    Means negate holds .factor (joined junction []) junction.unit := by
  cases junction with
  | all => exact ⟨_, rfl, .truth⟩
  | any => exact ⟨_, rfl, .falsity⟩

/-- The text of a condition is read in its value, as tightly as the condition is held together. -/
theorem means_symbols (c : Condition) (first : Nat) :
    Means negate holds c.binding (c.symbols first) (c.value negate holds first) := by
  induction c using fromLeaves generalizing first with
  | leaf c single =>
    have alone : c.binding = .factor ∧ c.value negate holds first = holds first := by
      cases c <;> first | exact ⟨rfl, rfl⟩ | cases single
    rw [symbols_leaf single, alone.1, alone.2]
    exact ⟨_, rfl, .leaf first⟩
  | not c ih =>
    obtain ⟨ts, lexed, read⟩ := (ih first).enclosed
    have word : Symbol.lex Token.ofLexeme (Symbol.plain "NOT ") = some [.not] := rfl
    rw [value, symbols]
    exact ⟨_, Symbol.lex_append word lexed (.inl (by decide)), .not read⟩
  | pair left right junction nested ih =>
    rw [binding_pair, symbols_pair, value_pair]
    exact ih first
  | group members junction nested ih =>
    rw [value, symbols]
    have inner : Means negate holds junction.binding
        (joined junction (memberSymbols junction first members))
        (memberValue negate holds junction first members) := by
      cases members with
      | nil => exact (means_empty junction).alone junction
      | cons c rest => exact means_members c ih
    cases nested with
    | false => exact inner
    | true => exact inner.enclosed

end Grammar

/-! ### Reading from left to right -/

/-- What has been read since a parenthesis was opened. -/
structure Level (τ : Type) where
  /-- What stands before the last OR. -/
  disjoined : τ
  conjoined : τ
  negations : Nat := 0
  /-- Whether the right side of an equation comes next. -/
  comparing : Bool := false

structure Reader (τ : Type) where
  current : Level τ
  enclosing : List (Level τ) := []

section Reading

variable {τ : Type} [Lattice τ] [BoundedOrder τ] (negate : τ → τ) (holds : Nat → τ)

namespace Level

def behindOr (disjoined : τ) : Level τ := { disjoined, conjoined := ⊤ }

def value (level : Level τ) : τ := level.disjoined ⊔ level.conjoined

def operand (level : Level τ) (v : τ) : Level τ :=
  { level with
    conjoined := level.conjoined ⊓ negate^[level.negations] v
    negations := 0
    comparing := false }

end Level

namespace Reader

def operand (r : Reader τ) (v : τ) : Reader τ := { r with current := r.current.operand negate v }

def step (r : Reader τ) : Token → Reader τ
  | .opening => ⟨.behindOr ⊥, r.current :: r.enclosing⟩
  | .closing =>
    match r.enclosing with
    | [] => r
    | level :: enclosing => ⟨level.operand negate r.current.value, enclosing⟩
  | .not => { r with current.negations := r.current.negations + 1 }
  | .and => r
  | .or => { r with current := .behindOr r.current.value }
  | .one => if r.current.comparing then r.operand negate ⊤ else r
  | .zero => if r.current.comparing then r.operand negate ⊥ else r
  | .equals => { r with current.comparing := true }
  | .leaf number => r.operand negate (holds number)

def run (r : Reader τ) (ts : List Token) : Reader τ := ts.foldl (step negate holds) r

variable {negate holds}

theorem run_cons (r : Reader τ) (t : Token) (ts : List Token) :
    r.run negate holds (t :: ts) = (r.step negate holds t).run negate holds ts := rfl

theorem run_append (r : Reader τ) (ts us : List Token) :
    r.run negate holds (ts ++ us) = (r.run negate holds ts).run negate holds us :=
  List.foldl_append

/-- What the reader has made of some tokens, whatever stood before them that is no half equation. -/
def Gets (negate : τ → τ) (holds : Nat → τ) (ts : List Token) (v : τ) : Binding → Prop
  | .factor => ∀ r : Reader τ, r.current.comparing = false →
      run negate holds r ts = r.operand negate v
  | .conjunction => ∀ r : Reader τ, r.current.comparing = false → r.current.negations = 0 →
      run negate holds r ts = { r with current.conjoined := r.current.conjoined ⊓ v }
  | .disjunction => ∀ disjoined enclosing, ∃ last : Level τ,
      run negate holds ⟨.behindOr disjoined, enclosing⟩ ts = ⟨last, enclosing⟩ ∧
        last.value = disjoined ⊔ v

theorem gets_of_reads {binding : Binding} {ts : List Token} {v : τ}
    (read : Reads negate holds binding ts v) : Gets negate holds ts v binding := by
  induction read with
  | leaf number => exact fun r _ => rfl
  | truth =>
    intro r waiting
    simp [run, step, waiting, operand, Level.operand]
  | falsity =>
    intro r waiting
    simp [run, step, waiting, operand, Level.operand]
  | parenthesized inner ih =>
    intro r _
    -- What is inside is read on a level of its own, which the closing parenthesis hands on.
    obtain ⟨last, reached, comes⟩ := ih ⊥ (r.current :: r.enclosing)
    rw [bot_sup_eq] at comes
    have opened : r.step negate holds .opening = ⟨.behindOr ⊥, r.current :: r.enclosing⟩ := rfl
    rw [List.cons_append, run_cons, opened, run_append, reached, ← comes]
    rfl
  | not operand ih =>
    intro r waiting
    rw [run_cons, ih (r.step negate holds .not) waiting]
    simp [step, Reader.operand, Level.operand]
  | ofFactor only ih =>
    intro r waiting alone
    rw [ih r waiting]
    simp [operand, Level.operand, alone, ← waiting]
  | @and ts us v w left right first second =>
    intro r waiting alone
    let next : Reader τ := { r with current.conjoined := r.current.conjoined ⊓ v }
    have latter : run negate holds next us = next.operand negate w := second next waiting
    rw [run_append, first r waiting alone, run_cons]
    refine latter.trans ?_
    simp [next, operand, Level.operand, alone, inf_assoc, ← waiting]
  | ofConjunction only ih =>
    intro disjoined enclosing
    refine ⟨_, ih ⟨.behindOr disjoined, enclosing⟩ rfl rfl, ?_⟩
    simp [Level.value, Level.behindOr]
  | @or ts us v w left right first second =>
    intro disjoined enclosing
    obtain ⟨last, reached, comes⟩ := first disjoined enclosing
    refine ⟨{ disjoined := last.value, conjoined := ⊤ ⊓ w }, ?_, ?_⟩
    · rw [run_append, reached, run_cons]
      exact second ⟨.behindOr last.value, enclosing⟩ rfl rfl
    · rw [Level.value, comes, top_inf_eq, sup_assoc]

end Reader

def evaluate (ts : List Token) : τ :=
  (Reader.run negate holds ⟨.behindOr ⊥, []⟩ ts).current.value

variable {negate holds}

theorem evaluate_of_reads {ts : List Token} {v : τ}
    (read : Reads negate holds .disjunction ts v) : evaluate negate holds ts = v := by
  obtain ⟨last, reached, comes⟩ := Reader.gets_of_reads read ⊥ []
  rw [evaluate, reached, comes, bot_sup_eq]

end Reading
end Condition

/-- With every dialect and in every scope, a condition fails with one of its leaves only, or its text
is cut into tokens that have one value by the rules of precedence, whatever the leaves are: the value
of the tree. The leaves stand in the text in order, as each is rendered by itself. -/
theorem reads_as_meant {τ : Type} [Lattice τ] [BoundedOrder τ] (negate : τ → τ) (holds : Nat → τ)
    (c : Condition) :
    ∃ text : Condition.Text,
      text.filterMap Symbol.mark? = c.leaves.zipIdx ∧
      (∀ (d : Dialect) (roll : List Value),
        match (c.layout d).renderIn d (.numbering d roll) with
        | (.ok r, after) => Symbol.Shows d after (fun leaf => leaf.1.layout d) text r.sql
        | (.error e, _) => ∃ leaf ∈ c.leaves, (leaf.layout d).failure? = some e) ∧
      ∃ tokens, Symbol.lex Condition.Token.ofLexeme text = some tokens ∧
        ∀ v, Condition.Reads negate holds .disjunction tokens v ↔ v = c.value negate holds 0 := by
  have marks := Condition.marks_symbols c 0
  obtain ⟨tokens, lexed, meant⟩ :=
    (Condition.means_symbols c 0 : Condition.Means negate holds ..).whole
  refine ⟨c.symbols 0, marks, fun d roll => ?_, tokens, lexed, fun v => ⟨fun read => ?_, ?_⟩⟩
  · have shown := (Condition.spells_symbols d c 0).shows roll
    rcases rendered : (c.layout d).renderIn d (.numbering d roll) with ⟨e | r, after⟩
    all_goals rw [rendered] at shown
    · obtain ⟨⟨leaf, number⟩, marked, fails⟩ := shown
      have listed : (leaf, number) ∈ c.leaves.zipIdx :=
        marks ▸ List.mem_filterMap.mpr ⟨_, marked, rfl⟩
      exact ⟨leaf, List.fst_mem_of_mem_zipIdx listed, fails⟩
    · exact shown
  · rw [← Condition.evaluate_of_reads read, Condition.evaluate_of_reads meant]
  · rintro rfl
    exact meant

/-- Nobody knows about `a`, and `b` holds: nobody knows about the whole. -/
theorem reads_as_meant_unknown :
    let c : Condition :=
      (Condition.not (.raw "a")).and ((Condition.raw "b").or (.group [] .any false))
    let holds := ([Truth.unknown, .yes].getD · .no)
    ((c.layout .generic).render .generic).map (·.sql) = .ok "NOT (a) AND (b OR 1 = 0)" ∧
      ∃ text tokens, Symbol.lex Condition.Token.ofLexeme text = some tokens ∧
        text.filterMap Symbol.mark? = [(.raw "a", 0), (.raw "b", 1)] ∧
        ∀ v, Condition.Reads Truth.negate holds .disjunction tokens v ↔ v = .unknown := by
  intro c holds
  obtain ⟨text, marks, -, tokens, lexed, read⟩ := reads_as_meant Truth.negate holds c
  have unknown : c.value Truth.negate holds 0 = .unknown := by decide
  rw [unknown] at read
  exact ⟨by decide +kernel, text, tokens, lexed, marks, read⟩

end SqlBatch
