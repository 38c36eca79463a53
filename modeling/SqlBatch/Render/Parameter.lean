import SqlBatch.Dialect.Basic

/-!
# Parameters

A parameter table lists what a text binds, in the order of first use. A scope numbers bound values:
the same value always gets the same number, and numbers are given out from 1 without gaps.
-/
namespace SqlBatch

structure Parameter where
  /-- The placeholder, as it stands in the text. -/
  name : String
  ordinal : Nat
  value : SqlValue
  deriving DecidableEq

structure Parameters where
  entries : List Parameter := []
  deriving DecidableEq

namespace Parameters

def get? (table : Parameters) (name : String) : Option SqlValue :=
  (table.entries.find? (·.name = name)).map (·.value)

def names (table : Parameters) : List String := table.entries.map (·.name)

def values (table : Parameters) : List SqlValue := table.entries.map (·.value)

/-- Adds parameters until one has a name that stands for another value already. What was added
before the collision stays. -/
def absorb (entries : List Parameter) : List Parameter → List Parameter × Except Error Unit
  | [] => (entries, .ok ())
  | p :: rest =>
    match entries.find? (·.name = p.name) with
    | some known =>
      if known.value.agrees p.value then absorb entries rest
      else (entries, .error (.parameterCollision p.name))
    | none => absorb (entries ++ [p]) rest

def merge (table other : Parameters) : Parameters × Except Error Unit :=
  let (entries, outcome) := absorb table.entries other.entries
  (⟨entries⟩, outcome)

/-- Lists a parameter unless its ordinal is listed already. -/
def note (table : Parameters) (p : Parameter) : Parameters :=
  if table.entries.any (·.ordinal = p.ordinal) then table else ⟨table.entries ++ [p]⟩

end Parameters

/-! ### Scopes -/

/-- A value that has its parameter. -/
structure Interned where
  value : Value
  parameter : Parameter
  deriving DecidableEq

structure Scope where
  /-- The last number given out. -/
  issued : Nat := 0
  /-- The parameters, each found by its value. -/
  interned : List Interned := []
  /-- The values with a number, kept for as long as the scope, in the order of the numbers. -/
  retained : List Value := []
  deriving DecidableEq

namespace Scope

def find? (s : Scope) (v : Value) : Option Parameter :=
  (s.interned.find? (·.value = v)).map (·.parameter)

/-- The parameter of a value, a new one when it has none yet. -/
def intern (s : Scope) (d : Dialect) (v : Value) : Parameter × Scope :=
  match s.find? v with
  | some p => (p, s)
  | none =>
    let ordinal := s.issued + 1
    let p : Parameter := ⟨d.parameterName ordinal, ordinal, v.content⟩
    (p, { issued := ordinal
          interned := s.interned ++ [⟨v, p⟩]
          retained := s.retained ++ [v] })

/-- Forgets every parameter issued since `issued` was the given number. -/
def rollback (s : Scope) (checkpoint : Nat) : Scope :=
  if s.issued ≤ checkpoint then s
  else
    { issued := checkpoint
      interned := s.interned.filter (·.parameter.ordinal ≤ checkpoint)
      retained := s.retained.take checkpoint }

end Scope
end SqlBatch
