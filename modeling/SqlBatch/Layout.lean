import SqlBatch.Error
import SqlBatch.Tree.Constant

/-!
# Layouts

A layout is the sequence of pieces that a tree is written as. What a piece looks like is left to
the dialect, which number a placeholder carries to the pass that writes it. A failure ends the
writing; the pieces before it have been written by then.
-/
namespace SqlBatch

inductive Piece
  | text (s : String)
  | identifier (name : String)
  | literal (c : Constant)
  | placeholder (v : Value)
  /-- The end of a statement. -/
  | terminator
  | failure (e : Error)
  deriving DecidableEq

abbrev Layout := List Piece

namespace Layout

def failure (e : Error) : Layout := [.failure e]

/-- The layouts one after another, each but the first behind the separator. -/
def separated (separator : String) : List Layout → Layout
  | [] => []
  | first :: rest => first ++ rest.flatMap (.text separator :: ·)

def parenthesized (inner : Layout) : Layout := .text "(" :: inner ++ [.text ")"]

/-- Parentheses where a condition asks for them. -/
def parenthesizedIf (wanted : Bool) (inner : Layout) : Layout :=
  if wanted then parenthesized inner else inner

def identifiers (names : List String) : Layout :=
  separated ", " (names.map ([.identifier ·]))

/-- A clause that is written only when there is something in it. -/
def clause (keyword : String) : Option Layout → Layout
  | some inner => .text keyword :: inner
  | none => []

/-- The first failure of a layout. -/
def failure? : Layout → Option Error
  | [] => none
  | .failure e :: _ => some e
  | _ :: rest => failure? rest

/-- What is written before the first failure. -/
def written : Layout → Layout
  | [] => []
  | .failure _ :: _ => []
  | piece :: rest => piece :: written rest

end Layout
end SqlBatch
