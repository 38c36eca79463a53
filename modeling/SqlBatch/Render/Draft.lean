import SqlBatch.Render.Context

/-!
# Drafts

A draft is a layout with the modes that are entered on the way: each query ends the statement that
it is, and the text around it is written in a mode that leaves that end out.
-/
namespace SqlBatch

/-- A piece, or parts inside a mode without statements. -/
inductive Part
  | put (piece : Piece)
  | scoped (mode : RenderMode) (endless : mode ≠ .statement) (parts : List Part)

abbrev Draft := List Part

def Part.text (s : String) : Part := .put (.text s)

def Part.nested (parts : Draft) : Part := .scoped .nested nofun parts

def Layout.draft (layout : Layout) : Draft := layout.map .put

namespace Draft

def failure (e : Error) : Draft := [.put (.failure e)]

def separated (separator : String) : List Draft → Draft
  | [] => []
  | first :: rest => first ++ rest.flatMap (.text separator :: ·)

def parenthesized (inner : Draft) : Draft := .text "(" :: inner ++ [.text ")"]

def parenthesizedIf (wanted : Bool) (inner : Draft) : Draft :=
  if wanted then parenthesized inner else inner

def clause (keyword : String) : Option Draft → Draft
  | some inner => .text keyword :: inner
  | none => []

end Draft

/-! ### Writing -/

mutual

/-- The mode is left again whatever happened in it. -/
def Part.write (ctx : Context) : Part → Context × Except Error Unit
  | .put piece => ctx.emit [piece]
  | .scoped mode _ parts =>
    let (inside, outcome) := Draft.write (ctx.enter mode) parts
    (inside.leave, outcome)

/-- Writes a draft up to its first failure. -/
def Draft.write (ctx : Context) : Draft → Context × Except Error Unit
  | [] => (ctx, .ok ())
  | part :: rest =>
    match part.write ctx with
    | (after, .ok ()) => Draft.write after rest
    | (after, .error e) => (after, .error e)

end

/-- Renders in a mode, with the numbers of a scope; a pass that fails leaves no number behind. -/
def Draft.pass (draft : Draft) (d : Dialect) (mode : RenderMode) (scope : Scope) :
    Except Error Rendered × Scope :=
  match draft.write { dialect := d, mode, scope } with
  | (ctx, .ok ()) => (.ok ctx.finish, ctx.scope)
  | (ctx, .error e) => (.error e, ctx.scope.rollback scope.issued)

end SqlBatch
