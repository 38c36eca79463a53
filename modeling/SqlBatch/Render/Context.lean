import SqlBatch.Render.Parameter

/-!
# Rendering

A pass writes layouts into a text. It knows the dialect, the modes it is in and the scope that
numbers its placeholders, and keeps the table of the parameters that it used.
-/
namespace SqlBatch

/-- Only a text in statement mode ends its statements. -/
inductive RenderMode
  | statement
  | nested
  | multiStatement
  deriving DecidableEq

/-- A text, what it binds, and how many statements it ends. -/
structure Rendered where
  sql : String
  parameters : Parameters
  statements : Nat
  deriving DecidableEq

structure Context where
  dialect : Dialect
  text : String := ""
  mode : RenderMode := .statement
  /-- The modes around the current one, from the inside out. -/
  enclosing : List RenderMode := []
  scope : Scope := {}
  used : Parameters := {}
  statements : Nat := 0

namespace Context

def depth (ctx : Context) : Nat := ctx.enclosing.length + 1

def write (ctx : Context) (s : String) : Context := { ctx with text := ctx.text ++ s }

/-- The placeholder of a value; the value counts as used by this pass. -/
def parameterName (ctx : Context) (v : Value) : String × Context :=
  let (p, scope) := ctx.scope.intern ctx.dialect v
  (p.name, { ctx with scope, used := ctx.used.note p })

def terminate (ctx : Context) : Context :=
  match ctx.mode with
  | .statement => { ctx.write ctx.dialect.terminator with statements := ctx.statements + 1 }
  | _ => ctx

def put (ctx : Context) : Piece → Context
  | .text s => ctx.write s
  | .identifier name => ctx.write (ctx.dialect.quoteIdentifier name)
  | .literal c => ctx.write (ctx.dialect.literal c)
  | .placeholder v =>
    let (name, ctx) := ctx.parameterName v
    ctx.write name
  | .terminator => ctx.terminate
  | .failure _ => ctx

/-- Writes a layout up to its first failure. -/
def emit (ctx : Context) : Layout → Context × Except Error Unit
  | [] => (ctx, .ok ())
  | .failure e :: _ => (ctx, .error e)
  | piece :: rest => (ctx.put piece).emit rest

def enter (ctx : Context) (mode : RenderMode) : Context :=
  { ctx with mode, enclosing := ctx.mode :: ctx.enclosing }

/-- Goes back to the mode around the current one; the outermost mode is never left. -/
def leave (ctx : Context) : Context :=
  match ctx.enclosing with
  | [] => ctx
  | outer :: enclosing => { ctx with mode := outer, enclosing }

def finish (ctx : Context) : Rendered := ⟨ctx.text, ctx.used, ctx.statements⟩

end Context

/-! ### Whole passes -/

/-- Renders with numbers of its own. -/
def Layout.render (layout : Layout) (d : Dialect) : Except Error Rendered :=
  match ({ dialect := d } : Context).emit layout with
  | (ctx, .ok ()) => .ok ctx.finish
  | (_, .error e) => .error e

/-- Renders with the numbers of a scope; a pass that fails leaves no number behind. -/
def Layout.renderIn (layout : Layout) (d : Dialect) (scope : Scope) :
    Except Error Rendered × Scope :=
  match ({ dialect := d, scope } : Context).emit layout with
  | (ctx, .ok ()) => (.ok ctx.finish, ctx.scope)
  | (ctx, .error e) => (.error e, ctx.scope.rollback scope.issued)

end SqlBatch
