import SqlBatch.Statement.Layout
import SqlBatch.Render.Context

/-!
# Programs over a pass

What a caller can do with a pass: write, render, and do both inside another mode. An action that
fails leaves what it wrote, and every action leaves the modes as it found them.
-/
namespace SqlBatch

inductive Action
  | write (s : String)
  | identifier (name : String)
  | identifierList (names : List String)
  | literal (c : Constant)
  | parameter (v : Value)
  /-- Asks for a placeholder without writing it. -/
  | parameterName (v : Value)
  | terminate
  | render (e : Element)
  | renderList (es : List Element) (separator : String)
  /-- Acts in another mode and fails with the first action that fails. -/
  | scoped (mode : RenderMode) (body : List Action)
  /-- Acts in another mode and goes on after failures. -/
  | enter (mode : RenderMode) (body : List Action)

/-- What one action did, and the state it left. -/
structure Report where
  written : String
  mode : RenderMode
  depth : Nat
  statements : Nat
  /-- The placeholder that was asked for. -/
  name : Option String := none
  /-- The reports of the actions inside another mode. -/
  inner : Option (List Report) := none
  outcome : Except Error Unit := .ok ()

namespace Context

/-- The text that has been added since the context held `before`. -/
def addedSince (ctx : Context) (before : String) : String :=
  String.ofList (ctx.text.toList.drop before.length)

def report (ctx : Context) (before : String) (outcome : Except Error Unit) : Report where
  written := ctx.addedSince before
  mode := ctx.mode
  depth := ctx.depth
  statements := ctx.statements
  outcome := outcome

def emitReported (ctx : Context) (layout : Layout) : Context × Report :=
  let (after, outcome) := ctx.emit layout
  (after, after.report ctx.text outcome)

end Context

mutual

def Action.run (ctx : Context) : Action → Context × Report
  | .write s => ctx.emitReported [.text s]
  | .identifier name => ctx.emitReported [.identifier name]
  | .identifierList names => ctx.emitReported (Layout.identifiers names)
  | .literal c => ctx.emitReported [.literal c]
  | .parameter v => ctx.emitReported [.placeholder v]
  | .parameterName v =>
    let (name, after) := ctx.parameterName v
    (after, { after.report ctx.text (.ok ()) with name := some name })
  | .terminate => ctx.emitReported [.terminator]
  | .render e => ctx.emitReported (e.layout ctx.dialect)
  | .renderList es separator =>
    ctx.emitReported (Layout.separated separator (es.map (Element.layout ctx.dialect)))
  | .scoped mode body =>
    let (inside, reports, outcome) := Action.runUntilFailure (ctx.enter mode) body
    let after := inside.leave
    (after, { after.report ctx.text outcome with inner := some reports })
  | .enter mode body =>
    let (inside, reports) := Action.runAll (ctx.enter mode) body
    let after := inside.leave
    (after, { after.report ctx.text (.ok ()) with inner := some reports })

/-- Stops behind the first action that fails, which is the last one reported. -/
def Action.runUntilFailure (ctx : Context) :
    List Action → Context × List Report × Except Error Unit
  | [] => (ctx, [], .ok ())
  | action :: rest =>
    let (after, report) := Action.run ctx action
    match report.outcome with
    | .error e => (after, [report], .error e)
    | .ok () =>
      let (last, reports, outcome) := Action.runUntilFailure after rest
      (last, report :: reports, outcome)

def Action.runAll (ctx : Context) : List Action → Context × List Report
  | [] => (ctx, [])
  | action :: rest =>
    let (after, report) := Action.run ctx action
    let (last, reports) := Action.runAll after rest
    (last, report :: reports)

end

end SqlBatch
