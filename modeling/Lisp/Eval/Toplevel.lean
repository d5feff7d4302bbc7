import Lisp.Eval.Variable
import Lisp.Engine
import Lisp.Text.Shebang

/-!
# Top-level forms

The forms of a source run one after the other, each in a scope within the scope of the module that
is active then. A form that makes another module active gives the next form a new scope. The session
keeps such a place between the texts it is given; a file has its own.

## Main definitions

* `Eval.openToplevel` — a place for the forms of a source
* `Eval.follow` — moves to the active module
* `Engine.runForms` — runs forms, one after the other
* `Engine.evalFile` — runs the forms of a file
-/

namespace Lisp

variable [Tables]

namespace Eval

/-- A new scope for the top-level forms of a module. -/
def toplevelScope (r : ModuleRef) : Eval ScopeRef := do
  let module := (← get).heap.module r
  newScope module.scope module.name.text

/-- A place for the forms of a source. -/
def openToplevel (c : Context) (locals : List (String × Value) := []) : Eval Toplevel := do
  let scope ← toplevelScope c.module
  for (name, value) in locals do
    define scope name (some value)
  return { context := c, scope, module := c.module, locals }

/-- Starts a new scope if another module has become active. It belongs to the same source. -/
def follow (top : Toplevel) : Eval Toplevel := do
  if top.module = top.context.module then return top
  let source := ((← get).heap.scopes.frame top.scope).source
  let next ← openToplevel top.context top.locals
  match source with
  | some source => modifyScopes fun s => s.setSource next.scope source
  | none => pure ()
  return next

/-- Remembers where the next form given from outside runs. -/
def saveSession (top : Toplevel) : Eval Unit :=
  modify fun m => { m with session := top }

end Eval

namespace Engine

variable (E : Engine)

/-- Evaluates a form where nothing around it can start again. -/
def evalTop (scope : ScopeRef) (form : Value) : Eval Value := do
  match ← Eval.attempt (E.eval scope form) with
  | .error (.again _) => Eval.failIn scope { cause := .strayAgain }
  | .error (.fault e) => Eval.failIn scope e
  | outcome => Eval.ofOutcome outcome

/-- The outcome of a form at a place, and the place after it. -/
def evalAt (top : Toplevel) (form : Value) : Eval (Except Signal Value × Toplevel) := do
  let (outcome, context) ← Eval.inContext top.context (E.evalTop top.scope form)
  return (outcome, { top with context })

/-- What a source still holds after some of its forms: located forms and, at the end, a fault. -/
def runForms (inSession : Bool) (source : String) (fault : Option Reader.Fault) :
    List Reader.Located → Value → Toplevel → Eval (Except Signal Value × Toplevel)
  | [], last, top =>
    return (fault.elim (.ok last) fun f => .error (.fault { cause := .unreadable source f }), top)
  | located :: rest, _, top => do
    let top ← Eval.follow top
    Eval.modifyScopes fun s => s.setPosition top.scope located.start
    let (outcome, top) ← E.evalAt top located.form
    let top ← if inSession then do
        let top ← Eval.follow top
        Eval.saveSession top
        pure top
      else pure top
    match outcome with
    | .ok value => runForms inSession source fault rest value top
    | .error s => return (.error s, top)

/-- Runs the forms of a text at a place. In a session the place is saved after every form. -/
def evalSource (inSession : Bool) (text source : String) (top : Toplevel) : Eval Value := do
  Eval.modifyScopes fun s => s.setSource top.scope source
  let reading := Reader.readAll E.mode text
  let (outcome, top) ←
    E.runForms inSession source (reading.fault.map (·.1)) reading.forms .nil top
  let top ← Eval.follow top
  if inSession then Eval.saveSession top
  Eval.ofOutcome outcome

/-- Runs the forms of a file, starting in a context. Relative paths in it start from its directory,
and its forms see its path and its directory. -/
def evalFile (c : Context) (path : String) : Eval Value := do
  match ← E.read path with
  | .error problem => Eval.fail (.file (.source path problem))
  | .ok text => do
    let dir := Path.parent? path
    let top ← Eval.openToplevel { c with dir }
      [("*file*", .string path), ("*dir*", .string (dir.getD ""))]
    E.evalSource false (Text.dropShebang text) path top

end Engine

end Lisp
