import Lisp.Eval.Toplevel

/-!
# Modules

## Main definitions

* `Eval.openModule` — finds or makes a module
* `Engine.evalModule`, `Engine.evalUse` — make a module active
* `Engine.evalRequire` — runs the file of a module
-/

namespace Lisp

variable [Tables]

namespace Eval

/-- The module that a form is given by name. -/
def moduleName (context : String) : List Value → Eval Name
  | [name] => do ofCause (expectSymbol (← heap) context name)
  | operands => failArity context "1" operands.length

/-- Makes a module: it gets a scope within the global one and is bound there under its name. -/
def makeModule (name : Name) : Eval ModuleRef := do
  let scope ← newScope globalScope name.text
  define scope "*module-name*" (some (.symbol name))
  let r ← newModule { name, scope }
  modify fun m => { m with registry := m.registry.insert name.text r }
  define globalScope name.text (some (.entity (.module r)))
    (some (.ofPairs [("tag", .kw "module")]))
  return r

/-- Finds a module, or makes it if there is none of that name. -/
def openModule (name : Name) : Eval ModuleRef := do
  match (← get).module? name.text with
  | some r => return r
  | none => makeModule name

/-- Makes a module active. -/
def enter (r : ModuleRef) : Eval Unit :=
  modify fun m => { m with context := { m.context with module := r } }

end Eval

namespace Engine

variable (E : Engine)

/-- Makes a module active, and makes it first if there is none. -/
def evalModule (operands : List Value) : Eval Value := do
  let r ← Eval.openModule (← Eval.moduleName "module" operands)
  Eval.enter r
  return .entity (.module r)

/-- Makes a module active that is there already. -/
def evalUse (operands : List Value) : Eval Value := do
  let name ← Eval.moduleName "use" operands
  match (← get).module? name.text with
  | some r =>
    Eval.enter r
    return .nil
  | none => Eval.fail (.module (.missing name.text))

/-- The directory that paths start from. -/
def directory : Eval String :=
  return (← get).context.dir.getD E.setting.options.sourceRoot

/-- Runs the file at a path or of a module; afterwards the module has to be there. -/
def evalRequire : List Value → Eval Value
  | [.string path] => do
    let _ ← E.evalFile (← Eval.context) (Path.join (← E.directory) path)
    return .bool true
  | [.symbol name] => do
    let path := Path.join (← E.directory) (E.setting.options.modulePath name.text)
    let _ ← E.evalFile (← Eval.context) path
    if ((← get).module? name.text).isNone then Eval.fail (.module (.missing name.text))
    return .bool true
  | [other] => do Eval.failForm (.requireTarget (← Eval.print other))
  | operands => Eval.failArity "require" "1" operands.length

end Engine

end Lisp
