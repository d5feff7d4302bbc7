import Lisp.Eval.Lambda
import Lisp.Eval.Variable

/-!
# Definitions

A definition binds a name in the active module or, if the name is qualified, in the named one; a
private definition binds it in the scope it stands in. Public definitions carry the name of their
module as an annotation.

## Main definitions

* `Machine.target` — the scope that a definition belongs to
* `Eval.defineVariable` — makes a definition
* `Engine.evalDefine`, `Engine.evalAssign`, `Engine.evalDefineMacro`
-/

namespace Lisp

namespace Definition

variable (h : Heap)

/-- The key of an annotation. -/
def annotationKey : Value → String
  | .keyword name | .symbol name => name.base
  | v => h.printPlain v

/-- The annotations written before a name: a keyword stands for itself being true. -/
def annotations? : Value → Option Metadata
  | .keyword name => some (.ofPairs [(name.base, .bool true)])
  | .map _ entries => some (.ofPairs (entries.map fun e => (annotationKey h e.1.value, e.2)))
  | _ => none

/-- A definition form: its annotations, its name and the form of its value. -/
structure Parts where
  metadata : Option Metadata
  name : Name
  init : Option Value

/-- The name and the value that follow the annotations. -/
def parseRest (metadata : Option Metadata) : List Value → Except Cause Parts
  | [target] => return ⟨metadata, ← expectSymbol h "define" target, none⟩
  | [target, init] => return ⟨metadata, ← expectSymbol h "define" target, some init⟩
  | _ => .error (.invalid .defineShape)

/-- The parts of a definition form. -/
def parse : List Value → Except Cause Parts
  | [] => .error (.arity "define" "at least 1" 0)
  | operands@(.symbol _ :: _) => parseRest h none operands
  | first :: rest =>
    match annotations? h first with
    | some metadata => parseRest h (some metadata) rest
    | none => .error (.invalid (.defineTarget (h.print first)))

end Definition

/-- The scope that a definition belongs to and, unless it is private, the module. -/
def Machine.target (m : Machine) (scope : ScopeRef) (name : Name) (metadata : Metadata) :
    Except Cause (ScopeRef × Option ModuleRef) :=
  if metadata.flag "private" then .ok (scope, none)
  else
    match name.space with
    | none => .ok (m.activeScope, some m.context.module)
    | some space =>
      match m.module? space with
      | some r => .ok (m.moduleScope r, some r)
      | none => .error (.module (.missingTarget space))

/-- Makes a definition. -/
def Eval.defineVariable (scope : ScopeRef) (name : Name) (value : Value) (metadata : Metadata) :
    Eval Unit := do
  let m ← get
  let (target, module) ← Eval.ofCause (m.target scope name metadata)
  let metadata := match module with
    | some r => metadata.insert "module" (.symbol (m.heap.module r).name)
    | none => metadata
  Eval.define target name.base (some value) (some metadata)

/-- Names a lambda that has no name. -/
def Eval.nameValue (name : Name) : Value → Eval Unit
  | .entity (.lambda r) => do
    if ((← get).heap.lambda r).ident.isNone then Eval.nameLambda r name
  | _ => return ()

namespace Engine

variable (E : Engine)

/-- Evaluates a definition. The name is bound before its value is computed, so that the value can
refer to it, and a lambda takes the name it is first defined under. -/
def evalDefine (scope : ScopeRef) (operands : List Value) : Eval Value := do
  let parts ← Eval.ofCause (Definition.parse (← Eval.heap) operands)
  let metadata := parts.metadata.getD {}
  let (target, _) ← Eval.ofCause ((← get).target scope parts.name metadata)
  Eval.define target parts.name.base none
  let value ← match parts.init with
    | some form => E.eval scope form
    | none => pure .nil
  Eval.defineVariable scope parts.name value metadata
  Eval.nameValue parts.name value
  return value

/-- Gives a new value to the binding that a symbol refers to. -/
def evalAssign (scope : ScopeRef) : List Value → Eval Value
  | [target, form] => do
    let name ← Eval.ofCause (expectSymbol (← Eval.heap) "set!" target)
    match ← Eval.ofCause ((← get).owner? scope name) with
    | none => Eval.fail (.unbound name.text)
    | some owner => do
      let value ← E.eval scope form
      Eval.modifyScopes fun s => s.store owner name.base value
      return value
  | operands => Eval.failArity "set!" "2" operands.length

/-- Evaluates the definition of an expander, with or without a text that documents it. The value is
its name. -/
def evalDefineMacro (scope : ScopeRef) : List Value → Eval Value
  | [] => Eval.failArity "define-macro" "at least 2" 0
  | target :: rest => do
    let name ← Eval.ofCause (expectSymbol (← Eval.heap) "define-macro" target)
    let marked : Metadata := .ofPairs [("macro", .bool true)]
    let (metadata, clauses) := match rest with
      | .string doc :: body@(_ :: _) => (marked.insert "doc" (.string doc), body)
      | _ => (marked, rest)
    if clauses.isEmpty then Eval.failForm (.macroWithoutBody name.text)
    else
      let f ← Eval.makeNamed scope clauses name
      Eval.defineVariable scope name f metadata
      return .symbol name

end Engine

end Lisp
