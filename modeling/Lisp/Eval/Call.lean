import Lisp.Eval.Access
import Lisp.Eval.Session
import Lisp.Library.Host
import Lisp.Library.Operator
import Lisp.Library.Procedure

/-!
# Calls

Lambdas, built-in procedures, protocols and types are called for what they do. Collections, keywords
and symbols are called to look something up.

## Main definitions

* `Engine.callProcedure`, `Engine.callBuiltin` — built-in procedures
* `Engine.callValue` — any value
-/

namespace Lisp.Engine

variable [Tables]

variable (E : Engine)

/-- Prints a line of values, strings as they are. -/
def printValues (args : List Value) : Eval Value := do
  let h ← Eval.heap
  Eval.printLine (" ".intercalate (args.map h.printPlain))
  return .nil

/-- Prints the text of one value on a line. -/
def printText (v : Value) : Eval Value := do
  Eval.printLine (← Eval.print v)
  return .nil

/-- A symbol that nothing else has made: a text and a fresh number. -/
def makeSymbol (start : String) : Eval Value :=
  return .sym (start ++ toString (← Eval.fresh))

/-- The elements of a collection. -/
def items (coll : Value) : Eval (List Value) := do
  Eval.ofCause (Collection.items (← Eval.heap) E.mode coll)

/-- Calls a value with some arguments and then the elements of a collection, which comes last. -/
def spread (f : Value) (args : List Value) (last : Value) : Eval Value := do
  E.apply f (args ++ (← E.items last))

/-- Calls a procedure of the standard library. -/
def callProcedure (proc : Procedure) (args : List Value) : Eval Value :=
  match proc, args with
  | .map, [f, coll] => do Collection.map (E.apply f) (← E.items coll)
  | .filter, [f, coll] => do Collection.filter (E.apply f) (← E.items coll)
  | .reduce, [f, coll] => do Collection.reduce (E.apply f) none (← E.items coll)
  | .reduce, [f, start, coll] => do Collection.reduce (E.apply f) (some start) (← E.items coll)
  | .apply, f :: arg :: args => E.spread f ((arg :: args).dropLast) ((arg :: args).getLastD arg)
  | .gensym, [] => makeSymbol "G__"
  | .gensym, [start] => do makeSymbol (← Eval.ofCause (Operand.name (← Eval.heap) start))
  | .eval, [form] => E.evalForm form
  | .macroexpand, [form] => E.expandForm form
  | .readFile, [path] => do E.loadFile (← Eval.ofCause (Operand.string (← Eval.heap) path))
  | .println, args => printValues args
  | .pprint, [v] | .p, [v] => printText v
  | proc, args => do Eval.ofCause (Library.compute (← Eval.heap) E.mode proc args)

/-- Calls a built-in procedure. -/
def callBuiltin (b : Builtin) (args : List Value) : Eval Value := do
  match b with
  | .operator op => Eval.ofCause (op.run (← Eval.heap) args)
  | .procedure proc => E.callProcedure proc args
  | .math f => Eval.ofCause (f.run (← Eval.heap) args)
  | .consoleLog =>
    match args with
    | _ :: args => printValues args
    | [] => Eval.fail (b.complain args)
  | .parseFloat => Eval.ofCause (Host.parseFloat (← Eval.heap) args)
  | .parseInt => Eval.ofCause (Host.parseInt (← Eval.heap) args)

/-- The arguments of a value that is called to look something up: what to look up or where, and
possibly a default. -/
def lookupArguments (callee : Value) : List Value → Eval (Value × Option Value)
  | [x] => return (x, none)
  | [x, default] => return (x, some default)
  | args => do Eval.fail ((ArgumentCount.between 1 2).complain (← Eval.print callee) args)

/-- Looks an argument up in a collection. -/
def callCollection (coll : Value) (args : List Value) : Eval Value := do
  let (key, default) ← lookupArguments coll args
  return Library.getOr (← Eval.heap) coll key default

/-- Looks a keyword or symbol up in an argument. -/
def callKey (key : Value) (args : List Value) : Eval Value := do
  let (coll, default) ← lookupArguments key args
  return Library.getOr (← Eval.heap) coll key default

/-- Calls a value; `form` is what a message calls it. -/
def callValue (f : Value) (args : List Value) (form : Value) : Eval Value := do
  match f with
  | .entity (.lambda r) => E.callLambda r args
  | .entity (.builtin b) => E.callBuiltin b args
  | .entity (.protocol p) => Eval.applyMixin p args
  | .entity (.type t) => Eval.construct t args
  | .map .. | .vector .. => callCollection f args
  | .keyword _ | .symbol _ => callKey f args
  | .quoted key@(.symbol _) => callKey key args
  | .set .. =>
    match args with
    | [x] => return Collection.get (← Eval.heap) f x
    | args => Eval.fail ((ArgumentCount.exactly 1).complain (← Eval.print f) args)
  | _ => Eval.fail (.notInvocable (← Eval.print form))

end Lisp.Engine
