import Lisp.Collection
import Lisp.Eval.Type
import Lisp.Library.StringMethod

/-!
# Properties and methods

## Main definitions

* `Heap.property` — a property of a value
* `Engine.callMethod` — calls a method of a value
* `Engine.evalPropertyGet`, `Engine.evalPropertySet`, `Engine.evalMethodCall`, `Engine.evalNew`
-/

namespace Lisp

variable [Tables]

namespace Heap

variable (h : Heap)

/-- The text of a property's key. -/
def keyText : Value → String
  | .string s => s
  | .keyword name | .symbol name => name.base
  | v => h.print v

/-- What a map has for a property: under the keyword of that name, else under the key as it is, else
under the string. -/
def mapProperty (coll key : Value) (text : String) : Value :=
  let asKeyword : Value := .keyword (.parse text)
  if Collection.contains h coll asKeyword then Collection.get h coll asKeyword
  else if Collection.contains h coll key then Collection.get h coll key
  else Collection.get h coll (.string text)

/-- What a sequence or string has for a property: the element at a number, or its length. -/
def sequenceProperty (coll key : Value) (text : String) : Except Cause Value :=
  match key with
  | .number _ => .ok (Collection.get h coll key)
  | _ => if text = "length" then return .number (.ofNat (← Collection.count coll)) else .ok .nil

/-- A property of a value; what has no such property has `nil`. -/
def property (target key : Value) : Except Cause Value :=
  let text := h.keyText key
  match target with
  | .entity (.object r) =>
    let o := h.object r
    .ok (((o.fields.get? text).or (h.method? o.type text)).getD .nil)
  | .map .. => .ok (h.mapProperty target key text)
  | .string _ | .list _ | .vector .. => h.sequenceProperty target key text
  | .entity (.module r) =>
    .ok (((h.scopes.own? (h.module r).scope text).map (·.value)).getD .nil)
  | .entity (.type r) => .ok (if text = "name" then .string (h.type r).name.text else .nil)
  | _ => .ok .nil

end Heap

/-- The method and the argument forms of a method call, written as a list or in a row. -/
def splitCall : List Value → Option (Value × List Value)
  | [] => none
  | [.list (method :: args)] => some (method, args)
  | method :: args => some (method, args)

namespace Engine

variable (E : Engine)

/-- The key that a property is written with: a symbol stands for its text. -/
def evalKey (scope : ScopeRef) : Value → Eval Value
  | .symbol name => return .string name.text
  | form => E.eval scope form

/-- Reads a property; `source` is the whole form. -/
def evalPropertyGet (scope : ScopeRef) (source : Value) : List Value → Eval Value
  | [target, key] => do
    match ← E.eval scope target with
    | .nil => Eval.failMismatch (.nilReceiver (← Eval.print source))
    | target => do
      let key ← E.evalKey scope key
      Eval.ofCause ((← Eval.heap).property target key)
  | operands => Eval.failArity ".-" "2" operands.length

/-- Sets a field of an object. -/
def evalPropertySet (scope : ScopeRef) : List Value → Eval Value
  | [target, key, form] => do
    let target ← E.eval scope target
    let key ← E.evalKey scope key
    let value ← E.eval scope form
    let text := (← Eval.heap).keyText key
    match target with
    | .entity (.object r) =>
      Eval.setField r text value
      return value
    | other => Eval.failMismatch (.fixedProperty text (← Eval.print other))
  | operands => Eval.failArity ".-set!" "3" operands.length

/-- Calls a method of an object: one of its type, which gets the object first, or else the value of
a field. -/
def callObjectMethod (r : ObjectRef) (method : String) (args : List Value) (source : Value) :
    Eval Value := do
  let h ← Eval.heap
  let o := h.object r
  match h.method? o.type method with
  | some f => E.call f (.entity (.object r) :: args) source
  | none =>
    match o.fields.get? method with
    | some f => E.call f args source
    | none => Eval.failMismatch (.noMethod (h.type o.type).name.text method)

/-- Calls a method of a value; `source` is the whole form. -/
def callMethod (receiver : Value) (method : String) (args : List Value) (source : Value) :
    Eval Value := do
  match receiver with
  | .entity (.object r) => E.callObjectMethod r method args source
  | .string s =>
    match StringMethod.ofName? method with
    | some sm => Eval.ofCause (sm.run (← Eval.heap) s args)
    | none => Eval.failMismatch (.noMethod receiver.typeName method)
  | .nil => Eval.failMismatch (.nilReceiver (← Eval.print source))
  | _ =>
    match ← Eval.ofCause ((← Eval.heap).property receiver (.string method)) with
    | .nil => Eval.failMismatch (.noMethod receiver.typeName method)
    | f => E.call f args source

/-- Evaluates a method call; `source` is the whole form. -/
def evalMethodCall (scope : ScopeRef) (source : Value) (operands : List Value) : Eval Value :=
  match operands.head?, splitCall operands.tail with
  | some target, some (.symbol method, forms) => do
    let receiver ← E.eval scope target
    let args ← E.evalAll scope forms
    E.callMethod receiver method.base args source
  | some _, some _ => do Eval.failForm (.methodName (← Eval.print source))
  | _, _ => Eval.failArity "." "at least 2" operands.length

/-- Makes an instance of a type. -/
def evalNew (scope : ScopeRef) : List Value → Eval Value
  | [] => Eval.failArity "new" "at least 1" 0
  | cls :: forms => do
    let cls ← E.eval scope cls
    let args ← E.evalAll scope forms
    match cls with
    | .entity (.type t) => Eval.construct t args
    | other => Eval.failMismatch (.notConstructor (← Eval.print other))

end Engine

end Lisp
