import Lisp.Error

/-!
# How many arguments built-in procedures take

## Main definitions

* `ArgumentCount` — a condition on the number of arguments
* `Builtin.argumentCount` — the condition of a built-in procedure
* `Builtin.complain` — the complaint about a call with another number of arguments
-/

namespace Lisp

/-- A condition on the number of arguments. -/
inductive ArgumentCount where
  | exactly (n : Nat)
  | atLeast (n : Nat)
  | between (lo hi : Nat)
deriving DecidableEq, Inhabited, Repr

namespace ArgumentCount

/-- Whether a number of arguments meets the condition. -/
def accepts : ArgumentCount → Nat → Bool
  | exactly n, k => k = n
  | atLeast n, k => n ≤ k
  | between lo hi, k => lo ≤ k && k ≤ hi

/-- The wording of the condition in messages. -/
def text : ArgumentCount → String
  | exactly n => toString n
  | atLeast n => "at least " ++ toString n
  | between lo hi => toString lo ++ " to " ++ toString hi

/-- The complaint about arguments whose number does not meet the condition. -/
def complain (c : ArgumentCount) (callee : String) (args : List Value) : Cause :=
  .arity callee c.text args.length

end ArgumentCount

/-- How many arguments an operator takes. -/
def Operator.argumentCount : Operator → ArgumentCount
  | add | subtract | multiply | divide | join => .atLeast 0
  | bitOr | bitAnd | bitXor => .atLeast 1
  | bitNot | increment | decrement | negate => .exactly 1
  | modulo | shiftLeft | shiftRight => .exactly 2

/-- How many arguments a procedure of the standard library takes. -/
def Procedure.argumentCount : Procedure → ArgumentCount
  | list | vector | hashMap | hashSet | merge | concat | println => .atLeast 0
  | first | rest | second | count | isList | isVector | isMap | isSet | isSymbol | isKeyword
  | isString | isNumber | isNil | isFn | isEmpty | name | space | eval | macroexpand | arity
  | inspect | readString | readFile | readJson | rePattern | pprint | p => .exactly 1
  | cons | nth | map | filter | reFind | reMatches => .exactly 2
  | dissoc | conj | equal | notEqual | less | greater | atMost | atLeast => .atLeast 1
  | apply => .atLeast 2
  | assoc => .atLeast 3
  | gensym => .between 0 1
  | symbol | keyword => .between 1 2
  | get | reduce => .between 2 3

/-- How many arguments a method of `Math` takes, its receiver included. -/
def MathFunction.argumentCount : MathFunction → ArgumentCount
  | abs | floor | ceil | round | sqrt | sin | cos | log | exp => .exactly 2
  | pow => .exactly 3
  | min | max => .atLeast 1

namespace Builtin

/-- How many arguments a built-in procedure takes. -/
def argumentCount : Builtin → ArgumentCount
  | operator op => op.argumentCount
  | procedure proc => proc.argumentCount
  | math f => f.argumentCount
  | consoleLog => .atLeast 1
  | parseFloat => .exactly 1
  | parseInt => .between 1 2

/-- What messages call a built-in procedure; `p` is short for `pprint`. -/
def callee : Builtin → String
  | procedure .p => Procedure.text .pprint
  | procedure .notEqual => Procedure.text .equal
  | b => b.name

/-- The complaint about a call with a number of arguments that is not accepted. -/
def complain (b : Builtin) (args : List Value) : Cause :=
  b.argumentCount.complain b.callee args

end Builtin

end Lisp
