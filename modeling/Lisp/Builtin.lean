/-!
# Built-in procedures

The procedures that every session starts with, by name. What they compute is defined where they are
called; here each is only a name with an identity.

## Main definitions

* `Operator` — operators applied without looking their symbol up
* `Procedure` — procedures bound in the global scope
* `MathFunction` — methods of the host's `Math` object
* `Builtin` — all of them, with `Builtin.name`
-/

namespace Lisp

/-- Operators that an application runs directly when its head is their symbol. -/
inductive Operator where
  | add | subtract | multiply | divide | modulo
  | bitOr | bitAnd | bitXor | bitNot | shiftLeft | shiftRight
  | join | increment | decrement | negate
deriving DecidableEq, Inhabited, Repr

namespace Operator

/-- The symbol of an operator. -/
def name : Operator → String
  | add => "+"
  | subtract => "-"
  | multiply => "*"
  | divide => "/"
  | modulo => "mod"
  | bitOr => "bit-or"
  | bitAnd => "bit-and"
  | bitXor => "bit-xor"
  | bitNot => "bit-not"
  | shiftLeft => "bit-shift-left"
  | shiftRight => "bit-shift-right"
  | join => "str"
  | increment => "add1"
  | decrement => "sub1"
  | negate => "not"

/-- Every operator. -/
def all : List Operator :=
  [add, subtract, multiply, divide, modulo, bitOr, bitAnd, bitXor, bitNot, shiftLeft, shiftRight,
    join, increment, decrement, negate]

/-- The operator that a text names. -/
def ofText? (text : String) : Option Operator :=
  all.find? (·.name == text)

end Operator

/-- Procedures of the standard library. -/
inductive Procedure where
  | list | vector | hashMap | hashSet
  | cons | first | rest | second | count | nth | get | assoc | dissoc | merge | conj | concat
  | map | filter | reduce | apply
  | equal | notEqual | less | greater | atMost | atLeast
  | isList | isVector | isMap | isSet | isSymbol | isKeyword | isString | isNumber | isNil | isFn
  | isEmpty
  | symbol | keyword | name | space | gensym
  | eval | macroexpand | arity | inspect | readString | readFile | readJson
  | rePattern | reFind | reMatches
  | println | pprint | p
deriving DecidableEq, Inhabited, Repr

namespace Procedure

/-- The name a procedure is bound to. -/
def text : Procedure → String
  | list => "list"
  | vector => "vector"
  | hashMap => "hash-map"
  | hashSet => "hash-set"
  | cons => "cons"
  | first => "first"
  | rest => "rest"
  | second => "second"
  | count => "count"
  | nth => "nth"
  | get => "get"
  | assoc => "assoc"
  | dissoc => "dissoc"
  | merge => "merge"
  | conj => "conj"
  | concat => "concat"
  | map => "map"
  | filter => "filter"
  | reduce => "reduce"
  | apply => "apply"
  | equal => "="
  | notEqual => "not="
  | less => "<"
  | greater => ">"
  | atMost => "<="
  | atLeast => ">="
  | isList => "list?"
  | isVector => "vector?"
  | isMap => "map?"
  | isSet => "set?"
  | isSymbol => "symbol?"
  | isKeyword => "keyword?"
  | isString => "string?"
  | isNumber => "number?"
  | isNil => "nil?"
  | isFn => "fn?"
  | isEmpty => "empty?"
  | symbol => "symbol"
  | keyword => "keyword"
  | name => "name"
  | space => "namespace"
  | gensym => "gensym"
  | eval => "eval"
  | macroexpand => "macroexpand"
  | arity => "arity"
  | inspect => "inspect"
  | readString => "read-string"
  | readFile => "read-file"
  | readJson => "read-json"
  | rePattern => "re-pattern"
  | reFind => "re-find"
  | reMatches => "re-matches"
  | println => "println"
  | pprint => "pprint"
  | p => "p"

/-- Every procedure of the standard library. -/
def all : List Procedure :=
  [list, vector, hashMap, hashSet, cons, first, rest, second, count, nth, get, assoc, dissoc, merge,
    conj, concat, map, filter, reduce, apply, equal, notEqual, less, greater, atMost, atLeast,
    isList, isVector, isMap, isSet, isSymbol, isKeyword, isString, isNumber, isNil, isFn, isEmpty,
    symbol, keyword, name, space, gensym, eval, macroexpand, arity, inspect, readString,
    readFile, readJson, rePattern, reFind, reMatches, println, pprint, p]

end Procedure

/-- Methods of the host's `Math` object. -/
inductive MathFunction where
  | abs | floor | ceil | round | sqrt | pow | min | max | sin | cos | log | exp
deriving DecidableEq, Inhabited, Repr

namespace MathFunction

/-- The name of a method. -/
def name : MathFunction → String
  | abs => "abs"
  | floor => "floor"
  | ceil => "ceil"
  | round => "round"
  | sqrt => "sqrt"
  | pow => "pow"
  | min => "min"
  | max => "max"
  | sin => "sin"
  | cos => "cos"
  | log => "log"
  | exp => "exp"

/-- Every method. -/
def all : List MathFunction :=
  [abs, floor, ceil, round, sqrt, pow, min, max, sin, cos, log, exp]

end MathFunction

/-- A built-in procedure; each is equal to itself alone. -/
inductive Builtin where
  /-- An operator, used as a value. -/
  | operator (op : Operator)
  /-- A procedure of the standard library. -/
  | procedure (proc : Procedure)
  /-- A method of `Math`. -/
  | math (f : MathFunction)
  /-- The method `log` of the host's console. -/
  | consoleLog
  /-- The host's reader of decimal numerals. -/
  | parseFloat
  /-- The host's reader of integers. -/
  | parseInt
deriving DecidableEq, Inhabited, Repr

/-- The name that a built-in procedure prints. -/
def Builtin.name : Builtin → String
  | operator op => op.name
  | procedure proc => proc.text
  | math f => f.name
  | consoleLog => "log"
  | parseFloat => "parseFloat"
  | parseInt => "parseInt"

end Lisp
