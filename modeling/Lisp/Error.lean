import Lisp.Arity
import Lisp.Builtin
import Lisp.Reader.Fault
import Lisp.SpecialForm
import Lisp.Text.Display
import Lisp.Value.Basic

/-!
# Errors

An error has a cause and the trace of the scopes it surfaced in. Causes name what went wrong; the
values they mention are kept as the text they had at that moment, except for a thrown value, which
is kept itself. The wording of every cause is given here and nowhere else.

## Main definitions

* `InvalidForm`, `Mismatch`, `ModuleProblem`, `FileProblem` — the causes in each category
* `Cause` — why an evaluation failed
* `Error` — a cause with its trace
* `Cause.message`, `Error.report` — the wording
-/

namespace Lisp

/-- Forms that break a rule of the syntax. -/
inductive InvalidForm where
  /-- Something other than a symbol where `context` needs one. -/
  | symbolExpected (context form : String)
  /-- A clause of `try` outside of it. -/
  | outsideTry (clause : SpecialForm) (form : String)
  | catchWithoutBinding (form : String)
  | catchBinding (spec : String)
  | repeatedFinally
  | bareTry
  | oddCond
  | defineTarget (form : String)
  | defineShape
  | macroWithoutBody (name : String)
  | methodName (form : String)
  | parameterVector (form : String)
  | restWithoutName (params : String)
  | restNotLast (params : String)
  | lambdaClause (form : String)
  | lambdaParameters (form : String)
  | lambdaWithoutParameters
  | repeatedArity (arity : Arity) (form : String)
  | loopBindings (form : String)
  | methodShape (form : String)
  | fieldVector (form : String)
  | requireTarget (form : String)
  | oddHashMap
  | oddAssoc
deriving DecidableEq

/-- The wording of a broken rule. -/
def InvalidForm.message : InvalidForm → String
  | symbolExpected context form => context ++ ": expected a symbol, got " ++ form
  | outsideTry clause form => clause.text ++ " is only valid inside try: " ++ form
  | catchWithoutBinding form => "catch needs a binding vector: " ++ form
  | catchBinding spec => "catch binding should be a vector of a symbol and a class: " ++ spec
  | repeatedFinally => "a try block can have only one finally"
  | bareTry => "A try block should have a catch block or a finally block"
  | oddCond => "cond requires an even number of elements"
  | defineTarget form =>
    "define: first element should be a symbol, keyword, or map, got " ++ form
  | defineShape => "define: expected a name and at most one value"
  | macroWithoutBody name => "define-macro: " ++ name ++ " needs an argument list and a body"
  | methodName form => "method name should be a symbol: " ++ form
  | parameterVector form => "lambda parameters should be a vector, got " ++ form
  | restWithoutName params => "& should be followed by a parameter name in " ++ params
  | restNotLast params => "the rest parameter should be last in " ++ params
  | lambdaClause form => "lambda clause should be a list of parameters and body, got " ++ form
  | lambdaParameters form => "lambda expects a parameter vector or clauses, got " ++ form
  | lambdaWithoutParameters => "lambda expects a parameter vector"
  | repeatedArity arity form =>
    "lambda has more than one clause taking " ++ arity.text ++ " arguments: " ++ form
  | loopBindings form => "loop bindings should be a vector of name/value pairs, got " ++ form
  | methodShape form => "method should look like (name [self args...] body...), got " ++ form
  | fieldVector form => "field list should be a vector of symbols, got " ++ form
  | requireTarget form => "module name should be a symbol or string, got " ++ form
  | oddHashMap => "hash-map requires an even number of arguments"
  | oddAssoc => "assoc expects key/value pairs"

/-- Operands of the wrong kind. -/
inductive Mismatch where
  | numberExpected (value : String)
  | indexExpected (value : String)
  | stringExpected (value : String)
  | nameExpected (value : String)
  | regexExpected (value : String)
  | qualifiableExpected (value : String)
  /-- A text that is no pattern, with the report on it. -/
  | invalidRegex (pattern report : String)
  | shiftAmount (op : Operator) (amount : Int)
  | notSequence (value : String)
  | notCountable (kind : String)
  | vectorKey
  | outOfBounds (index length : Nat)
  | notAssociative (value : String)
  | notDissociative (value : String)
  | notMergeable (value : String)
  | notPair
  | notConjoinable (value : String)
  /-- A property or method of `nil`. -/
  | nilReceiver (form : String)
  | fixedProperty (property value : String)
  /-- A receiver, by its class or kind, without a method of that name. -/
  | noMethod (receiver method : String)
  | notConstructor (value : String)
  | notProtocol (spec value : String)
  | notMixable (protocol value : String)
  | notClass (value : String)
  /-- A mismatch that a caller's own procedure reports in its own words. -/
  | reported (words : String)
deriving DecidableEq

/-- The wording of a mismatch. -/
def Mismatch.message : Mismatch → String
  | numberExpected value => "Expected number, got " ++ value
  | indexExpected value => "Expected non-negative integer, got " ++ value
  | stringExpected value => "Expected string, got " ++ value
  | nameExpected value => "Expected string, symbol or keyword, got " ++ value
  | regexExpected value => "Expected regex, got " ++ value
  | qualifiableExpected value => "namespace expects a symbol or keyword, got " ++ value
  | invalidRegex pattern report => "invalid regex " ++ Text.display pattern ++ ": " ++ report
  | shiftAmount op amount => op.name ++ ": invalid shift amount " ++ toString amount
  | notSequence value => "Don't know how to create a sequence from " ++ value
  | notCountable kind => "count not supported on " ++ kind
  | vectorKey => "Vector assoc requires integer key"
  | outOfBounds index length =>
    "Index " ++ toString index ++ " out of bounds for vector of length " ++ toString length
  | notAssociative value => "Cannot assoc on " ++ value
  | notDissociative value => "Cannot dissoc on " ++ value
  | notMergeable value => "Cannot merge " ++ value
  | notPair => "Map conj requires a [key value] pair"
  | notConjoinable value => "Cannot conj onto " ++ value
  | nilReceiver form => "nil is not an object from: " ++ form
  | fixedProperty property value => "cannot set property " ++ property ++ " of " ++ value
  | noMethod receiver method => receiver ++ " has no method " ++ method
  | notConstructor value => "class given is not a valid constructor: " ++ value
  | notProtocol spec value => spec ++ " is not a protocol: " ++ value
  | notMixable protocol value => "cannot mix " ++ protocol ++ " into " ++ value
  | notClass value => value ++ " is not a type or protocol"
  | reported words => words

/-- References to modules that are not there. -/
inductive ModuleProblem where
  /-- A module that is to be entered or read. -/
  | missing (name : String)
  /-- A module that is to receive a definition. -/
  | missingTarget (name : String)
deriving DecidableEq

/-- The wording of a reference to a missing module. -/
def ModuleProblem.message : ModuleProblem → String
  | missing name => "module " ++ name ++ " does not exist"
  | missingTarget name => "module " ++ name ++ " is undefined"

/-- Why a file cannot be read. -/
inductive FileProblem where
  | notFound
  | isDirectory
  | notDirectory
  /-- The path, or one of its segments, has more bytes than any file's has. -/
  | nameTooLong
  /-- The contents are no text. -/
  | notText
  /-- A path that no file can have. -/
  | badPath
  /-- Another reason, in the words of the system. -/
  | other (words : String)
deriving DecidableEq, Inhabited, Repr

/-- The wording of a reason. -/
def FileProblem.message : FileProblem → String
  | notFound => "No such file or directory (os error 2)"
  | isDirectory => "Is a directory (os error 21)"
  | notDirectory => "Not a directory (os error 20)"
  | nameTooLong => "File name too long (os error 36)"
  | notText => "stream did not contain valid UTF-8"
  | badPath => "file name contained an unexpected NUL byte"
  | other words => words

/-- Failed attempts to read a file. -/
inductive FileFailure where
  /-- A source that was to be evaluated. -/
  | source (path : String) (problem : FileProblem)
  /-- A file whose forms were to be read. -/
  | forms (path : String) (problem : FileProblem)
deriving DecidableEq

/-- The wording of a failed attempt. -/
def FileFailure.message : FileFailure → String
  | source path problem => "Reading file: \"" ++ path ++ "\": " ++ problem.message
  | forms path problem => "Cannot read " ++ path ++ ": " ++ problem.message

/-- Why an evaluation failed. -/
inductive Cause where
  /-- A text that cannot be read; `source` is the name of the text. -/
  | unreadable (source : String) (fault : Reader.Fault)
  /-- A name without a binding. -/
  | unbound (name : String)
  /-- A call with a number of arguments that does not fit. -/
  | arity (callee expected : String) (actual : Nat)
  /-- A value in operator position that cannot be called. -/
  | notInvocable (form : String)
  | invalid (form : InvalidForm)
  | module (problem : ModuleProblem)
  | mismatch (mismatch : Mismatch)
  | file (failure : FileFailure)
  /-- A value raised by the program. -/
  | thrown (value : Value)
  /-- A request to start again with nothing around it to start again. -/
  | strayAgain

/-- The wording of a cause, given the wording of a thrown value. -/
def Cause.message (thrownText : Value → String) : Cause → String
  | unreadable source fault => fault.defect.message ++ " at " ++ fault.position.describe source
  | unbound name => "Undefined variable: '" ++ name ++ "'"
  | arity callee expected actual =>
    "\"" ++ callee ++ "\" wrong number of arguments, expected " ++ expected ++ ", got " ++
      toString actual
  | notInvocable form => "'" ++ form ++ "' is not invocable"
  | invalid form => "invalid expression: " ++ form.message
  | module problem => "module error: " ++ problem.message
  | mismatch m => "type error: " ++ m.message
  | file failure => failure.message
  | thrown value => thrownText value
  | strayAgain => "'again' used outside of a loop or lambda body"

/-- A scope in a trace. -/
structure TraceFrame where
  /-- What the scope is called. -/
  ident : String
  /-- The source that the scope belongs to. -/
  source : Option String
  /-- Where in the source evaluation stood. -/
  position : Text.Position
deriving DecidableEq, Inhabited

/-- The text of a scope in a trace. -/
def TraceFrame.text (f : TraceFrame) : String :=
  f.ident ++ "@" ++ f.position.describe (f.source.getD "unknown")

/-- An error: a cause, and the scopes it surfaced in, innermost first. -/
structure Error where
  cause : Cause
  trace : List TraceFrame := []

namespace Error

/-- Attaches a trace unless there is one already. -/
def withTrace (e : Error) (trace : List TraceFrame) : Error :=
  if e.trace.isEmpty then { e with trace } else e

/-- The trace as error objects carry it: one line for each scope. -/
def traceText (trace : List TraceFrame) : String :=
  "\n".intercalate (trace.map fun f => "    at " ++ f.text)

/-- The message, followed by a line for each scope of the trace. -/
def report (thrownText : Value → String) (e : Error) : String :=
  e.trace.foldl (fun out f => out ++ "\n    at " ++ f.text) (e.cause.message thrownText)

end Error

end Lisp
