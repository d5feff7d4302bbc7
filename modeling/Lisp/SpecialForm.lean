import Lisp.Name

/-!
# Special forms

A list whose head is one of these unqualified symbols is syntax: it is neither expanded as a macro
nor applied.

## Main definitions

* `SpecialForm` — the special forms
* `SpecialForm.ofName?` — the special form that a symbol names
-/

namespace Lisp

/-- The special forms. -/
inductive SpecialForm where
  | quote | define | cond | lambda | do_ | try_ | catch_ | finally_ | loop | again | assign
  | defineProtocol | defineType | defineMacro | throw_
  | propertyGet | propertySet | methodCall | new | module_ | require | use
deriving DecidableEq, Inhabited, Repr

namespace SpecialForm

/-- The symbol of a special form. -/
def text : SpecialForm → String
  | quote => "quote"
  | define => "define"
  | cond => "cond"
  | lambda => "lambda"
  | do_ => "do"
  | try_ => "try"
  | catch_ => "catch"
  | finally_ => "finally"
  | loop => "loop"
  | again => "again"
  | assign => "set!"
  | defineProtocol => "define-protocol"
  | defineType => "define-type"
  | defineMacro => "define-macro"
  | throw_ => "throw"
  | propertyGet => ".-"
  | propertySet => ".-set!"
  | methodCall => "."
  | new => "new"
  | module_ => "module"
  | require => "require"
  | use => "use"

/-- Every special form. -/
def all : List SpecialForm :=
  [quote, define, cond, lambda, do_, try_, catch_, finally_, loop, again, assign, defineProtocol,
    defineType, defineMacro, throw_, propertyGet, propertySet, methodCall, new, module_, require,
    use]

/-- The special form that a symbol names; a qualified one names none. -/
def ofName? (name : Name) : Option SpecialForm :=
  if name.isQualified then none else all.find? (·.text == name.base)

end SpecialForm

end Lisp
