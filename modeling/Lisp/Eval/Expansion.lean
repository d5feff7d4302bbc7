import Lisp.Engine
import Lisp.Eval.Variable
import Lisp.SpecialForm

/-!
# Expansion

A list whose head refers to a lambda marked as an expander stands for what the lambda makes of the
operands. Expansion goes on until the head refers to none. Special forms never expand.

## Main definitions

* `Machine.expander?` — the expander that a form's head refers to
* `Engine.expand` — expands a form as far as possible
-/

namespace Lisp

/-- The expander that the head of a form refers to, with the operands. A namespace that does not
exist is left for evaluation to report. -/
def Machine.expander? (m : Machine) (scope : ScopeRef) : Value → Option (Value × List Value)
  | .list (.symbol name :: operands) =>
    if (SpecialForm.ofName? name).isSome then none
    else
      match m.resolve? scope name with
      | .ok (some { value := f@(.entity (.lambda _)), metadata := some metadata }) =>
        if metadata.flag "macro" then some (f, operands) else none
      | _ => none
  | _ => none

namespace Engine

variable (E : Engine)

/-- Expands a form as far as possible. The first argument bounds how often. -/
def expandFrom (scope : ScopeRef) : Nat → Value → Eval Value
  | 0, _ => throw .exhausted
  | rounds + 1, form => do
    match (← get).expander? scope form with
    | some (f, operands) => expandFrom scope rounds (← E.call f operands f)
    | none => return form

/-- Expands a form as far as possible. -/
def expand (scope : ScopeRef) (form : Value) : Eval Value :=
  E.expandFrom scope E.rounds form

end Engine

end Lisp
