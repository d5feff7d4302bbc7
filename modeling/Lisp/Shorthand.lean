import Lisp.Value.Basic

/-!
# Shorthands for working with objects

An operator that starts with a dot reads a property or calls a method of its first operand, one that
ends with a dot makes an instance. Each stands for a longer special form.

## Main definitions

* `Shorthand.expand?` — the special form that a list stands for
-/

namespace Lisp.Shorthand

/-- The form that a list with a symbol at its head stands for, if the symbol is a shorthand:
`(.-x o)` is `(.- o x)`, `(.m o a)` is `(. o (m a))` and `(Point. 1 2)` is `(new Point 1 2)`. -/
def expand? (op : Name) (operands : List Value) : Option Value :=
  match op.space, op.base.toList with
  | none, '.' :: method@(_ :: _) =>
    match operands with
    | [] => none
    | receiver :: args =>
      match method with
      | '-' :: property =>
        if property.isEmpty || property = "set!".toList then none
        else some (.list [.sym ".-", receiver, .sym (String.ofList property)])
      | method =>
        some (.list [.sym ".", receiver, .list (.sym (String.ofList method) :: args)])
  | space, text =>
    if text.length > 1 && text.getLast? == some '.' && text.head? != some '.' then
      some (.list (.sym "new" :: .symbol ⟨space, String.ofList text.dropLast⟩ :: operands))
    else none

end Lisp.Shorthand
