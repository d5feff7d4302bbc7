/-!
# Names

Symbols and keywords share one kind of name: a text that may be qualified by a namespace.

## Main definitions

* `Name` — a possibly qualified name
* `Name.parse` — splits `ns/name` at the first slash
* `Name.text` — the printed name
-/

namespace Lisp

/-- A name, qualified by a namespace or not. Two names are equal when their texts are. -/
structure Name where
  /-- The namespace of a qualified name. -/
  space : Option String
  /-- The name proper. -/
  base : String
deriving DecidableEq, Inhabited, Repr

namespace Name

/-- The name without a namespace. -/
def simple (text : String) : Name := ⟨none, text⟩

/-- The name with a namespace. -/
def qualified (ns text : String) : Name := ⟨some ns, text⟩

/-- What stands before and after the first slash, if there is one. -/
def splitSlash : List Char → Option (List Char × List Char)
  | [] => none
  | c :: rest =>
    if c = '/' then some ([], rest)
    else (splitSlash rest).map fun (before, after) => (c :: before, after)

/-- Splits at the first slash. A text in which nothing stands before or nothing after it is an
unqualified name, slash included. -/
def parse (text : String) : Name :=
  match splitSlash text.toList with
  | some (ns@(_ :: _), rest@(_ :: _)) => qualified (String.ofList ns) (String.ofList rest)
  | _ => simple text

/-- Whether the name has a namespace. -/
def isQualified (n : Name) : Bool := n.space.isSome

/-- Whether the name waits for the active module as its namespace: a keyword written with two colons
keeps one of them in its name until it is evaluated. -/
def isAuto (n : Name) : Bool :=
  n.space.isNone && n.base.toList.head? == some ':'

/-- The printed name. -/
def text (n : Name) : String :=
  match n.space with
  | some ns => ns ++ "/" ++ n.base
  | none => n.base

/-- A name waiting for a namespace, placed in the given one. -/
def resolveAuto (ns : String) (n : Name) : Name :=
  if n.isAuto then qualified ns (String.ofList (n.base.toList.dropWhile (· == ':'))) else n

end Name

end Lisp
