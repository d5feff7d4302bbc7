import Lisp.Machine
import Lisp.Options

/-!
# The start of a session

A session starts with two modules: the core module, whose scope is the global one, and the host's,
which stands apart and is reached by qualified symbols.

## Main definitions

* `Start.machine` — the machine that a session starts with
-/

namespace Lisp

namespace Start

/-- The name of the module that a session starts in. -/
def coreName : String := "wonder.core"

/-- The version of the language. -/
def version : String := "0.0.1-alpha"

/-- What is known about the surroundings of a session. -/
def surroundings : List (String × Value) :=
  [("*module-name*", .sym coreName), ("*version*", .string version),
    ("*environment*", .kw "development"), ("*platform*", .kw "linux"),
    ("*platform-version*", .string "linux x86_64"), ("*target-language*", .kw "rust"),
    ("*source*", .nil)]

/-- The error classes under their names. -/
def errorClasses : List (String × Value) :=
  ErrorClass.all.map fun c => (c.name, .entity (.type c.ref))

/-- A built-in procedure under its name. -/
def named (b : Builtin) : String × Value := (b.name, .entity (.builtin b))

/-- What the core module binds. -/
def coreBindings : List (String × Value) :=
  surroundings ++ errorClasses ++ Operator.all.map (named ∘ .operator) ++
    Procedure.all.map (named ∘ .procedure)

/-- The error classes as types: all descend from the first. -/
def errorTypes : Forest TypeInfo :=
  ErrorClass.all.foldl (fun ts c =>
    let parent := if c = .error then none else some ErrorClass.error.ref.index
    ts.push parent { name := .simple c.name, fields := ["message"] }) {}

/-- The type of objects without fields. -/
def objectType : TypeRef := ⟨errorTypes.size⟩

/-- The type of the host's mathematical functions. -/
def mathType : TypeRef := ⟨errorTypes.size + 1⟩

/-- The type of the host's console. -/
def consoleType : TypeRef := ⟨errorTypes.size + 2⟩

/-- A type of the host, with built-in procedures as methods. -/
def hostType (name : String) (methods : List Builtin) : TypeInfo :=
  { name := .simple name, fields := [], methods := .ofPairs (methods.map named) }

/-- The types that a session starts with. -/
def types : Forest TypeInfo :=
  ((errorTypes.push none (hostType "Object" [])).push none
    (hostType "Math" (MathFunction.all.map .math))).push none (hostType "Console" [.consoleLog])

/-- The objects that a session starts with: mathematics, with its constants, and the console. -/
def objects : Array Object :=
  #[⟨mathType, .ofPairs [("PI", .number .pi), ("E", .number .euler)]⟩, ⟨consoleType, {}⟩]

/-- What the host's module binds. -/
def hostBindings : List (String × Value) :=
  errorClasses ++
    [("Object", .entity (.type objectType)), ("Math", .entity (.object ⟨0⟩)),
      ("console", .entity (.object ⟨1⟩)), named .parseFloat, named .parseInt]

/-- Bindings without annotations. -/
def bindings (pairs : List (String × Value)) : Dict Binding :=
  .ofPairs (pairs.map fun (name, value) => (name, ⟨value, none⟩))

/-- The scope that top-level forms of a new session run in. -/
def sessionScope : ScopeRef := ⟨1⟩

/-- The scope of the host's module. -/
def hostScope : ScopeRef := ⟨2⟩

/-- The scopes that a session starts with: the global one, the one for its forms, the host's. -/
def scopes (o : Options) : Scopes :=
  ((({} : Scopes).push none { bindings := bindings coreBindings }).push (some globalScope.index)
    { ident := some coreName }).push none
    { bindings := bindings hostBindings, ident := some o.hostNamespace }

/-- The module that a session starts in. -/
def coreModule : ModuleRef := ⟨0⟩

/-- The host's module. -/
def hostModule : ModuleRef := ⟨1⟩

/-- The modules that a session starts with. -/
def modules (o : Options) : Array Module :=
  #[⟨.simple coreName, globalScope⟩, ⟨.simple o.hostNamespace, hostScope⟩]

/-- The machine that a session starts with. -/
def machine (o : Options) : Machine where
  heap := { scopes := scopes o, types, objects, modules := modules o }
  registry := (ModuleTree.empty.insert coreName coreModule).insert o.hostNamespace hostModule
  context := { module := coreModule }
  session := { context := { module := coreModule }, scope := sessionScope, module := coreModule }

end Start

end Lisp
