import Lisp.Path

/-!
# The tree of modules

Modules are filed under the dotted segments of their names, in the order of the segments.

## Main definitions

* `ModuleTree` — values filed under paths of segments
* `ModuleTree.insert`, `ModuleTree.find?`, `ModuleTree.toList`
-/

namespace Lisp

/-- Values filed under paths of segments: the value at the empty path, and a tree for each first
segment, in order. -/
inductive ModuleTree (α : Type) where
  | node (value : Option α) (children : List (String × ModuleTree α))

namespace ModuleTree

variable {α : Type}

/-- The tree without values. -/
def empty : ModuleTree α := node none []

instance : Inhabited (ModuleTree α) := ⟨empty⟩

/-- The value at the empty path. -/
def value? : ModuleTree α → Option α
  | node v _ => v

/-- The trees below, by first segment. -/
def children : ModuleTree α → List (String × ModuleTree α)
  | node _ cs => cs

/-- The tree below a segment. -/
def child? (t : ModuleTree α) (segment : String) : Option (ModuleTree α) :=
  t.children.lookup segment

/-- Puts a tree under a segment, keeping the segments in order. -/
def putChild (segment : String) (t : ModuleTree α) :
    List (String × ModuleTree α) → List (String × ModuleTree α)
  | [] => [(segment, t)]
  | c :: rest =>
    if segment = c.1 then (segment, t) :: rest
    else if segment < c.1 then (segment, t) :: c :: rest
    else c :: putChild segment t rest

/-- Files a value under a path, in place of one that is there. -/
def insertPath (a : α) : List String → ModuleTree α → ModuleTree α
  | [], t => node (some a) t.children
  | segment :: rest, t =>
    node t.value? (putChild segment (insertPath a rest ((t.child? segment).getD empty)) t.children)

/-- The value filed under a path. -/
def findPath? : List String → ModuleTree α → Option α
  | [], t => t.value?
  | segment :: rest, t => (t.child? segment).bind (findPath? rest)

mutual

/-- All values, each before those below it, in the order of segments. -/
def toList : ModuleTree α → List α
  | node v cs => v.toList ++ toListChildren cs
termination_by structural t => t

/-- All values of some trees. -/
def toListChildren : List (String × ModuleTree α) → List α
  | [] => []
  | c :: rest => toListChild c ++ toListChildren rest
termination_by structural cs => cs

/-- All values of the tree below a segment. -/
def toListChild : String × ModuleTree α → List α
  | (_, t) => toList t
termination_by structural c => c

end

/-- Files a value under a dotted name. -/
def insert (t : ModuleTree α) (name : String) (a : α) : ModuleTree α :=
  insertPath a (Path.splitDots name) t

/-- The value filed under a dotted name. -/
def find? (t : ModuleTree α) (name : String) : Option α :=
  findPath? (Path.splitDots name) t

end ModuleTree

end Lisp
