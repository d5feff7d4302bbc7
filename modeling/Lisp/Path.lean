/-!
# Paths

File paths are texts whose segments are divided by slashes. Joining, taking the parent and replacing
the extension look at the segments: empty ones and inner dots do not count, a leading dot does.

## Main definitions

* `Path.join` — a path below a directory; an absolute path replaces the directory
* `Path.parent?` — the path without its last segment
* `Path.withExtension` — the path with the extension of its last segment replaced
* `Path.ofModule` — where the file of a dotted module name lies, below `src`
-/

namespace Lisp.Path

/-- Whether a path starts at the root. -/
def isAbsolute (p : String) : Bool := p.toList.head? == some '/'

/-- A path below a directory. An absolute path replaces the directory, and an empty path leaves a
slash behind it. -/
def join (dir p : String) : String :=
  if isAbsolute p then p
  else if dir.isEmpty || dir.toList.getLast? == some '/' then dir ++ p
  else dir ++ "/" ++ p

/-- The texts between slashes, each with the number of characters before its end. -/
def rawSegments (cs : List Char) : List (List Char × Nat) :=
  go cs [] 0
where
  /-- The segments of the rest, after a segment so far (in reverse) that ends at a place. -/
  go : List Char → List Char → Nat → List (List Char × Nat)
    | [], acc, place => [(acc.reverse, place)]
    | c :: rest, acc, place =>
      if c = '/' then (acc.reverse, place) :: go rest [] (place + 1)
      else go rest (c :: acc) (place + 1)

/-- The segments that count: not empty, and not a dot unless a relative path starts with it. -/
def segments (p : String) : List (String × Nat) :=
  match rawSegments p.toList with
  | [] => []
  | first :: rest =>
    let counts (s : List Char × Nat) : Bool := !s.1.isEmpty && s.1 != ['.']
    let rest := rest.filter counts
    let kept := if first.1.isEmpty then rest else first :: rest
    kept.map fun (s, place) => (String.ofList s, place)

/-- The first characters of a path. -/
def upTo (p : String) (place : Nat) : String :=
  String.ofList (p.toList.take place)

/-- The path without its last segment; a path without segments has no parent. -/
def parent? (p : String) : Option String :=
  match (segments p).reverse with
  | [] => none
  | [_] => some (if isAbsolute p then "/" else "")
  | _ :: (_, place) :: _ => some (upTo p place)

/-- The last segment and the place of its end, unless it only names a directory. -/
def fileName? (p : String) : Option (String × Nat) :=
  (segments p).getLast?.filter fun (s, _) => s != "." && s != ".."

/-- The length of a file name without its extension. A dot in front starts no extension. -/
def stemLength (name : List Char) : Nat :=
  let before := (name.reverse.dropWhile (· != '.')).drop 1
  if before.isEmpty then name.length else before.length

/-- The path with the extension of its last segment replaced (or added, or dropped if the new one is
empty). A path that ends in no file name stays as it is. -/
def withExtension (p extension : String) : String :=
  match fileName? p with
  | none => p
  | some (name, place) =>
    let stem := upTo p (place - name.length + stemLength name.toList)
    if extension.isEmpty then stem else stem ++ "." ++ extension

/-- Splits a text at every dot. -/
def splitDots (s : String) : List String :=
  go s.toList []
where
  /-- The pieces of the rest, after a piece so far in reverse. -/
  go : List Char → List Char → List String
    | [], acc => [String.ofList acc.reverse]
    | c :: rest, acc =>
      if c = '.' then String.ofList acc.reverse :: go rest [] else go rest (c :: acc)

/-- The file of a module: one segment below `src` for each dotted part of its name. -/
def ofModule (name extension : String) : String :=
  withExtension ((splitDots name).foldl join "src") extension

end Lisp.Path
