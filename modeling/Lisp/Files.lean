import Lisp.Error
import Lisp.Path
import Lisp.Reader.Basic
import Lisp.Text.Shebang

/-!
# Files

Programs see files only by reading them. `Files` answers what is read at a path, as far as anyone
has looked there; a `Directory` is a finite tree of files that answers everything by walking
segments.

## Main definitions

* `Contents` — the text of a file, or why there is none
* `Files` — what is known about the contents at each path
* `Directory` — files below the working directory
* `Directory.read` — looks a path up, segment by segment
* `Contents.forms` — the forms of a file
-/

namespace Lisp

variable [Tables]

/-- What reading a file gives. -/
abbrev Contents := Except FileProblem String

/-- What is read at a path, or nothing as long as nobody has looked there. -/
abbrev Files := String → Option Contents

/-- Files below the working directory, by the segments of their paths. -/
structure Directory where
  files : List (List String × String)

namespace Directory

/-- Splits a path at its slashes. -/
def splitSlashes (path : String) : List String :=
  go path.toList []
where
  /-- The pieces of the rest, after a piece so far in reverse. -/
  go : List Char → List Char → List String
    | [], acc => [String.ofList acc.reverse]
    | c :: rest, acc =>
      if c = '/' then String.ofList acc.reverse :: go rest [] else go rest (c :: acc)

/-- The directory with the given files, by their relative paths. -/
def ofList (files : List (String × String)) : Directory :=
  ⟨files.map fun (path, text) =>
    ((splitSlashes path).filter fun s => !s.isEmpty && s != ".", text)⟩

/-- The file at exactly these segments. -/
def file? (d : Directory) (segments : List String) : Option String :=
  d.files.lookup segments

/-- Whether some file lies below these segments. -/
def hasDirectory (d : Directory) (segments : List String) : Bool :=
  segments.isEmpty || d.files.any fun (p, _) => segments.isPrefixOf p && segments.length < p.length

/-- Whether a segment stays where it is. -/
def isIdle (segment : String) : Bool := segment.isEmpty || segment = "."

/-- The most bytes that a segment may have. -/
def segmentLimit : Nat := 255

/-- The most bytes that a path may have. -/
def pathLimit : Nat := 4095

/-- Whether no file can be found by a segment, since it has too many bytes. -/
def isOverlong (segment : String) : Bool := segmentLimit < segment.utf8ByteSize

/-- What is read along segments outside of the working directory, where only the way up is known. -/
def outside (segments : List String) : Contents :=
  match segments.find? fun s => !isIdle s && s != ".." with
  | none => .error .isDirectory
  | some s => if isOverlong s then .error .nameTooLong else .error .notFound

/-- Walks from a directory, whose segments are given in reverse, along more segments. An empty
segment or a dot stays where it is, two dots go up. -/
def walk (d : Directory) : List String → List String → Contents
  | _, [] => .error .isDirectory
  | here, s :: rest =>
    if isIdle s then walk d here rest
    else if s = ".." then
      match here with
      | [] => outside rest
      | _ :: up => walk d up rest
    else if isOverlong s then .error .nameTooLong
    else
      let segments := (s :: here).reverse
      match d.file? segments with
      | some text => if rest.isEmpty then .ok text else .error .notDirectory
      | none => if d.hasDirectory segments then walk d (s :: here) rest else .error .notFound

/-- What is read at a path. -/
def read (d : Directory) (path : String) : Contents :=
  if path.isEmpty then .error .notFound
  else if path.toList.contains '\x00' then .error .badPath
  else if pathLimit < path.utf8ByteSize then .error .nameTooLong
  else if Path.isAbsolute path then outside (splitSlashes path)
  else d.walk [] (splitSlashes path)

/-- A directory answers at every path. -/
def toFiles (d : Directory) : Files := fun path => some (d.read path)

end Directory

/-- The forms of a file, with the file's path as the name of their source. -/
def Contents.forms (rep : Representation) (path : String) : Contents → Except Cause (List Value)
  | .error problem => .error (.file (.forms path problem))
  | .ok text =>
    match Reader.read rep (Text.dropShebang text) with
    | .ok forms => .ok forms
    | .error fault => .error (.unreadable path fault)

end Lisp
