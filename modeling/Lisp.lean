import Lisp.Arity
import Lisp.Builtin
import Lisp.Cli
import Lisp.Collection
import Lisp.Dict
import Lisp.Engine
import Lisp.Error
import Lisp.ErrorClass
import Lisp.Eval.Access
import Lisp.Eval.Call
import Lisp.Eval.Control
import Lisp.Eval.Definition
import Lisp.Eval.Expansion
import Lisp.Eval.Lambda
import Lisp.Eval.Module
import Lisp.Eval.Session
import Lisp.Eval.Step
import Lisp.Eval.Toplevel
import Lisp.Eval.Type
import Lisp.Eval.Variable
import Lisp.Files
import Lisp.Forest
import Lisp.Heap
import Lisp.Interpreter
import Lisp.Json.Basic
import Lisp.Json.Form
import Lisp.Json.Numeral
import Lisp.Json.Parser
import Lisp.Library.Host
import Lisp.Library.Operator
import Lisp.Library.Procedure
import Lisp.Library.StringMethod
import Lisp.Machine
import Lisp.Main
import Lisp.ModuleTree
import Lisp.Name
import Lisp.Number.Arith
import Lisp.Number.Basic
import Lisp.Number.Decimal
import Lisp.Number.Parser
import Lisp.Number.Printer
import Lisp.Operand
import Lisp.Options
import Lisp.Path
import Lisp.Proofs.Collection.Congruence
import Lisp.Proofs.Collection.Construction
import Lisp.Proofs.Collection.FiniteMap
import Lisp.Proofs.Collection.Independence
import Lisp.Proofs.Collection.Sequence
import Lisp.Proofs.Eval.Arities
import Lisp.Proofs.Eval.Assignment
import Lisp.Proofs.Eval.Comparison
import Lisp.Proofs.Eval.Confinement
import Lisp.Proofs.Eval.Definition
import Lisp.Proofs.Eval.Dispatch
import Lisp.Proofs.Eval.Expansion
import Lisp.Proofs.Eval.Handling
import Lisp.Proofs.Eval.Installation
import Lisp.Proofs.Eval.Literal
import Lisp.Proofs.Eval.Lookup
import Lisp.Proofs.Eval.Loop
import Lisp.Proofs.Eval.Rules
import Lisp.Proofs.Eval.Sparing
import Lisp.Proofs.Eval.Standard
import Lisp.Proofs.Eval.StandardForms
import Lisp.Proofs.Eval.TailCall
import Lisp.Proofs.Eval.Toplevel
import Lisp.Proofs.Eval.Undivided
import Lisp.Proofs.Eval.Watch
import Lisp.Proofs.Forest
import Lisp.Proofs.Interpreter.Consistency
import Lisp.Proofs.Interpreter.Files
import Lisp.Proofs.Interpreter.Fold
import Lisp.Proofs.Interpreter.FormStart
import Lisp.Proofs.Interpreter.FreshSymbol
import Lisp.Proofs.Interpreter.Growth
import Lisp.Proofs.Interpreter.Isolation
import Lisp.Proofs.Interpreter.Membership
import Lisp.Proofs.Interpreter.Methods
import Lisp.Proofs.Interpreter.Session
import Lisp.Proofs.Interpreter.Standard
import Lisp.Proofs.Json.Encoding
import Lisp.Proofs.Library.Standard
import Lisp.Proofs.Machine.Change
import Lisp.Proofs.Machine.Confinement
import Lisp.Proofs.Machine.Growth
import Lisp.Proofs.Machine.Installation
import Lisp.Proofs.Machine.Registry
import Lisp.Proofs.Machine.Sparing
import Lisp.Proofs.Machine.Standard
import Lisp.Proofs.Machine.Watch
import Lisp.Proofs.ModuleTree
import Lisp.Proofs.ModuleTree.Order
import Lisp.Proofs.Number.Nearest
import Lisp.Proofs.Number.RoundTrip
import Lisp.Proofs.Number.Rounding
import Lisp.Proofs.Number.Shortest
import Lisp.Proofs.Path
import Lisp.Proofs.Path.ModuleFile
import Lisp.Proofs.Reader.Agreement
import Lisp.Proofs.Reader.Character
import Lisp.Proofs.Reader.Composition
import Lisp.Proofs.Reader.Delivery
import Lisp.Proofs.Reader.Descent
import Lisp.Proofs.Reader.Incomplete
import Lisp.Proofs.Reader.Location
import Lisp.Proofs.Reader.NumberText
import Lisp.Proofs.Reader.NumberToken
import Lisp.Proofs.Reader.Progress
import Lisp.Proofs.Reader.Readable
import Lisp.Proofs.Reader.RegexText
import Lisp.Proofs.Reader.Representation
import Lisp.Proofs.Reader.RoundTrip
import Lisp.Proofs.Reader.Run
import Lisp.Proofs.Reader.Spelling
import Lisp.Proofs.Scope.Lexical
import Lisp.Proofs.Shorthand
import Lisp.Proofs.Text.Position
import Lisp.Proofs.Value.Coarsening
import Lisp.Proofs.Value.Conversion
import Lisp.Proofs.Value.Equals
import Lisp.Proofs.Value.Finding
import Lisp.Proofs.Value.Keyed
import Lisp.Proofs.Value.Layout
import Lisp.Proofs.Value.Lookup
import Lisp.Proofs.Value.Marking
import Lisp.Proofs.Value.Order
import Lisp.Proofs.Value.Parts
import Lisp.Proofs.Value.Rebuilding
import Lisp.Proofs.Value.Same
import Lisp.Proofs.Value.Standard
import Lisp.Reader.Basic
import Lisp.Reader.Fault
import Lisp.Regex.CharSet
import Lisp.Regex.Flags
import Lisp.Regex.Matcher
import Lisp.Regex.Parser
import Lisp.Regex.Parser.Basic
import Lisp.Regex.Parser.Bracket
import Lisp.Regex.Parser.Escape
import Lisp.Regex.Parser.Group
import Lisp.Regex.Pattern
import Lisp.Regex.Program
import Lisp.Regex.Property
import Lisp.Regex.Property.Binary
import Lisp.Regex.Property.Boundary
import Lisp.Regex.Size
import Lisp.Repl
import Lisp.Scope
import Lisp.Shorthand
import Lisp.Signature
import Lisp.SpecialForm
import Lisp.Start
import Lisp.Text.Age.Table
import Lisp.Text.Blank
import Lisp.Text.Case
import Lisp.Text.Case.Table
import Lisp.Text.Category
import Lisp.Text.Category.Table
import Lisp.Text.Display
import Lisp.Text.Grapheme
import Lisp.Text.Grapheme.Table
import Lisp.Text.Letter
import Lisp.Text.Position
import Lisp.Text.Property.Table
import Lisp.Text.Quoted
import Lisp.Text.Ranges
import Lisp.Text.Script.Shared
import Lisp.Text.Script.Table
import Lisp.Text.Search
import Lisp.Text.Shebang
import Lisp.Text.Word
import Lisp.Value.Basic
import Lisp.Value.Equality
import Lisp.Value.Keyed
import Lisp.Value.Mark
import Lisp.Value.Printer
import Lisp.Value.Tables
