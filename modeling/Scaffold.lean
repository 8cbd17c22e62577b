import Scaffold.Analysis
import Scaffold.Archive.Bundle
import Scaffold.Archive.Deflate
import Scaffold.Archive.Zip
import Scaffold.Command.Basic
import Scaffold.Command.Level
import Scaffold.Command.Parser
import Scaffold.Command.Run
import Scaffold.Command.Usage
import Scaffold.Config
import Scaffold.Config.Decode
import Scaffold.Config.Load
import Scaffold.Decimal
import Scaffold.Docstring
import Scaffold.Generation
import Scaffold.Grammar.Automaton
import Scaffold.Grammar.Basic
import Scaffold.Grammar.Rule
import Scaffold.JavaScript.Block
import Scaffold.JavaScript.Outline
import Scaffold.JavaScript.Pattern
import Scaffold.Json.Basic
import Scaffold.Language
import Scaffold.Log
import Scaffold.Main
import Scaffold.Naming
import Scaffold.Outline
import Scaffold.Parse.Parser
import Scaffold.Parse.Repair
import Scaffold.Parse.Session
import Scaffold.Parse.Stack
import Scaffold.Parse.Subtree
import Scaffold.Path
import Scaffold.Placeholder
import Scaffold.Proofs.Archive.Bundling
import Scaffold.Proofs.Archive.RoundTrip
import Scaffold.Proofs.Command.Generating
import Scaffold.Proofs.Command.Lines
import Scaffold.Proofs.Command.Packaging
import Scaffold.Proofs.Command.Phrases
import Scaffold.Proofs.Config.Loading
import Scaffold.Proofs.Config.Written
import Scaffold.Proofs.Docstring.Cleandoc
import Scaffold.Proofs.Docstring.Nesting
import Scaffold.Proofs.Docstring.Normalization
import Scaffold.Proofs.Generation.Attempts
import Scaffold.Proofs.Generation.Frame
import Scaffold.Proofs.Generation.Repetition
import Scaffold.Proofs.JavaScript.Appending
import Scaffold.Proofs.JavaScript.BlockEnd
import Scaffold.Proofs.JavaScript.Braces
import Scaffold.Proofs.JavaScript.Classes
import Scaffold.Proofs.JavaScript.ClosedClasses
import Scaffold.Proofs.JavaScript.Functions
import Scaffold.Proofs.JavaScript.MethodNames
import Scaffold.Proofs.JavaScript.Nesting
import Scaffold.Proofs.JavaScript.Offsets
import Scaffold.Proofs.JavaScript.Reading
import Scaffold.Proofs.JavaScript.Search
import Scaffold.Proofs.JavaScript.Sites
import Scaffold.Proofs.Json.Reader
import Scaffold.Proofs.Json.RoundTrip
import Scaffold.Proofs.Path.FileNames
import Scaffold.Proofs.Path.Steps
import Scaffold.Proofs.Python.Accounting
import Scaffold.Proofs.Python.Ast
import Scaffold.Proofs.Python.AstReading
import Scaffold.Proofs.Python.Docstrings
import Scaffold.Proofs.Python.Escapes
import Scaffold.Proofs.Python.Flaws
import Scaffold.Proofs.Python.Literals
import Scaffold.Proofs.Python.Members
import Scaffold.Proofs.Python.ModuleTree
import Scaffold.Proofs.Python.Parameters
import Scaffold.Proofs.Python.Positions
import Scaffold.Proofs.Python.Spellings
import Scaffold.Proofs.Python.VisitingOrder
import Scaffold.Proofs.Report.Document
import Scaffold.Proofs.Report.Fences
import Scaffold.Proofs.Report.Structure
import Scaffold.Proofs.Storage.Changes
import Scaffold.Proofs.Storage.Growth
import Scaffold.Proofs.Storage.Order
import Scaffold.Proofs.Storage.Repetition
import Scaffold.Proofs.Storage.Runs
import Scaffold.Proofs.Storage.Tree
import Scaffold.Proofs.Storage.Variation
import Scaffold.Proofs.Storage.Ways
import Scaffold.Proofs.Stub.Arguments
import Scaffold.Proofs.Stub.Blocks
import Scaffold.Proofs.Stub.Brackets
import Scaffold.Proofs.Stub.ClassNames
import Scaffold.Proofs.Stub.Imports
import Scaffold.Proofs.Stub.Lines
import Scaffold.Proofs.Stub.LiveLines
import Scaffold.Proofs.Stub.Suites
import Scaffold.Proofs.Stub.TestNames
import Scaffold.Proofs.Text.Beginnings
import Scaffold.Proofs.Text.Joining
import Scaffold.Proofs.Yaml.Entries
import Scaffold.Proofs.Yaml.Fetching
import Scaffold.Proofs.Yaml.Mappings
import Scaffold.Proofs.Yaml.Scalars
import Scaffold.Python.Definition
import Scaffold.Python.Grammar
import Scaffold.Python.Kind
import Scaffold.Python.Layout
import Scaffold.Python.Lexis
import Scaffold.Python.Literal
import Scaffold.Python.Outline
import Scaffold.Python.Parser
import Scaffold.Report.Json
import Scaffold.Report.Markdown
import Scaffold.Storage.Basic
import Scaffold.Storage.Disk
import Scaffold.Stub.Convention
import Scaffold.Stub.Jest
import Scaffold.Stub.Unittest
import Scaffold.Syntax.Source
import Scaffold.Syntax.Tree
import Scaffold.Text.Case
import Scaffold.Text.Character
import Scaffold.Text.Identifier
import Scaffold.Text.Printable
import Scaffold.Text.Split
import Scaffold.Text.Word
import Scaffold.Yaml.Block
import Scaffold.Yaml.Cursor
import Scaffold.Yaml.Event
import Scaffold.Yaml.Flaw
import Scaffold.Yaml.Plain
import Scaffold.Yaml.Quoted
import Scaffold.Yaml.Scalar
import Scaffold.Yaml.Scanner
import Scaffold.Yaml.Tag
import Scaffold.Yaml.Token
