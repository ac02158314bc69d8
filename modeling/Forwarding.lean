import Forwarding.Bindings
import Forwarding.Command.Arguments
import Forwarding.Command.Options
import Forwarding.Command.Progress
import Forwarding.Command.Run
import Forwarding.Coverage.Report
import Forwarding.Declaration
import Forwarding.Digest
import Forwarding.Discovery.Composite
import Forwarding.Discovery.Cursor
import Forwarding.Discovery.Overloads
import Forwarding.Discovery.Scan
import Forwarding.Document
import Forwarding.Failure
import Forwarding.Fault
import Forwarding.Floating.Basic
import Forwarding.Floating.Complex
import Forwarding.Floating.Digits
import Forwarding.Floating.Series
import Forwarding.Forwarder
import Forwarding.Log.Delivery
import Forwarding.Log.Event
import Forwarding.Log.Format
import Forwarding.Log.Routing
import Forwarding.Main
import Forwarding.Manifest
import Forwarding.Parameters
import Forwarding.Proofs.Bindings
import Forwarding.Proofs.Command.DryRun
import Forwarding.Proofs.Command.Outputs
import Forwarding.Proofs.Command.Steps
import Forwarding.Proofs.Command.Tables
import Forwarding.Proofs.Coverage.Complete
import Forwarding.Proofs.Coverage.Names
import Forwarding.Proofs.Coverage.Partition
import Forwarding.Proofs.Coverage.Written
import Forwarding.Proofs.Declaration
import Forwarding.Proofs.Discovery.Aliasing
import Forwarding.Proofs.Discovery.Completeness
import Forwarding.Proofs.Discovery.Composite
import Forwarding.Proofs.Discovery.Definitions
import Forwarding.Proofs.Discovery.Draft
import Forwarding.Proofs.Discovery.Exposure
import Forwarding.Proofs.Discovery.Headers
import Forwarding.Proofs.Discovery.Order
import Forwarding.Proofs.Discovery.Overloads
import Forwarding.Proofs.Discovery.Parts
import Forwarding.Proofs.Discovery.Scan
import Forwarding.Proofs.Discovery.Symbols
import Forwarding.Proofs.Document
import Forwarding.Proofs.Forwarder
import Forwarding.Proofs.Log.Delivery
import Forwarding.Proofs.Rendition.Agreement
import Forwarding.Proofs.Rendition.Definitions
import Forwarding.Proofs.Rendition.Positions
import Forwarding.Proofs.Rendition.Rows
import Forwarding.Proofs.Script.Documents
import Forwarding.Proofs.Script.Literal
import Forwarding.Proofs.Script.Members
import Forwarding.Proofs.Script.Regular
import Forwarding.Proofs.Script.Transparency
import Forwarding.Proofs.Spelling.Arguments
import Forwarding.Proofs.Spelling.Brackets
import Forwarding.Proofs.Spelling.Lexemes
import Forwarding.Proofs.Spelling.Spacing
import Forwarding.Proofs.Storage.Atomicity
import Forwarding.Proofs.Storage.FileTree
import Forwarding.Proofs.Storage.Headers
import Forwarding.Proofs.Storage.Hidden
import Forwarding.Proofs.Storage.Regeneration
import Forwarding.Proofs.Storage.Write
import Forwarding.Proofs.Table.Atomicity
import Forwarding.Proofs.Table.Comment
import Forwarding.Proofs.Table.Concatenation
import Forwarding.Proofs.Table.Course
import Forwarding.Proofs.Table.Identifiers
import Forwarding.Proofs.Table.Layout
import Forwarding.Proofs.Table.Line
import Forwarding.Proofs.Table.Merge
import Forwarding.Proofs.Table.Replay
import Forwarding.Proofs.Table.Roundtrip
import Forwarding.Proofs.Table.Row
import Forwarding.Proofs.Table.Sections
import Forwarding.Proofs.Table.Splitting
import Forwarding.Proofs.Table.Validation
import Forwarding.Proofs.Table.Writable
import Forwarding.Proofs.Text.Bytes
import Forwarding.Proofs.Text.Join
import Forwarding.Proofs.Text.Lines
import Forwarding.Proofs.Text.Name
import Forwarding.Proofs.Text.Occurs
import Forwarding.Proofs.Text.Replacement
import Forwarding.Proofs.Text.Strip
import Forwarding.Proofs.Text.Unfolding
import Forwarding.Proofs.Text.Words
import Forwarding.Rendition.Sheet
import Forwarding.Rendition.Template
import Forwarding.Rounding
import Forwarding.Script.Basic
import Forwarding.Script.Check
import Forwarding.Script.Compilation.Block
import Forwarding.Script.Compilation.Constant
import Forwarding.Script.Compilation.Expression
import Forwarding.Script.Compilation.Statement
import Forwarding.Script.Fault
import Forwarding.Script.Function
import Forwarding.Script.Grammar.Expressions
import Forwarding.Script.Grammar.Faults
import Forwarding.Script.Grammar.Rule
import Forwarding.Script.Grammar.Statements
import Forwarding.Script.Interpolation
import Forwarding.Script.Lexer
import Forwarding.Script.Literal
import Forwarding.Script.Machine.Act
import Forwarding.Script.Machine.Arithmetic
import Forwarding.Script.Machine.Attribute
import Forwarding.Script.Machine.Builtin
import Forwarding.Script.Machine.Calling
import Forwarding.Script.Machine.Code
import Forwarding.Script.Machine.Codec
import Forwarding.Script.Machine.CollectionMethod
import Forwarding.Script.Machine.Comparison
import Forwarding.Script.Machine.Constant
import Forwarding.Script.Machine.Construction
import Forwarding.Script.Machine.Delegation
import Forwarding.Script.Machine.Dictionary
import Forwarding.Script.Machine.Documents
import Forwarding.Script.Machine.Execution
import Forwarding.Script.Machine.Format
import Forwarding.Script.Machine.Hash
import Forwarding.Script.Machine.Item
import Forwarding.Script.Machine.Iteration
import Forwarding.Script.Machine.Kind
import Forwarding.Script.Machine.Layout
import Forwarding.Script.Machine.Library
import Forwarding.Script.Machine.Library.Classes
import Forwarding.Script.Machine.Library.Collections
import Forwarding.Script.Machine.Library.Combinators
import Forwarding.Script.Machine.Library.Expressions
import Forwarding.Script.Machine.Library.Iterators
import Forwarding.Script.Machine.Library.Json
import Forwarding.Script.Machine.Library.Mathematics
import Forwarding.Script.Machine.Library.Streams
import Forwarding.Script.Machine.Library.Tasks
import Forwarding.Script.Machine.Library.Texts
import Forwarding.Script.Machine.Making
import Forwarding.Script.Machine.Matching
import Forwarding.Script.Machine.Members
import Forwarding.Script.Machine.Method
import Forwarding.Script.Machine.MethodDocuments
import Forwarding.Script.Machine.Names
import Forwarding.Script.Machine.NumberMethod
import Forwarding.Script.Machine.Object
import Forwarding.Script.Machine.Run
import Forwarding.Script.Machine.Shown
import Forwarding.Script.Machine.Source
import Forwarding.Script.Machine.SpecialMethod
import Forwarding.Script.Machine.Taking
import Forwarding.Script.Machine.TextMethod
import Forwarding.Script.Machine.Value
import Forwarding.Script.Number
import Forwarding.Script.Reader
import Forwarding.Script.Reading
import Forwarding.Script.Scope
import Forwarding.Script.Tree
import Forwarding.Setting
import Forwarding.Spelling.Form
import Forwarding.Spelling.Split
import Forwarding.Storage.FileTree
import Forwarding.Storage.Headers
import Forwarding.Storage.Hidden
import Forwarding.Storage.Path
import Forwarding.Storage.Write
import Forwarding.Table.Basic
import Forwarding.Table.Bundled
import Forwarding.Table.Line
import Forwarding.Table.Reader
import Forwarding.Table.Validation
import Forwarding.Table.Writer
import Forwarding.Text.Alphanumeric
import Forwarding.Text.Basic
import Forwarding.Text.Bytes
import Forwarding.Text.CharacterName
import Forwarding.Text.CharacterName.Ancient
import Forwarding.Text.CharacterName.Forms
import Forwarding.Text.CharacterName.Letters
import Forwarding.Text.CharacterName.Pictures
import Forwarding.Text.CharacterName.Symbols
import Forwarding.Text.Identifier
import Forwarding.Text.Letter
import Forwarding.Text.Letter.Table
import Forwarding.Text.Lines
import Forwarding.Text.NameCharacter
import Forwarding.Text.Parts
import Forwarding.Text.Pattern
import Forwarding.Text.Pattern.Reading
import Forwarding.Text.Quoted
import Forwarding.Text.ShellWords
import Forwarding.Whole
