import ArithCompiler.Cli.Command
import ArithCompiler.Cli.Flags
import ArithCompiler.Cli.Run
import ArithCompiler.Code.Function
import ArithCompiler.Code.Instr
import ArithCompiler.Code.Lowering
import ArithCompiler.Code.Machine
import ArithCompiler.Compile
import ArithCompiler.Config.Json
import ArithCompiler.Config.Load
import ArithCompiler.Config.Scalar
import ArithCompiler.Config.Setting
import ArithCompiler.Config.Sources
import ArithCompiler.Config.Yaml.Block
import ArithCompiler.Config.Yaml.Character
import ArithCompiler.Config.Yaml.Cursor
import ArithCompiler.Config.Yaml.Document
import ArithCompiler.Config.Yaml.Fault
import ArithCompiler.Config.Yaml.Flow
import ArithCompiler.Config.Yaml.Node
import ArithCompiler.Config.Yaml.Printer
import ArithCompiler.Config.Yaml.Property
import ArithCompiler.Config.Yaml.Style
import ArithCompiler.Config.Yaml.Token
import ArithCompiler.Engine
import ArithCompiler.Files
import ArithCompiler.Lexeme
import ArithCompiler.Lexeme.Reader
import ArithCompiler.Lexeme.Scan
import ArithCompiler.Location
import ArithCompiler.Log.Layout
import ArithCompiler.Log.Record
import ArithCompiler.Main
import ArithCompiler.Process.Arithmetic
import ArithCompiler.Process.Builtin
import ArithCompiler.Process.Condition
import ArithCompiler.Process.Format
import ArithCompiler.Process.Launch
import ArithCompiler.Process.Pattern
import ArithCompiler.Process.Reader
import ArithCompiler.Process.RegularExpression
import ArithCompiler.Process.Run
import ArithCompiler.Process.Script
import ArithCompiler.Process.Shell
import ArithCompiler.Process.Start
import ArithCompiler.Process.Tool
import ArithCompiler.Proofs.Acceptance
import ArithCompiler.Proofs.BrokenTexts
import ArithCompiler.Proofs.Building
import ArithCompiler.Proofs.Calls
import ArithCompiler.Proofs.CodeText
import ArithCompiler.Proofs.Comments
import ArithCompiler.Proofs.Composition
import ArithCompiler.Proofs.Cursors
import ArithCompiler.Proofs.Cutting
import ArithCompiler.Proofs.Decoding
import ArithCompiler.Proofs.DefiniteAssignment
import ArithCompiler.Proofs.Descent
import ArithCompiler.Proofs.EndToEnd
import ArithCompiler.Proofs.Evaluation
import ArithCompiler.Proofs.Expressions
import ArithCompiler.Proofs.FailedLowering
import ArithCompiler.Proofs.Failures
import ArithCompiler.Proofs.Grammar
import ArithCompiler.Proofs.Locations
import ArithCompiler.Proofs.Lowering
import ArithCompiler.Proofs.Machines
import ArithCompiler.Proofs.Numerals
import ArithCompiler.Proofs.Parsing
import ArithCompiler.Proofs.Places
import ArithCompiler.Proofs.Progress
import ArithCompiler.Proofs.Pushdown
import ArithCompiler.Proofs.Reading
import ArithCompiler.Proofs.Refusals
import ArithCompiler.Proofs.Regrouping
import ArithCompiler.Proofs.Relocation
import ArithCompiler.Proofs.RenamedRuns
import ArithCompiler.Proofs.Returning
import ArithCompiler.Proofs.RoundTrip
import ArithCompiler.Proofs.Running
import ArithCompiler.Proofs.Scanning
import ArithCompiler.Proofs.Segmentation
import ArithCompiler.Proofs.Selection
import ArithCompiler.Proofs.Simulation
import ArithCompiler.Proofs.Spacing
import ArithCompiler.Proofs.Spines
import ArithCompiler.Proofs.Statements
import ArithCompiler.Proofs.Steps
import ArithCompiler.Proofs.Tracking
import ArithCompiler.Proofs.TreeText
import ArithCompiler.Proofs.Unassigned
import ArithCompiler.Proofs.Warnings
import ArithCompiler.Proofs.WellFormedCode
import ArithCompiler.Proofs.Whitespace
import ArithCompiler.Proofs.Words
import ArithCompiler.Suite.Case
import ArithCompiler.Suite.Command
import ArithCompiler.Suite.Path
import ArithCompiler.Suite.Run
import ArithCompiler.Text.Base64
import ArithCompiler.Text.Blank
import ArithCompiler.Text.Letter
import ArithCompiler.Text.LetterCase
import ArithCompiler.Text.Numeral
import ArithCompiler.Text.Pieces
import ArithCompiler.Text.Printable
import ArithCompiler.Text.Quoted
import ArithCompiler.Text.Shortest
import ArithCompiler.Text.Utf8
import ArithCompiler.Toolchain
import ArithCompiler.Tree.BuildError
import ArithCompiler.Tree.Builder
import ArithCompiler.Tree.Draft
import ArithCompiler.Tree.Dump
import ArithCompiler.Tree.Expr
import ArithCompiler.Tree.Operator
