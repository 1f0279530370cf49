import GoRebuild.Json.Parser
import GoRebuild.Json.Printer
import GoRebuild.Text.Blank
import GoRebuild.Text.Escaped
import GoRebuild.Text.Identifier
import GoRebuild.Text.Quoted
import GoRebuild.Tree.Basic
import GoRebuild.Tree.Decode
import GoRebuild.Tree.Encode
import GoRebuild.Tree.Build
import GoRebuild.Tree.Describe
import GoRebuild.Tree.Same
import GoRebuild.Chain.Printer
import GoRebuild.Symbols
import GoRebuild.Synth.Rules
import GoRebuild.Program.Render
import GoRebuild.Verify.Compare
import GoRebuild.Lexical.Scanner
import GoRebuild.Parse.Node
import GoRebuild.Grammar.Basic
import GoRebuild.Grammar.Parser
import GoRebuild.Grammar.Types
import GoRebuild.Grammar.Expressions
import GoRebuild.Grammar.Source
import GoRebuild.Grammar.Tree
import GoRebuild.Reader.Source
import GoRebuild.Program.Generate
import GoRebuild.Toml.Document
import GoRebuild.Cli.Args
import GoRebuild.Shell.Run
import GoRebuild.Cli.Workspace
import GoRebuild.Main
import GoRebuild.Proofs.Tree.Pieces
import GoRebuild.Proofs.Tree.Shape
import GoRebuild.Proofs.Chain.Tokens
import GoRebuild.Proofs.Synth.Depth
import GoRebuild.Proofs.Synth.Results
import GoRebuild.Proofs.Synth.Decimal
import GoRebuild.Proofs.Synth.Lossless
import GoRebuild.Proofs.Program.Isolation
import GoRebuild.Proofs.Grammar.Renders
import GoRebuild.Proofs.Grammar.Pieces
import GoRebuild.Proofs.Grammar.Reads
import GoRebuild.Proofs.Grammar.TypesSound
import GoRebuild.Proofs.Grammar.ExpressionsSound
import GoRebuild.Proofs.Grammar.StatementsSound
import GoRebuild.Proofs.Lexical.Scanner
import GoRebuild.Proofs.Grammar.SourceSound
import GoRebuild.Proofs.Grammar.Plain
import GoRebuild.Proofs.Parse.Derives
import GoRebuild.Proofs.Reader.Rules
import GoRebuild.Proofs.Reader.Shapes
import GoRebuild.Proofs.Reader.StatementShapes
import GoRebuild.Proofs.Reader.Derived
import GoRebuild.Proofs.Reader.DerivedSource
import GoRebuild.Proofs.Parse.Woven
import GoRebuild.Proofs.Parse.Rows
import GoRebuild.Proofs.Parse.Trees
import GoRebuild.Proofs.Parse.SourceTrees
import GoRebuild.Proofs.Parse.Errors
import GoRebuild.Proofs.Parse.Simple
import GoRebuild.Proofs.Parse.Places
import GoRebuild.Proofs.Reader.Agree
import GoRebuild.Proofs.Reader.Faithful
import GoRebuild.Proofs.Reader.Agreement
import GoRebuild.Proofs.Reader.Tokens
import GoRebuild.Proofs.Nesting.Outline
import GoRebuild.Proofs.Nesting.Synthesis
import GoRebuild.Proofs.Nesting.Reading
import GoRebuild.Proofs.Program.Names
import GoRebuild.Proofs.Reader.Supported
import GoRebuild.Proofs.Reader.Complete
import GoRebuild.Proofs.Lexical.Breaks
import GoRebuild.Proofs.Lexical.Scans
import GoRebuild.Proofs.Verify.Lines
import GoRebuild.Proofs.Verify.Literals
import GoRebuild.Proofs.Verify.Sound
import GoRebuild.Proofs.Lexical.Written
import GoRebuild.Proofs.Text.StringValue
import GoRebuild.Proofs.Tree.Moved
import GoRebuild.Proofs.Chain.Rows
import GoRebuild.Proofs.Grammar.Parses
import GoRebuild.Proofs.Grammar.Primary
import GoRebuild.Proofs.Grammar.Routine
import GoRebuild.Proofs.Grammar.Parts
import GoRebuild.Proofs.Chain.Tree
import GoRebuild.Proofs.Parse.Parsers
import GoRebuild.Proofs.Parse.Conformance
import GoRebuild.Proofs.Reader.Parts
import GoRebuild.Proofs.Synth.Writable
import GoRebuild.Proofs.Program.Words
import GoRebuild.Proofs.Program.Rows
import GoRebuild.Proofs.Program.Readable
import GoRebuild.Proofs.Tree.Alike
import GoRebuild.Proofs.Lexical.Alone
import GoRebuild.Proofs.Lexical.Relaid
import GoRebuild.Proofs.Reader.Carries
import GoRebuild.Proofs.Synth.Carries
import GoRebuild.Proofs.Program.Positions
import GoRebuild.Proofs.Program.Relaid
import GoRebuild.Proofs.Program.Limits
import GoRebuild.Proofs.Tree.Place
import GoRebuild.Proofs.Reader.Shaped
import GoRebuild.Proofs.Program.Imports
import GoRebuild.Proofs.Nesting.Ceiling
import GoRebuild.Proofs.Json.Text
import GoRebuild.Proofs.Json.Loosened
import GoRebuild.Proofs.Json.Reads
import GoRebuild.Proofs.Tree.RoundTrip
import GoRebuild.Proofs.Tree.Dump
import GoRebuild.Proofs.Chain.Steps
import GoRebuild.Proofs.Chain.Layout
import GoRebuild.Proofs.Chain.Unambiguous
import GoRebuild.Proofs.Synth.Landmarks
import GoRebuild.Proofs.Program.Qualified
import GoRebuild.Proofs.Program.Slots
import GoRebuild.Proofs.Verify.Differences
import GoRebuild.Proofs.Verify.Comments
import GoRebuild.Proofs.Tree.Ordered
import GoRebuild.Proofs.Grammar.Ordered
import GoRebuild.Proofs.Parse.Ordered
import GoRebuild.Proofs.Text.Quoting
import GoRebuild.Proofs.Program.Aliases
import GoRebuild.Proofs.Verify.LineComments
import GoRebuild.Proofs.Reader.Ordered
import GoRebuild.Proofs.Program.Ordered
import GoRebuild.Proofs.Text.Unquoted
import GoRebuild.Proofs.Program.Paths
