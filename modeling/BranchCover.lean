import BranchCover.Cli.Arguments
import BranchCover.Cli.Discover
import BranchCover.Cli.Run
import BranchCover.Decimal.Binary64
import BranchCover.Decimal.Numeral
import BranchCover.Decimal.Shortest
import BranchCover.Files.Path
import BranchCover.Files.Tree
import BranchCover.Generate
import BranchCover.Json.Basic
import BranchCover.Json.Dump
import BranchCover.Main
import BranchCover.Outline.Assignment
import BranchCover.Outline.Excerpt
import BranchCover.Outline.Expression
import BranchCover.Outline.Node
import BranchCover.Outline.Search
import BranchCover.Outline.Statement
import BranchCover.Outline.Typing
import BranchCover.Proofs.Replay
import BranchCover.Proofs.Trace
import BranchCover.Report.Note
import BranchCover.Scenario.Basic
import BranchCover.Scenario.Compose
import BranchCover.Source.Cursor
import BranchCover.Source.Fault
import BranchCover.Source.Grammar.Blame
import BranchCover.Source.Grammar.Call
import BranchCover.Source.Grammar.Compound
import BranchCover.Source.Grammar.Display
import BranchCover.Source.Grammar.Expression
import BranchCover.Source.Grammar.Item
import BranchCover.Source.Grammar.Parameter
import BranchCover.Source.Grammar.PatternRule
import BranchCover.Source.Grammar.Primary
import BranchCover.Source.Grammar.Simple
import BranchCover.Source.Literal
import BranchCover.Source.Parse
import BranchCover.Source.Print
import BranchCover.Source.Read
import BranchCover.Source.Scan
import BranchCover.Source.Template
import BranchCover.Source.Token
import BranchCover.Source.Tree
import BranchCover.Subject.Branch
import BranchCover.Subject.Class
import BranchCover.Subject.Property
import BranchCover.Suite.Basic
import BranchCover.Suite.Emit
import BranchCover.Suite.Name
import BranchCover.Suite.Plan
import BranchCover.Suite.Stub
import BranchCover.Text.Basic
import BranchCover.Text.Case
import BranchCover.Text.Decomposition
import BranchCover.Text.NormalForm
import BranchCover.Text.Printable
import BranchCover.Text.Quoted
import BranchCover.Text.Ranges
import BranchCover.Text.Word
import BranchCover.Value.Basic
import BranchCover.Value.Synthesis
import BranchCover.Proofs.CallValues
import BranchCover.Proofs.Place
import BranchCover.Proofs.Sample
import BranchCover.Proofs.Coverage
import BranchCover.Proofs.Held
import BranchCover.Proofs.Outcome
import BranchCover.Proofs.ThenArm
import BranchCover.Proofs.ElseArm
import BranchCover.Proofs.Count
import BranchCover.Proofs.Session
import BranchCover.Proofs.Rendering
import BranchCover.Proofs.Planned
import BranchCover.Proofs.Emission
import BranchCover.Proofs.Represented
import BranchCover.Proofs.Found
import BranchCover.Proofs.Locating
import BranchCover.Proofs.Deeds
import BranchCover.Proofs.Reaching
import BranchCover.Proofs.Isolation
import BranchCover.Proofs.Overwriting
import BranchCover.Proofs.Rerun
import BranchCover.Proofs.Importing
import BranchCover.Proofs.Naming
import BranchCover.Proofs.Private
import BranchCover.Proofs.Wiring
import BranchCover.Proofs.Preorder
import BranchCover.Proofs.Collecting
import BranchCover.Proofs.Lines
import BranchCover.Proofs.Nesting
import BranchCover.Proofs.Layout
import BranchCover.Proofs.Docstring
import BranchCover.Proofs.Header
import BranchCover.Proofs.Defaults
import BranchCover.Proofs.Binding
import BranchCover.Proofs.Comparing
import BranchCover.Proofs.Routing
import BranchCover.Proofs.Resolving
import BranchCover.Proofs.Plain
import BranchCover.Proofs.Reading
import BranchCover.Proofs.Initializers
import BranchCover.Proofs.Deciding
import BranchCover.Proofs.Shaping
import BranchCover.Proofs.Assigning
import BranchCover.Proofs.Unplaced
import BranchCover.Proofs.Wrapping
import BranchCover.Proofs.Reuse
import BranchCover.Proofs.Spoiled
import BranchCover.Proofs.Needs
import BranchCover.Proofs.Words
import BranchCover.Proofs.Columns
import BranchCover.Proofs.Placed
import BranchCover.Proofs.Choosing
import BranchCover.Proofs.Descent
import BranchCover.Proofs.Snake
import BranchCover.Proofs.Tables
import BranchCover.Proofs.Strings
import BranchCover.Proofs.ReadBack
import BranchCover.Proofs.Named
import BranchCover.Proofs.Keeping
import BranchCover.Proofs.KeepingLiterals
import BranchCover.Proofs.KeepingExpressions
import BranchCover.Proofs.KeepingOperators
import BranchCover.Proofs.KeepingPatterns
import BranchCover.Proofs.KeepingStatements
import BranchCover.Proofs.LineEnds
import BranchCover.Proofs.Normalizing
import BranchCover.Proofs.Scanning
import BranchCover.Proofs.Unbroken
import BranchCover.Proofs.Comments
import BranchCover.Proofs.InLine
import BranchCover.Proofs.Bearing
import BranchCover.Proofs.BearingStatements
import BranchCover.Proofs.BearingClasses
import BranchCover.Proofs.BearingPlans
import BranchCover.Proofs.Confining
import BranchCover.Proofs.Traversing
import BranchCover.Proofs.Escaping
