import BindingSync.Binding.ClassBlock
import BindingSync.Binding.Cursor
import BindingSync.Binding.Declaration
import BindingSync.Binding.Grammar
import BindingSync.Binding.Lexer
import BindingSync.Binding.Rule
import BindingSync.Binding.Token
import BindingSync.Binding.TypeExpr
import BindingSync.Binding.Walk
import BindingSync.Cli.Arguments
import BindingSync.Cli.Colour
import BindingSync.Cli.Command
import BindingSync.Cli.Program
import BindingSync.Cli.Run
import BindingSync.Cli.Style
import BindingSync.Cli.Usage
import BindingSync.Crash
import BindingSync.Database.Basic
import BindingSync.Database.DataType
import BindingSync.Database.Document
import BindingSync.Database.Fault
import BindingSync.Database.Function
import BindingSync.Database.Keyed
import BindingSync.Database.Persistence
import BindingSync.Json.Basic
import BindingSync.Json.Printer
import BindingSync.Json.Reader
import BindingSync.Main
import BindingSync.Name
import BindingSync.Numeral.Binary64
import BindingSync.Numeral.Quantity
import BindingSync.Numeral.Reading
import BindingSync.Numeral.Shortest
import BindingSync.Proofs.Binding.Backtracking
import BindingSync.Proofs.Binding.Blindness
import BindingSync.Proofs.Binding.Blocks
import BindingSync.Proofs.Binding.Composition
import BindingSync.Proofs.Binding.Cursors
import BindingSync.Proofs.Binding.Decomposition
import BindingSync.Proofs.Binding.FunctionGrammar
import BindingSync.Proofs.Binding.Functions
import BindingSync.Proofs.Binding.InlineBodies
import BindingSync.Proofs.Binding.Layout
import BindingSync.Proofs.Binding.Lexeme
import BindingSync.Proofs.Binding.Lines
import BindingSync.Proofs.Binding.Loops
import BindingSync.Proofs.Binding.Printer
import BindingSync.Proofs.Binding.RoundTrip
import BindingSync.Proofs.Binding.Scans
import BindingSync.Proofs.Binding.TokenClasses
import BindingSync.Proofs.Binding.TypeGrammar
import BindingSync.Proofs.Binding.Types
import BindingSync.Proofs.Binding.Walks
import BindingSync.Proofs.Binding.WellFormed
import BindingSync.Proofs.Binding.WrittenTypes
import BindingSync.Proofs.ClassNamespaces
import BindingSync.Proofs.Cli.Arguments
import BindingSync.Proofs.Cli.Keeping
import BindingSync.Proofs.Cli.Preparation
import BindingSync.Proofs.Cli.Refusals
import BindingSync.Proofs.Cli.Saving
import BindingSync.Proofs.Database.Coherence
import BindingSync.Proofs.Database.Entries
import BindingSync.Proofs.Database.Faults
import BindingSync.Proofs.Database.Growth
import BindingSync.Proofs.Database.Keyed
import BindingSync.Proofs.Database.Loading
import BindingSync.Proofs.Database.Restoring
import BindingSync.Proofs.Database.Sound
import BindingSync.Proofs.Database.Storable
import BindingSync.Proofs.Fallible
import BindingSync.Proofs.History
import BindingSync.Proofs.Json.Numbers
import BindingSync.Proofs.Json.Reading
import BindingSync.Proofs.Json.RoundTrip
import BindingSync.Proofs.Json.Strings
import BindingSync.Proofs.Json.Values
import BindingSync.Proofs.Numeral.Decimals
import BindingSync.Proofs.Numeral.Layouts
import BindingSync.Proofs.Numeral.Nearest
import BindingSync.Proofs.Numeral.Rounding
import BindingSync.Proofs.Numeral.ShortDecimals
import BindingSync.Proofs.Numeral.Shortest
import BindingSync.Proofs.Persistence
import BindingSync.Proofs.StorageModes
import BindingSync.Proofs.Sync.Abort
import BindingSync.Proofs.Sync.Agreement
import BindingSync.Proofs.Sync.Authorship
import BindingSync.Proofs.Sync.Checks
import BindingSync.Proofs.Sync.Creation
import BindingSync.Proofs.Sync.CutShort
import BindingSync.Proofs.Sync.Declared
import BindingSync.Proofs.Sync.Entries
import BindingSync.Proofs.Sync.Failures
import BindingSync.Proofs.Sync.Fate
import BindingSync.Proofs.Sync.Frame
import BindingSync.Proofs.Sync.Idempotence
import BindingSync.Proofs.Sync.Introduction
import BindingSync.Proofs.Sync.Keeping
import BindingSync.Proofs.Sync.Placement
import BindingSync.Proofs.Sync.Places
import BindingSync.Proofs.Sync.Postcondition
import BindingSync.Proofs.Sync.Questions
import BindingSync.Proofs.Sync.Reordering
import BindingSync.Proofs.Sync.Replay
import BindingSync.Proofs.Sync.ReturnSlot
import BindingSync.Proofs.Sync.Sentinel
import BindingSync.Proofs.Sync.Settled
import BindingSync.Proofs.Sync.Signatures
import BindingSync.Proofs.Sync.Soundness
import BindingSync.Proofs.Sync.Step
import BindingSync.Proofs.Sync.Summary
import BindingSync.Proofs.Sync.Transcript
import BindingSync.Proofs.Sync.TypeHistory
import BindingSync.Proofs.Sync.TypePaths
import BindingSync.Proofs.Text.Digits
import BindingSync.Proofs.Text.Integers
import BindingSync.Proofs.Text.Joined
import BindingSync.Proofs.Workspace.BindingFiles
import BindingSync.Proofs.Workspace.Configurations
import BindingSync.Proofs.Workspace.DatabaseFile
import BindingSync.Proofs.Workspace.Keeping
import BindingSync.Proofs.Workspace.Lifting
import BindingSync.Proofs.Workspace.Reading
import BindingSync.Proofs.Workspace.UnquotedVersions
import BindingSync.Proofs.Workspace.Versions
import BindingSync.Proofs.Workspace.Writing
import BindingSync.Proofs.Yaml.FieldTokens
import BindingSync.Proofs.Yaml.Fields
import BindingSync.Proofs.Yaml.Numerals
import BindingSync.Proofs.Yaml.Rules
import BindingSync.Sync.Allocation
import BindingSync.Sync.Conflict
import BindingSync.Sync.Outcome
import BindingSync.Sync.Platform
import BindingSync.Sync.Reconciliation
import BindingSync.Sync.Resolution
import BindingSync.Sync.Run
import BindingSync.Text.Base64
import BindingSync.Text.Blank
import BindingSync.Text.Digits
import BindingSync.Text.Integer
import BindingSync.Text.Letter
import BindingSync.Text.Numeral
import BindingSync.Text.Place
import BindingSync.Text.Printable
import BindingSync.Text.Quoted
import BindingSync.Text.Ranges
import BindingSync.Text.WideString
import BindingSync.Workspace.Config
import BindingSync.Workspace.Error
import BindingSync.Workspace.Files
import BindingSync.Workspace.Host
import BindingSync.Workspace.Path
import BindingSync.Workspace.Sandbox
import BindingSync.Workspace.Version
import BindingSync.Yaml.Atom
import BindingSync.Yaml.Document
import BindingSync.Yaml.Error
import BindingSync.Yaml.Moment
import BindingSync.Yaml.Node
import BindingSync.Yaml.Number
import BindingSync.Yaml.Plain
import BindingSync.Yaml.Scalar
import BindingSync.Yaml.Tag
import BindingSync.Yaml.Text
import BindingSync.Yaml.Token
import BindingSync.Yaml.Value
